import Mathlib.Data.List.Basic
import Mathlib.Data.List.Infix
import PfsenseMcp.Tier1.CanonicalForm

/-!
# Declared versions

`_parse_declared_version` of `security_setup_plan.py`, against the grammar of its docstring. The
characters are tested with `str.isdigit` and read with `int()`, which disagree on some digits of
Unicode, and `int()` refuses long texts. Which code points are digits, which are decimal digits, and
which are white space are tables of the interpreter.

## Main results

* `parser_meets_iff`: the texts on which the parser accepts exactly its grammar and raises nothing.
-/

namespace Posture

open Tier1

/-- The tables of the interpreter. -/
structure CharacterTables where
  /-- `str.isspace` of one code point. -/
  isSpace : Fin 0x110000 → Bool
  /-- `str.isdigit` of one code point. -/
  isDigit : Fin 0x110000 → Bool
  /-- The value of a decimal digit, as `int()` reads it. -/
  decimal : Fin 0x110000 → Option ℕ
  isDigit_of_decimal : ∀ c, (decimal c).isSome → isDigit c
  decimal_ascii : ∀ c, c.val < 128 →
    decimal c = if 48 ≤ c.val ∧ c.val ≤ 57 then some (c.val - 48) else none

namespace DeclaredVersion

/-- A decimal digit of ASCII. -/
def isAsciiDigit (c : Fin 0x110000) : Bool := decide (48 ≤ c.val ∧ c.val ≤ 57)

/-- The value of a text of decimal digits of ASCII. -/
def asciiValue (part : Text) : ℕ := part.foldl (fun n c => 10 * n + (c.val - 48)) 0

/-- A nonempty text of decimal digits of ASCII. -/
def AsciiNumber (part : Text) : Prop := part ≠ [] ∧ ∀ c ∈ part, isAsciiDigit c = true

/-- `.` -/
def dot : Fin 0x110000 := ⟨46, by decide⟩

/-- `v` -/
def lowerV : Fin 0x110000 := ⟨118, by decide⟩

/-- `V` -/
def upperV : Fin 0x110000 := ⟨86, by decide⟩

/-- The limit of `int()`: the default of `sys.get_int_max_str_digits`. -/
def maxStrDigits : ℕ := 4300

section

variable (tables : CharacterTables)

/-- `str.strip`. -/
def strip (value : Text) : Text :=
  ((value.dropWhile tables.isSpace).reverse.dropWhile tables.isSpace).reverse

/-- The text without the letter before the numbers. -/
def dropLetter : Text → Text
  | [] => []
  | c :: cs => if c = lowerV ∨ c = upperV then cs else c :: cs

/-- `part.isdigit()`. -/
def isdigit (part : Text) : Bool := !part.isEmpty && part.all tables.isDigit

/-- `int(part)`, of a text that passes `str.isdigit`; `none` is a `ValueError`. -/
def int (part : Text) : Option ℕ :=
  if part = [] ∨ maxStrDigits < part.length then none
  else part.foldl (fun n c => n.bind fun n => (tables.decimal c).map (10 * n + ·)) (some 0)

/-- What the parser does: `none` is a `ValueError`, and `some none` the result `None`. -/
def readNumbers : List Text → Option (Option (List ℕ))
  | [] => some (some [])
  | part :: parts =>
    if isdigit tables part = false then some none
    else
      match int tables part with
      | none => none
      | some n => (readNumbers parts).map fun numbers => numbers.map (n :: ·)

/-- `(numbers[0], numbers[1], numbers[2])`, where a patch of 0 is added to two numbers. -/
def triple (numbers : List ℕ) : ℕ × ℕ × ℕ :=
  (numbers.getD 0 0, numbers.getD 1 0, numbers.getD 2 0)

/-- `text.split(".")`, without the letter before the numbers. -/
def parts (value : Text) : List Text := (dropLetter (strip tables value)).splitOn dot

/-- `_parse_declared_version`; `none` is a `ValueError`. -/
def parseDeclaredVersion (value : Text) : Option (Option (ℕ × ℕ × ℕ)) :=
  if (parts tables value).length ≠ 2 ∧ (parts tables value).length ≠ 3 then some none
  else (readNumbers tables (parts tables value)).map fun numbers => numbers.map triple

/-! ### The grammar -/

/-- A text declares a version. -/
inductive Declares (value : Text) : ℕ × ℕ × ℕ → Prop where
  | pair {letter major minor : Text} (hletter : letter = [] ∨ letter = [lowerV] ∨ letter = [upperV])
      (hmajor : AsciiNumber major) (hminor : AsciiNumber minor)
      (h : strip tables value = letter ++ (major ++ dot :: minor)) :
      Declares value (asciiValue major, asciiValue minor, 0)
  | triple {letter major minor patch : Text}
      (hletter : letter = [] ∨ letter = [lowerV] ∨ letter = [upperV])
      (hmajor : AsciiNumber major) (hminor : AsciiNumber minor) (hpatch : AsciiNumber patch)
      (h : strip tables value = letter ++ (major ++ dot :: (minor ++ dot :: patch))) :
      Declares value (asciiValue major, asciiValue minor, asciiValue patch)

/-- The parser accepts exactly the grammar, and raises nothing. -/
def Meets (value : Text) : Prop :=
  (∀ version, parseDeclaredVersion tables value = some (some version) ↔
    Declares tables value version) ∧
  (parseDeclaredVersion tables value = some none ↔ ¬∃ version, Declares tables value version)

/-- A text of decimal digits, not too long for `int()`. -/
def Readable (part : Text) : Prop :=
  part ≠ [] ∧ part.length ≤ maxStrDigits ∧ ∀ c ∈ part, (tables.decimal c).isSome

/-- The parts are not two or three, or decimal digits of ASCII that are not too long for `int()`, or
the first that `int()` does not read fails `str.isdigit`. -/
def Unambiguous (value : Text) : Prop :=
  ((parts tables value).length ≠ 2 ∧ (parts tables value).length ≠ 3) ∨
    (∀ part ∈ parts tables value, AsciiNumber part ∧ part.length ≤ maxStrDigits) ∨
    ∃ before part after, parts tables value = before ++ part :: after ∧
      isdigit tables part = false ∧ ∀ earlier ∈ before, Readable tables earlier

/-! ### Numbers -/

variable {tables : CharacterTables}

theorem decimal_of_isAsciiDigit {c : Fin 0x110000} (h : isAsciiDigit c = true) :
    tables.decimal c = some (c.val - 48) := by
  have hbounds := of_decide_eq_true h
  rw [tables.decimal_ascii c (by omega), if_pos hbounds]

theorem foldl_decimal {part : Text} (h : ∀ c ∈ part, isAsciiDigit c = true) (n : ℕ) :
    part.foldl (fun n c => n.bind fun n => (tables.decimal c).map (10 * n + ·)) (some n) =
      some (part.foldl (fun n c => 10 * n + (c.val - 48)) n) := by
  induction part generalizing n with
  | nil => rfl
  | cons c cs ih =>
    rw [List.forall_mem_cons] at h
    rw [List.foldl_cons, Option.bind_some, decimal_of_isAsciiDigit h.1, Option.map_some, ih h.2,
      List.foldl_cons]

/-- `int()` reads digits of ASCII. -/
theorem int_of_asciiNumber {part : Text} (h : AsciiNumber part)
    (hlength : part.length ≤ maxStrDigits) : int tables part = some (asciiValue part) := by
  rw [int, if_neg (by simp only [h.1, false_or]; omega)]
  exact foldl_decimal h.2 0

theorem foldl_none (part : Text) :
    part.foldl (fun n c => n.bind fun n => (tables.decimal c).map (10 * n + ·))
      (none : Option ℕ) = none := by
  induction part with
  | nil => rfl
  | cons c cs ih => rw [List.foldl_cons, Option.bind_none, ih]

theorem decimal_of_foldl {part : Text} {n : Option ℕ}
    (h : (part.foldl (fun n c => n.bind fun n => (tables.decimal c).map (10 * n + ·)) n).isSome) :
    ∀ c ∈ part, (tables.decimal c).isSome := by
  induction part generalizing n with
  | nil => exact List.forall_mem_nil _
  | cons c cs ih =>
    rw [List.foldl_cons] at h
    rw [List.forall_mem_cons]
    refine ⟨?_, ih h⟩
    rcases hc : tables.decimal c with - | d
    · have hnone : (n.bind fun n => (tables.decimal c).map (10 * n + ·)) = none := by
        rw [hc]
        rcases n with - | n <;> rfl
      rw [hnone, foldl_none] at h
      cases h
    · rfl

theorem foldl_decimal_isSome {part : Text} (h : ∀ c ∈ part, (tables.decimal c).isSome) (n : ℕ) :
    (part.foldl (fun n c => n.bind fun n => (tables.decimal c).map (10 * n + ·)) (some n)).isSome :=
    by
  induction part generalizing n with
  | nil => rfl
  | cons c cs ih =>
    rw [List.forall_mem_cons] at h
    obtain ⟨d, hd⟩ := Option.isSome_iff_exists.mp h.1
    rw [List.foldl_cons, Option.bind_some, hd, Option.map_some]
    exact ih h.2 _

/-- What `int()` reads. -/
theorem int_isSome_iff {part : Text} : (int tables part).isSome ↔ Readable tables part := by
  rw [int]
  split_ifs with hlong
  · constructor
    · intro h
      cases h
    · rintro ⟨hne, hlength, -⟩
      rcases hlong with hempty | hlong
      · exact absurd hempty hne
      · omega
  · simp only [not_or] at hlong
    exact ⟨fun h => ⟨hlong.1, by omega, decimal_of_foldl h⟩, fun h => foldl_decimal_isSome h.2.2 0⟩

theorem isdigit_of_asciiNumber {part : Text} (h : AsciiNumber part) :
    isdigit tables part = true := by
  rw [isdigit, Bool.and_eq_true, List.all_eq_true]
  refine ⟨by simpa using h.1, fun c hc => tables.isDigit_of_decimal c ?_⟩
  rw [decimal_of_isAsciiDigit (h.2 c hc)]
  rfl

/-! ### The loop -/

theorem readNumbers_of_asciiNumber {parts : List Text}
    (h : ∀ part ∈ parts, AsciiNumber part ∧ part.length ≤ maxStrDigits) :
    readNumbers tables parts = some (some (parts.map asciiValue)) := by
  induction parts with
  | nil => rfl
  | cons part parts ih =>
    rw [List.forall_mem_cons] at h
    rw [readNumbers, isdigit_of_asciiNumber h.1.1, if_neg (by decide),
      int_of_asciiNumber h.1.1 h.1.2, ih h.2]
    rfl

theorem readable_of_readNumbers {parts : List Text} {numbers : List ℕ}
    (h : readNumbers tables parts = some (some numbers)) :
    ∀ part ∈ parts, Readable tables part := by
  induction parts generalizing numbers with
  | nil => exact List.forall_mem_nil _
  | cons part parts ih =>
    rw [readNumbers] at h
    split_ifs at h with hdigit
    · exact absurd h (by simp)
    rcases hint : int tables part with - | n
    · rw [hint] at h
      cases h
    · rw [hint] at h
      obtain ⟨rest, hrest, heq⟩ := Option.map_eq_some_iff.mp h
      obtain ⟨numbers', rfl, -⟩ := Option.map_eq_some_iff.mp heq
      rw [List.forall_mem_cons, ← int_isSome_iff, hint]
      exact ⟨rfl, ih hrest⟩

/-- The loop ends at a part that fails `str.isdigit`, where `int()` reads the parts before. -/
theorem readNumbers_eq_none_iff {parts : List Text} :
    readNumbers tables parts = some none ↔ ∃ before part after,
      parts = before ++ part :: after ∧ isdigit tables part = false ∧
        ∀ earlier ∈ before, Readable tables earlier := by
  induction parts with
  | nil => simp [readNumbers]
  | cons part parts ih =>
    rw [readNumbers]
    split_ifs with hdigit
    · exact ⟨fun _ => ⟨[], part, parts, rfl, hdigit, List.forall_mem_nil _⟩, fun _ => rfl⟩
    · rcases hint : int tables part with - | n
      · constructor
        · intro h
          cases h
        · rintro ⟨before, part', after, heq, hpart, hbefore⟩
          rcases before with - | ⟨earlier, before⟩
          · obtain ⟨rfl, -⟩ := List.cons.inj heq
            exact absurd hpart hdigit
          · obtain ⟨rfl, -⟩ := List.cons.inj heq
            have hsome := hbefore part List.mem_cons_self
            rw [← int_isSome_iff, hint] at hsome
            cases hsome
      · have hloop : ((readNumbers tables parts).map fun numbers => numbers.map (n :: ·)) =
            some none ↔ readNumbers tables parts = some none := by
          rcases readNumbers tables parts with - | - | numbers <;> simp
        show ((readNumbers tables parts).map fun numbers => numbers.map (n :: ·)) = some none ↔ _
        rw [hloop, ih]
        constructor
        · rintro ⟨before, part', after, rfl, hpart, hbefore⟩
          refine ⟨part :: before, part', after, rfl, hpart, ?_⟩
          rw [List.forall_mem_cons, ← int_isSome_iff, hint]
          exact ⟨rfl, hbefore⟩
        · rintro ⟨before, part', after, heq, hpart, hbefore⟩
          rcases before with - | ⟨earlier, before⟩
          · obtain ⟨rfl, -⟩ := List.cons.inj heq
            exact absurd hpart hdigit
          · obtain ⟨rfl, rfl⟩ := List.cons.inj heq
            exact ⟨before, part', after, rfl, hpart,
              fun e he => hbefore e (List.mem_cons_of_mem _ he)⟩

/-! ### The parts -/

theorem dot_notMem {part : Text} (h : AsciiNumber part) : dot ∉ part := fun hmem =>
  absurd (h.2 dot hmem) (by decide)

/-- The text is a letter or nothing, and what is left of it. -/
theorem exists_letter (text : Text) :
    ∃ letter, (letter = [] ∨ letter = [lowerV] ∨ letter = [upperV]) ∧
      text = letter ++ dropLetter text := by
  rcases text with - | ⟨c, cs⟩
  · exact ⟨[], Or.inl rfl, rfl⟩
  · rw [dropLetter]
    split_ifs with hc
    · refine ⟨[c], Or.inr ?_, rfl⟩
      rcases hc with rfl | rfl
      · exact Or.inl rfl
      · exact Or.inr rfl
    · exact ⟨[], Or.inl rfl, rfl⟩

/-- A number does not begin with the letter. -/
theorem dropLetter_of_asciiNumber {letter major rest : Text}
    (hletter : letter = [] ∨ letter = [lowerV] ∨ letter = [upperV]) (hmajor : AsciiNumber major) :
    dropLetter (letter ++ (major ++ rest)) = major ++ rest := by
  rcases hletter with rfl | rfl | rfl
  · rcases major with - | ⟨c, cs⟩
    · exact absurd rfl hmajor.1
    · have hdigit := hmajor.2 c List.mem_cons_self
      rw [List.nil_append, List.cons_append, dropLetter, if_neg]
      rintro (rfl | rfl)
      · exact absurd hdigit (by decide)
      · exact absurd hdigit (by decide)
  · rw [List.singleton_append, dropLetter, if_pos (Or.inl rfl)]
  · rw [List.singleton_append, dropLetter, if_pos (Or.inr rfl)]

theorem parts_of_pair {value letter major minor : Text}
    (hletter : letter = [] ∨ letter = [lowerV] ∨ letter = [upperV]) (hmajor : AsciiNumber major)
    (hminor : AsciiNumber minor) (h : strip tables value = letter ++ (major ++ dot :: minor)) :
    parts tables value = [major, minor] := by
  have hsplit : ([dot].intercalate [major, minor]).splitOn dot = [major, minor] := by
    apply List.splitOn_intercalate dot
    · simp [dot_notMem hmajor, dot_notMem hminor]
    · exact List.cons_ne_nil _ _
  rw [parts, h, dropLetter_of_asciiNumber hletter hmajor, ← hsplit]
  simp

theorem parts_of_triple {value letter major minor patch : Text}
    (hletter : letter = [] ∨ letter = [lowerV] ∨ letter = [upperV]) (hmajor : AsciiNumber major)
    (hminor : AsciiNumber minor) (hpatch : AsciiNumber patch)
    (h : strip tables value = letter ++ (major ++ dot :: (minor ++ dot :: patch))) :
    parts tables value = [major, minor, patch] := by
  have hsplit : ([dot].intercalate [major, minor, patch]).splitOn dot = [major, minor, patch] := by
    apply List.splitOn_intercalate dot
    · simp [dot_notMem hmajor, dot_notMem hminor, dot_notMem hpatch]
    · exact List.cons_ne_nil _ _
  rw [parts, h, dropLetter_of_asciiNumber hletter hmajor, ← hsplit]
  simp

/-- The grammar, over the parts. -/
theorem declares_iff {value : Text} {version : ℕ × ℕ × ℕ} :
    Declares tables value version ↔
      (∀ part ∈ parts tables value, AsciiNumber part) ∧
        ((parts tables value).length = 2 ∨ (parts tables value).length = 3) ∧
          triple ((parts tables value).map asciiValue) = version := by
  constructor
  · rintro (⟨hletter, hmajor, hminor, h⟩ | ⟨hletter, hmajor, hminor, hpatch, h⟩)
    · rw [parts_of_pair hletter hmajor hminor h]
      exact ⟨by simp [hmajor, hminor], Or.inl rfl, rfl⟩
    · rw [parts_of_triple hletter hmajor hminor hpatch h]
      exact ⟨by simp [hmajor, hminor, hpatch], Or.inr rfl, rfl⟩
  · rintro ⟨hnumbers, hlength, rfl⟩
    obtain ⟨letter, hletter, htext⟩ := exists_letter (strip tables value)
    have hjoin : [dot].intercalate (parts tables value) = dropLetter (strip tables value) :=
      List.intercalate_splitOn dot
    generalize parts tables value = numbers at hnumbers hlength hjoin ⊢
    rcases hlength with hlength | hlength
    · obtain ⟨major, minor, rfl⟩ := List.length_eq_two.mp hlength
      apply Declares.pair hletter (hnumbers major (by simp)) (hnumbers minor (by simp))
      rw [htext, ← hjoin]
      simp
    · obtain ⟨major, minor, patch, rfl⟩ := List.length_eq_three.mp hlength
      apply Declares.triple hletter (hnumbers major (by simp)) (hnumbers minor (by simp))
        (hnumbers patch (by simp))
      rw [htext, ← hjoin]
      simp

/-! ### The parser and the grammar -/

theorem meets_of_unambiguous {value : Text} (h : Unambiguous tables value) :
    Meets tables value := by
  -- Where the parser answers `None`, it is enough that the text declares nothing.
  have hrefused (hnone : parseDeclaredVersion tables value = some none)
      (hno : ∀ version, ¬Declares tables value version) : Meets tables value := by
    refine ⟨fun version => ⟨fun hsome => ?_, fun hdeclares => absurd hdeclares (hno version)⟩,
      fun _ => not_exists.mpr hno, fun _ => hnone⟩
    rw [hnone] at hsome
    exact absurd hsome (by simp)
  by_cases harity : (parts tables value).length ≠ 2 ∧ (parts tables value).length ≠ 3
  · apply hrefused (if_pos harity)
    intro version hdeclares
    rcases (declares_iff.mp hdeclares).2.1 with h2 | h3
    · exact harity.1 h2
    · exact harity.2 h3
  have hlength : (parts tables value).length = 2 ∨ (parts tables value).length = 3 := by omega
  rcases h with h | h | ⟨before, part, after, heq, hpart, hbefore⟩
  · exact absurd h harity
  · have hparse : parseDeclaredVersion tables value =
        some (some (triple ((parts tables value).map asciiValue))) := by
      rw [parseDeclaredVersion, if_neg harity, readNumbers_of_asciiNumber h]
      rfl
    have hdeclares : Declares tables value (triple ((parts tables value).map asciiValue)) :=
      declares_iff.mpr ⟨fun part hmem => (h part hmem).1, hlength, rfl⟩
    constructor
    · intro version
      rw [hparse, declares_iff, Option.some_inj, Option.some_inj]
      exact ⟨fun hversion => ⟨fun part hmem => (h part hmem).1, hlength, hversion⟩,
        fun hdecl => hdecl.2.2⟩
    · rw [hparse]
      exact ⟨fun hnone => absurd hnone (by simp), fun hno => absurd ⟨_, hdeclares⟩ hno⟩
  · apply hrefused
    · rw [parseDeclaredVersion, if_neg harity,
        readNumbers_eq_none_iff.mpr ⟨before, part, after, heq, hpart, hbefore⟩]
      rfl
    · intro version hdeclares
      have hascii := (declares_iff.mp hdeclares).1 part (by rw [heq]; simp)
      rw [isdigit_of_asciiNumber hascii] at hpart
      cases hpart

theorem unambiguous_of_meets {value : Text} (h : Meets tables value) :
    Unambiguous tables value := by
  by_cases harity : (parts tables value).length ≠ 2 ∧ (parts tables value).length ≠ 3
  · exact Or.inl harity
  right
  have hparse : parseDeclaredVersion tables value =
      (readNumbers tables (parts tables value)).map fun numbers => numbers.map triple :=
    if_neg harity
  rcases hread : readNumbers tables (parts tables value) with - | - | numbers
  · -- The parser raises, whether or not the text declares a version.
    rw [hread] at hparse
    by_cases hdeclares : ∃ version, Declares tables value version
    · obtain ⟨version, hversion⟩ := hdeclares
      have hsome := (h.1 version).mpr hversion
      rw [hparse] at hsome
      exact absurd hsome (by simp)
    · have hnone := h.2.mpr hdeclares
      rw [hparse] at hnone
      exact absurd hnone (by simp)
  · exact Or.inr (readNumbers_eq_none_iff.mp hread)
  · left
    rw [hread] at hparse
    have hnumbers := (declares_iff.mp ((h.1 (triple numbers)).mp hparse)).1
    exact fun part hmem =>
      ⟨hnumbers part hmem, (readable_of_readNumbers hread part hmem).2.1⟩

/-- The parser accepts exactly its grammar and raises nothing on these texts, and on no others. -/
theorem parser_meets_iff (value : Text) : Meets tables value ↔ Unambiguous tables value :=
  ⟨unambiguous_of_meets, meets_of_unambiguous⟩

end

/-! ### A superscript -/

namespace Superscript

/-- The tables of the interpreter on ASCII and on `²`, the code point U+00B2. -/
def tables : CharacterTables where
  isSpace c := decide (c.val = 32)
  isDigit c := isAsciiDigit c || decide (c.val = 0xB2)
  decimal c := if 48 ≤ c.val ∧ c.val ≤ 57 then some (c.val - 48) else none
  isDigit_of_decimal c h := by
    rw [Bool.or_eq_true]
    left
    apply decide_eq_true
    by_contra hc
    rw [if_neg hc] at h
    cases h
  decimal_ascii c _ := rfl

/-- `2.²` -/
def value : Text := [⟨50, by decide⟩, dot, ⟨0xB2, by decide⟩]

/-- `int()` raises on the superscript. -/
theorem superscript_not_meets : ¬Meets tables value := by
  intro h
  have hraise : parseDeclaredVersion tables value = none := by decide
  have hno : ¬∃ version, Declares tables value version := by
    rintro ⟨version, hdeclares⟩
    have hnumber : AsciiNumber [⟨0xB2, by decide⟩] := (declares_iff.mp hdeclares).1 _ (by decide)
    exact absurd (hnumber.2 _ List.mem_cons_self) (by decide)
  have hnone := h.2.mpr hno
  rw [hraise] at hnone
  cases hnone

end Superscript

end DeclaredVersion

end Posture
