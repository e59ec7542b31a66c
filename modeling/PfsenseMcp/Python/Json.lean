import Mathlib.Data.Int.Notation
import Mathlib.Data.Nat.Notation
import Mathlib.Data.List.Basic
import Mathlib.Tactic.NormNum.Basic

/-!
# Python's `json` module

JSON values with the writer and the reader of Python's standard library, as far as compact
output is concerned: `dumps ensureAscii` is `json.dumps(…, separators=(",", ":"))`, `sortKeys`
is its `sort_keys=True`, and `loads` is `json.loads`. An object is the list of its pairs in the
order of the text, so that a hook on the pairs (`object_pairs_hook`) can be applied to it.

Texts are lists of Unicode scalar values. A `\u` escape of a lone surrogate, which Python turns
into a string that no encoding accepts, is a reading error here. A number with a fraction or an
exponent is kept as its text.

## Main results

* `loads_dumps`: reading what was written gives the value back;
* `dumps_injective`: a text is written by one value only;
* `length_dumpValue_le`: a bound on the length of a text.
-/

namespace Python

/-- A JSON value. -/
inductive Json : Type
  | null
  | bool (value : Bool)
  | int (value : ℤ)
  /-- A number with a fraction or an exponent, or one of Python's non-finite constants. -/
  | float (text : String)
  | str (value : String)
  | arr (items : List Json)
  | obj (fields : List (String × Json))

namespace Json

/-! ### Writing -/

/-- A hexadecimal digit in lower case. -/
def hexDigit (n : ℕ) : Char :=
  if n < 10 then Char.ofNat (48 + n) else Char.ofNat (87 + n)

/-- The escape `\uXXXX` of a 16-bit code unit. -/
def unitEscape (n : ℕ) : List Char :=
  ['\\', 'u', hexDigit (n / 4096), hexDigit (n / 256 % 16), hexDigit (n / 16 % 16),
    hexDigit (n % 16)]

/-- The escape of a character, a surrogate pair outside the basic plane. -/
def unicodeEscape (c : Char) : List Char :=
  if c.toNat < 0x10000 then unitEscape c.toNat
  else unitEscape (0xd800 + (c.toNat - 0x10000) / 0x400) ++
    unitEscape (0xdc00 + (c.toNat - 0x10000) % 0x400)

/-- How a character is written inside a string literal. -/
def escapeChar (ensureAscii : Bool) (c : Char) : List Char :=
  if c = '"' then ['\\', '"']
  else if c = '\\' then ['\\', '\\']
  else if c = '\n' then ['\\', 'n']
  else if c = '\r' then ['\\', 'r']
  else if c = '\t' then ['\\', 't']
  else if c.toNat = 12 then ['\\', 'f']
  else if c.toNat = 8 then ['\\', 'b']
  else if c.toNat < 32 ∨ (ensureAscii = true ∧ 126 < c.toNat) then unicodeEscape c
  else [c]

/-- The characters of a string literal and its closing quote. -/
def dumpChars (ensureAscii : Bool) : List Char → List Char
  | [] => ['"']
  | c :: cs => escapeChar ensureAscii c ++ dumpChars ensureAscii cs

/-- A string literal. -/
def dumpString (ensureAscii : Bool) (s : String) : List Char :=
  '"' :: dumpChars ensureAscii s.toList

/-- The decimal digits of a natural number. -/
def dumpNat (n : ℕ) : List Char := Nat.toDigits 10 n

/-- An integer literal. -/
def dumpInt : ℤ → List Char
  | .ofNat n => dumpNat n
  | .negSucc n => '-' :: dumpNat (n + 1)

mutual

/-- The compact text of a value. -/
def dumpValue (ensureAscii : Bool) : Json → List Char
  | .null => ['n', 'u', 'l', 'l']
  | .bool true => ['t', 'r', 'u', 'e']
  | .bool false => ['f', 'a', 'l', 's', 'e']
  | .int n => dumpInt n
  | .float t => t.toList
  | .str s => dumpString ensureAscii s
  | .arr [] => ['[', ']']
  | .arr (x :: xs) => '[' :: (dumpValue ensureAscii x ++ dumpItems ensureAscii xs)
  | .obj [] => ['{', '}']
  | .obj ((k, v) :: fs) =>
    '{' :: (dumpString ensureAscii k ++ ':' :: (dumpValue ensureAscii v ++
      dumpFields ensureAscii fs))

/-- The items of an array after the first, and its closing bracket. -/
def dumpItems (ensureAscii : Bool) : List Json → List Char
  | [] => [']']
  | x :: xs => ',' :: (dumpValue ensureAscii x ++ dumpItems ensureAscii xs)

/-- The fields of an object after the first, and its closing brace. -/
def dumpFields (ensureAscii : Bool) : List (String × Json) → List Char
  | [] => ['}']
  | (k, v) :: fs =>
    ',' :: (dumpString ensureAscii k ++ ':' :: (dumpValue ensureAscii v ++
      dumpFields ensureAscii fs))

end

/-- `json.dumps(value, ensure_ascii=…, separators=(",", ":"))`. -/
def dumps (ensureAscii : Bool) (value : Json) : String :=
  String.ofList (dumpValue ensureAscii value)

/-- The order of strings: by the code points of their characters. -/
def keyLt (a b : String) : Bool := a.toList.lex b.toList fun c d => Nat.blt c.toNat d.toNat

/-- Insert a field before the first field with a larger key. -/
def insertField (field : String × Json) : List (String × Json) → List (String × Json)
  | [] => [field]
  | f :: fs => if keyLt f.1 field.1 then f :: insertField field fs else field :: f :: fs

mutual

/-- The effect of `sort_keys=True`: the fields of every object by their key. -/
def sortKeys : Json → Json
  | .arr items => .arr (sortItems items)
  | .obj fields => .obj (sortFields fields)
  | value => value

/-- `sortKeys` of every item. -/
def sortItems : List Json → List Json
  | [] => []
  | x :: xs => sortKeys x :: sortItems xs

/-- The fields in order of their keys, with sorted values. -/
def sortFields : List (String × Json) → List (String × Json)
  | [] => []
  | (k, v) :: fs => insertField (k, sortKeys v) (sortFields fs)

end

/-! ### Reading -/

/-- The white space of JSON. -/
def isSpace (c : Char) : Bool := c = ' ' ∨ c = '\t' ∨ c = '\n' ∨ c = '\r'

/-- Skip white space. -/
def skipSpace (cs : List Char) : List Char := cs.dropWhile isSpace

/-- The value of a hexadecimal digit. -/
def hexValue (c : Char) : Option ℕ :=
  if '0' ≤ c ∧ c ≤ '9' then some (c.toNat - 48)
  else if 'a' ≤ c ∧ c ≤ 'f' then some (c.toNat - 87)
  else if 'A' ≤ c ∧ c ≤ 'F' then some (c.toNat - 55)
  else none

/-- The code unit written by four hexadecimal digits, and what follows them. -/
def readUnit : List Char → Option (ℕ × List Char)
  | a :: b :: c :: d :: r => do
    let a ← hexValue a
    let b ← hexValue b
    let c ← hexValue c
    let d ← hexValue d
    return (a * 4096 + b * 256 + c * 16 + d, r)
  | _ => none

/-- The character of an escape, after its backslash, and what follows it. -/
def readEscape : List Char → Option (Char × List Char)
  | '"' :: r => some ('"', r)
  | '\\' :: r => some ('\\', r)
  | '/' :: r => some ('/', r)
  | 'b' :: r => some (Char.ofNat 8, r)
  | 'f' :: r => some (Char.ofNat 12, r)
  | 'n' :: r => some ('\n', r)
  | 'r' :: r => some ('\r', r)
  | 't' :: r => some ('\t', r)
  | 'u' :: r => do
    let (u, r) ← readUnit r
    if u < 0xd800 ∨ 0xe000 ≤ u then return (Char.ofNat u, r)
    -- a leading surrogate has to be followed by the escape of a trailing one
    match r with
    | '\\' :: 'u' :: r =>
      let (v, r) ← readUnit r
      if u < 0xdc00 ∧ 0xdc00 ≤ v ∧ v < 0xe000 then
        return (Char.ofNat (0x10000 + (u - 0xd800) * 0x400 + (v - 0xdc00)), r)
      else none
    | _ => none
  | _ => none

/-- The characters of a string literal after its opening quote, and what follows the literal.
The first argument bounds the number of characters read. -/
def readChars : ℕ → List Char → Option (List Char × List Char)
  | n + 1, c :: r =>
    if c = '"' then some ([], r)
    else if c = '\\' then do
      let (e, r) ← readEscape r
      let (cs, r) ← readChars n r
      return (e :: cs, r)
    else if c.toNat < 32 then none
    else do
      let (cs, r) ← readChars n r
      return (c :: cs, r)
  | _, _ => none

/-- A run of decimal digits. -/
def spanDigits (cs : List Char) : List Char × List Char :=
  (cs.takeWhile Char.isDigit, cs.dropWhile Char.isDigit)

/-- The value of a run of decimal digits. -/
def digitsValue (ds : List Char) : ℕ := Nat.ofDigitChars 10 ds 0

/-- The fraction and the exponent of a number, as text. -/
def readFraction (cs : List Char) : List Char × List Char :=
  let (fraction, cs) := match cs with
    | '.' :: r =>
      match spanDigits r with
      | ([], _) => ([], cs)
      | (ds, r) => ('.' :: ds, r)
    | _ => ([], cs)
  match cs with
  | e :: r =>
    if e = 'e' ∨ e = 'E' then
      let (sign, r') := match r with
        | '+' :: r => (['+'], r)
        | '-' :: r => (['-'], r)
        | _ => ([], r)
      match spanDigits r' with
      | ([], _) => (fraction, cs)
      | (ds, r') => (fraction ++ e :: (sign ++ ds), r')
    else (fraction, cs)
  | [] => (fraction, cs)

/-- A number without its sign: the digits of the integer part, the rest of its text. -/
def readNumber (sign : List Char) (cs : List Char) : Option (Json × List Char) :=
  match spanDigits cs with
  | ([], _) => none
  | (d :: ds, r) =>
    -- a leading zero ends the integer part
    let (ip, r) := if d = '0' then (['0'], ds ++ r) else (d :: ds, r)
    match readFraction r with
    | ([], _) =>
      some (.int (if sign = [] then digitsValue ip else -digitsValue ip), r)
    | (fraction, r) => some (.float (String.ofList (sign ++ ip ++ fraction)), r)

/-- What follows a keyword at the head of a text. -/
def readWord : List Char → List Char → Option (List Char)
  | [], cs => some cs
  | w :: ws, c :: cs => if w = c then readWord ws cs else none
  | _ :: _, [] => none

/-- Python's non-finite numbers and the other constants. -/
def readConstant (cs : List Char) : Option (Json × List Char) :=
  (readWord "null".toList cs).map (.null, ·) <|>
  (readWord "true".toList cs).map (.bool true, ·) <|>
  (readWord "false".toList cs).map (.bool false, ·) <|>
  (readWord "NaN".toList cs).map (.float "NaN", ·) <|>
  (readWord "Infinity".toList cs).map (.float "Infinity", ·) <|>
  (readWord "-Infinity".toList cs).map (.float "-Infinity", ·)

mutual

/-- A value at the head of a text, and what follows it. The first argument bounds the number of
steps. -/
def readValue : ℕ → List Char → Option (Json × List Char)
  | n + 1, c :: r =>
    if c = '"' then do
      let (cs, r) ← readChars n r
      return (.str (String.ofList cs), r)
    else if c = '{' then
      match skipSpace r with
      | '}' :: r => some (.obj [], r)
      | r => do
        let (fs, r) ← readFields n r
        return (.obj fs, r)
    else if c = '[' then
      match skipSpace r with
      | ']' :: r => some (.arr [], r)
      | r => do
        let (xs, r) ← readItems n r
        return (.arr xs, r)
    else
      readConstant (c :: r) <|> (if c = '-' then readNumber ['-'] r else readNumber [] (c :: r))
  | _, _ => none

/-- The items of a nonempty array and its closing bracket. -/
def readItems : ℕ → List Char → Option (List Json × List Char)
  | n + 1, cs => do
    let (x, r) ← readValue n cs
    match skipSpace r with
    | ']' :: r => return ([x], r)
    | ',' :: r =>
      let (xs, r) ← readItems n (skipSpace r)
      return (x :: xs, r)
    | _ => none
  | 0, _ => none

/-- The fields of a nonempty object and its closing brace. -/
def readFields : ℕ → List Char → Option (List (String × Json) × List Char)
  | n + 1, '"' :: cs => do
    let (k, r) ← readChars n cs
    match skipSpace r with
    | ':' :: r =>
      let (v, r) ← readValue n (skipSpace r)
      match skipSpace r with
      | '}' :: r => return ([(String.ofList k, v)], r)
      | ',' :: r =>
        let (fs, r) ← readFields n (skipSpace r)
        return ((String.ofList k, v) :: fs, r)
      | _ => none
    | _ => none
  | _, _ => none

end

/-- `json.loads(text)`: `none` is a `JSONDecodeError`. -/
def loads (text : String) : Option Json := do
  let cs := skipSpace text.toList
  let (value, r) ← readValue (2 * cs.length + 1) cs
  match skipSpace r with
  | [] => return value
  | _ => none

/-! ### Strings read back -/

theorem hexValue_hexDigit : ∀ n < 16, hexValue (hexDigit n) = some n := by decide

/-- Four hexadecimal digits give back the code unit. -/
theorem readUnit_hexDigits {n : ℕ} (h : n < 0x10000) (r : List Char) :
    readUnit (hexDigit (n / 4096) :: hexDigit (n / 256 % 16) :: hexDigit (n / 16 % 16) ::
      hexDigit (n % 16) :: r) = some (n, r) := by
  have h₁ := hexValue_hexDigit (n / 4096) (by omega)
  have h₂ := hexValue_hexDigit (n / 256 % 16) (by omega)
  have h₃ := hexValue_hexDigit (n / 16 % 16) (by omega)
  have h₄ := hexValue_hexDigit (n % 16) (by omega)
  have hsum : n / 4096 * 4096 + n / 256 % 16 * 256 + n / 16 % 16 * 16 + n % 16 = n := by omega
  simp [readUnit, h₁, h₂, h₃, h₄, hsum]

/-- A character is no surrogate. -/
theorem toNat_cases (c : Char) :
    c.toNat < 0xd800 ∨ (0xe000 ≤ c.toNat ∧ c.toNat < 0x110000) := by
  rcases c.valid with h | ⟨h₁, h₂⟩
  · exact Or.inl h
  · exact Or.inr ⟨h₁, h₂⟩

/-- The escapes of a surrogate pair are read as one character. -/
theorem readEscape_pair {u v : ℕ} (hu : 0xd800 ≤ u ∧ u < 0xdc00) (hv : 0xdc00 ≤ v ∧ v < 0xe000)
    (r : List Char) :
    readEscape ('u' :: hexDigit (u / 4096) :: hexDigit (u / 256 % 16) :: hexDigit (u / 16 % 16) ::
      hexDigit (u % 16) :: (unitEscape v ++ r)) =
      some (Char.ofNat (0x10000 + (u - 0xd800) * 0x400 + (v - 0xdc00)), r) := by
  have hlead := readUnit_hexDigits (n := u) (by omega) (unitEscape v ++ r)
  have htrail := readUnit_hexDigits (n := v) (by omega) r
  have h₁ : ¬(u < 0xd800 ∨ 0xe000 ≤ u) := by omega
  have h₂ : u < 0xdc00 ∧ 0xdc00 ≤ v ∧ v < 0xe000 := by omega
  rw [readEscape, hlead]
  simp only [Option.bind_eq_bind, Option.bind_some, if_neg h₁, unitEscape, List.cons_append,
    List.nil_append, htrail, if_pos h₂, Option.pure_def]

/-- The escape of a character is read back as the character. -/
theorem readEscape_unicodeEscape (c : Char) (r : List Char) :
    ∃ e, unicodeEscape c ++ r = '\\' :: e ∧ readEscape e = some (c, r) := by
  have hc := toNat_cases c
  unfold unicodeEscape
  split_ifs with hlt
  · refine ⟨_, rfl, ?_⟩
    have hunit : c.toNat < 0xd800 ∨ 0xe000 ≤ c.toNat := by omega
    simp [readEscape, readUnit_hexDigits hlt, hunit]
  · have hpair : 0x10000 + (0xd800 + (c.toNat - 0x10000) / 0x400 - 0xd800) * 0x400 +
        (0xdc00 + (c.toNat - 0x10000) % 0x400 - 0xdc00) = c.toNat := by omega
    have h := readEscape_pair (u := 0xd800 + (c.toNat - 0x10000) / 0x400)
      (v := 0xdc00 + (c.toNat - 0x10000) % 0x400) (by omega) (by omega) r
    rw [hpair, Char.ofNat_toNat] at h
    exact ⟨_, by simp only [unitEscape, List.cons_append, List.nil_append], h⟩

/-- A written character is read back, whatever way it was written. -/
theorem readChars_escapeChar (b : Bool) (c : Char) (r : List Char) (n : ℕ) :
    readChars (n + 1) (escapeChar b c ++ r) =
      (readChars n r).map fun p => (c :: p.1, p.2) := by
  unfold escapeChar
  split_ifs with h₁ h₂ h₃ h₄ h₅ h₆ h₇ h₈
  · subst h₁; cases h : readChars n r <;> simp [readChars, readEscape, h]
  · subst h₂; cases h : readChars n r <;> simp [readChars, readEscape, h]
  · subst h₃; cases h : readChars n r <;> simp [readChars, readEscape, h]
  · subst h₄; cases h : readChars n r <;> simp [readChars, readEscape, h]
  · subst h₅; cases h : readChars n r <;> simp [readChars, readEscape, h]
  · obtain rfl : Char.ofNat 12 = c := by rw [← h₆, Char.ofNat_toNat]
    cases h : readChars n r <;> simp [readChars, readEscape, h]
  · obtain rfl : Char.ofNat 8 = c := by rw [← h₇, Char.ofNat_toNat]
    cases h : readChars n r <;> simp [readChars, readEscape, h]
  · obtain ⟨e, he, hread⟩ := readEscape_unicodeEscape c r
    rw [he]
    cases h : readChars n r <;> simp [readChars, hread, h]
  · have hctl : ¬c.toNat < 32 := by omega
    cases h : readChars n r <;> simp [readChars, h₁, h₂, hctl, h]

theorem length_escapeChar_pos (b : Bool) (c : Char) : 0 < (escapeChar b c).length := by
  unfold escapeChar unicodeEscape unitEscape
  split_ifs <;> simp

/-- A written string is read back, with what follows it. -/
theorem readChars_dumpChars (b : Bool) (cs r : List Char) {n : ℕ}
    (h : (dumpChars b cs ++ r).length ≤ n) :
    readChars n (dumpChars b cs ++ r) = some (cs, r) := by
  induction cs generalizing n with
  | nil =>
    obtain ⟨n, rfl⟩ : ∃ m, n = m + 1 := ⟨n - 1, by simp [dumpChars] at h; omega⟩
    simp [dumpChars, readChars]
  | cons c cs ih =>
    have hpos := length_escapeChar_pos b c
    simp only [dumpChars, List.append_assoc, List.length_append] at h
    obtain ⟨n, rfl⟩ : ∃ m, n = m + 1 := ⟨n - 1, by omega⟩
    rw [dumpChars, List.append_assoc, readChars_escapeChar, ih (by simp; omega)]
    rfl

/-! ### Numbers read back -/

/-- A text that may follow a value: nothing, a separator or a closing bracket. -/
def Ends : List Char → Prop
  | [] => True
  | c :: _ => c = ',' ∨ c = ']' ∨ c = '}'

theorem spanDigits_append {ds r : List Char} (hds : ∀ d ∈ ds, d.isDigit = true) (hr : Ends r) :
    spanDigits (ds ++ r) = (ds, r) := by
  have hr' : r.takeWhile Char.isDigit = [] ∧ r.dropWhile Char.isDigit = r := by
    cases r with
    | nil => simp
    | cons c r => rcases hr with rfl | rfl | rfl <;> simp [List.takeWhile, List.dropWhile]
  rw [spanDigits, List.takeWhile_append_of_pos hds,
    List.dropWhile_append_of_pos hds, hr'.1, hr'.2, List.append_nil]

theorem readFraction_of_ends {r : List Char} (hr : Ends r) : readFraction r = ([], r) := by
  cases r with
  | nil => rfl
  | cons c r => rcases hr with rfl | rfl | rfl <;> simp [readFraction]

/-- Only zero is written with a leading zero. -/
theorem dumpNat_leading_zero (n : ℕ) {d : Char} {ds : List Char} (h : dumpNat n = d :: ds)
    (hd : d = '0') : ds = [] := by
  induction n using Nat.strongRecOn generalizing ds with
  | ind n ih =>
    rw [dumpNat, Nat.toDigits_eq_if (by decide)] at h
    split_ifs at h with hlt
    · simp only [List.cons.injEq] at h
      exact h.2.symm
    · -- the digits of `n / 10` come first, so they are just `0`, but `n / 10` is positive
      obtain ⟨d', ds', hdigits⟩ := List.exists_cons_of_ne_nil
        (Nat.toDigits_ne_nil (n := n / 10) (b := 10))
      rw [hdigits] at h
      simp only [List.cons_append, List.cons.injEq] at h
      obtain rfl := ih (n / 10) (by omega) (h.1 ▸ hdigits)
      have hval := Nat.ofDigitChars_ten_toDigits (n := n / 10)
      rw [hdigits, h.1, hd] at hval
      have hzero : Nat.ofDigitChars 10 ['0'] 0 = 0 := by decide
      omega

theorem dumpNat_isDigit {n : ℕ} {d : Char} (h : d ∈ dumpNat n) : d.isDigit = true :=
  Nat.isDigit_of_mem_toDigits (by decide) (by decide) h

theorem dumpNat_cons (n : ℕ) : ∃ d ds, dumpNat n = d :: ds ∧ d.isDigit = true := by
  obtain ⟨d, ds, h⟩ := List.exists_cons_of_ne_nil (Nat.toDigits_ne_nil (n := n) (b := 10))
  exact ⟨d, ds, h, dumpNat_isDigit (n := n) (by rw [dumpNat, h]; simp)⟩

/-- A written number is read back. -/
theorem readNumber_dumpNat (sign : List Char) (n : ℕ) {r : List Char} (hr : Ends r) :
    readNumber sign (dumpNat n ++ r) = some (.int (if sign = [] then n else -n), r) := by
  obtain ⟨d, ds, h, -⟩ := dumpNat_cons n
  have hval : digitsValue (d :: ds) = n := by
    rw [← h]; exact Nat.ofDigitChars_ten_toDigits
  rw [readNumber, spanDigits_append (fun _ => dumpNat_isDigit) hr, h]
  by_cases hd : d = '0'
  · obtain rfl := dumpNat_leading_zero n h hd
    subst hd
    simp [readFraction_of_ends hr, hval]
  · simp [hd, readFraction_of_ends hr, hval]

theorem readConstant_digit {d : Char} (hd : d.isDigit = true) (r : List Char) :
    readConstant (d :: r) = none := by
  have h : ∀ c : Char, c.isDigit = false → c ≠ d := by
    rintro c hc rfl
    exact absurd (hc.symm.trans hd) (by decide)
  simp [readConstant, readWord, h 'n' (by decide), h 't' (by decide), h 'f' (by decide),
    h 'N' (by decide), h 'I' (by decide), h '-' (by decide)]

theorem readConstant_neg {d : Char} (hd : d.isDigit = true) (r : List Char) :
    readConstant ('-' :: d :: r) = none := by
  have h : 'I' ≠ d := by rintro rfl; exact absurd hd (by decide)
  simp [readConstant, readWord, h]

/-- A value that starts with no bracket and no quote is a constant or a number. -/
theorem readValue_scalar {c : Char} (h₁ : c ≠ '"') (h₂ : c ≠ '{') (h₃ : c ≠ '[') (n : ℕ)
    (r : List Char) :
    readValue (n + 1) (c :: r) = (readConstant (c :: r) <|>
      (if c = '-' then readNumber ['-'] r else readNumber [] (c :: r))) := by
  rw [readValue, if_neg h₁, if_neg h₂, if_neg h₃]

/-- A written integer is read back. -/
theorem readValue_dumpInt (i : ℤ) {r : List Char} (hr : Ends r) (n : ℕ) :
    readValue (n + 1) (dumpInt i ++ r) = some (.int i, r) := by
  cases i with
  | ofNat m =>
    obtain ⟨d, ds, h, hd⟩ := dumpNat_cons m
    have hne : ∀ c : Char, c.isDigit = false → d ≠ c := by
      rintro c hc rfl
      exact absurd (hc.symm.trans hd) (by decide)
    have hnum := readNumber_dumpNat [] m hr
    rw [h, List.cons_append] at hnum
    change readValue (n + 1) (dumpNat m ++ r) = some (.int (m : ℤ), r)
    rw [h, List.cons_append, readValue_scalar (hne _ (by decide)) (hne _ (by decide))
      (hne _ (by decide)), readConstant_digit hd, if_neg (hne _ (by decide)), hnum]
    rfl
  | negSucc m =>
    obtain ⟨d, ds, h, hd⟩ := dumpNat_cons (m + 1)
    have hnum := readNumber_dumpNat ['-'] (m + 1) hr
    rw [h, List.cons_append] at hnum
    change readValue (n + 1) ('-' :: (dumpNat (m + 1) ++ r)) = _
    rw [h, List.cons_append, readValue_scalar (by decide) (by decide) (by decide),
      readConstant_neg hd, if_pos rfl, hnum]
    rfl

/-! ### Values read back -/

mutual

/-- A value without `float`: the values this writer reproduces exactly. -/
def plain : Json → Bool
  | .float _ => false
  | .arr items => plainItems items
  | .obj fields => plainFields fields
  | _ => true

/-- `plain` of every item. -/
def plainItems : List Json → Bool
  | [] => true
  | x :: xs => plain x && plainItems xs

/-- `plain` of every field. -/
def plainFields : List (String × Json) → Bool
  | [] => true
  | (_, v) :: fs => plain v && plainFields fs

end

/-- The text of a plain value starts with a character that is no space and closes nothing. -/
theorem dumpValue_cons (b : Bool) {v : Json} (hv : plain v = true) :
    ∃ c cs, dumpValue b v = c :: cs ∧ isSpace c = false ∧ c ≠ ']' ∧ c ≠ '}' := by
  have hdigit : ∀ d : Char, d.isDigit = true → isSpace d = false ∧ d ≠ ']' ∧ d ≠ '}' := by
    intro d hd
    have hne : ∀ c : Char, c.isDigit = false → d ≠ c := by
      rintro c hc rfl
      exact absurd (hc.symm.trans hd) (by decide)
    simp [isSpace, hne ' ' (by decide), hne '\t' (by decide), hne '\n' (by decide),
      hne '\r' (by decide), hne ']' (by decide), hne '}' (by decide)]
  cases v with
  | null => exact ⟨_, _, rfl, by decide, by decide, by decide⟩
  | bool x => cases x <;> exact ⟨_, _, rfl, by decide, by decide, by decide⟩
  | int i =>
    cases i with
    | ofNat m =>
      obtain ⟨d, ds, h, hd⟩ := dumpNat_cons m
      exact ⟨d, ds, h, hdigit d hd⟩
    | negSucc m => exact ⟨_, _, rfl, by decide, by decide, by decide⟩
  | float t => simp [plain] at hv
  | str s => exact ⟨_, _, rfl, by decide, by decide, by decide⟩
  | arr items => cases items <;> exact ⟨_, _, rfl, by decide, by decide, by decide⟩
  | obj fields => cases fields <;> exact ⟨_, _, rfl, by decide, by decide, by decide⟩

/-- No white space is skipped before a written value. -/
theorem skipSpace_dumpValue (b : Bool) {v : Json} (hv : plain v = true) (r : List Char) :
    skipSpace (dumpValue b v ++ r) = dumpValue b v ++ r := by
  obtain ⟨c, cs, h, hc, -, -⟩ := dumpValue_cons b hv
  rw [h]
  simp [skipSpace, hc]

theorem skipSpace_cons {c : Char} (hc : isSpace c = false) (r : List Char) :
    skipSpace (c :: r) = c :: r := by
  simp [skipSpace, hc]

/-- A written value takes at least one step to read. -/
theorem exists_succ_of_length_le (b : Bool) {v : Json} (hv : plain v = true) {r : List Char}
    {n : ℕ} (hn : 2 * (dumpValue b v ++ r).length ≤ n) : ∃ m, n = m + 1 := by
  obtain ⟨c, cs, h, -⟩ := dumpValue_cons b hv
  exact ⟨n - 1, by simp [h] at hn; omega⟩

mutual

/-- A written value is read back, with what follows it. -/
theorem readValue_dumpValue (b : Bool) : ∀ (v : Json), plain v = true → ∀ (r : List Char),
    Ends r → ∀ (n : ℕ), 2 * (dumpValue b v ++ r).length ≤ n →
    readValue n (dumpValue b v ++ r) = some (v, r)
  | .null, hv, r, _, n, hn => by
    obtain ⟨n, rfl⟩ := exists_succ_of_length_le b hv hn
    rfl
  | .bool x, hv, r, _, n, hn => by
    obtain ⟨n, rfl⟩ := exists_succ_of_length_le b hv hn
    cases x <;> rfl
  | .int i, hv, r, hr, n, hn => by
    obtain ⟨n, rfl⟩ := exists_succ_of_length_le b hv hn
    exact readValue_dumpInt i hr n
  | .float t, hv, _, _, _, _ => by simp [plain] at hv
  | .str s, hv, r, _, n, hn => by
    obtain ⟨n, rfl⟩ := exists_succ_of_length_le b hv hn
    have h := readChars_dumpChars b s.toList r (n := n) (by
      simp [dumpValue, dumpString] at hn ⊢; omega)
    simp [dumpValue, dumpString, readValue, h, String.ofList_toList]
  | .arr [], hv, r, _, n, hn => by
    obtain ⟨n, rfl⟩ := exists_succ_of_length_le b hv hn
    simp [dumpValue, readValue, skipSpace_cons, isSpace]
  | .arr (x :: xs), hv, r, _, n, hn => by
    obtain ⟨n, rfl⟩ := exists_succ_of_length_le b hv hn
    have hx : plain x = true ∧ plainItems xs = true := by simpa [plain, plainItems] using hv
    have h := readItems_dumpItems b x xs hx.1 hx.2 r n (by
      simp [dumpValue] at hn ⊢; omega)
    obtain ⟨c, cs, hc, -, hne, -⟩ := dumpValue_cons b hx.1
    have hskip := skipSpace_dumpValue b hx.1 (dumpItems b xs ++ r)
    rw [hc, List.cons_append] at hskip h
    simp only [dumpValue, List.cons_append, List.append_assoc, hc]
    rw [readValue, if_neg (by decide), if_neg (by decide), if_pos rfl, hskip]
    simp [hne, h]
  | .obj [], hv, r, _, n, hn => by
    obtain ⟨n, rfl⟩ := exists_succ_of_length_le b hv hn
    simp [dumpValue, readValue, skipSpace_cons, isSpace]
  | .obj ((k, v) :: fs), hv, r, _, n, hn => by
    obtain ⟨n, rfl⟩ := exists_succ_of_length_le b hv hn
    have hx : plain v = true ∧ plainFields fs = true := by simpa [plain, plainFields] using hv
    have h := readFields_dumpFields b k v fs hx.1 hx.2 r n (by
      simp [dumpValue] at hn ⊢; omega)
    simp only [dumpValue, List.cons_append, List.append_assoc]
    rw [readValue, if_neg (by decide), if_pos rfl]
    simp only [dumpString, List.cons_append] at h ⊢
    simp [skipSpace_cons, isSpace, h]
termination_by v => sizeOf v

/-- The items of a written array are read back. -/
theorem readItems_dumpItems (b : Bool) (x : Json) : ∀ (xs : List Json), plain x = true →
    plainItems xs = true → ∀ (r : List Char) (n : ℕ),
    2 * (dumpValue b x ++ (dumpItems b xs ++ r)).length + 1 ≤ n →
    readItems n (dumpValue b x ++ (dumpItems b xs ++ r)) = some (x :: xs, r)
  | [], hx, _, r, n, hn => by
    obtain ⟨n, rfl⟩ : ∃ m, n = m + 1 := ⟨n - 1, by omega⟩
    have hread := readValue_dumpValue b x hx (dumpItems b [] ++ r) (by simp [dumpItems, Ends]) n
      (by omega)
    rw [readItems, hread]
    simp [dumpItems, skipSpace_cons, isSpace]
  | y :: ys, hx, hxs, r, n, hn => by
    obtain ⟨n, rfl⟩ : ∃ m, n = m + 1 := ⟨n - 1, by omega⟩
    have hread := readValue_dumpValue b x hx (dumpItems b (y :: ys) ++ r)
      (by simp [dumpItems, Ends]) n (by omega)
    have hy : plain y = true ∧ plainItems ys = true := by simpa [plainItems] using hxs
    have h := readItems_dumpItems b y ys hy.1 hy.2 r n (by
      simp [dumpItems] at hn ⊢; omega)
    rw [readItems, hread]
    simp [dumpItems, skipSpace_cons, isSpace, skipSpace_dumpValue b hy.1, h]
termination_by xs => sizeOf x + sizeOf xs

/-- The fields of a written object are read back. -/
theorem readFields_dumpFields (b : Bool) (k : String) (v : Json) :
    ∀ (fs : List (String × Json)), plain v = true → plainFields fs = true →
    ∀ (r : List Char) (n : ℕ),
    2 * (dumpString b k ++ ':' :: (dumpValue b v ++ (dumpFields b fs ++ r))).length + 1 ≤ n →
    readFields n (dumpString b k ++ ':' :: (dumpValue b v ++ (dumpFields b fs ++ r))) =
      some ((k, v) :: fs, r)
  | [], hv, _, r, n, hn => by
    obtain ⟨n, rfl⟩ : ∃ m, n = m + 1 := ⟨n - 1, by omega⟩
    have hkey := readChars_dumpChars b k.toList
      (':' :: (dumpValue b v ++ (dumpFields b [] ++ r))) (n := n) (by
        simp [dumpString] at hn ⊢; omega)
    have hval := readValue_dumpValue b v hv (dumpFields b [] ++ r) (by simp [dumpFields, Ends]) n
      (by simp at hn ⊢; omega)
    rw [dumpString, List.cons_append, readFields, hkey]
    simp only [Option.bind_eq_bind, Option.bind_some, skipSpace_cons (c := ':') rfl,
      skipSpace_dumpValue b hv, hval]
    simp [dumpFields, skipSpace_cons, isSpace]
  | (k', v') :: fs, hv, hfs, r, n, hn => by
    obtain ⟨n, rfl⟩ : ∃ m, n = m + 1 := ⟨n - 1, by omega⟩
    have hkey := readChars_dumpChars b k.toList
      (':' :: (dumpValue b v ++ (dumpFields b ((k', v') :: fs) ++ r))) (n := n) (by
        simp [dumpString] at hn ⊢; omega)
    have hval := readValue_dumpValue b v hv (dumpFields b ((k', v') :: fs) ++ r)
      (by simp [dumpFields, Ends]) n (by simp at hn ⊢; omega)
    have hv' : plain v' = true ∧ plainFields fs = true := by simpa [plainFields] using hfs
    have h := readFields_dumpFields b k' v' fs hv'.1 hv'.2 r n (by
      simp [dumpFields] at hn ⊢; omega)
    rw [dumpString, List.cons_append, readFields, hkey]
    simp only [Option.bind_eq_bind, Option.bind_some, skipSpace_cons (c := ':') rfl,
      skipSpace_dumpValue b hv, hval]
    simp only [dumpFields, List.cons_append, List.append_assoc, dumpString] at h ⊢
    simp [skipSpace_cons, isSpace, h]
termination_by fs => sizeOf v + sizeOf fs

end

/-- Reading what was written gives the value back. -/
theorem loads_dumps (b : Bool) {v : Json} (hv : plain v = true) : loads (dumps b v) = some v := by
  have hskip := skipSpace_dumpValue b hv []
  rw [List.append_nil] at hskip
  have h := readValue_dumpValue b v hv [] trivial (2 * (dumpValue b v).length + 1) (by simp)
  rw [List.append_nil] at h
  simp only [loads, dumps, String.toList_ofList, hskip, h]
  rfl

/-- Reading a written object that is followed by white space gives the object back. -/
theorem loads_dumps_append (b : Bool) {k : String} {v : Json} {fs : List (String × Json)}
    (hv : plain (.obj ((k, v) :: fs)) = true) {r : List Char} (hr : skipSpace r = []) :
    loads (String.ofList (dumpValue b (.obj ((k, v) :: fs)) ++ r)) =
      some (.obj ((k, v) :: fs)) := by
  have hplain : plain v = true ∧ plainFields fs = true := by simpa [plain, plainFields] using hv
  have hskip := skipSpace_dumpValue b hv r
  have h := readFields_dumpFields b k v fs hplain.1 hplain.2 r
    (2 * (dumpValue b (.obj ((k, v) :: fs)) ++ r).length) (by
      simp only [dumpValue, List.cons_append, List.length_cons, List.length_append]
      omega)
  have hread : readValue (2 * (dumpValue b (.obj ((k, v) :: fs)) ++ r).length + 1)
      (dumpValue b (.obj ((k, v) :: fs)) ++ r) = some (.obj ((k, v) :: fs), r) := by
    generalize 2 * (dumpValue b (.obj ((k, v) :: fs)) ++ r).length = n at h ⊢
    simp only [dumpValue, List.cons_append, List.append_assoc]
    rw [readValue, if_neg (by decide), if_pos rfl]
    simp only [dumpString, List.cons_append] at h ⊢
    simp [skipSpace_cons, isSpace, h]
  simp only [loads, String.toList_ofList, hskip, hread, Option.bind_eq_bind, Option.bind_some, hr]
  rfl

/-- A text is written by one plain value only. -/
theorem dumps_injective (b : Bool) {v w : Json} (hv : plain v = true) (hw : plain w = true)
    (h : dumps b v = dumps b w) : v = w := by
  have hval := loads_dumps b hv
  rw [h, loads_dumps b hw] at hval
  exact (Option.some.inj hval).symm

/-! ### Characters of the text -/

theorem le_hexDigit : ∀ n < 16, 32 ≤ (hexDigit n).toNat := by decide

theorem le_of_mem_unitEscape {n : ℕ} (hn : n < 0x10000) {c : Char} (hc : c ∈ unitEscape n) :
    32 ≤ c.toNat := by
  simp only [unitEscape, List.mem_cons, List.not_mem_nil, or_false] at hc
  rcases hc with rfl | rfl | rfl | rfl | rfl | rfl
  · decide
  · decide
  all_goals exact le_hexDigit _ (by omega)

theorem le_of_mem_unicodeEscape {d c : Char} (hc : c ∈ unicodeEscape d) : 32 ≤ c.toNat := by
  have hd := toNat_cases d
  unfold unicodeEscape at hc
  split_ifs at hc with h
  · exact le_of_mem_unitEscape h hc
  · rcases List.mem_append.mp hc with hc | hc
    · exact le_of_mem_unitEscape (by omega) hc
    · exact le_of_mem_unitEscape (by omega) hc

/-- A character is written without control characters. -/
theorem le_of_mem_escapeChar (b : Bool) {d c : Char} (hc : c ∈ escapeChar b d) :
    32 ≤ c.toNat := by
  -- the short escapes have two characters
  have hshort : ∀ e : Char, 32 ≤ e.toNat → c ∈ ['\\', e] → 32 ≤ c.toNat := by
    intro e he hmem
    simp only [List.mem_cons, List.not_mem_nil, or_false] at hmem
    rcases hmem with rfl | rfl
    · decide
    · exact he
  unfold escapeChar at hc
  split_ifs at hc with h₁ h₂ h₃ h₄ h₅ h₆ h₇ h₈
  · exact hshort _ (by decide) hc
  · exact hshort _ (by decide) hc
  · exact hshort _ (by decide) hc
  · exact hshort _ (by decide) hc
  · exact hshort _ (by decide) hc
  · exact hshort _ (by decide) hc
  · exact hshort _ (by decide) hc
  · exact le_of_mem_unicodeEscape hc
  · rw [List.mem_singleton] at hc
    subst hc
    omega

theorem le_of_mem_dumpString (b : Bool) (s : String) {c : Char} (hc : c ∈ dumpString b s) :
    32 ≤ c.toNat := by
  have hchars : ∀ cs : List Char, ∀ c ∈ dumpChars b cs, 32 ≤ c.toNat := by
    intro cs
    induction cs with
    | nil =>
      intro c hc
      rw [dumpChars, List.mem_singleton] at hc
      subst hc
      decide
    | cons d cs ih =>
      intro c hc
      rw [dumpChars, List.mem_append] at hc
      rcases hc with hc | hc
      · exact le_of_mem_escapeChar b hc
      · exact ih c hc
  rw [dumpString, List.mem_cons] at hc
  rcases hc with rfl | hc
  · decide
  · exact hchars _ c hc

theorem le_of_all {text : List Char} (h : text.all (fun c => decide (32 ≤ c.toNat)) = true) :
    ∀ c ∈ text, 32 ≤ c.toNat :=
  fun c hc => of_decide_eq_true (List.all_eq_true.1 h c hc)

theorem le_of_mem_dumpNat (n : ℕ) {c : Char} (hc : c ∈ dumpNat n) : 32 ≤ c.toNat := by
  have hdigit := Nat.isDigit_of_mem_toDigits (by decide) (by decide) hc
  simp only [Char.isDigit, Bool.and_eq_true, decide_eq_true_eq] at hdigit
  exact Nat.le_trans (by decide) (show (48 : ℕ) ≤ c.toNat from hdigit.1)

mutual

/-- The text of a plain value has no control characters. -/
theorem le_of_mem_dumpValue (b : Bool) : ∀ v : Json, plain v = true →
    ∀ c ∈ dumpValue b v, 32 ≤ c.toNat
  | .null, _, c, hc => le_of_all rfl c hc
  | .bool true, _, c, hc => le_of_all rfl c hc
  | .bool false, _, c, hc => le_of_all rfl c hc
  | .int (.ofNat n), _, c, hc => le_of_mem_dumpNat n (by simpa only [dumpValue, dumpInt] using hc)
  | .int (.negSucc n), _, c, hc => by
    simp only [dumpValue, dumpInt, List.mem_cons] at hc
    rcases hc with rfl | hc
    · decide
    · exact le_of_mem_dumpNat _ hc
  | .float _, hv, _, _ => by simp [plain] at hv
  | .str s, _, c, hc => le_of_mem_dumpString b s (by simpa only [dumpValue] using hc)
  | .arr [], _, c, hc => le_of_all rfl c hc
  | .arr (x :: xs), hv, c, hc => by
    simp only [plain, plainItems, Bool.and_eq_true] at hv
    simp only [dumpValue, List.mem_cons, List.mem_append] at hc
    rcases hc with rfl | hc | hc
    · decide
    · exact le_of_mem_dumpValue b x hv.1 c hc
    · exact le_of_mem_dumpItems b xs hv.2 c hc
  | .obj [], _, c, hc => le_of_all rfl c hc
  | .obj ((k, v) :: fs), hv, c, hc => by
    simp only [plain, plainFields, Bool.and_eq_true] at hv
    simp only [dumpValue, List.mem_cons, List.mem_append] at hc
    rcases hc with rfl | hc | rfl | hc | hc
    · decide
    · exact le_of_mem_dumpString b k hc
    · decide
    · exact le_of_mem_dumpValue b v hv.1 c hc
    · exact le_of_mem_dumpFields b fs hv.2 c hc

/-- `le_of_mem_dumpValue` for the items of an array. -/
theorem le_of_mem_dumpItems (b : Bool) : ∀ xs : List Json, plainItems xs = true →
    ∀ c ∈ dumpItems b xs, 32 ≤ c.toNat
  | [], _, c, hc => le_of_all rfl c hc
  | x :: xs, hv, c, hc => by
    simp only [plainItems, Bool.and_eq_true] at hv
    simp only [dumpItems, List.mem_cons, List.mem_append] at hc
    rcases hc with rfl | hc | hc
    · decide
    · exact le_of_mem_dumpValue b x hv.1 c hc
    · exact le_of_mem_dumpItems b xs hv.2 c hc

/-- `le_of_mem_dumpValue` for the fields of an object. -/
theorem le_of_mem_dumpFields (b : Bool) : ∀ fs : List (String × Json), plainFields fs = true →
    ∀ c ∈ dumpFields b fs, 32 ≤ c.toNat
  | [], _, c, hc => le_of_all rfl c hc
  | (k, v) :: fs, hv, c, hc => by
    simp only [plainFields, Bool.and_eq_true] at hv
    simp only [dumpFields, List.mem_cons, List.mem_append] at hc
    rcases hc with rfl | hc | rfl | hc | hc
    · decide
    · exact le_of_mem_dumpString b k hc
    · decide
    · exact le_of_mem_dumpValue b v hv.1 c hc
    · exact le_of_mem_dumpFields b fs hv.2 c hc

end

/-! ### Length of the text -/

mutual

/-- A bound on the length of the text of a value. -/
def weight : Json → ℕ
  | .null => 4
  | .bool _ => 5
  | .int n => (dumpInt n).length
  | .float t => t.toList.length
  | .str s => 12 * s.toList.length + 2
  | .arr items => weightItems items + 2
  | .obj fields => weightFields fields + 2

/-- A bound on the length of the items of an array with their separators. -/
def weightItems : List Json → ℕ
  | [] => 0
  | x :: xs => weight x + weightItems xs + 1

/-- A bound on the length of the fields of an object with their separators. -/
def weightFields : List (String × Json) → ℕ
  | [] => 0
  | (k, v) :: fs => 12 * k.toList.length + weight v + weightFields fs + 4

end

theorem length_escapeChar_le (b : Bool) (c : Char) : (escapeChar b c).length ≤ 12 := by
  unfold escapeChar unicodeEscape unitEscape
  split_ifs <;> simp

theorem length_dumpString_le (b : Bool) (s : String) :
    (dumpString b s).length ≤ 12 * s.toList.length + 2 := by
  have h : ∀ cs, (dumpChars b cs).length ≤ 12 * cs.length + 1 := by
    intro cs
    induction cs with
    | nil => simp [dumpChars]
    | cons c cs ih =>
      have := length_escapeChar_le b c
      simp only [dumpChars, List.length_append, List.length_cons]
      omega
  have := h s.toList
  simp only [dumpString, List.length_cons]
  omega

mutual

/-- The text of a value is no longer than its weight. -/
theorem length_dumpValue_le (b : Bool) : ∀ v, (dumpValue b v).length ≤ weight v
  | .null => by simp [dumpValue, weight]
  | .bool x => by cases x <;> simp [dumpValue, weight]
  | .int n => Nat.le_refl _
  | .float t => Nat.le_refl _
  | .str s => length_dumpString_le b s
  | .arr [] => by simp [dumpValue, weight]
  | .arr (x :: xs) => by
    have h₁ := length_dumpValue_le b x
    have h₂ := length_dumpItems_le b xs
    simp only [dumpValue, weight, weightItems, List.length_cons, List.length_append]
    omega
  | .obj [] => by simp [dumpValue, weight]
  | .obj ((k, v) :: fs) => by
    have h₁ := length_dumpValue_le b v
    have h₂ := length_dumpFields_le b fs
    have h₃ := length_dumpString_le b k
    simp only [dumpValue, weight, weightFields, List.length_cons, List.length_append]
    omega

/-- The items of an array after the first. -/
theorem length_dumpItems_le (b : Bool) : ∀ xs, (dumpItems b xs).length ≤ weightItems xs + 1
  | [] => by simp [dumpItems]
  | x :: xs => by
    have h₁ := length_dumpValue_le b x
    have h₂ := length_dumpItems_le b xs
    simp only [dumpItems, weightItems, List.length_cons, List.length_append]
    omega

/-- The fields of an object after the first. -/
theorem length_dumpFields_le (b : Bool) : ∀ fs, (dumpFields b fs).length ≤ weightFields fs + 1
  | [] => by simp [dumpFields]
  | (k, v) :: fs => by
    have h₁ := length_dumpValue_le b v
    have h₂ := length_dumpFields_le b fs
    have h₃ := length_dumpString_le b k
    simp only [dumpFields, weightFields, List.length_cons, List.length_append]
    omega

end

/-- The text of a string has at least one character for each of its characters. -/
theorem length_le_dumpString (b : Bool) (s : String) :
    s.toList.length ≤ (dumpString b s).length := by
  have h : ∀ cs, cs.length ≤ (dumpChars b cs).length := by
    intro cs
    induction cs with
    | nil => exact Nat.zero_le _
    | cons c cs ih =>
      have := length_escapeChar_pos b c
      simp only [dumpChars, List.length_append, List.length_cons]
      omega
  have := h s.toList
  simp only [dumpString, List.length_cons]
  omega

/-- The text of an object is at least as long as the text of each of its fields. -/
theorem length_le_dumpValue_obj (b : Bool) {f : String × Json} {fs : List (String × Json)}
    (hf : f ∈ fs) : (dumpValue b f.2).length ≤ (dumpValue b (.obj fs)).length := by
  have h : ∀ fs, f ∈ fs → (dumpValue b f.2).length ≤ (dumpFields b fs).length := by
    intro fs
    induction fs with
    | nil => exact nofun
    | cons g fs ih =>
      intro hf
      simp only [dumpFields, List.length_cons, List.length_append]
      rcases List.mem_cons.mp hf with rfl | hf
      · omega
      · have := ih hf
        omega
  cases fs with
  | nil => cases hf
  | cons g fs =>
    simp only [dumpValue, List.length_cons, List.length_append]
    rcases List.mem_cons.mp hf with rfl | hf
    · omega
    · have := h fs hf
      omega

/-- A bound on the keys and the values of all fields bounds their sum. -/
theorem weightFields_le {fields : List (String × Json)} {key value : ℕ}
    (hkey : ∀ f ∈ fields, f.1.toList.length ≤ key) (hvalue : ∀ f ∈ fields, weight f.2 ≤ value) :
    weightFields fields ≤ fields.length * (12 * key + value + 4) := by
  induction fields with
  | nil => simp [weightFields]
  | cons f fields ih =>
    have h₁ := hkey f List.mem_cons_self
    have h₂ := hvalue f List.mem_cons_self
    have hfs := ih (fun g hg => hkey g (List.mem_cons_of_mem _ hg))
      (fun g hg => hvalue g (List.mem_cons_of_mem _ hg))
    simp only [weightFields, List.length_cons, Nat.add_mul]
    omega

/-- A number below `10 ^ k` has at most `k` digits. -/
theorem weight_int_le {n : ℤ} {k : ℕ} (hk : 0 < k) (h₀ : 0 ≤ n) (h : n < 10 ^ k) :
    weight (.int n) ≤ k := by
  obtain ⟨m, rfl⟩ := Int.eq_ofNat_of_zero_le h₀
  have hm : m < 10 ^ k := by exact_mod_cast h
  exact (Nat.length_toDigits_le_iff (by decide) hk).mpr hm

/-! ### Dictionaries -/

/-- `dictionary[key] = value`: a key that is there keeps its place. -/
def setField (field : String × Json) : List (String × Json) → List (String × Json)
  | [] => [field]
  | f :: fs => if f.1 = field.1 then field :: fs else f :: setField field fs

mutual

/-- A value whose objects are turned into dictionaries, in which a later value of a key replaces
an earlier one. -/
def asDict : Json → Json
  | .arr items => .arr (asDictItems items)
  | .obj fields => .obj (asDictFields [] fields)
  | value => value

/-- `asDict` of every item. -/
def asDictItems : List Json → List Json
  | [] => []
  | x :: xs => asDict x :: asDictItems xs

/-- The fields of a dictionary, one after the other. -/
def asDictFields (dictionary : List (String × Json)) :
    List (String × Json) → List (String × Json)
  | [] => dictionary
  | (k, v) :: fs => asDictFields (setField (k, asDict v) dictionary) fs

end

/-- `json.loads(text)` without a hook on the pairs of an object. -/
def parse (text : String) : Option Json := (loads text).map asDict

mutual

/-- No object has two fields with one key. -/
def Distinct : Json → Prop
  | .arr items => DistinctItems items
  | .obj fields => (fields.map Prod.fst).Nodup ∧ DistinctFields fields
  | _ => True

/-- `Distinct` of every item. -/
def DistinctItems : List Json → Prop
  | [] => True
  | x :: xs => Distinct x ∧ DistinctItems xs

/-- `Distinct` of every value. -/
def DistinctFields : List (String × Json) → Prop
  | [] => True
  | (_, v) :: fs => Distinct v ∧ DistinctFields fs

end

/-- A new key is put at the end. -/
theorem setField_of_not_mem {field : String × Json} {fs : List (String × Json)}
    (h : field.1 ∉ fs.map Prod.fst) : setField field fs = fs ++ [field] := by
  induction fs with
  | nil => rfl
  | cons f fs ih =>
    rw [List.map_cons, List.mem_cons, not_or] at h
    rw [setField, if_neg (fun heq => h.1 heq.symm), ih h.2, List.cons_append]

mutual

/-- A value without repeated keys is made of dictionaries already. -/
theorem asDict_of_distinct : ∀ v : Json, Distinct v → asDict v = v
  | .null, _ => by simp only [asDict]
  | .bool _, _ => by simp only [asDict]
  | .int _, _ => by simp only [asDict]
  | .float _, _ => by simp only [asDict]
  | .str _, _ => by simp only [asDict]
  | .arr items, h => by
    simp only [Distinct] at h
    simp only [asDict, asDictItems_of_distinct items h]
  | .obj fields, h => by
    simp only [Distinct] at h
    have hfields := asDictFields_of_distinct fields [] h.2 (by simpa using h.1)
    simp only [asDict, hfields, List.nil_append]

/-- `asDict_of_distinct` for every item. -/
theorem asDictItems_of_distinct : ∀ items : List Json, DistinctItems items →
    asDictItems items = items
  | [], _ => by simp only [asDictItems]
  | x :: xs, h => by
    simp only [DistinctItems] at h
    simp only [asDictItems, asDict_of_distinct x h.1, asDictItems_of_distinct xs h.2]

/-- `asDict_of_distinct` for the fields that are left. -/
theorem asDictFields_of_distinct : ∀ (fields dictionary : List (String × Json)),
    DistinctFields fields → ((dictionary ++ fields).map Prod.fst).Nodup →
    asDictFields dictionary fields = dictionary ++ fields
  | [], dictionary, _, _ => by simp only [asDictFields, List.append_nil]
  | (k, v) :: fs, dictionary, h, hkeys => by
    simp only [DistinctFields] at h
    have hnew : k ∉ dictionary.map Prod.fst := by
      intro hk
      rw [List.map_append, List.nodup_append] at hkeys
      exact hkeys.2.2 k hk k (by simp) rfl
    have hset : setField (k, v) dictionary = dictionary ++ [(k, v)] := setField_of_not_mem hnew
    have hrest := asDictFields_of_distinct fs (dictionary ++ [(k, v)]) h.2
      (by simpa using hkeys)
    simp only [asDictFields, asDict_of_distinct v h.1, hset, hrest, List.append_assoc,
      List.singleton_append]

end

/-- Reading what was written gives the value back, as dictionaries. -/
theorem parse_dumps (b : Bool) {v : Json} (hv : plain v = true) (hkeys : Distinct v) :
    parse (dumps b v) = some v := by
  rw [parse, loads_dumps b hv, Option.map_some, asDict_of_distinct v hkeys]

end Json

end Python
