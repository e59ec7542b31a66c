import PfsenseMcp.Tier1.ArtifactExchange

/-!
# JSON documents with surrogates

A Python text may contain surrogates. `json.dumps` writes every code point outside of ASCII as one
or two escapes `\uXXXX`, and `json.loads` takes the escapes of a leading and of a trailing surrogate
next to each other for one code point, also where two code points were written.

## Main results

* `Text.paired_eq_iff`: which texts come back as they were;
* `size_str`, `size_arr`, `size_obj`, `size_sortKeys`: the number of bytes of a document;
* `readBack_record`: the dictionary that is read where one was written.
-/

namespace Tier1

open Python ArtifactExchange

/-! ### Texts -/

namespace Text

/-- A leading surrogate. -/
def isLeading (c : Fin 0x110000) : Bool := decide (0xd800 ≤ c.val ∧ c.val < 0xdc00)

/-- A trailing surrogate. -/
def isTrailing (c : Fin 0x110000) : Bool := decide (0xdc00 ≤ c.val ∧ c.val < 0xe000)

/-- The code point of two surrogates. -/
def ofPair (c d : Fin 0x110000) : Fin 0x110000 :=
  ⟨0x10000 + (c.val - 0xd800) % 0x400 * 0x400 + (d.val - 0xdc00) % 0x400, by omega⟩

/-- A text as it comes back: two surrogates next to each other are one code point. -/
def paired : Text → Text
  | [] => []
  | [c] => [c]
  | c :: d :: cs =>
    if isLeading c && isTrailing d then ofPair c d :: paired cs else c :: paired (d :: cs)

/-- No leading surrogate is directly before a trailing one. -/
def Unpaired : Text → Prop
  | [] => True
  | [_] => True
  | c :: d :: cs => (isLeading c && isTrailing d) = false ∧ Unpaired (d :: cs)

instance decidableUnpaired : (t : Text) → Decidable (Unpaired t)
  | [] => isTrue trivial
  | [_] => isTrue trivial
  | c :: d :: cs =>
    have := decidableUnpaired (d :: cs)
    inferInstanceAs (Decidable ((isLeading c && isTrailing d) = false ∧ Unpaired (d :: cs)))

theorem length_paired_le (t : Text) : (paired t).length ≤ t.length := by
  fun_induction paired t with
  | case1 => exact le_rfl
  | case2 => exact le_rfl
  | case3 c d cs _ ih =>
    simp only [List.length_cons]
    omega
  | case4 c d cs _ ih =>
    simp only [List.length_cons] at ih ⊢
    omega

/-- The texts that come back as they were. -/
theorem paired_eq_iff (t : Text) : paired t = t ↔ Unpaired t := by
  fun_induction paired t with
  | case1 => exact ⟨fun _ => trivial, fun _ => rfl⟩
  | case2 => exact ⟨fun _ => trivial, fun _ => rfl⟩
  | case3 c d cs hpair ih =>
    rw [Unpaired, hpair]
    constructor
    · intro h
      -- a pair makes the text shorter
      have hle := length_paired_le cs
      have hlength := congrArg List.length h
      simp only [List.length_cons] at hlength
      omega
    · rintro ⟨h, -⟩
      exact absurd h (by decide)
  | case4 c d cs hpair ih =>
    rw [Unpaired, Bool.eq_false_iff.mpr hpair, List.cons_inj_right, ih]
    exact ⟨fun h => ⟨rfl, h⟩, fun h => h.2⟩

theorem paired_ne_nil {t : Text} : paired t ≠ [] ↔ t ≠ [] := by
  fun_cases paired t <;> simp

theorem unpaired_ofString (s : String) : Unpaired (ofString s) := by
  have hchar : ∀ (c : Char) (h : c.toNat < 0x110000), isLeading ⟨c.toNat, h⟩ = false := by
    intro c h
    have hvalid := Json.toNat_cases c
    rw [isLeading, decide_eq_false_iff_not]
    show ¬(0xd800 ≤ c.toNat ∧ c.toNat < 0xdc00)
    omega
  have h : ∀ cs : List Char, Unpaired (ofString (String.ofList cs)) := by
    intro cs
    rw [ofString, String.toList_ofList]
    induction cs with
    | nil => trivial
    | cons c cs ih =>
      rcases cs with - | ⟨d, cs⟩
      · trivial
      · exact ⟨by rw [hchar, Bool.false_and], ih⟩
  have hs := h s.toList
  rwa [String.ofList_toList] at hs

/-- A text without surrogates comes back as it was. -/
@[simp]
theorem paired_ofString (s : String) : paired (ofString s) = ofString s :=
  (paired_eq_iff _).mpr (unpaired_ofString s)

theorem ofString_injective : Function.Injective ofString := by
  intro s t h
  have hs := toString?_ofString s
  rw [h, toString?_ofString] at hs
  exact (Option.some.inj hs).symm

/-- How a code point is written inside a string literal. -/
def escape (c : Fin 0x110000) : List Char :=
  match scalar c with
  | some d => Json.escapeChar true d
  | none => Json.unitEscape c.val

/-- A string literal. -/
def dump (t : Text) : List Char := '"' :: (t.flatMap escape ++ ['"'])

/-- The number of bytes in which a code point is written. -/
def pointSize (c : Fin 0x110000) : ℕ := ((scalar c).map charSize).getD 6

/-- The number of bytes in which a text is written. -/
def size (t : Text) : ℕ := (t.map pointSize).sum + 2

theorem charsSize_escape (c : Fin 0x110000) : charsSize (escape c) = pointSize c := by
  rw [escape, pointSize]
  cases hscalar : scalar c with
  | some d => exact charsSize_escapeChar d
  | none =>
    have hsurrogate : c.val < 0x10000 := by
      simp only [scalar, ite_eq_right_iff, reduceCtorEq, imp_false, not_or] at hscalar
      omega
    exact charsSize_unitEscape hsurrogate

theorem charsSize_dump (t : Text) : charsSize (dump t) = t.size := by
  have hquote : Char.utf8Size '"' = 1 := rfl
  have hpoints : charsSize (t.flatMap escape) = (t.map pointSize).sum := by
    induction t with
    | nil => rfl
    | cons c cs ih =>
      rw [List.flatMap_cons, charsSize_append, charsSize_escape, ih, List.map_cons, List.sum_cons]
  have hend : charsSize ['"'] = 1 := rfl
  rw [dump, charsSize_cons, charsSize_append, hpoints, hend, hquote, size]
  omega

theorem size_ofString (s : String) : (ofString s).size = stringSize s := by
  have hpoints : ∀ cs : List Char, (ofString (String.ofList cs)).map pointSize = cs.map charSize := by
    intro cs
    rw [ofString, String.toList_ofList, List.map_map]
    apply List.map_congr_left
    intro c _
    have hlt : c.toNat < 0x110000 := by
      rcases Json.toNat_cases c with h | h <;> omega
    show ((scalar ⟨c.toNat, hlt⟩).map charSize).getD 6 = charSize c
    rw [scalar_ofChar]
    rfl
  have hs := hpoints s.toList
  rw [String.ofList_toList] at hs
  rw [size, hs, stringSize]

end Text

/-! ### Documents -/

/-- What `json.loads` returns. -/
inductive Document : Type
  | null
  | bool (value : Bool)
  | int (value : ℤ)
  /-- A number with a fraction or an exponent, or one of Python's non-finite constants, as `repr`
  writes it. -/
  | float (text : String)
  | str (value : Text)
  | arr (items : List Document)
  /-- A dictionary: no key occurs twice in what is read. -/
  | obj (fields : List (Text × Document))

namespace Document

/-- A dictionary with given keys. -/
def record (fields : List (String × Document)) : Document :=
  .obj (fields.map fun f => (Text.ofString f.1, f.2))

/-- A text without surrogates. -/
def string (s : String) : Document := .str (Text.ofString s)

/-! ### Writing -/

mutual

/-- The compact text of a document. -/
def dumpValue : Document → List Char
  | .null => ['n', 'u', 'l', 'l']
  | .bool true => ['t', 'r', 'u', 'e']
  | .bool false => ['f', 'a', 'l', 's', 'e']
  | .int n => Json.dumpInt n
  | .float t => t.toList
  | .str t => t.dump
  | .arr [] => ['[', ']']
  | .arr (x :: xs) => '[' :: (dumpValue x ++ dumpItems xs)
  | .obj [] => ['\x7b', '\x7d']
  | .obj ((k, v) :: fs) => '\x7b' :: (k.dump ++ ':' :: (dumpValue v ++ dumpFields fs))

/-- The items of an array after the first, and its closing bracket. -/
def dumpItems : List Document → List Char
  | [] => [']']
  | x :: xs => ',' :: (dumpValue x ++ dumpItems xs)

/-- The fields of an object after the first, and its closing brace. -/
def dumpFields : List (Text × Document) → List Char
  | [] => ['\x7d']
  | (k, v) :: fs => ',' :: (k.dump ++ ':' :: (dumpValue v ++ dumpFields fs))

end

/-- Fields by their keys. -/
def sortByKey (fields : List (Text × Document)) : List (Text × Document) :=
  fields.mergeSort fun f g => !decide (g.1 < f.1)

mutual

/-- The effect of `sort_keys=True`. -/
def sortKeys : Document → Document
  | .arr items => .arr (sortItems items)
  | .obj fields => .obj (sortByKey (sortFields fields))
  | d => d

/-- `sortKeys` of every item. -/
def sortItems : List Document → List Document
  | [] => []
  | x :: xs => sortKeys x :: sortItems xs

/-- `sortKeys` of every value. -/
def sortFields : List (Text × Document) → List (Text × Document)
  | [] => []
  | (k, v) :: fs => (k, sortKeys v) :: sortFields fs

end

/-- The default of `sys.get_int_max_str_digits`. -/
def maxStrDigits : ℕ := 4300

/-- `str` writes an integer. -/
def Short (n : ℤ) : Prop := n.natAbs < 10 ^ maxStrDigits

instance (n : ℤ) : Decidable (Short n) := inferInstanceAs (Decidable (_ < _))

mutual

/-- `str` writes every integer of a document; it raises a `ValueError` for others. -/
def writable : Document → Bool
  | .int n => decide (Short n)
  | .arr items => writableItems items
  | .obj fields => writableFields fields
  | _ => true

/-- `writable` for all items. -/
def writableItems : List Document → Bool
  | [] => true
  | x :: xs => writable x && writableItems xs

/-- `writable` for all values. -/
def writableFields : List (Text × Document) → Bool
  | [] => true
  | (_, v) :: fs => writable v && writableFields fs

end

/-- `json.dumps(document, sort_keys=True, separators=(",", ":")).encode()`; `none` is a
`ValueError`. -/
def dumps (d : Document) : Option Bytes :=
  if d.writable then some (Bytes.encodeUtf8 (String.ofList (dumpValue d.sortKeys))) else none

mutual

/-- What `json.loads` makes of the text of a document, where it is not nested too deeply. -/
def readBack : Document → Document
  | .str t => .str t.paired
  | .arr items => .arr (readBackItems items)
  | .obj fields => .obj (readBackFields fields)
  | d => d

/-- `readBack` of every item. -/
def readBackItems : List Document → List Document
  | [] => []
  | x :: xs => readBack x :: readBackItems xs

/-- `readBack` of every value, under the key as it is read. -/
def readBackFields : List (Text × Document) → List (Text × Document)
  | [] => []
  | (k, v) :: fs => (k.paired, readBack v) :: readBackFields fs

end

theorem sortItems_eq_map (items : List Document) : sortItems items = items.map sortKeys := by
  induction items with
  | nil => rfl
  | cons x xs ih => rw [sortItems, ih, List.map_cons]

theorem sortFields_eq_map (fields : List (Text × Document)) :
    sortFields fields = fields.map fun f => (f.1, f.2.sortKeys) := by
  induction fields with
  | nil => rfl
  | cons f fs ih => rw [sortFields, ih, List.map_cons]

theorem readBackItems_eq_map (items : List Document) :
    readBackItems items = items.map readBack := by
  induction items with
  | nil => rfl
  | cons x xs ih => rw [readBackItems, ih, List.map_cons]

theorem readBackFields_eq_map (fields : List (Text × Document)) :
    readBackFields fields = fields.map fun f => (f.1.paired, f.2.readBack) := by
  induction fields with
  | nil => rfl
  | cons f fs ih => rw [readBackFields, ih, List.map_cons]

theorem writableItems_iff {items : List Document} :
    writableItems items = true ↔ ∀ x ∈ items, x.writable = true := by
  induction items with
  | nil => simp [writableItems]
  | cons x xs ih => rw [writableItems, Bool.and_eq_true, ih, List.forall_mem_cons]

theorem writableFields_iff {fields : List (Text × Document)} :
    writableFields fields = true ↔ ∀ f ∈ fields, f.2.writable = true := by
  induction fields with
  | nil => simp [writableFields]
  | cons f fs ih => rw [writableFields, Bool.and_eq_true, ih, List.forall_mem_cons]

theorem writable_record {fields : List (String × Document)} :
    (record fields).writable = true ↔ ∀ f ∈ fields, f.2.writable = true := by
  rw [record, writable, writableFields_iff, List.forall_mem_map]

/-! ### Sizes -/

/-- The number of bytes in which a document is written. -/
def size (d : Document) : ℕ := charsSize d.dumpValue

theorem length_dumps {d : Document} {bytes : Bytes} (h : d.dumps = some bytes) :
    bytes.length = d.sortKeys.size := by
  unfold dumps at h
  split_ifs at h
  rw [← Option.some.inj h, Bytes.length_encodeUtf8, String.toList_ofList, size, charsSize]

theorem size_str (t : Text) : size (.str t) = t.size := by
  rw [size, dumpValue, Text.charsSize_dump]

theorem size_arr {items : List Document} (hne : items ≠ []) :
    size (.arr items) = (items.map fun x => x.size + 1).sum + 1 := by
  have hitems : ∀ xs : List Document, charsSize (dumpItems xs) =
      (xs.map fun x => x.size + 1).sum + 1 := by
    intro xs
    induction xs with
    | nil => rfl
    | cons x xs ih =>
      have hcomma : Char.utf8Size ',' = 1 := rfl
      rw [dumpItems, charsSize_cons, charsSize_append, hcomma, ih, List.map_cons, List.sum_cons,
        size]
      omega
  rcases items with - | ⟨x, xs⟩
  · exact absurd rfl hne
  · have hopen : Char.utf8Size '[' = 1 := rfl
    rw [size, dumpValue, charsSize_cons, charsSize_append, hopen, hitems, List.map_cons,
      List.sum_cons, size]
    omega

theorem size_obj {fields : List (Text × Document)} (hne : fields ≠ []) :
    size (.obj fields) = (fields.map fun f => f.1.size + f.2.size + 2).sum + 1 := by
  have hcolon : Char.utf8Size ':' = 1 := rfl
  have hfields : ∀ fs : List (Text × Document), charsSize (dumpFields fs) =
      (fs.map fun f => f.1.size + f.2.size + 2).sum + 1 := by
    intro fs
    induction fs with
    | nil => rfl
    | cons f fs ih =>
      obtain ⟨k, v⟩ := f
      have hcomma : Char.utf8Size ',' = 1 := rfl
      simp only [dumpFields, charsSize_cons, charsSize_append, hcomma, hcolon, ih,
        Text.charsSize_dump, List.map_cons, List.sum_cons, size]
      omega
  rcases fields with - | ⟨⟨k, v⟩, fs⟩
  · exact absurd rfl hne
  · have hopen : Char.utf8Size '\x7b' = 1 := rfl
    simp only [size, dumpValue, charsSize_cons, charsSize_append, hopen, hcolon, hfields,
      Text.charsSize_dump, List.map_cons, List.sum_cons]
    omega

theorem sortByKey_perm (fields : List (Text × Document)) : (sortByKey fields).Perm fields :=
  List.mergeSort_perm _ _

mutual

/-- The order of the keys does not change the size. -/
theorem size_sortKeys : ∀ d : Document, d.sortKeys.size = d.size
  | .null => by simp only [sortKeys]
  | .bool _ => by simp only [sortKeys]
  | .int _ => by simp only [sortKeys]
  | .float _ => by simp only [sortKeys]
  | .str _ => by simp only [sortKeys]
  | .arr [] => by rw [sortKeys, sortItems]
  | .arr (x :: xs) => by
    rw [sortKeys, size_arr (by simp [sortItems]), size_arr (by simp), sizeItems_sortItems]
  | .obj [] => by rw [sortKeys, sortFields, sortByKey, List.mergeSort_nil]
  | .obj (f :: fs) => by
    have hperm := sortByKey_perm (sortFields (f :: fs))
    have hne : sortByKey (sortFields (f :: fs)) ≠ [] := by
      intro hnil
      rw [hnil] at hperm
      exact absurd hperm.nil_eq (by simp [sortFields])
    rw [sortKeys, size_obj hne, size_obj (by simp),
      (hperm.map fun f => f.1.size + f.2.size + 2).sum_nat, sizeFields_sortFields]

/-- `size_sortKeys` for the items of an array. -/
theorem sizeItems_sortItems : ∀ xs : List Document,
    ((sortItems xs).map fun x => x.size + 1).sum = (xs.map fun x => x.size + 1).sum
  | [] => by rw [sortItems]
  | x :: xs => by
    rw [sortItems, List.map_cons, List.sum_cons, List.map_cons, List.sum_cons, size_sortKeys x,
      sizeItems_sortItems xs]

/-- `size_sortKeys` for the fields of an object. -/
theorem sizeFields_sortFields : ∀ fs : List (Text × Document),
    ((sortFields fs).map fun f => f.1.size + f.2.size + 2).sum =
      (fs.map fun f => f.1.size + f.2.size + 2).sum
  | [] => by rw [sortFields]
  | (k, v) :: fs => by
    rw [sortFields, List.map_cons, List.sum_cons, List.map_cons, List.sum_cons, size_sortKeys v,
      sizeFields_sortFields fs]

end

/-- The number of bytes of a dictionary, from its keys and its values. -/
theorem size_record {fields : List (String × Document)} (hne : fields ≠ []) :
    size (record fields) = keysSize (fields.map Prod.fst) + (fields.map fun f => f.2.size).sum +
      1 := by
  have hsum : ∀ fs : List (String × Document),
      (fs.map fun f => (Text.ofString f.1).size + f.2.size + 2).sum =
        keysSize (fs.map Prod.fst) + (fs.map fun f => f.2.size).sum := by
    intro fs
    induction fs with
    | nil => rfl
    | cons f fs ih =>
      simp only [List.map_cons, List.sum_cons, keysSize, Text.size_ofString] at ih ⊢
      omega
  rw [record, size_obj (by simpa using hne), List.map_map]
  exact congrArg (· + 1) (hsum fields)

/-! ### Reading -/

/-- A dictionary that was written and read: its fields, in the order of their keys. -/
theorem readBack_record (fields : List (String × Document)) :
    ∃ fs, (record fields).sortKeys.readBack = .obj fs ∧
      fs.Perm (fields.map fun f => (Text.ofString f.1, f.2.sortKeys.readBack)) := by
  refine ⟨_, by rw [record, sortKeys, readBack], ?_⟩
  rw [readBackFields_eq_map, sortFields_eq_map, List.map_map]
  have hperm := (sortByKey_perm (fields.map
    ((fun f => (f.1, f.2.sortKeys)) ∘ fun f => (Text.ofString f.1, f.2)))).map
      fun f : Text × Document => (f.1.paired, f.2.readBack)
  refine hperm.trans (List.Perm.of_eq ?_)
  rw [List.map_map]
  apply List.map_congr_left
  intro f _
  simp only [Function.comp_apply, Text.paired_ofString]

end Document

end Tier1
