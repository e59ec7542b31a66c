import PfsenseMcp.Python.Json

/-!
# Python's `repr` and `str`

The texts of the built-in values: a list is a tuple here, an object a dictionary. Which characters
outside of ASCII are printable is a table of the interpreter, and a parameter.

## Main results

* `pyStr_bool_inj`, `pyStr_int_inj`: truth values and integers are told apart by their texts;
* `take_repr_tuple`: the beginning of the text of a tuple depends on its first items only.
-/

namespace Python.Json

variable (printable : Char → Bool)

/-- How `repr` writes a character of a string between the given quotes. -/
def reprChar (quote c : Char) : List Char :=
  if c = quote ∨ c = '\\' then ['\\', c]
  else if c = '\t' then ['\\', 't']
  else if c = '\n' then ['\\', 'n']
  else if c = '\r' then ['\\', 'r']
  else if c.toNat < 127 ∧ 32 ≤ c.toNat ∨ 127 < c.toNat ∧ printable c = true then [c]
  else if c.toNat < 0x100 then
    ['\\', 'x', hexDigit (c.toNat / 16), hexDigit (c.toNat % 16)]
  else if c.toNat < 0x10000 then unitEscape c.toNat
  else ['\\', 'U', '0', '0', hexDigit (c.toNat / 0x100000), hexDigit (c.toNat / 0x10000 % 16)] ++
    (unitEscape (c.toNat % 0x10000)).drop 2

/-- `repr` of a string: in double quotes when it contains a single quote and no double quote. -/
def reprStr (s : String) : List Char :=
  let quote := if '\'' ∈ s.toList ∧ '"' ∉ s.toList then '"' else '\''
  quote :: (s.toList.flatMap (reprChar printable quote) ++ [quote])

mutual

/-- `repr(value)`. -/
def repr : Json → List Char
  | .null => ['N', 'o', 'n', 'e']
  | .bool true => ['T', 'r', 'u', 'e']
  | .bool false => ['F', 'a', 'l', 's', 'e']
  | .int n => dumpInt n
  | .float t => t.toList
  | .str s => reprStr printable s
  | .arr [] => ['(', ')']
  | .arr [x] => '(' :: (repr x ++ [',', ')'])
  | .arr (x :: y :: xs) => '(' :: (repr x ++ reprItems (y :: xs))
  | .obj [] => ['\x7b', '\x7d']
  | .obj ((k, v) :: fs) =>
    '\x7b' :: (reprStr printable k ++ ':' :: ' ' :: (repr v ++ reprFields fs))

/-- The items of a tuple after the first, and its closing bracket. -/
def reprItems : List Json → List Char
  | [] => [')']
  | x :: xs => ',' :: ' ' :: (repr x ++ reprItems xs)

/-- The entries of a dictionary after the first, and its closing brace. -/
def reprFields : List (String × Json) → List Char
  | [] => ['\x7d']
  | (k, v) :: fs =>
    ',' :: ' ' :: (reprStr printable k ++ ':' :: ' ' :: (repr v ++ reprFields fs))

end

/-- `str(value)`: a string is its own text. -/
def pyStr : Json → List Char
  | .str s => s.toList
  | value => repr printable value

/-! ### Texts of scalars -/

theorem pyStr_bool_inj {a b : Bool}
    (h : pyStr printable (.bool a) = pyStr printable (.bool b)) : a = b := by
  cases a <;> cases b <;> simp [pyStr, repr] at h <;> rfl

theorem pyStr_int_inj {m n : ℤ} (h : pyStr printable (.int m) = pyStr printable (.int n)) :
    m = n := by
  have hdumps : dumps true (.int m) = dumps true (.int n) := by
    simpa only [pyStr, repr, dumps, dumpValue] using congrArg String.ofList h
  exact Json.int.inj (dumps_injective true rfl rfl hdumps)

/-- The text of an integer of at most `k` digits. -/
theorem length_pyStr_int_le {n : ℤ} {k : ℕ} (hk : 0 < k) (h₀ : 0 ≤ n) (h : n < 10 ^ k) :
    (pyStr printable (.int n)).length ≤ k := by
  have hlength := length_dumpValue_le true (.int n)
  have hweight := weight_int_le hk h₀ h
  exact Nat.le_trans hlength hweight

/-! ### Lengths -/

theorem length_reprChar_pos (quote c : Char) : 0 < (reprChar printable quote c).length := by
  unfold reprChar
  split_ifs <;> simp [unitEscape]

theorem length_reprStr (s : String) : s.toList.length + 2 ≤ (reprStr printable s).length := by
  have hchars : ∀ (quote : Char) (cs : List Char),
      cs.length ≤ (cs.flatMap (reprChar printable quote)).length := by
    intro quote cs
    induction cs with
    | nil => exact Nat.le_refl 0
    | cons c cs ih =>
      have hc := length_reprChar_pos printable quote c
      rw [List.flatMap_cons, List.length_append, List.length_cons]
      omega
  rw [reprStr, List.length_cons, List.length_append]
  have h := hchars (if '\'' ∈ s.toList ∧ '"' ∉ s.toList then '"' else '\'') s.toList
  simp only [List.length_cons, List.length_nil]
  omega

/-- The text of a pair is at least as long as those of its items and the signs around them. -/
theorem length_repr_pair (key : String) (value : Json) :
    key.toList.length + (repr printable value).length + 6
      ≤ (repr printable (.arr [.str key, value])).length := by
  have hkey := length_reprStr printable key
  simp only [repr, reprItems, List.length_cons, List.length_append, List.length_nil]
  omega

theorem length_dumpInt_pos (n : ℤ) : 0 < (dumpInt n).length := by
  cases n with
  | ofNat n =>
    obtain ⟨d, ds, h, -⟩ := dumpNat_cons n
    rw [dumpInt, h]
    exact Nat.succ_pos _
  | negSucc n => exact Nat.succ_pos _

/-! ### Beginnings of tuples -/

/-- The texts of items, each with the separator after it. -/
def reprPrefix (items : List Json) : List Char :=
  items.flatMap fun item => ',' :: ' ' :: repr printable item

theorem reprItems_append (xs ys : List Json) :
    reprItems printable (xs ++ ys) = reprPrefix printable xs ++ reprItems printable ys := by
  induction xs with
  | nil => rfl
  | cons x xs ih =>
    rw [List.cons_append, reprItems, ih, reprPrefix, reprPrefix, List.flatMap_cons]
    simp only [List.cons_append, List.append_assoc]

theorem length_reprPrefix_cons (x : Json) (xs : List Json) :
    (reprPrefix printable (x :: xs)).length =
      (repr printable x).length + 2 + (reprPrefix printable xs).length := by
  rw [reprPrefix, reprPrefix, List.flatMap_cons, List.length_append]
  rfl

/-- The beginning of the text of a tuple depends on its first items only. -/
theorem take_repr_tuple {xs : List Json} (hxs : 2 ≤ xs.length) (ys zs : List Json) {n : ℕ}
    (h : n < (reprPrefix printable xs).length) :
    (repr printable (.arr (xs ++ ys))).take n = (repr printable (.arr (xs ++ zs))).take n := by
  obtain ⟨x, y, xs, rfl⟩ : ∃ x y rest, xs = x :: y :: rest := by
    match xs, hxs with
    | x :: y :: rest, _ => exact ⟨x, y, rest, rfl⟩
  have hsplit : ∀ rest : List Json, repr printable (.arr (x :: y :: xs ++ rest)) =
      ('(' :: (repr printable x ++ reprPrefix printable (y :: xs))) ++
        reprItems printable rest := by
    intro rest
    change '(' :: (repr printable x ++ reprItems printable (y :: xs ++ rest)) = _
    rw [reprItems_append, List.cons_append, List.append_assoc]
  have hlength : n ≤ ('(' :: (repr printable x ++ reprPrefix printable (y :: xs))).length := by
    rw [length_reprPrefix_cons] at h
    rw [List.length_cons, List.length_append]
    omega
  rw [hsplit, hsplit, List.take_append_of_le_length hlength,
    List.take_append_of_le_length hlength]

end Python.Json
