import PfsenseMcp.Python.Json

/-!
# Python's `==` on JSON values

`pyEq` compares values as Python does: `True` equals `1`, and dictionaries are compared without
regard to the order of their keys. A number with a fraction or an exponent is compared by its text,
which is no restriction on canonical values: they hold none.

## Main results

* `pyEq_refl`: a value whose dictionaries have distinct keys equals itself;
* `pyEqFields_iff`: when two dictionaries agree on the keys of the first.
-/

namespace Python.Json

/-- The number that an integer or a truth value is. -/
def number : Json → Option ℤ
  | .int n => some n
  | .bool b => some (if b then 1 else 0)
  | _ => none

mutual

/-- `v == w`. -/
def pyEq : Json → Json → Bool
  | .null, .null => true
  | .str s, .str t => s == t
  | .float s, .float t => s == t
  | .arr xs, .arr ys => pyEqItems xs ys
  | .obj fs, .obj gs => fs.length == gs.length && pyEqFields fs gs
  | .int m, w => number w == some m
  | .bool b, w => number w == some (if b then 1 else 0)
  | _, _ => false

/-- The items of two lists are equal, one by one. -/
def pyEqItems : List Json → List Json → Bool
  | [], [] => true
  | x :: xs, y :: ys => pyEq x y && pyEqItems xs ys
  | _, _ => false

/-- The second dictionary has the keys of the first, with equal values. -/
def pyEqFields : List (String × Json) → List (String × Json) → Bool
  | [], _ => true
  | (k, v) :: fs, gs =>
    (match gs.lookup k with
      | some w => pyEq v w
      | none => false) && pyEqFields fs gs

end

/-- What a dictionary holds under a key that occurs once. -/
theorem lookup_of_mem {κ α : Type} [BEq κ] [LawfulBEq κ] {fs : List (κ × α)}
    (hkeys : (fs.map Prod.fst).Nodup) {k : κ} {v : α} (h : (k, v) ∈ fs) :
    fs.lookup k = some v := by
  induction fs with
  | nil => exact absurd h List.not_mem_nil
  | cons f fs ih =>
    obtain ⟨k', v'⟩ := f
    rw [List.map_cons, List.nodup_cons] at hkeys
    rcases List.mem_cons.mp h with heq | hmem
    · cases heq
      exact List.lookup_cons_self
    · have hne : k ≠ k' := by
        rintro rfl
        exact hkeys.1 (List.mem_map.mpr ⟨_, hmem, rfl⟩)
      have hbeq : (k == k') = false := beq_false_of_ne hne
      rw [List.lookup_cons, hbeq]
      exact ih hkeys.2 hmem

theorem mem_of_lookup {fs : List (String × Json)} {k : String} {v : Json}
    (h : fs.lookup k = some v) : (k, v) ∈ fs := by
  induction fs with
  | nil => cases h
  | cons f fs ih =>
    obtain ⟨k', v'⟩ := f
    rw [List.lookup_cons] at h
    by_cases hk : k = k'
    · subst hk
      rw [beq_self_eq_true] at h
      cases h
      exact List.mem_cons_self
    · rw [beq_false_of_ne hk] at h
      exact List.mem_cons_of_mem _ (ih h)

/-- A dictionary that is made from its keys. -/
theorem lookup_map {keys : List String} {key : String} (h : key ∈ keys) (value : String → Json) :
    (keys.map fun key => (key, value key)).lookup key = some (value key) := by
  induction keys with
  | nil => exact absurd h List.not_mem_nil
  | cons k keys ih =>
    rw [List.map_cons, List.lookup_cons]
    by_cases hk : key = k
    · rw [← hk, beq_self_eq_true]
    · rw [beq_false_of_ne hk]
      exact ih ((List.mem_cons.mp h).resolve_left hk)

/-- What the loop over the first dictionary finds. -/
theorem pyEqFields_iff {fs gs : List (String × Json)} : pyEqFields fs gs = true ↔
    ∀ f ∈ fs, ∃ w, gs.lookup f.1 = some w ∧ pyEq f.2 w = true := by
  induction fs with
  | nil => exact iff_of_true rfl fun _ h => absurd h List.not_mem_nil
  | cons f fs ih =>
    obtain ⟨k, v⟩ := f
    rw [pyEqFields, Bool.and_eq_true, ih, List.forall_mem_cons]
    refine and_congr_left fun _ => ?_
    cases gs.lookup k with
    | none => exact iff_of_false Bool.false_ne_true (by rintro ⟨_, h, -⟩; cases h)
    | some w => exact ⟨fun h => ⟨w, rfl, h⟩, by rintro ⟨_, ⟨⟩, h⟩; exact h⟩

mutual

/-- A value with distinct keys equals itself. -/
theorem pyEq_refl : ∀ v : Json, Distinct v → pyEq v v = true
  | .null, _ => rfl
  | .bool b, _ => by cases b <;> rfl
  | .int n, _ => beq_self_eq_true (some n)
  | .float t, _ => beq_self_eq_true t
  | .str s, _ => beq_self_eq_true s
  | .arr xs, h => pyEqItems_refl xs h
  | .obj fs, h => by
    rw [pyEq, beq_self_eq_true, Bool.true_and, pyEqFields_iff]
    intro f hf
    exact ⟨f.2, lookup_of_mem h.1 hf, pyEqFields_refl fs h.2 f hf⟩

theorem pyEqItems_refl : ∀ xs : List Json, DistinctItems xs → pyEqItems xs xs = true
  | [], _ => rfl
  | x :: xs, h => by
    rw [pyEqItems, pyEq_refl x h.1, pyEqItems_refl xs h.2]
    rfl

theorem pyEqFields_refl : ∀ fs : List (String × Json), DistinctFields fs →
    ∀ f ∈ fs, pyEq f.2 f.2 = true
  | [], _ => fun _ h => absurd h List.not_mem_nil
  | (k, v) :: fs, h => by
    intro f hf
    rcases List.mem_cons.mp hf with rfl | hf
    · exact pyEq_refl v h.1
    · exact pyEqFields_refl fs h.2 f hf

end

/-- Texts are equal if they are the same text. -/
@[simp]
theorem pyEq_str {s t : String} : pyEq (.str s) (.str t) = true ↔ s = t := beq_iff_eq

/-- Truth values are equal if they are the same one. -/
@[simp]
theorem pyEq_bool {a b : Bool} : pyEq (.bool a) (.bool b) = true ↔ a = b := by
  cases a <;> cases b <;> decide

/-- Integers are equal if they are the same number. -/
@[simp]
theorem pyEq_int {m n : ℤ} : pyEq (.int m) (.int n) = true ↔ m = n := by
  rw [pyEq, number, beq_iff_eq, Option.some.injEq]
  exact eq_comm

/-- Lists of texts are equal if they are the same list. -/
theorem pyEqItems_str {xs ys : List String} :
    pyEqItems (xs.map .str) (ys.map .str) = true ↔ xs = ys := by
  induction xs generalizing ys with
  | nil => cases ys <;> simp [pyEqItems]
  | cons x xs ih =>
    cases ys with
    | nil => simp [pyEqItems]
    | cons y ys => rw [List.map_cons, List.map_cons, pyEqItems, Bool.and_eq_true, pyEq_str, ih,
        List.cons.injEq]

end Python.Json
