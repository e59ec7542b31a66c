import Mathlib.Data.List.Sort
import Mathlib.Data.List.Perm.Basic
import PfsenseMcp.Python.Json

/-!
# JSON objects as unordered maps

`sort_keys=True` writes the fields of an object in the order of their keys, so that the text no
longer depends on the order in which they were put into the dictionary. What is left of a value is
`Unordered`, in which an object is a map from keys to values.

## Main results

* `sortKeys_eq_iff`: two values without repeated keys are sorted to the same value exactly when
  they are the same value up to the order of fields;
* `sortKeys_sortKeys`: sorting twice is sorting once.
-/

namespace Python

/-- A JSON value whose objects are maps. -/
inductive Unordered : Type
  | null
  | bool (value : Bool)
  | int (value : ℤ)
  | float (text : String)
  | str (value : String)
  | arr (items : List Unordered)
  | obj (fields : String → Option Unordered)

namespace Json

mutual

/-- The value without the order of its fields. -/
def unordered : Json → Unordered
  | .null => .null
  | .bool b => .bool b
  | .int n => .int n
  | .float t => .float t
  | .str s => .str s
  | .arr items => .arr (unorderedItems items)
  | .obj fields => .obj (unorderedFields fields)

/-- `unordered` of every item. -/
def unorderedItems : List Json → List Unordered
  | [] => []
  | x :: xs => unordered x :: unorderedItems xs

/-- The map of a list of fields. -/
def unorderedFields : List (String × Json) → String → Option Unordered
  | [], _ => none
  | (k, v) :: fs, key => if key = k then some (unordered v) else unorderedFields fs key

end

/-! ### The order of keys -/

theorem keyLt_iff {a b : String} :
    keyLt a b = true ↔ List.Lex (fun c d : Char => c.toNat < d.toNat) a.toList b.toList := by
  simp only [keyLt, List.lex_eq_true_iff_lex, Nat.blt_eq]

theorem keyLt_irrefl (a : String) : keyLt a a = false := by
  rw [← Bool.not_eq_true, keyLt_iff]
  exact List.lex_irrefl (fun c => Nat.lt_irrefl c.toNat) a.toList

theorem keyLt_trans {a b c : String} (hab : keyLt a b = true) (hbc : keyLt b c = true) :
    keyLt a c = true := by
  rw [keyLt_iff] at *
  exact List.lex_trans Nat.lt_trans hab hbc

/-- Two different keys are in order one way or the other. -/
theorem keyLt_of_ne {a b : String} (hne : a ≠ b) (h : keyLt a b = false) : keyLt b a = true := by
  have htotal : ∀ s t : List Char, s ≠ t →
      ¬List.Lex (fun c d : Char => c.toNat < d.toNat) s t →
      List.Lex (fun c d : Char => c.toNat < d.toNat) t s := by
    intro s
    induction s with
    | nil =>
      intro t hne hlex
      cases t with
      | nil => exact absurd rfl hne
      | cons d t => exact absurd List.Lex.nil hlex
    | cons c s ih =>
      intro t hne hlex
      cases t with
      | nil => exact List.Lex.nil
      | cons d t =>
        rw [List.cons_lex_cons_iff, not_or] at hlex
        by_cases hcd : c = d
        · -- the first character decides nothing
          subst hcd
          refine List.Lex.cons (ih t (fun heq => hne (by rw [heq])) ?_)
          exact fun hst => hlex.2 ⟨rfl, hst⟩
        · refine List.Lex.rel (Nat.lt_of_le_of_ne (Nat.le_of_not_lt hlex.1) fun heq => hcd ?_)
          rw [← Char.ofNat_toNat c, ← Char.ofNat_toNat d, heq]
  rw [← Bool.not_eq_true, keyLt_iff] at h
  rw [keyLt_iff]
  exact htotal _ _ (fun heq => hne (String.toList_injective heq)) h

/-! ### Sorted fields -/

/-- The fields are in the order of their keys, without repetition. -/
def Sorted (fields : List (String × Json)) : Prop :=
  fields.Pairwise fun f g => keyLt f.1 g.1 = true

theorem insertField_perm (field : String × Json) (fs : List (String × Json)) :
    (insertField field fs).Perm (field :: fs) := by
  induction fs with
  | nil => exact List.Perm.refl _
  | cons f fs ih =>
    rw [insertField]
    split_ifs with h
    · exact (ih.cons f).trans (List.Perm.swap field f fs)
    · exact List.Perm.refl _

/-- Inserting a new key keeps the order. -/
theorem sorted_insertField {field : String × Json} {fs : List (String × Json)}
    (hnew : field.1 ∉ fs.map Prod.fst) (hfs : Sorted fs) : Sorted (insertField field fs) := by
  induction fs with
  | nil => exact List.pairwise_singleton _ _
  | cons f fs ih =>
    rw [List.map_cons, List.mem_cons, not_or] at hnew
    obtain ⟨hhead, htail⟩ := List.pairwise_cons.mp hfs
    rw [insertField]
    split_ifs with h
    · refine List.pairwise_cons.mpr ⟨?_, ih hnew.2 htail⟩
      intro g hg
      rcases List.mem_cons.mp ((insertField_perm field fs).mem_iff.mp hg) with rfl | hg
      · exact h
      · exact hhead g hg
    · have hlt : keyLt field.1 f.1 = true :=
        keyLt_of_ne (fun heq => hnew.1 heq.symm) (Bool.eq_false_iff.mpr h)
      refine List.pairwise_cons.mpr ⟨?_, hfs⟩
      intro g hg
      rcases List.mem_cons.mp hg with rfl | hg
      · exact hlt
      · exact keyLt_trans hlt (hhead g hg)

/-- The sorted fields are the fields with sorted values, in some order. -/
theorem sortFields_perm (fs : List (String × Json)) :
    (sortFields fs).Perm (fs.map fun f => (f.1, sortKeys f.2)) := by
  induction fs with
  | nil => exact List.Perm.refl _
  | cons f fs ih =>
    obtain ⟨k, v⟩ := f
    rw [sortFields, List.map_cons]
    exact (insertField_perm _ _).trans (ih.cons _)

theorem keys_sortFields_perm (fs : List (String × Json)) :
    ((sortFields fs).map Prod.fst).Perm (fs.map Prod.fst) := by
  have h := (sortFields_perm fs).map Prod.fst
  rwa [List.map_map] at h

theorem sorted_sortFields {fs : List (String × Json)} (hkeys : (fs.map Prod.fst).Nodup) :
    Sorted (sortFields fs) := by
  induction fs with
  | nil => exact List.Pairwise.nil
  | cons f fs ih =>
    obtain ⟨k, v⟩ := f
    rw [List.map_cons, List.nodup_cons] at hkeys
    rw [sortFields]
    refine sorted_insertField ?_ (ih hkeys.2)
    exact fun hk => hkeys.1 ((keys_sortFields_perm fs).mem_iff.mp hk)

/-- Sorted fields are determined by which fields there are. -/
theorem eq_of_perm_of_sorted {fs gs : List (String × Json)} (hperm : fs.Perm gs)
    (hfs : Sorted fs) (hgs : Sorted gs) : fs = gs := by
  refine List.Perm.eq_of_pairwise ?_ hfs hgs hperm
  intro f g _ _ hfg hgf
  exact absurd (keyLt_trans hfg hgf) (by rw [keyLt_irrefl]; decide)

/-! ### The map of a list of fields -/

theorem mem_of_unorderedFields {fs : List (String × Json)} {key : String} {x : Unordered}
    (h : unorderedFields fs key = some x) : ∃ v, (key, v) ∈ fs ∧ unordered v = x := by
  induction fs with
  | nil => rw [unorderedFields] at h; cases h
  | cons f fs ih =>
    obtain ⟨k, v⟩ := f
    rw [unorderedFields] at h
    by_cases hk : key = k
    · rw [if_pos hk] at h
      exact ⟨v, by rw [hk]; exact List.mem_cons_self, Option.some.inj h⟩
    · rw [if_neg hk] at h
      obtain ⟨w, hw, hx⟩ := ih h
      exact ⟨w, List.mem_cons_of_mem _ hw, hx⟩

theorem unorderedFields_of_mem {fs : List (String × Json)} (hkeys : (fs.map Prod.fst).Nodup)
    {key : String} {v : Json} (h : (key, v) ∈ fs) :
    unorderedFields fs key = some (unordered v) := by
  induction fs with
  | nil => cases h
  | cons f fs ih =>
    obtain ⟨k, w⟩ := f
    rw [List.map_cons, List.nodup_cons] at hkeys
    rw [unorderedFields]
    rcases List.mem_cons.mp h with heq | hmem
    · cases heq
      exact if_pos rfl
    · have hne : key ≠ k := by
        rintro rfl
        exact hkeys.1 (List.mem_map.mpr ⟨_, hmem, rfl⟩)
      rw [if_neg hne]
      exact ih hkeys.2 hmem

/-- The map does not depend on the order of the fields. -/
theorem unorderedFields_congr {fs gs : List (String × Json)} (hfs : (fs.map Prod.fst).Nodup)
    (hgs : (gs.map Prod.fst).Nodup)
    (hsub : ∀ k v, (k, v) ∈ fs → ∃ w, (k, w) ∈ gs ∧ unordered w = unordered v)
    (hsup : ∀ k w, (k, w) ∈ gs → ∃ v, (k, v) ∈ fs ∧ unordered v = unordered w) :
    unorderedFields fs = unorderedFields gs := by
  funext key
  cases h : unorderedFields fs key with
  | some x =>
    obtain ⟨v, hv, rfl⟩ := mem_of_unorderedFields h
    obtain ⟨w, hw, hx⟩ := hsub key v hv
    rw [unorderedFields_of_mem hgs hw, hx]
  | none =>
    cases h' : unorderedFields gs key with
    | none => rfl
    | some y =>
      obtain ⟨w, hw, -⟩ := mem_of_unorderedFields h'
      obtain ⟨v, hv, -⟩ := hsup key w hw
      rw [unorderedFields_of_mem hfs hv] at h
      cases h

theorem distinct_of_mem {fs : List (String × Json)} (h : DistinctFields fs) {k : String}
    {v : Json} (hmem : (k, v) ∈ fs) : Distinct v := by
  induction fs with
  | nil => cases hmem
  | cons f fs ih =>
    obtain ⟨_, _⟩ := f
    simp only [DistinctFields] at h
    rcases List.mem_cons.mp hmem with heq | hmem
    · cases heq
      exact h.1
    · exact ih h.2 hmem

theorem distinctFields_insertField {field : String × Json} {fs : List (String × Json)}
    (h : Distinct field.2) (hfs : DistinctFields fs) : DistinctFields (insertField field fs) := by
  induction fs with
  | nil => exact ⟨h, trivial⟩
  | cons f fs ih =>
    obtain ⟨k, v⟩ := f
    have hrest := hfs
    simp only [DistinctFields] at hrest
    rw [insertField]
    split_ifs
    · exact ⟨hrest.1, ih hrest.2⟩
    · exact ⟨h, hfs⟩

/-! ### Sorting keeps the value -/

mutual

/-- Sorting only changes the order of fields. -/
theorem unordered_sortKeys : ∀ v : Json, Distinct v → unordered (sortKeys v) = unordered v
  | .null, _ => by simp only [sortKeys]
  | .bool _, _ => by simp only [sortKeys]
  | .int _, _ => by simp only [sortKeys]
  | .float _, _ => by simp only [sortKeys]
  | .str _, _ => by simp only [sortKeys]
  | .arr items, h => by
    simp only [Distinct] at h
    simp only [sortKeys, unordered, unorderedItems_sortItems items h]
  | .obj fields, h => by
    simp only [Distinct] at h
    have hvalues := unordered_sortKeys_of_mem fields h.2
    have hkeys : ((sortFields fields).map Prod.fst).Nodup :=
      (keys_sortFields_perm fields).nodup_iff.mpr h.1
    simp only [sortKeys, unordered]
    congr 1
    refine unorderedFields_congr hkeys h.1 ?_ ?_
    · intro k v hmem
      obtain ⟨f, hf, heq⟩ := List.mem_map.mp ((sortFields_perm fields).mem_iff.mp hmem)
      cases heq
      exact ⟨f.2, hf, (hvalues f.1 f.2 hf).symm⟩
    · intro k w hmem
      refine ⟨sortKeys w, ?_, hvalues k w hmem⟩
      exact (sortFields_perm fields).mem_iff.mpr (List.mem_map_of_mem hmem)

/-- `unordered_sortKeys` for every item. -/
theorem unorderedItems_sortItems : ∀ items : List Json, DistinctItems items →
    unorderedItems (sortItems items) = unorderedItems items
  | [], _ => by simp only [sortItems]
  | x :: xs, h => by
    simp only [DistinctItems] at h
    simp only [sortItems, unorderedItems, unordered_sortKeys x h.1,
      unorderedItems_sortItems xs h.2]

/-- `unordered_sortKeys` for the value of every field. -/
theorem unordered_sortKeys_of_mem : ∀ fields : List (String × Json), DistinctFields fields →
    ∀ k v, (k, v) ∈ fields → unordered (sortKeys v) = unordered v
  | [], _, _, _, hmem => by cases hmem
  | (_, w) :: fs, h, k, v, hmem => by
    simp only [DistinctFields] at h
    rcases List.mem_cons.mp hmem with heq | hmem
    · cases heq
      exact unordered_sortKeys w h.1
    · exact unordered_sortKeys_of_mem fs h.2 k v hmem

end

/-! ### The value determines the sorted value -/

mutual

/-- Values that are equal up to the order of fields are sorted to the same value. -/
theorem sortKeys_eq_of_unordered_eq : ∀ v : Json, Distinct v → ∀ w : Json, Distinct w →
    unordered v = unordered w → sortKeys v = sortKeys w
  | .null, _, w, _, h => by
    cases w <;> simp only [unordered] at h <;> cases h
    rfl
  | .bool _, _, w, _, h => by
    cases w <;> simp only [unordered] at h <;> cases h
    rfl
  | .int _, _, w, _, h => by
    cases w <;> simp only [unordered] at h <;> cases h
    rfl
  | .float _, _, w, _, h => by
    cases w <;> simp only [unordered] at h <;> cases h
    rfl
  | .str _, _, w, _, h => by
    cases w <;> simp only [unordered] at h <;> cases h
    rfl
  | .arr items, hv, w, hw, h => by
    cases w with
    | arr items' =>
      simp only [unordered, Unordered.arr.injEq] at h
      simp only [Distinct] at hv hw
      simp only [sortKeys, sortItems_eq_of_unordered_eq items hv items' hw h]
    | _ => simp only [unordered] at h; cases h
  | .obj fields, hv, w, hw, h => by
    cases w with
    | obj fields' =>
      simp only [unordered, Unordered.obj.injEq] at h
      simp only [Distinct] at hv hw
      have hvalues := sortKeys_eq_of_mem fields hv.2
      simp only [sortKeys, Json.obj.injEq]
      refine eq_of_perm_of_sorted ?_ (sorted_sortFields hv.1) (sorted_sortFields hw.1)
      -- both are without repetition and have the same members
      have hnodup : ∀ gs : List (String × Json), (gs.map Prod.fst).Nodup →
          (sortFields gs).Nodup :=
        fun gs hgs => ((keys_sortFields_perm gs).nodup_iff.mpr hgs).of_map _
      refine (List.perm_ext_iff_of_nodup (hnodup _ hv.1) (hnodup _ hw.1)).mpr fun f => ?_
      rw [(sortFields_perm fields).mem_iff, (sortFields_perm fields').mem_iff, List.mem_map,
        List.mem_map]
      constructor
      · rintro ⟨⟨k, x⟩, hx, rfl⟩
        have hlook := unorderedFields_of_mem hv.1 hx
        rw [h] at hlook
        obtain ⟨y, hy, heq⟩ := mem_of_unorderedFields hlook
        refine ⟨(k, y), hy, ?_⟩
        rw [hvalues k x hx y (distinct_of_mem hw.2 hy) heq.symm]
      · rintro ⟨⟨k, y⟩, hy, rfl⟩
        have hlook := unorderedFields_of_mem hw.1 hy
        rw [← h] at hlook
        obtain ⟨x, hx, heq⟩ := mem_of_unorderedFields hlook
        refine ⟨(k, x), hx, ?_⟩
        rw [hvalues k x hx y (distinct_of_mem hw.2 hy) heq]
    | _ => simp only [unordered] at h; cases h

/-- `sortKeys_eq_of_unordered_eq` for every item. -/
theorem sortItems_eq_of_unordered_eq : ∀ items : List Json, DistinctItems items →
    ∀ items' : List Json, DistinctItems items' → unorderedItems items = unorderedItems items' →
    sortItems items = sortItems items'
  | [], _, items', _, h => by
    cases items' with
    | nil => rfl
    | cons y ys => simp only [unorderedItems] at h; cases h
  | x :: xs, hv, items', hw, h => by
    cases items' with
    | nil => simp only [unorderedItems] at h; cases h
    | cons y ys =>
      simp only [unorderedItems, List.cons.injEq] at h
      simp only [DistinctItems] at hv hw
      simp only [sortItems, sortKeys_eq_of_unordered_eq x hv.1 y hw.1 h.1,
        sortItems_eq_of_unordered_eq xs hv.2 ys hw.2 h.2]

/-- `sortKeys_eq_of_unordered_eq` for the value of every field. -/
theorem sortKeys_eq_of_mem : ∀ fields : List (String × Json), DistinctFields fields →
    ∀ k v, (k, v) ∈ fields → ∀ w : Json, Distinct w → unordered v = unordered w →
    sortKeys v = sortKeys w
  | [], _, _, _, hmem => by cases hmem
  | (_, x) :: fs, h, k, v, hmem => by
    simp only [DistinctFields] at h
    rcases List.mem_cons.mp hmem with heq | hmem
    · cases heq
      exact sortKeys_eq_of_unordered_eq x h.1
    · exact sortKeys_eq_of_mem fs h.2 k v hmem

end

mutual

/-- Sorting keeps the keys apart. -/
theorem distinct_sortKeys : ∀ v : Json, Distinct v → Distinct (sortKeys v)
  | .null, h => by simpa only [sortKeys] using h
  | .bool _, h => by simpa only [sortKeys] using h
  | .int _, h => by simpa only [sortKeys] using h
  | .float _, h => by simpa only [sortKeys] using h
  | .str _, h => by simpa only [sortKeys] using h
  | .arr items, h => by
    simp only [Distinct] at h
    simp only [sortKeys, Distinct]
    exact distinctItems_sortItems items h
  | .obj fields, h => by
    simp only [Distinct] at h
    simp only [sortKeys, Distinct]
    exact ⟨(keys_sortFields_perm fields).nodup_iff.mpr h.1, distinctFields_sortFields fields h.2⟩

/-- `distinct_sortKeys` for every item. -/
theorem distinctItems_sortItems : ∀ items : List Json, DistinctItems items →
    DistinctItems (sortItems items)
  | [], _ => by simp only [sortItems, DistinctItems]
  | x :: xs, h => by
    simp only [DistinctItems] at h
    simp only [sortItems, DistinctItems]
    exact ⟨distinct_sortKeys x h.1, distinctItems_sortItems xs h.2⟩

/-- `distinct_sortKeys` for the fields of an object. -/
theorem distinctFields_sortFields : ∀ fields : List (String × Json), DistinctFields fields →
    DistinctFields (sortFields fields)
  | [], _ => by simp only [sortFields, DistinctFields]
  | (k, v) :: fs, h => by
    simp only [DistinctFields] at h
    rw [sortFields]
    exact distinctFields_insertField (distinct_sortKeys v h.1) (distinctFields_sortFields fs h.2)

end

/-- Two values without repeated keys are sorted to the same value exactly when they are equal up
to the order of fields. -/
theorem sortKeys_eq_iff {v w : Json} (hv : Distinct v) (hw : Distinct w) :
    sortKeys v = sortKeys w ↔ unordered v = unordered w := by
  constructor
  · intro h
    rw [← unordered_sortKeys v hv, ← unordered_sortKeys w hw, h]
  · exact sortKeys_eq_of_unordered_eq v hv w hw

/-- Sorting twice is sorting once. -/
theorem sortKeys_sortKeys {v : Json} (hv : Distinct v) : sortKeys (sortKeys v) = sortKeys v :=
  (sortKeys_eq_iff (distinct_sortKeys v hv) hv).mpr (unordered_sortKeys v hv)

theorem weightFields_insertField (field : String × Json) (fs : List (String × Json)) :
    weightFields (insertField field fs) =
      12 * field.1.toList.length + weight field.2 + weightFields fs + 4 := by
  induction fs with
  | nil => rfl
  | cons f fs ih =>
    obtain ⟨k, v⟩ := f
    rw [insertField]
    split_ifs
    · simp only [weightFields, ih]
      omega
    · simp only [weightFields]

mutual

/-- Sorting keeps the weight. -/
theorem weight_sortKeys : ∀ v : Json, weight (sortKeys v) = weight v
  | .null => rfl
  | .bool _ => rfl
  | .int _ => rfl
  | .float _ => rfl
  | .str _ => rfl
  | .arr items => by simp only [sortKeys, weight, weightItems_sortItems items]
  | .obj fields => by simp only [sortKeys, weight, weightFields_sortFields fields]

/-- `weight_sortKeys` for the items of a list. -/
theorem weightItems_sortItems : ∀ items : List Json,
    weightItems (sortItems items) = weightItems items
  | [] => rfl
  | x :: xs => by
    simp only [sortItems, weightItems, weight_sortKeys x, weightItems_sortItems xs]

/-- `weight_sortKeys` for the fields of an object. -/
theorem weightFields_sortFields : ∀ fields : List (String × Json),
    weightFields (sortFields fields) = weightFields fields
  | [] => rfl
  | (k, v) :: fs => by
    rw [sortFields, weightFields_insertField, weight_sortKeys v, weightFields_sortFields fs,
      weightFields]

end

end Json

end Python
