import Mathlib.Data.List.Dedup
import Mathlib.Data.List.Nodup
import Mathlib.Data.Nat.ModEq
import Mathlib.Logic.Function.Iterate

/-!
# Dictionaries that number their keys

A dictionary that gives a key it has not seen the next value of a sequence, and a key that it has
seen the value it gave before. Over any number of calls the value of a key depends on how many other
keys came before it for the first time, and on nothing else.

## Main results

* `numbers_run`: each call returns the value at the place of its key among the different keys;
* `injective_run_iff`, `injective_run_iff_le`: different keys get different values exactly as long as the sequence does not
  come back.
-/

namespace Memo

variable {κ ν σ : Type} [DecidableEq κ]

/-- The values that were given, and the state that the next one is made from. -/
structure Table (κ ν σ : Type) where
  map : List (κ × ν)
  state : σ

/-- The value of a key: the one that it has, or a new one. -/
def allocate (fresh : σ → ν × σ) (table : Table κ ν σ) (key : κ) : ν × Table κ ν σ :=
  match table.map.lookup key with
  | some value => (value, table)
  | none =>
    let (value, state) := fresh table.state
    (value, ⟨table.map ++ [(key, value)], state⟩)

/-- The values that calls return one after the other. -/
def run (fresh : σ → ν × σ) : Table κ ν σ → List κ → List ν
  | _, [] => []
  | table, key :: keys =>
    let (value, table) := allocate fresh table key
    value :: run fresh table keys

/-- The keys in the order in which they came first, after those that were seen. -/
def distinct (seen : List κ) : List κ → List κ
  | [] => seen
  | key :: keys => if key ∈ seen then distinct seen keys else distinct (seen ++ [key]) keys

/-- The value that is made after so many others. -/
def nth (fresh : σ → ν × σ) (start : σ) (n : ℕ) : ν :=
  (fresh ((fun state => (fresh state).2)^[n] start)).1

/-- Equal keys get equal values. -/
def Consistent (keys : List κ) (values : List ν) : Prop :=
  ∀ (i j : ℕ) (key : κ) (v w : ν), keys[i]? = some key → keys[j]? = some key → values[i]? = some v →
    values[j]? = some w → v = w

/-- Different keys get different values. -/
def Injective (keys : List κ) (values : List ν) : Prop :=
  ∀ (i j : ℕ) (k l : κ) (value : ν), keys[i]? = some k → keys[j]? = some l → values[i]? = some value →
    values[j]? = some value → k = l

/-! ### The different keys -/

section Distinct

variable {seen keys : List κ} {key : κ}

theorem prefix_distinct : seen <+: distinct seen keys := by
  induction keys generalizing seen with
  | nil => exact List.prefix_rfl
  | cons key keys ih =>
    rw [distinct]
    split_ifs
    · exact ih
    · exact (List.prefix_append seen [key]).trans ih

theorem mem_distinct : key ∈ distinct seen keys ↔ key ∈ seen ∨ key ∈ keys := by
  induction keys generalizing seen with
  | nil => simp [distinct]
  | cons k keys ih =>
    rw [distinct]
    split_ifs with hk
    · rw [ih, List.mem_cons]
      constructor
      · exact fun h => h.imp_right .inr
      · rintro (h | rfl | h)
        · exact .inl h
        · exact .inl hk
        · exact .inr h
    · rw [ih, List.mem_append, List.mem_singleton, List.mem_cons, or_assoc]

theorem nodup_distinct (hseen : seen.Nodup) : (distinct seen keys).Nodup := by
  induction keys generalizing seen with
  | nil => exact hseen
  | cons key keys ih =>
    rw [distinct]
    split_ifs with hkey
    · exact ih hseen
    · exact ih (List.nodup_append.mpr ⟨hseen, List.nodup_singleton key, by
        rintro a ha b hb rfl
        exact hkey (List.mem_singleton.mp hb ▸ ha)⟩)

/-- A key that was seen has its place already. -/
theorem idxOf_distinct (hkey : key ∈ seen) : (distinct seen keys).idxOf key = seen.idxOf key := by
  have hprefix : seen <+: distinct seen keys := prefix_distinct
  obtain ⟨rest, hrest⟩ := hprefix
  rw [← hrest, List.idxOf_append_of_mem hkey]

/-- There are as many different keys as the keys have without repetitions. -/
theorem length_distinct : (distinct [] keys).length = keys.dedup.length := by
  refine List.Perm.length_eq ?_
  rw [List.perm_ext_iff_of_nodup (nodup_distinct List.nodup_nil) keys.nodup_dedup]
  intro key
  rw [mem_distinct, List.mem_dedup]
  exact or_iff_right List.not_mem_nil

end Distinct

/-! ### What the calls return -/

section Run

variable {fresh : σ → ν × σ} {start : σ}

/-- The table of keys that were seen in this order. -/
structure Numbers (fresh : σ → ν × σ) (start : σ) (seen : List κ) (table : Table κ ν σ) : Prop where
  nodup : seen.Nodup
  state : table.state = (fun state => (fresh state).2)^[seen.length] start
  lookup : ∀ key, table.map.lookup key =
    if key ∈ seen then some (nth fresh start (seen.idxOf key)) else none

theorem numbers_empty : Numbers fresh start ([] : List κ) ⟨[], start⟩ where
  nodup := List.nodup_nil
  state := rfl
  lookup _ := rfl

/-- A call returns the value at the place of its key. -/
theorem Numbers.allocate {seen : List κ} {table : Table κ ν σ} (h : Numbers fresh start seen table)
    (key : κ) :
    (Memo.allocate fresh table key).1 = nth fresh start ((distinct seen [key]).idxOf key) ∧
      Numbers fresh start (distinct seen [key]) (Memo.allocate fresh table key).2 := by
  have hlookup := h.lookup key
  by_cases hkey : key ∈ seen
  · rw [if_pos hkey] at hlookup
    rw [Memo.allocate, hlookup, distinct, if_pos hkey]
    exact ⟨rfl, h⟩
  · rw [if_neg hkey] at hlookup
    have hplace : (seen ++ [key]).idxOf key = seen.length := by
      rw [List.idxOf_append_of_notMem hkey, List.idxOf_cons_self, Nat.add_zero]
    have hvalue : (fresh table.state).1 = nth fresh start seen.length := by rw [h.state, nth]
    rw [Memo.allocate, hlookup, distinct, if_neg hkey]
    simp only [distinct, hplace, hvalue, true_and]
    refine ⟨?_, ?_, fun k => ?_⟩
    · refine List.nodup_append.mpr ⟨h.nodup, List.nodup_singleton key, ?_⟩
      rintro a ha b hb rfl
      exact hkey (List.mem_singleton.mp hb ▸ ha)
    · rw [List.length_append, List.length_singleton, Function.iterate_succ_apply', ← h.state]
    · rw [List.lookup_append, h.lookup k]
      by_cases hk : k ∈ seen
      · rw [if_pos hk, if_pos (List.mem_append_left _ hk), List.idxOf_append_of_mem hk]
        rfl
      · rw [if_neg hk, Option.none_or]
        by_cases heq : k = key
        · rw [heq, if_pos (List.mem_append_right _ List.mem_cons_self), hplace,
            List.lookup_cons_self]
        · rw [if_neg (by simp [hk, heq]), List.lookup_cons, beq_false_of_ne heq]
          rfl

/-- Each call returns the value at the place of its key among the different keys. -/
theorem Numbers.run {seen keys : List κ} {table : Table κ ν σ}
    (h : Numbers fresh start seen table) :
    Memo.run fresh table keys =
      keys.map fun key => nth fresh start ((distinct seen keys).idxOf key) := by
  induction keys generalizing seen table with
  | nil => rfl
  | cons key keys ih =>
    obtain ⟨hvalue, hnext⟩ := h.allocate key
    have hdistinct : distinct (distinct seen [key]) keys = distinct seen (key :: keys) := by
      rw [distinct, distinct, distinct, distinct]
      split_ifs <;> rfl
    have hmem : key ∈ distinct seen [key] := mem_distinct.mpr (.inr List.mem_cons_self)
    rw [Memo.run, List.map_cons, ← hdistinct, idxOf_distinct hmem, ← hvalue]
    exact congrArg _ (ih hnext)

/-- Each call returns the value at the place of its key among the different keys. -/
theorem numbers_run (fresh : σ → ν × σ) (start : σ) (keys : List κ) :
    run fresh ⟨[], start⟩ keys =
      keys.map fun key => nth fresh start ((distinct [] keys).idxOf key) :=
  numbers_empty.run

theorem consistent_run (fresh : σ → ν × σ) (start : σ) (keys : List κ) :
    Consistent keys (run fresh ⟨[], start⟩ keys) := by
  intro i j key v w hi hj hv hw
  rw [numbers_run, List.getElem?_map] at hv hw
  rw [hi] at hv
  rw [hj] at hw
  exact Option.some.inj (hv.symm.trans hw)

/-- Every value is one of the first of the sequence, as many as there are different keys. -/
theorem mem_run_iff {keys : List κ} {value : ν} :
    value ∈ run fresh ⟨[], start⟩ keys ↔
      ∃ n < keys.dedup.length, value = nth fresh start n := by
  rw [numbers_run, List.mem_map, ← length_distinct]
  constructor
  · rintro ⟨key, hkey, rfl⟩
    exact ⟨_, List.idxOf_lt_length_of_mem (mem_distinct.mpr (.inr hkey)), rfl⟩
  · rintro ⟨n, hn, rfl⟩
    refine ⟨(distinct [] keys)[n], ?_, ?_⟩
    · have hmem := mem_distinct.mp (List.getElem_mem hn)
      exact hmem.resolve_left List.not_mem_nil
    · rw [(nodup_distinct List.nodup_nil).idxOf_getElem n hn]

/-- Different keys get different values exactly as long as the sequence does not come back. -/
theorem injective_run_iff {keys : List κ} :
    Injective keys (run fresh ⟨[], start⟩ keys) ↔
      ∀ m < keys.dedup.length, ∀ n < keys.dedup.length,
        nth fresh start m = nth fresh start n → m = n := by
  rw [← length_distinct]
  constructor
  · intro h m hm n hn heq
    have hnodup : (distinct [] keys).Nodup := nodup_distinct List.nodup_nil
    have hkey : ∀ k (hk : k < (distinct [] keys).length), (distinct [] keys)[k] ∈ keys :=
      fun k hk => (mem_distinct.mp (List.getElem_mem hk)).resolve_left List.not_mem_nil
    obtain ⟨i, hi⟩ := List.mem_iff_getElem?.mp (hkey m hm)
    obtain ⟨j, hj⟩ := List.mem_iff_getElem?.mp (hkey n hn)
    have hsame := h i j _ _ (nth fresh start m) hi hj
      (by rw [numbers_run, List.getElem?_map, hi, Option.map_some, hnodup.idxOf_getElem])
      (by rw [numbers_run, List.getElem?_map, hj, Option.map_some, hnodup.idxOf_getElem, heq])
    exact (hnodup.getElem_inj_iff).mp hsame
  · intro h i j k l value hi hj hv hw
    rw [numbers_run, List.getElem?_map] at hv hw
    rw [hi, Option.map_some] at hv
    rw [hj, Option.map_some] at hw
    have hk : k ∈ distinct [] keys := mem_distinct.mpr (.inr (List.mem_of_getElem? hi))
    have hl : l ∈ distinct [] keys := mem_distinct.mpr (.inr (List.mem_of_getElem? hj))
    refine (List.idxOf_inj hk).mp (h _ (List.idxOf_lt_length_of_mem hk) _
      (List.idxOf_lt_length_of_mem hl) ?_)
    exact Option.some.inj (hv.trans hw.symm)

/-- A sequence that comes back after `period` values tells as many keys apart. -/
theorem injective_run_iff_le {period : ℕ} (hpos : 0 < period)
    (hperiod : ∀ m n, nth fresh start m = nth fresh start n ↔ m ≡ n [MOD period]) {keys : List κ} :
    Injective keys (run fresh ⟨[], start⟩ keys) ↔ keys.dedup.length ≤ period := by
  rw [injective_run_iff]
  constructor
  · intro h
    by_contra hlt
    have heq := h 0 (by omega) period (by omega) ((hperiod 0 period).mpr ?_)
    · omega
    · exact ((Nat.mod_self period).trans (Nat.zero_mod period).symm).symm
  · intro hle m hm n hn heq
    exact ((hperiod m n).mp heq).eq_of_lt_of_lt (by omega) (by omega)

end Run

end Memo
