import Mathlib.Data.List.Basic
import Mathlib.Data.List.Induction

/-!
# Journals

An append-only log, judged entry by entry against what came before it.

`Lawful rule log` says that every entry of `log` obeys `rule` in view of the entries before it.
Many rules are about *updates*: an entry replaces a value, or introduces one. A `View` says how
the entries of a log are read as updates of keyed values. It gives the `history` of a key, the
`latest` value of a key, and the `table` of all values in the order in which they appeared.

## Main results

* `Lawful.rule_of_eq`: the rule holds of every entry, in view of its past;
* `mem_table`: if every update replaces the latest value of its key, the table holds exactly the
  latest values, and `pairwise_key_table` each key once;
* `latest_induction`: induction along the history of one key.
-/

namespace Concurrency

variable {ε κ ν : Type}

/-- Every entry of a log obeys the rule in view of the entries before it. -/
inductive Lawful (rule : List ε → ε → Prop) : List ε → Prop
  | nil : Lawful rule []
  | append {log : List ε} {e : ε} (h : Lawful rule log) (he : rule log e) :
      Lawful rule (log ++ [e])

namespace Lawful

variable {rule rule' : List ε → ε → Prop}

theorem append_inv {log : List ε} {e : ε} (h : Lawful rule (log ++ [e])) :
    Lawful rule log ∧ rule log e := by
  generalize heq : log ++ [e] = l at h
  cases h with
  | nil => simp at heq
  | append h he =>
    obtain ⟨hlog, he'⟩ := List.append_inj' heq rfl
    cases hlog
    cases he'
    exact ⟨h, he⟩

/-- What has happened so far was lawful. -/
theorem of_append {log rest : List ε} (h : Lawful rule (log ++ rest)) : Lawful rule log := by
  induction rest using List.reverseRecOn with
  | nil => rwa [List.append_nil] at h
  | append_singleton rest e ih =>
    rw [← List.append_assoc] at h
    exact ih h.append_inv.1

/-- The rule holds of every entry, in view of its past. -/
theorem rule_of_eq {log past rest : List ε} {e : ε} (h : Lawful rule log)
    (heq : log = past ++ e :: rest) : rule past e := by
  rw [heq, List.append_cons] at h
  exact h.of_append.append_inv.2

theorem mono (h : ∀ log e, rule log e → rule' log e) {log : List ε} (hlog : Lawful rule log) :
    Lawful rule' log := by
  induction hlog with
  | nil => exact .nil
  | append _ he ih => exact .append ih (h _ _ he)

end Lawful

/-- How the entries of a log are read as updates of keyed values. -/
structure View (ε κ ν : Type) where
  /-- The value that an entry replaces, unless it introduces one. -/
  before : ε → Option ν
  /-- The value that an entry leaves. -/
  after : ε → ν
  /-- The key of a value. -/
  key : ν → κ

namespace View

variable [DecidableEq κ] (V : View ε κ ν)

/-- The entries about one key, the oldest first. -/
def history (log : List ε) (k : κ) : List ε := log.filter fun e => V.key (V.after e) = k

/-- The latest value of a key. -/
def latest (log : List ε) (k : κ) : Option ν := (V.history log k).getLast?.map V.after

/-- The table after one more entry. -/
def record (table : List ν) (e : ε) : List ν :=
  match V.before e with
  | none => table ++ [V.after e]
  | some _ => table.map fun v => if V.key v = V.key (V.after e) then V.after e else v

/-- The values that a log leaves, in the order in which their keys appeared. -/
def table (log : List ε) : List ν := log.foldl V.record []

/-- The rule that an update replaces the latest value of its key. -/
def Continues (log : List ε) (e : ε) : Prop := V.before e = V.latest log (V.key (V.after e))

variable {V}

@[simp]
theorem history_nil (k : κ) : V.history [] k = [] := rfl

theorem history_append (log rest : List ε) (k : κ) :
    V.history (log ++ rest) k = V.history log k ++ V.history rest k := List.filter_append _ _

theorem history_append_self (log : List ε) (e : ε) :
    V.history (log ++ [e]) (V.key (V.after e)) = V.history log (V.key (V.after e)) ++ [e] := by
  simp [history]

theorem history_append_of_ne (log : List ε) {e : ε} {k : κ} (h : V.key (V.after e) ≠ k) :
    V.history (log ++ [e]) k = V.history log k := by
  simp [history, h]

theorem mem_history {log : List ε} {k : κ} {e : ε} :
    e ∈ V.history log k ↔ e ∈ log ∧ V.key (V.after e) = k := by
  simp [history]

@[simp]
theorem latest_nil (k : κ) : V.latest [] k = none := rfl

theorem latest_append_self (log : List ε) (e : ε) :
    V.latest (log ++ [e]) (V.key (V.after e)) = some (V.after e) := by
  rw [latest, history_append_self, List.getLast?_append]
  rfl

theorem latest_append_of_ne (log : List ε) {e : ε} {k : κ} (h : V.key (V.after e) ≠ k) :
    V.latest (log ++ [e]) k = V.latest log k := by
  rw [latest, history_append_of_ne log h, latest]

/-- The latest value of a key is what some entry of its history left. -/
theorem exists_of_latest {log : List ε} {k : κ} {v : ν} (h : V.latest log k = some v) :
    ∃ e ∈ V.history log k, V.after e = v := by
  rw [latest, Option.map_eq_some_iff] at h
  obtain ⟨e, he, hv⟩ := h
  exact ⟨e, List.mem_of_getLast? he, hv⟩

theorem key_of_latest {log : List ε} {k : κ} {v : ν} (h : V.latest log k = some v) :
    V.key v = k := by
  obtain ⟨e, he, rfl⟩ := exists_of_latest h
  exact (mem_history.mp he).2

theorem history_eq_nil_of_latest {log : List ε} {k : κ} (h : V.latest log k = none) :
    V.history log k = [] := by
  rwa [latest, Option.map_eq_none_iff, List.getLast?_eq_none_iff] at h

theorem latest_isSome_of_mem {log : List ε} {e : ε} (h : e ∈ log) :
    ∃ v, V.latest log (V.key (V.after e)) = some v := by
  cases hv : V.latest log (V.key (V.after e)) with
  | some v => exact ⟨v, rfl⟩
  | none =>
    have hmem : e ∈ V.history log (V.key (V.after e)) := mem_history.mpr ⟨h, rfl⟩
    rw [history_eq_nil_of_latest hv] at hmem
    exact absurd hmem List.not_mem_nil

@[simp]
theorem table_nil : V.table ([] : List ε) = [] := rfl

theorem table_append (log : List ε) (e : ε) : V.table (log ++ [e]) = V.record (V.table log) e := by
  rw [table, List.foldl_append, table]
  rfl

/-- The table after a value was introduced. -/
theorem table_append_of_none {log : List ε} {e : ε} (h : V.before e = none) :
    V.table (log ++ [e]) = V.table log ++ [V.after e] := by
  rw [table_append, record, h]

/-- The table after a value was replaced. -/
theorem table_append_of_some {log : List ε} {e : ε} {v : ν} (h : V.before e = some v) :
    V.table (log ++ [e]) = (V.table log).map fun w =>
      if V.key w = V.key (V.after e) then V.after e else w := by
  rw [table_append, record, h]

/-- The table holds exactly the latest value of each key. -/
theorem mem_table {log : List ε} (h : Lawful V.Continues log) {v : ν} :
    v ∈ V.table log ↔ V.latest log (V.key v) = some v := by
  induction h generalizing v with
  | nil => simp
  | @append log e _ he ih =>
    by_cases hk : V.key (V.after e) = V.key v
    · -- the key of the new entry: only its own value is left
      rw [← hk, latest_append_self, Option.some.injEq]
      cases hb : V.before e with
      | none =>
        have hnone : V.latest log (V.key v) = none := by rw [← hk, ← he, hb]
        have hout : v ∉ V.table log := by
          rw [ih, hnone]
          exact nofun
        rw [table_append_of_none hb, List.mem_append, List.mem_singleton, or_iff_right hout,
          eq_comm]
      | some w =>
        have hw : w ∈ V.table log := by
          have hlatest : V.latest log (V.key (V.after e)) = some w := by rw [← he, hb]
          rw [ih, key_of_latest hlatest, hlatest]
        have hkey : V.key w = V.key (V.after e) := key_of_latest (by rw [← he, hb])
        rw [table_append_of_some hb, List.mem_map]
        constructor
        · rintro ⟨u, hu, hv⟩
          split at hv
          · exact hv
          · rename_i hne
            rw [hv] at hne
            exact absurd hk.symm hne
        · intro hv
          exact ⟨w, hw, by rw [if_pos hkey, hv]⟩
    · -- another key: nothing changes
      rw [latest_append_of_ne log hk, ← ih]
      have hne : v ≠ V.after e := by
        rintro rfl
        exact hk rfl
      cases hb : V.before e with
      | none =>
        rw [table_append_of_none hb, List.mem_append, List.mem_singleton, or_iff_left hne]
      | some w =>
        rw [table_append_of_some hb, List.mem_map]
        constructor
        · rintro ⟨u, hu, hv⟩
          split at hv
          · exact absurd hv.symm hne
          · rwa [← hv]
        · intro hv
          exact ⟨v, hv, if_neg fun h => hk h.symm⟩

/-- Each key occurs once in the table. -/
theorem pairwise_key_table {log : List ε} (h : Lawful V.Continues log) :
    (V.table log).Pairwise fun v w => V.key v ≠ V.key w := by
  induction h with
  | nil => exact .nil
  | @append log e h he ih =>
    cases hb : V.before e with
    | none =>
      rw [table_append_of_none hb, List.pairwise_append]
      refine ⟨ih, List.pairwise_singleton _ _, fun v hv w hw => ?_⟩
      rw [List.mem_singleton] at hw
      subst hw
      intro hkey
      have hlatest := (mem_table h).mp hv
      rw [hkey, ← he, hb] at hlatest
      exact absurd hlatest nofun
    | some w =>
      rw [table_append_of_some hb, List.pairwise_map]
      refine ih.imp fun {v w} hne => ?_
      split <;> split <;> simp_all

/-- A value of the table is the only one with its key. -/
theorem countP_key_eq_one {l : List ν} (hl : l.Pairwise fun v w => V.key v ≠ V.key w) {v : ν}
    (hv : v ∈ l) : l.countP (fun w => V.key w = V.key v) = 1 := by
  induction hl with
  | nil => exact absurd hv List.not_mem_nil
  | @cons w l hw _ ih =>
    rcases List.mem_cons.mp hv with rfl | hv
    · have hzero : l.countP (fun w => V.key w = V.key v) = 0 := by
        rw [List.countP_eq_zero]
        intro u hu
        simpa using (hw u hu).symm
      simp [hzero]
    · simp [ih hv, hw v hv]

/-- Replacing a value by another one of its key changes a count by these two values only. -/
theorem countP_replace {l : List ν} (hl : l.Pairwise fun v w => V.key v ≠ V.key w) {v w : ν}
    (hv : v ∈ l) (hkey : V.key w = V.key v) (p : ν → Bool) :
    (l.map fun u => if V.key u = V.key w then w else u).countP p + (if p v then 1 else 0) =
      l.countP p + (if p w then 1 else 0) := by
  induction hl with
  | nil => exact absurd hv List.not_mem_nil
  | @cons u l hu _ ih =>
    rw [List.map_cons, List.countP_cons, List.countP_cons]
    rcases List.mem_cons.mp hv with rfl | hv
    · -- the other values of the list have other keys
      have hrest : (l.map fun u => if V.key u = V.key w then w else u) = l := by
        refine (List.map_congr_left fun x hx => ?_).trans (List.map_id l)
        rw [hkey]
        exact if_neg (hu x hx).symm
      rw [hrest, if_pos hkey.symm]
      omega
    · have hne : V.key u ≠ V.key w := by
        rw [hkey]
        exact hu v hv
      have hrest := ih hv
      rw [if_neg hne]
      omega

/-- The latest value of a key is found in the table by its key. -/
theorem find?_table {log : List ε} (h : Lawful V.Continues log) (k : κ) :
    (V.table log).find? (fun v => V.key v = k) = V.latest log k := by
  cases hl : V.latest log k with
  | none =>
    rw [List.find?_eq_none]
    intro v hv hk
    rw [decide_eq_true_eq] at hk
    have hlatest := (mem_table h).mp hv
    rw [hk, hl] at hlatest
    exact absurd hlatest nofun
  | some v =>
    have hkey := key_of_latest hl
    have hv : v ∈ V.table log := by rw [mem_table h, hkey, hl]
    obtain ⟨w, hw⟩ : ∃ w, (V.table log).find? (fun v => V.key v = k) = some w := by
      rw [← Option.isSome_iff_exists, List.find?_isSome]
      exact ⟨v, hv, by simpa using hkey⟩
    have hwk : V.key w = k := by simpa using List.find?_some hw
    have hlatest := (mem_table h).mp (List.mem_of_find?_eq_some hw)
    rw [hwk, hl] at hlatest
    rw [hw, hlatest]

/-- Induction along the history of one key. -/
theorem latest_induction {rule : List ε → ε → Prop} {P : List ε → ν → Prop}
    (hcontinues : ∀ past e, rule past e → V.Continues past e)
    (first : ∀ past e, Lawful rule past → rule past e → V.before e = none → P [e] (V.after e))
    (next : ∀ past e v, Lawful rule past → rule past e → V.before e = some v →
      V.latest past (V.key (V.after e)) = some v →
      P (V.history past (V.key (V.after e))) v →
      P (V.history past (V.key (V.after e)) ++ [e]) (V.after e))
    {log : List ε} (h : Lawful rule log) {k : κ} {v : ν} (hv : V.latest log k = some v) :
    P (V.history log k) v := by
  induction h generalizing k v with
  | nil => simp at hv
  | @append log e h he ih =>
    by_cases hk : V.key (V.after e) = k
    · subst hk
      rw [latest_append_self, Option.some.injEq] at hv
      subst hv
      rw [history_append_self]
      cases hb : V.before e with
      | none =>
        have hnone : V.latest log (V.key (V.after e)) = none := by
          rw [← hcontinues log e he, hb]
        rw [history_eq_nil_of_latest hnone]
        exact first log e h he hb
      | some w =>
        have hlatest : V.latest log (V.key (V.after e)) = some w := by
          rw [← hcontinues log e he, hb]
        exact next log e w h he hb hlatest (ih hlatest)
    · rw [latest_append_of_ne log hk] at hv
      rw [history_append_of_ne log hk]
      exact ih hv

end View

end Concurrency
