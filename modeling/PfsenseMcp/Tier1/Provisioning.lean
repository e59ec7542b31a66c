import Mathlib.Data.Nat.Notation
import PfsenseMcp.Tier1.Lifecycle

/-!
# Provisioning the anchor baseline

`provision_anchor_baseline` inserts two rows into `anchor_state`: the high-water mark, and the
marker that says that provisioning is complete. Its documentation promises that this happens
atomically, within one transaction. The connection is in autocommit mode and no transaction is
opened, so the first row is durable before the second is written.

## Main results

* `allOrNothing_iff_not_seeds`: the operation takes effect as a whole or not at all exactly when it
  fails before it has written the first row.
-/

namespace Tier1

open Python Concurrency Procedure

section Support

variable [Platform]

/-- On the given inputs, `provision_anchor_baseline` takes effect as a whole or not at all. A
process that stops inside it is where `runFor` stops. -/
structure AllOrNothing (store : Store) (value : ℤ) (handle : String) (inputs : ℕ → Answers)
    (s : World) : Prop where
  /-- A call that has raised, or has stopped before it returned, has left the table as it was. -/
  unfinished : ∀ n p s', (store.provisionAnchorBaseline value handle).runFor n inputs s = (p, s') →
    p ≠ .ret () → s'.db.anchorState = s.db.anchorState
  /-- A call that has returned has recorded the value and the marker. -/
  finished : ∀ n s', (store.provisionAnchorBaseline value handle).runFor n inputs s =
      (.ret (), s') →
    HighWaterMark.isSeeded s'.db = true ∧
      HighWaterMark.read store.toStoreIdentity s'.db = .ok value.toNat ∧
      ProvisioningRecord.isComplete store.toStoreIdentity s'.db = .ok true
  /-- A store that was not seeded is never reported as seeded but not complete. -/
  status : HighWaterMark.isSeeded s.db = false → ∀ n p s',
    (store.provisionAnchorBaseline value handle).runFor n inputs s = (p, s') →
    ∀ inputs' status, (store.anchorProvisioningStatus.run inputs' s').result = .ok status →
      status.seeded = true → status.complete = true

/-- The first row is written: the store clock is in UTC, the value is a natural number of at most
4300 digits, no row is there, and no statement up to the insertion fails. -/
structure Seeds (value : ℤ) (inputs : ℕ → Answers) (s : World) : Prop where
  clock : (inputs 0).clock ≠ none
  nonneg : 0 ≤ value
  select : (inputs 1).sqlite = none
  unseeded : HighWaterMark.isSeeded s.db = false
  insert : (inputs 2).sqlite = none
  digits : value.toNat < 10 ^ intMaxStrDigits

section

variable {store : Store} {value : ℤ} {handle : String} {inputs : ℕ → Answers} {s : World}

theorem lt_of_insertSeed {store : StoreIdentity} {value : ℕ} {db db' : Database}
    (h : HighWaterMark.insertSeed store value db = .ok db') : value < 10 ^ intMaxStrDigits := by
  simp only [HighWaterMark.insertSeed, HighWaterMark.row, bind_eq_ok] at h
  obtain ⟨_, ⟨text, htext, -⟩, -⟩ := h
  unfold strInt fail at htext
  split_ifs at htext with hlt
  exact hlt

/-- The row of a value of ordinary size can be inserted into a table that has none. -/
theorem exists_insertSeed (store : StoreIdentity) {value : ℕ} {db : Database}
    (hseeded : HighWaterMark.isSeeded db = false) (hdigits : value < 10 ^ intMaxStrDigits) :
    ∃ r, r.key = HighWaterMark.key ∧ HighWaterMark.insertSeed store value db =
      .ok { db with anchorState := db.anchorState ++ [r] } := by
  obtain ⟨r, hrow, hkey⟩ := HighWaterMark.exists_row store hdigits
  refine ⟨r, hkey, ?_⟩
  have hfree : (db.anchorState.any fun row => row.key = r.key) = false := by
    rw [hkey, List.any_eq_false]
    intro row hrow hk
    have hfind : (db.selectAnchor HighWaterMark.key).isSome = true := by
      rw [Database.selectAnchor, List.find?_isSome]
      exact ⟨row, hrow, hk⟩
    rw [HighWaterMark.isSeeded, hfind] at hseeded
    cases hseeded
  rw [HighWaterMark.insertSeed, hrow, ok_bind, Database.insertAnchor, hfree]
  rfl

theorem runFor_atomic_bind {α : Type} (n : ℕ) (f : Answers → World → World × Except Error α)
    (g : α → Op Unit) (inputs : ℕ → Answers) (s : World) :
    (Op.atomic f >>= g).runFor (n + 1) inputs s =
      (ofExcept (f (inputs 0) s).2 >>= g).runFor n (fun m => inputs (m + 1)) (f (inputs 0) s).1 :=
  rfl

variable (store) in
/-- A call whose inputs let it write the first row has done so after three atoms, and goes on. -/
theorem runFor_of_seeds (hhandle : handle ≠ "") (h : Seeds value inputs s) :
    ∃ r t, r.key = HighWaterMark.key ∧
      (store.provisionAnchorBaseline value handle).runFor 3 inputs s =
        (store.completeProvisioning value handle t,
          { s with db := { s.db with anchorState := s.db.anchorState ++ [r] } }) := by
  obtain ⟨t, ht⟩ := Option.ne_none_iff_exists'.mp h.clock
  obtain ⟨r, hkey, hinsert⟩ := exists_insertSeed store.toStoreIdentity h.unseeded h.digits
  refine ⟨r, t, hkey, ?_⟩
  unfold Store.provisionAnchorBaseline
  rw [demand_of hhandle, Op.check, ofExcept_ok, ret_bind, Store.now, Op.consult, runFor_atomic_bind]
  dsimp only
  rw [ht, requireUtc, ofExcept_ok, ret_bind, demand_of h.nonneg, Op.check, ofExcept_ok, ret_bind,
    Op.query, runFor_atomic_bind]
  dsimp only
  rw [h.select, h.unseeded, ofExcept_ok, ret_bind, demand_of rfl, Op.check, ofExcept_ok, ret_bind,
    Op.execute, runFor_atomic_bind, h.insert]
  dsimp only
  rw [hinsert, ofExcept_ok, ret_bind, runFor_zero]

/-- However far it gets, the procedure has changed nothing and has not returned. -/
def Stays (p : Op Unit) (inputs : ℕ → Answers) (s : World) : Prop :=
  ∀ n, ∃ q, q ≠ .ret () ∧ p.runFor n inputs s = (q, s)

theorem stays_raise (e : Error) : Stays (.raise e) inputs s :=
  fun n => ⟨.raise e, nofun, runFor_raise n e inputs s⟩

theorem stays_atomic_bind {α : Type} {f : Answers → World → World × Except Error α}
    {g : α → Op Unit} (hf : (f (inputs 0) s).1 = s)
    (h : Stays (ofExcept (f (inputs 0) s).2 >>= g) (fun m => inputs (m + 1)) s) :
    Stays (Op.atomic f >>= g) inputs s := by
  intro n
  cases n with
  | zero => exact ⟨Op.atomic f >>= g, nofun, runFor_zero _ _ _⟩
  | succ n =>
    rw [runFor_atomic_bind, hf]
    exact h n

/-- A call whose inputs do not let it write the first row has changed nothing, and does not
return. -/
theorem stays_of_not_seeds (hhandle : handle ≠ "") (h : ¬ Seeds value inputs s) :
    Stays (store.provisionAnchorBaseline value handle) inputs s := by
  unfold Store.provisionAnchorBaseline
  rw [demand_of hhandle, Op.check, ofExcept_ok, ret_bind]
  apply stays_atomic_bind rfl
  dsimp only
  cases hclock : (inputs 0).clock with
  | none => exact stays_raise _
  | some t =>
    rw [requireUtc, ofExcept_ok, ret_bind]
    by_cases hnonneg : 0 ≤ value
    · rw [demand_of hnonneg, Op.check, ofExcept_ok, ret_bind]
      apply stays_atomic_bind rfl
      dsimp only
      cases hselect : (inputs 1).sqlite with
      | some e => exact stays_raise _
      | none =>
        dsimp only
        cases hseeded : HighWaterMark.isSeeded s.db with
        | true => exact stays_raise _
        | false =>
          rw [ofExcept_ok, ret_bind, demand_of rfl, Op.check, ofExcept_ok, ret_bind]
          -- the insertion fails, or all conditions were met
          have hfails : (inputs 2).sqlite = none →
              ∃ e, HighWaterMark.insertSeed store.toStoreIdentity value.toNat s.db = .error e := by
            intro hinsert
            cases hresult : HighWaterMark.insertSeed store.toStoreIdentity value.toNat s.db with
            | error e => exact ⟨e, rfl⟩
            | ok db =>
              refine absurd ⟨?_, hnonneg, hselect, hseeded, hinsert, lt_of_insertSeed hresult⟩ h
              rw [hclock]
              exact Option.some_ne_none t
          cases hinsert : (inputs 2).sqlite with
          | some e =>
            apply stays_atomic_bind
            · rw [hinsert]
            · rw [hinsert]
              exact stays_raise _
          | none =>
            obtain ⟨e, he⟩ := hfails hinsert
            apply stays_atomic_bind
            · rw [hinsert]
              dsimp only
              rw [he]
            · rw [hinsert]
              dsimp only
              rw [he]
              exact stays_raise _
    · rw [demand, if_neg hnonneg]
      exact stays_raise _

/-- A query that has been answered was answered from the tables. -/
theorem result_query_bind {α β : Type} {f : Database → Except Error α} {g : α → Op β} {b : β}
    (h : ((Op.query f >>= g).run inputs s).result = .ok b) :
    ∃ a, f s.db = .ok a ∧ ((g a).run (fun n => inputs (n + 1)) s).result = .ok b := by
  unfold Op.query Op.atomic at h
  rw [atom_bind, run_atom] at h
  dsimp only at h
  cases hsqlite : (inputs 0).sqlite with
  | some e =>
    rw [hsqlite] at h
    cases h
  | none =>
    rw [hsqlite] at h
    cases hf : f s.db with
    | error e =>
      rw [hf] at h
      cases h
    | ok a =>
      rw [hf] at h
      exact ⟨a, rfl, h⟩

/-- A status says that the store is seeded exactly when it is. -/
theorem seeded_of_status {status : Store.AnchorProvisioningStatus}
    (h : (store.anchorProvisioningStatus.run inputs s).result = .ok status) :
    status.seeded = HighWaterMark.isSeeded s.db := by
  obtain ⟨seeded, hseeded, h⟩ := result_query_bind h
  obtain ⟨baseline, -, h⟩ := result_query_bind h
  obtain ⟨marker, -, h⟩ := result_query_bind h
  cases h
  exact (Except.ok.inj hseeded).symm

theorem allOrNothing_of_stays (h : Stays (store.provisionAnchorBaseline value handle) inputs s) :
    AllOrNothing store value handle inputs s := by
  refine ⟨fun n p s' hrun _ => ?_, fun n s' hrun => ?_,
    fun hunseeded n p s' hrun inputs' status hstatus hseeded => ?_⟩
  all_goals
    obtain ⟨q, hq, hstay⟩ := h n
    rw [hstay] at hrun
    cases hrun
  · rfl
  · exact absurd rfl hq
  · rw [seeded_of_status hstatus, hunseeded] at hseeded
    cases hseeded

theorem not_allOrNothing_of_seeds (hhandle : handle ≠ "") (h : Seeds value inputs s) :
    ¬ AllOrNothing store value handle inputs s := by
  obtain ⟨r, t, -, hrun⟩ := runFor_of_seeds store hhandle h
  intro hall
  have hsame := hall.unfinished 3 _ _ hrun nofun
  have hlength := congrArg List.length hsame
  simp at hlength

end

end Support

/-! ### All or nothing -/

section Provisioning

attribute [local instance] Sample.platform

/-- For every handle that passes its first check, `provision_anchor_baseline` takes effect as a
whole or not at all exactly when it does not get as far as to write the high-water mark. -/
theorem allOrNothing_iff_not_seeds [Platform] (store : Store) (value : ℤ) {handle : String}
    (hhandle : handle ≠ "") (inputs : ℕ → Answers) (s : World) :
    AllOrNothing store value handle inputs s ↔ ¬ Seeds value inputs s := by
  constructor
  · intro hall hseeds
    exact not_allOrNothing_of_seeds hhandle hseeds hall
  · intro h
    exact allOrNothing_of_stays (stays_of_not_seeds hhandle h)

/-- A value that is no natural number is refused as a whole. -/
theorem allOrNothing_negative :
    AllOrNothing Sample.plain (-1) "0x1500016"
      (fun _ => Sample.answers (.response 200 "")) {} := by
  refine (allOrNothing_iff_not_seeds Sample.plain (-1) (by decide) _ _).mpr fun h => ?_
  exact absurd h.nonneg (by decide)

/-- A process that stops after the third atom has seeded a new store with 5 and has not marked it
as complete. -/
theorem not_allOrNothing_sample :
    ¬ AllOrNothing Sample.plain 5 "0x1500016" (fun _ => Sample.answers (.response 200 "")) {} := by
  refine not_allOrNothing_of_seeds (by decide) ⟨nofun, by decide, rfl, rfl, rfl, ?_⟩
  calc (5 : ℤ).toNat < 10 ^ 1 := by decide
    _ ≤ 10 ^ intMaxStrDigits := Nat.pow_le_pow_right (by decide) (by decide)

end Provisioning

end Tier1
