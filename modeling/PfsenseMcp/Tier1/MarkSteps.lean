import Mathlib.Data.Nat.Notation
import PfsenseMcp.Tier1.OperationSteps
import PfsenseMcp.Tier1.SharedWitness

/-!
# What a step does to the mark

A store records the value of its anchor in one row of `anchor_state`, the high-water mark. Only two
kinds of steps write it: the gate of `EXECUTING`, after it has advanced the anchor, and the seed of
a provisioning.

## Main results

* `gate_result`: the gate refuses, lets a call pass that needs no witness, or advances mark and
  anchor together;
* `Operation.does_mark`: every step of every operation is a `MarkStep`.
-/

namespace Tier1

open Python Concurrency Procedure RecoveryState Op

variable [Platform]

/-! ### The gate -/

/-- What the gate of `EXECUTING` does, and whether it lets the call pass. -/
inductive GateResult (store : Store) (policy : ExecutionSecurityPolicy) (s : World) :
    World × Except Error Unit → Prop
  /-- It refuses. The anchor may have been advanced nevertheless, but the mark stays. -/
  | refused {e : Error} {anchor : ℕ} (le : s.anchor ≤ anchor) :
      GateResult store policy s ({ s with anchor := anchor }, .error e)
  /-- The call needs no witness. -/
  | waved (h : ¬(store.hasAnchor = true ∧ policy.participatesInWitness = true)) :
      GateResult store policy s (s, .ok ())
  /-- The anchor was at the mark and has been advanced, and the mark follows it. -/
  | advanced {value : ℕ} {db : Database}
      (atMark : HighWaterMark.read store.toStoreIdentity s.db = .ok s.anchor)
      (lt : s.anchor < value)
      (persisted : HighWaterMark.persist store.toStoreIdentity value s.db = .ok db) :
      GateResult store policy s ({ s with db := db, anchor := value }, .ok ())

section Gate

variable {store : Store} {policy : ExecutionSecurityPolicy} {i : Answers} {s : World}

/-- The anchor never goes back, and what it answers is what it has. -/
theorem beforeExecutingTransition_le {identity : StoreIdentity} {db : Database} {counter : ℕ}
    {marked : Except Error Database} {counter' : ℕ}
    (h : HighWaterMark.beforeExecutingTransition identity (anchorOf i) db counter =
      (marked, counter')) :
    counter ≤ counter' ∧ ∀ db', marked = .ok db' →
      HighWaterMark.read identity db = .ok counter ∧ counter < counter' ∧
        HighWaterMark.persist identity counter' db = .ok db' := by
  unfold HighWaterMark.beforeExecutingTransition at h
  cases hread : HighWaterMark.read identity db with
  | error e =>
    rw [hread] at h
    cases h
    exact ⟨Nat.le_refl _, nofun⟩
  | ok mark =>
    rw [hread] at h
    unfold anchorOf at h
    dsimp only at h
    cases hanchor : i.anchorRead with
    | some e =>
      rw [hanchor] at h
      cases h
      exact ⟨Nat.le_refl _, nofun⟩
    | none =>
      rw [hanchor] at h
      dsimp only at h
      by_cases hat : counter = mark
      · rw [if_pos hat, if_pos rfl] at h
        cases hadvance : i.anchorAdvance with
        | advanced past =>
          rw [hadvance] at h
          obtain ⟨rfl, rfl⟩ := Prod.mk.inj h
          exact ⟨by omega, fun db' hdb' => ⟨congrArg _ hat.symm, by omega, hdb'⟩⟩
        | failed e moved =>
          rw [hadvance] at h
          cases h
          exact ⟨Nat.le_add_right _ _, nofun⟩
      · rw [if_neg hat] at h
        cases h
        exact ⟨Nat.le_refl _, nofun⟩

theorem gate_result : GateResult store policy s (store.gate policy i s) := by
  unfold Store.gate
  cases hsqlite : i.sqlite with
  | some e => exact .refused (Nat.le_refl _)
  | none =>
    dsimp only
    by_cases hneeded : store.hasAnchor = true ∧ policy.participatesInWitness = true
    · rw [if_pos hneeded]
      generalize hpair : HighWaterMark.beforeExecutingTransition store.toStoreIdentity (anchorOf i)
        s.db s.anchor = pair
      obtain ⟨marked, anchor⟩ := pair
      obtain ⟨hle, hmarked⟩ := beforeExecutingTransition_le hpair
      dsimp only
      split
      · exact .refused hle
      · rename_i db hdb
        simp only [bind_eq_ok] at hdb
        obtain ⟨db', hdb', _, -, _, -, hdb⟩ := hdb
        cases hdb
        obtain ⟨hread, hlt, hpersist⟩ := hmarked db hdb'
        exact .advanced hread hlt hpersist
    · rw [if_neg hneeded]
      dsimp only
      split
      · exact .refused (Nat.le_refl _)
      · rename_i db hdb
        simp only [ok_bind, bind_eq_ok] at hdb
        obtain ⟨_, -, _, -, hdb⟩ := hdb
        cases hdb
        exact .waved hneeded

end Gate

/-! ### Every step -/

/-- What a step does to the mark and the anchor. `baselines` are the values that may be seeded. -/
inductive MarkStep (store : Store) (baselines : ℕ → Prop) (i : Answers) (s s' : World) : Prop
  /-- It leaves both alone. -/
  | quiet (mark : s'.db.selectAnchor HighWaterMark.key = s.db.selectAnchor HighWaterMark.key)
      (anchor : s'.anchor = s.anchor)
  /-- It is the gate of `EXECUTING`. -/
  | gate (policy : ExecutionSecurityPolicy) (h : s' = (store.gate policy i s).1)
  /-- It seeds a baseline. -/
  | seeded (value : ℕ) (allowed : baselines value)
      (inserted : HighWaterMark.insertSeed store.toStoreIdentity value s.db = .ok s'.db)
      (anchor : s'.anchor = s.anchor)

/-- The anchor never goes back. -/
theorem MarkStep.anchor_le {store : Store} {baselines : ℕ → Prop} {i : Answers} {s s' : World}
    (h : MarkStep store baselines i s s') : s.anchor ≤ s'.anchor := by
  cases h with
  | quiet mark anchor => exact anchor.ge
  | gate policy h =>
    subst h
    have hresult := @gate_result _ store policy i s
    generalize store.gate policy i s = result at hresult ⊢
    cases hresult with
    | refused le => exact le
    | waved h => exact Nat.le_refl _
    | advanced atMark lt persisted => exact lt.le
  | seeded value allowed inserted anchor => exact anchor.ge

/-- The mark depends on its row only. -/
theorem read_congr {identity : StoreIdentity} {db db' : Database}
    (h : db'.selectAnchor HighWaterMark.key = db.selectAnchor HighWaterMark.key) :
    HighWaterMark.read identity db' = HighWaterMark.read identity db := by
  rw [HighWaterMark.read, h, HighWaterMark.read]

omit [Platform] in
theorem isSeeded_congr {db db' : Database}
    (h : db'.selectAnchor HighWaterMark.key = db.selectAnchor HighWaterMark.key) :
    HighWaterMark.isSeeded db' = HighWaterMark.isSeeded db := by
  rw [HighWaterMark.isSeeded, h, HighWaterMark.isSeeded]

omit [Platform] in
theorem selectAnchor_congr {db db' : Database} (h : db'.anchorState = db.anchorState)
    (key : String) : db'.selectAnchor key = db.selectAnchor key := by
  rw [Database.selectAnchor, h, Database.selectAnchor]

/-- A seed is written where there is no mark, and reads back. -/
theorem insertSeed_ok {identity : StoreIdentity} {value : ℕ} {db db' : Database}
    (h : HighWaterMark.insertSeed identity value db = .ok db') :
    HighWaterMark.isSeeded db = false ∧ HighWaterMark.isSeeded db' = true ∧
      HighWaterMark.read identity db' = .ok value := by
  simp only [HighWaterMark.insertSeed, bind_eq_ok] at h
  obtain ⟨row, hrow, h⟩ := h
  have hkey := HighWaterMark.key_of_row hrow
  split at h
  · rename_i db'' hdb
    cases h
    unfold Database.insertAnchor Database.constraintFailed fail at hdb
    split_ifs at hdb with hany
    cases hdb
    have hnone : db.selectAnchor HighWaterMark.key = none := by
      rw [Database.selectAnchor, List.find?_eq_none]
      intro r hr hsame
      refine hany (List.any_eq_true.mpr ⟨r, hr, ?_⟩)
      rw [hkey]
      exact hsame
    have hselect : Database.selectAnchor { db with anchorState := db.anchorState ++ [row] }
        HighWaterMark.key = some row := by
      rw [Database.selectAnchor] at hnone ⊢
      rw [List.find?_append, hnone, Option.none_or]
      simp [hkey]
    refine ⟨?_, ?_, HighWaterMark.read_of_row hrow hselect⟩
    · rw [HighWaterMark.isSeeded, hnone]
      rfl
    · rw [HighWaterMark.isSeeded, hselect]
      rfl
  · cases h

/-- A persisted mark is a mark. -/
theorem isSeeded_of_persist {identity : StoreIdentity} {value : ℕ} {db db' : Database}
    (h : HighWaterMark.persist identity value db = .ok db') :
    HighWaterMark.isSeeded db' = true := by
  simp only [HighWaterMark.persist, bind_eq_ok] at h
  obtain ⟨row, hrow, h⟩ := h
  cases h
  rw [HighWaterMark.isSeeded, ← HighWaterMark.key_of_row hrow,
    HighWaterMark.selectAnchor_upsertAnchor]
  rfl

namespace Store

variable {store : Store} {baselines : ℕ → Prop}

theorem anchorState_of_createBlock {c : RecoveryContract} {now t : DateTime} {i : Answers}
    {db db' : Database} (h : store.createBlock c now i db = .ok (db', t)) :
    db'.anchorState = db.anchorState := by
  simp only [createBlock, conflictOnIntegrity_eq_ok, bind_eq_ok] at h
  obtain ⟨_, -, _, -, code, -, db₁, hinsert, _, -, db₂, haudit, _, -, _, -, h⟩ := h
  cases h
  obtain ⟨-, -, rfl⟩ := insertContract_ok hinsert
  obtain ⟨tag, -, rfl⟩ := insertAudit_ok haudit
  rfl

/-- Every kind of step is a `MarkStep`. -/
theorem markLaws (store : Store) (call : ℕ) (baselines : ℕ → Prop) :
    StepLaws store call (MarkStep store baselines) where
  refl _ _ := .quiet rfl rfl
  recorded _ _ _ _ _ := .quiet rfl rfl
  createBlock _ _ _ := does_transact (fun _ _ => .quiet rfl rfl) fun _ _ _ _ h =>
    .quiet (selectAnchor_congr (anchorState_of_createBlock h) _) rfl
  replace _ _ _ _ := does_transact (fun _ _ => .quiet rfl rfl) fun _ _ _ _ h =>
    .quiet (selectAnchor_congr (anchorState_of_replaceBlock h) _) rfl
  gate policy := does_atomic fun _ _ => .gate policy rfl

end Store

/-- Every step of every operation is a `MarkStep`, for the baselines that the operation seeds. -/
theorem Operation.does_mark {store : Store} {call : ℕ} {baselines : ℕ → Prop}
    (op : Operation store) (hbaselines : ∀ value handle,
      op = .provisionAnchorBaseline value handle → baselines value.toNat) :
    (op.code call).Does (MarkStep store baselines) := by
  refine op.does (Store.markLaws store call baselines) fun value handle hop => ?_
  refine (Store.markLaws store call baselines).provisionAnchorBaseline ?_ fun t => ?_
  · exact does_execute (fun _ _ => .quiet rfl rfl) fun i s db h =>
      .seeded value.toNat (hbaselines value handle hop) h rfl
  · exact does_execute (fun _ _ => .quiet rfl rfl) fun i s db h =>
      .quiet (selectAnchor_insertMarker h) rfl

end Tier1
