import Mathlib.Data.List.Sublists
import PfsenseMcp.Tier1.Fleet
import PfsenseMcp.Tier1.Provisioning

/-!
# Two stores on one witness

`build_production_runtime` and `build_write_batch1_production_runtime` read the same
`PFSENSE_TIER1_WITNESS_*` variables, so the two contract stores share the counter of one witness
daemon. Each store keeps a high-water mark of its own and demands that the counter equals it.

A run is a sequence of complete actions on the two stores. A store may be provisioned with the value
that the counter has, a contract of it may be brought into `EXECUTING`, and anything else may happen
to its tables that leaves `anchor_state` alone.

## Main results

* `run_transition_of_completes`: a transition that is complete otherwise is refused exactly if the
  counter is not at the mark;
* `not_refused_iff`: no transition is refused exactly if no store makes one after the other store
  has made one since it was provisioned.
-/

namespace Tier1

open Python Concurrency Procedure RecoveryState

/-! ### The witness -/

/-- `AdvanceOutcome`. -/
structure AdvanceOutcome where
  conflict : Bool
  value : ℕ

namespace WitnessService

/-- `WitnessService.read`. The TPM never fails: `read_counter` and `increment_counter` work on a
counter. -/
def read (counter : ℕ) : ℕ := counter

/-- `WitnessService.advance`, with the counter after it. -/
def advance (expectedCurrent counter : ℕ) : AdvanceOutcome × ℕ :=
  if counter ≠ expectedCurrent then (⟨true, counter⟩, counter)
  else (⟨false, counter + 1⟩, counter + 1)

/-- `TpmHostWitnessAnchor` over this service. -/
def anchor : AntiRollbackAnchor ℕ where
  read counter := (.ok (read counter), counter)
  advance expectedCurrent counter :=
    match advance expectedCurrent counter with
    | (outcome, counter) =>
      (if outcome.conflict = true then
          fail .anchorConflict "Anchor witness service reported a conflicting current value."
        else .ok outcome.value, counter)

end WitnessService

/-! ### The order of actions -/

/-- A runtime with a contract store of its own: `build_production_runtime` and
`build_write_batch1_production_runtime`. -/
inductive Runtime where
  | aliasDescription
  | writeBatch1
deriving DecidableEq, Repr

/-- The other runtime. -/
def Runtime.other : Runtime → Runtime
  | .aliasDescription => .writeBatch1
  | .writeBatch1 => .aliasDescription

/-- What happens on the store of a runtime. -/
inductive Action where
  /-- `provision_anchor_baseline` returns. -/
  | provision (runtime : Runtime)
  /-- A contract is to be brought from `PREPARED` into `EXECUTING`. -/
  | transition (runtime : Runtime)
  /-- Anything else. -/
  | work (runtime : Runtime)
deriving DecidableEq, Repr

/-- The other store has made a transition since the store was provisioned. -/
def Overtaken (as : List Action) (r : Runtime) : Prop :=
  List.Sublist [.provision r, .transition r.other] as

/-- Some store makes a transition after the other one has made one since it was provisioned. -/
def Alternates (as : List Action) : Prop :=
  ∃ r : Runtime, List.Sublist [.provision r, .transition r.other, .transition r] as

theorem concat_sublist_concat {as xs : List Action} {a x : Action} :
    List.Sublist (xs ++ [x]) (as ++ [a]) ↔
      List.Sublist (xs ++ [x]) as ∨ x = a ∧ List.Sublist xs as := by
  constructor
  · intro h
    obtain ⟨l, l', heq, hl, hl'⟩ := List.sublist_append_iff.1 h
    rcases List.sublist_singleton.1 hl' with rfl | rfl
    · rw [List.append_nil] at heq
      exact .inl (heq ▸ hl)
    · obtain ⟨rfl, hx⟩ := List.append_inj' heq rfl
      exact .inr ⟨List.cons_eq_cons.1 hx |>.1, hl⟩
  · rintro (h | ⟨rfl, h⟩)
    · exact h.trans (List.sublist_append_left _ _)
    · exact h.append (List.Sublist.refl _)

theorem overtaken_concat {as : List Action} {a : Action} {r : Runtime} :
    Overtaken (as ++ [a]) r ↔ Overtaken as r ∨ .transition r.other = a ∧ .provision r ∈ as :=
  (@concat_sublist_concat _ [.provision r] _ _).trans
    (or_congr_right (and_congr_right fun _ => List.singleton_sublist))

theorem alternates_concat {as : List Action} {a : Action} :
    Alternates (as ++ [a]) ↔ Alternates as ∨ ∃ r, .transition r = a ∧ Overtaken as r := by
  unfold Alternates Overtaken
  rw [← exists_or]
  exact exists_congr fun r =>
    @concat_sublist_concat _ [.provision r, .transition r.other] _ _

theorem other_ne (r : Runtime) : r.other ≠ r := by cases r <;> exact nofun

theorem other_other (r : Runtime) : r.other.other = r := by cases r <;> rfl

theorem eq_or_eq_other (r r' : Runtime) : r' = r ∨ r' = r.other := by
  cases r <;> cases r' <;> simp [Runtime.other]

section Model

variable [Platform]

/-- The witness answers, and no one else advances its counter meanwhile. -/
def Reliable (i : Answers) : Prop := i.anchorRead = none ∧ i.anchorAdvance = .advanced 0

section Gate

variable {store : StoreIdentity} {db : Database} {i : Answers} {mark counter : ℕ}

/-- The anchor of a reliable step is the witness daemon. -/
theorem beforeExecutingTransition_reliable (hi : Reliable i) :
    HighWaterMark.beforeExecutingTransition store (anchorOf i) db counter =
      HighWaterMark.beforeExecutingTransition store WitnessService.anchor db counter := by
  unfold HighWaterMark.beforeExecutingTransition anchorOf WitnessService.anchor
  rw [hi.1, hi.2]
  cases HighWaterMark.read store db with
  | error e => rfl
  | ok persisted =>
    -- both advance from the value that they have just read
    simp only [WitnessService.read, WitnessService.advance, ne_eq, not_true_eq_false, if_false,
      if_true, Bool.false_eq_true, Nat.add_zero]

/-- The anchor protocol advances mark and counter together, or refuses. -/
theorem beforeExecutingTransition_anchor (hmark : HighWaterMark.read store db = .ok mark) :
    HighWaterMark.beforeExecutingTransition store WitnessService.anchor db counter =
      if counter = mark then (HighWaterMark.persist store (mark + 1) db, mark + 1)
      else (fail .wholeStoreRollbackDetected
        "Anti-rollback anchor does not match the store's recorded high-water mark.", counter) := by
  rw [HighWaterMark.beforeExecutingTransition, hmark]
  by_cases h : counter = mark
  · subst h
    simp [WitnessService.anchor, WitnessService.read, WitnessService.advance]
  · simp [WitnessService.anchor, WitnessService.read, h]

end Gate

/-! ### One transition -/

namespace Op

variable {α β : Type} {inputs : ℕ → Answers} {s : World}

/-- The procedure changes nothing, and does not look at the anchor. -/
def Observes (p : Op α) : Prop :=
  ∀ inputs (s : World) w,
    p.run inputs { s with anchor := w } =
      ⟨(p.run inputs s).result, { s with anchor := w }, (p.run inputs s).rest⟩

theorem observes_check (x : Except Error α) : Observes (check x) := by
  intro inputs s w
  cases x <;> rfl

theorem observes_query (f : Database → Except Error α) : Observes (query f) := by
  intro inputs s w
  unfold query atomic
  rw [run_atom, run_atom]
  exact observes_check _ _ s w

theorem observes_consult (f : Answers → Except Error α) : Observes (consult f) := by
  intro inputs s w
  unfold consult atomic
  rw [run_atom, run_atom]
  exact observes_check _ _ s w

/-- A procedure leaves over what it has not consumed. -/
theorem rest_run (p : Op α) (inputs : ℕ → Answers) (s : World) :
    ∃ k, (p.run inputs s).rest = fun n => inputs (n + k) := by
  induction p generalizing inputs s with
  | ret a => exact ⟨0, rfl⟩
  | raise e => exact ⟨0, rfl⟩
  | atom u f ih =>
    obtain ⟨k, hk⟩ := ih (inputs 0) s (fun n => inputs (n + 1)) (u (inputs 0) s)
    refine ⟨k + 1, ?_⟩
    rw [run_atom, hk]
    funext n
    rw [Nat.add_assoc]

theorem Observes.state {p : Op α} (h : Observes p) (inputs : ℕ → Answers) (s : World) :
    (p.run inputs s).state = s := by
  have hrun := h inputs s s.anchor
  exact congrArg Ending.state hrun

theorem Observes.bind {p : Op α} {f : α → Op β} (hp : Observes p) (hf : ∀ a, Observes (f a)) :
    Observes (p >>= f) := by
  intro inputs s w
  rw [run_bind, run_bind, hp inputs s w]
  have hstate := hp.state inputs s
  generalize p.run inputs s = ending at hstate ⊢
  obtain ⟨result, state, rest⟩ := ending
  have hstate : state = s := hstate
  subst hstate
  cases result with
  | error e => rfl
  | ok a => exact hf a rest state w

/-- A step that succeeds is followed by the rest. -/
theorem run_atomic_bind_ok {f : Answers → World → World × Except Error α} {g : α → Op β} {b : β}
    (h : ((atomic f >>= g).run inputs s).result = .ok b) :
    ∃ a s', f (inputs 0) s = (s', .ok a) ∧
      (atomic f >>= g).run inputs s = (g a).run (fun n => inputs (n + 1)) s' := by
  unfold atomic at h ⊢
  rw [atom_bind, run_atom] at h ⊢
  obtain ⟨s', x, hx⟩ : ∃ s' x, f (inputs 0) s = (s', x) := ⟨_, _, rfl⟩
  rw [hx] at h ⊢
  cases x with
  | error e => cases h
  | ok a => exact ⟨a, s', rfl, rfl⟩

theorem run_check_bind_ok {x : Except Error α} {g : α → Op β} {b : β}
    (h : ((check x >>= g).run inputs s).result = .ok b) :
    ∃ a, x = .ok a ∧ (check x >>= g).run inputs s = (g a).run inputs s := by
  cases x with
  | error e => cases h
  | ok a => exact ⟨a, rfl, rfl⟩

theorem run_query_bind_ok {f : Database → Except Error α} {g : α → Op β} {b : β}
    (h : ((query f >>= g).run inputs s).result = .ok b) :
    ∃ a, f s.db = .ok a ∧
      (query f >>= g).run inputs s = (g a).run (fun n => inputs (n + 1)) s := by
  obtain ⟨a, s', hstep, hrun⟩ := run_atomic_bind_ok h
  cases hsqlite : (inputs 0).sqlite with
  | some e =>
    rw [hsqlite] at hstep
    cases hstep
  | none =>
    simp only [hsqlite, Prod.mk.injEq] at hstep
    obtain ⟨rfl, hf⟩ := hstep
    exact ⟨a, hf, hrun⟩

/-- A query without a failure hands over what it reads. -/
theorem result_query_bind {f : Database → Except Error α} {g : α → Op β}
    (h : (inputs 0).sqlite = none) : ((query f >>= g).run inputs s).result =
      f s.db >>= fun a => ((g a).run (fun n => inputs (n + 1)) s).result := by
  unfold query atomic
  rw [atom_bind, run_atom]
  dsimp only
  rw [h]
  dsimp only
  cases f s.db with
  | error e => rfl
  | ok a => rfl

theorem run_consult_bind_ok {f : Answers → Except Error α} {g : α → Op β} {b : β}
    (h : ((consult f >>= g).run inputs s).result = .ok b) :
    ∃ a, (consult f >>= g).run inputs s = (g a).run (fun n => inputs (n + 1)) s := by
  obtain ⟨a, s', hstep, hrun⟩ := run_atomic_bind_ok h
  obtain ⟨rfl, -⟩ := Prod.mk.inj hstep
  exact ⟨a, hrun⟩

theorem execute_step_ok {f : Database → Except Error Database} {i : Answers} {s' : World} {u : Unit}
    (h : (match i.sqlite with
      | some e => (s, Except.error e)
      | none =>
        match f s.db with
        | .error e => (s, .error e)
        | .ok db => ({ s with db := db }, .ok ())) = (s', .ok u)) :
    ∃ db, f s.db = .ok db ∧ s' = { s with db := db } := by
  cases hsqlite : i.sqlite with
  | some e =>
    rw [hsqlite] at h
    cases h
  | none =>
    rw [hsqlite] at h
    dsimp only at h
    cases hf : f s.db with
    | error e =>
      rw [hf] at h
      cases h
    | ok db =>
      rw [hf] at h
      cases h
      exact ⟨db, rfl, rfl⟩

theorem run_execute_bind_ok {f : Database → Except Error Database} {g : Unit → Op β} {b : β}
    (h : ((execute f >>= g).run inputs s).result = .ok b) :
    ∃ db, f s.db = .ok db ∧ (execute f >>= g).run inputs s =
      (g ()).run (fun n => inputs (n + 1)) { s with db := db } := by
  obtain ⟨u, s', hstep, hrun⟩ := run_atomic_bind_ok h
  obtain ⟨db, hf, rfl⟩ := execute_step_ok hstep
  exact ⟨db, hf, hrun⟩

theorem run_execute_ok {f : Database → Except Error Database} {u : Unit}
    (h : ((execute f).run inputs s).result = .ok u) :
    ∃ db, f s.db = .ok db ∧ ((execute f).run inputs s).state = { s with db := db } := by
  rw [← bind_pure (execute f)] at h ⊢
  obtain ⟨db, hf, hrun⟩ := run_execute_bind_ok h
  refine ⟨db, hf, ?_⟩
  rw [hrun]
  rfl

end Op

open Op

/-- What `transition` into `EXECUTING` does before its gate. -/
def Store.beforeGate (store : Store) (contractId : String) (expectedVersion : ℤ)
    (eventType : String) : Op (RecoveryContract × DateTime) := do
  Op.check (demand (eventType ≠ "") .contractValidation
    "Recovery Contract transition event type is invalid.")
  Op.check (requireTransition prepared executing false)
  Op.check (demand (executing ≠ verified) .contractConflict
    "VERIFIED requires an atomically sealed post-forward fingerprint.")
  Op.check (demand (executing ≠ rolledBack) .contractConflict
    "ROLLED_BACK requires atomically verified lifecycle continuity.")
  let current ← store.load contractId
  Op.check (demand (current.state = prepared ∧ current.stateVersion = expectedVersion)
    .contractConflict "Recovery Contract state changed before atomic transition.")
  let instant ← Store.now
  Op.check (demand ((current.state = preparing ∨ current.state = prepared) →
      current.isExpired instant = true → executing = expired) .contractConflict
    "Expired Recovery Contract may only transition to EXPIRED.")
  Op.check (demand (current.isConfirmed = true ∧ current.isExpired instant = false)
    .contractConflict "Recovery Contract is unconfirmed or expired.")
  return (current, instant)

/-- The step of the gate. -/
def Store.gate (store : Store) (policy : ExecutionSecurityPolicy) (i : Answers) (s : World) :
    World × Except Error Unit :=
  match i.sqlite with
  | some e => (s, .error e)
  | none =>
    let (marked, anchor) :=
      if store.hasAnchor ∧ policy.participatesInWitness then
        HighWaterMark.beforeExecutingTransition store.toStoreIdentity (anchorOf i) s.db s.anchor
      else (.ok s.db, s.anchor)
    match (do
      let db ← marked
      store.checkExecuteAllowed db
      commitFailure i
      .ok db) with
    | .error e => ({ s with anchor := anchor }, .error e)
    | .ok db => ({ s with db := db, anchor := anchor }, .ok ())

/-- What `transition` into `EXECUTING` does after its gate. -/
def Store.afterGate (store : Store) (call : ℕ) (eventType : String)
    (seen : RecoveryContract × DateTime) : Op RecoveryContract := do
  let updated ← Op.check (RecoveryContract.ofFields (Store.moved seen.1 executing))
  store.replace call seen.1 updated eventType (some seen.2)

section Transition

variable {store : Store} {contractId eventType : String} {version : ℤ} {call : ℕ}
  {policy : ExecutionSecurityPolicy}

/-- With an anchor, `transition` into `EXECUTING` passes the gate between two parts. -/
theorem transition_eq (hanchor : store.hasAnchor = true) :
    store.transition call contractId prepared version executing (some policy) eventType =
      store.beforeGate contractId version eventType >>= fun seen =>
        atomic (store.gate policy) >>= fun _ => store.afterGate call eventType seen := by
  change _ = store.beforeGate contractId version eventType >>= fun seen =>
    store.executingGate policy >>= fun _ => store.afterGate call eventType seen
  unfold Store.transition Store.beforeGate Store.afterGate Store.enterExecuting
  simp only [if_pos, hanchor, true_or, bind_assoc, pure_bind]

theorem observes_verifyRelatedState (contract : RecoveryContract) :
    Observes (store.verifyRelatedState contract) := by
  refine (observes_query _).bind fun _ => ?_
  refine (observes_check _).bind fun _ => ?_
  refine (observes_query _).bind fun _ => ?_
  exact (observes_check _).bind fun _ => observes_check (.ok _)

theorem observes_load : Observes (store.load contractId) := by
  refine (observes_query _).bind fun _ => ?_
  refine (observes_check _).bind fun _ => ?_
  refine (observes_check _).bind fun _ => ?_
  exact (observes_verifyRelatedState _).bind fun _ => observes_check (.ok _)

theorem observes_beforeGate : Observes (store.beforeGate contractId version eventType) := by
  refine (observes_check _).bind fun _ => ?_
  refine (observes_check _).bind fun _ => ?_
  refine (observes_check _).bind fun _ => ?_
  refine (observes_check _).bind fun _ => ?_
  refine observes_load.bind fun _ => ?_
  refine (observes_check _).bind fun _ => ?_
  refine (observes_consult _).bind fun _ => ?_
  refine (observes_check _).bind fun _ => ?_
  exact (observes_check _).bind fun _ => observes_check (.ok _)

theorem anchorState_of_moveReservation {db db' : Database} {current updated : RecoveryContract}
    (h : Store.moveReservation db current updated = .ok db') : db'.anchorState = db.anchorState := by
  unfold Store.moveReservation at h
  split_ifs at h
  · unfold Database.insertReservation Database.constraintFailed fail at h
    split_ifs at h
    cases h
    rfl
  · cases h
    rfl
  · cases h
    rfl

/-- A change of a contract leaves the mark alone. -/
theorem anchorState_of_replaceBlock {current updated : RecoveryContract} {i : Answers}
    {db db' : Database} {t : DateTime}
    (h : store.replaceBlock current updated eventType i db = .ok (db', t)) :
    db'.anchorState = db.anchorState := by
  simp only [Store.replaceBlock, Store.conflictOnIntegrity_eq_ok, bind_eq_ok] at h
  obtain ⟨_, -, row, -, a, -, _, -, db₁, hmove, code, -, _, -, ⟨db₂, n⟩, hwrite, _, -, _, -, db₃,
    haudit, db₄, hcooldown, _, -, _, -, h⟩ := h
  cases h
  obtain ⟨tag, -, rfl⟩ := Store.insertAudit_ok haudit
  have hwrite : db₂.anchorState = db₁.anchorState := by
    unfold Database.updateContract Database.constraintFailed fail at hwrite
    dsimp only at hwrite
    split_ifs at hwrite
    cases hwrite
    rfl
  have hcooled : db'.anchorState = db₂.anchorState := by
    unfold Store.startCooldown at hcooldown
    cases hpolicy : store.ratePolicy with
    | none =>
      rw [hpolicy] at hcooldown
      cases hcooldown
      rfl
    | some limits =>
      rw [hpolicy] at hcooldown
      dsimp only at hcooldown
      split_ifs at hcooldown
      · simp only [bind_eq_ok, RateLimits.recordTerminal] at hcooldown
        obtain ⟨now, -, hcooldown⟩ := hcooldown
        split at hcooldown
        · cases hcooldown
        · cases hcooldown
          rfl
      · cases hcooldown
        rfl
  rw [hcooled, hwrite, anchorState_of_moveReservation hmove]

/-- What comes after the gate leaves mark and counter alone. -/
theorem afterGate_ok {inputs : ℕ → Answers} {s : World} {seen : RecoveryContract × DateTime}
    {c : RecoveryContract}
    (h : ((store.afterGate call eventType seen).run inputs s).result = .ok c) :
    ((store.afterGate call eventType seen).run inputs s).state.anchor = s.anchor ∧
      ((store.afterGate call eventType seen).run inputs s).state.db.anchorState =
        s.db.anchorState := by
  unfold Store.afterGate at h ⊢
  obtain ⟨updated, -, hrun⟩ := run_check_bind_ok h
  rw [hrun] at h ⊢
  unfold Store.replace Store.transact atomic at h ⊢
  rw [run_atom] at h ⊢
  cases hsqlite : (inputs 0).sqlite with
  | some e =>
    simp only [hsqlite] at h
    cases h
  | none =>
    simp only [hsqlite] at h ⊢
    cases hblock : (do
        let result ← store.replaceBlock seen.1 updated eventType (inputs 0) s.db
        commitFailure (inputs 0)
        .ok result) with
    | error e =>
      simp only [hblock] at h
      cases h
    | ok result =>
      obtain ⟨db, t⟩ := result
      simp only [hblock] at h ⊢
      simp only [bind_eq_ok] at hblock
      obtain ⟨⟨db', t'⟩, hreplace, _, -, hblock⟩ := hblock
      cases hblock
      cases hfault : invokeFault (inputs 0) .afterCommit with
      | error e =>
        simp only [hfault] at h
        cases h
      | ok u => exact ⟨rfl, anchorState_of_replaceBlock hreplace⟩

end Transition

/-- The arguments of a transition from `PREPARED` to `EXECUTING`. -/
structure Attempt where
  call : ℕ
  contractId : String
  expectedVersion : ℤ
  policy : ExecutionSecurityPolicy
  eventType : String

namespace Attempt

variable (a : Attempt) (store : Store) (inputs : ℕ → Answers) (s : World)

/-- The call of `transition`. -/
def code : Op RecoveryContract :=
  store.transition a.call a.contractId prepared a.expectedVersion executing (some a.policy)
    a.eventType

/-- The call returns if the witness is at the mark. -/
def Completes : Prop :=
  ∃ mark c, HighWaterMark.read store.toStoreIdentity s.db = .ok mark ∧
    ((a.code store).run inputs { s with anchor := mark }).result = .ok c

end Attempt

/-- The error of a store that takes itself for restored. -/
def rollbackDetected : Error :=
  ⟨.wholeStoreRollbackDetected,
    "Anti-rollback anchor does not match the store's recorded high-water mark."⟩

section Attempts

variable {store : Store} {policy : ExecutionSecurityPolicy} {i : Answers} {s s' : World} {mark : ℕ}
  (hanchor : store.hasAnchor = true)

include hanchor

/-- The gate refuses a counter that is not at the mark, and changes nothing. -/
theorem gate_of_ne (hparticipates : policy.participatesInWitness = true) (hi : Reliable i)
    (hmark : HighWaterMark.read store.toStoreIdentity s.db = .ok mark) (hsqlite : i.sqlite = none)
    (hne : s.anchor ≠ mark) : store.gate policy i s = (s, .error rollbackDetected) := by
  unfold Store.gate
  rw [hsqlite]
  dsimp only
  rw [if_pos ⟨hanchor, hparticipates⟩, beforeExecutingTransition_reliable hi,
    beforeExecutingTransition_anchor hmark, if_neg hne]
  rfl

/-- An accepted gate has taken counter and mark one further. -/
theorem gate_ok (hparticipates : policy.participatesInWitness = true) (hi : Reliable i)
    (hmark : HighWaterMark.read store.toStoreIdentity s.db = .ok mark)
    (h : store.gate policy i s = (s', .ok ())) :
    i.sqlite = none ∧ s'.anchor = mark + 1 ∧
      HighWaterMark.read store.toStoreIdentity s'.db = .ok (mark + 1) := by
  unfold Store.gate at h
  cases hsqlite : i.sqlite with
  | some e =>
    rw [hsqlite] at h
    cases h
  | none =>
    rw [hsqlite] at h
    dsimp only at h
    rw [if_pos ⟨hanchor, hparticipates⟩, beforeExecutingTransition_reliable hi,
      beforeExecutingTransition_anchor hmark] at h
    by_cases hat : s.anchor = mark
    · rw [if_pos hat] at h
      dsimp only at h
      cases hpersist : HighWaterMark.persist store.toStoreIdentity (mark + 1) s.db with
      | error e =>
        rw [hpersist] at h
        cases h
      | ok db =>
        rw [hpersist] at h
        split at h
        · cases h
        · rename_i db' hdb
          simp only [bind_eq_ok] at hdb
          obtain ⟨_, ⟨⟩, _, -, _, -, ⟨⟩⟩ := hdb
          cases h
          exact ⟨rfl, rfl, HighWaterMark.read_persist hpersist⟩
    · rw [if_neg hat] at h
      cases h

end Attempts

section Transitions

variable {store : Store} {a : Attempt} {inputs : ℕ → Answers} {s : World} {mark : ℕ}
  (hanchor : store.hasAnchor = true) (hparticipates : a.policy.participatesInWitness = true)
  (hreliable : ∀ n, Reliable (inputs n)) (h : a.Completes store inputs s)
  (hmark : HighWaterMark.read store.toStoreIdentity s.db = .ok mark)

include hanchor hparticipates hreliable h hmark

omit hparticipates in
/-- The parts of a transition that is complete. -/
theorem exists_parts : ∃ seen rest s', (∀ w, (a.code store).run inputs { s with anchor := w } =
      (atomic (store.gate a.policy) >>= fun _ => store.afterGate a.call a.eventType seen).run rest
        { s with anchor := w }) ∧ Reliable (rest 0) ∧
    store.gate a.policy (rest 0) { s with anchor := mark } = (s', .ok ()) ∧
    ∃ c, ((store.afterGate a.call a.eventType seen).run (fun n => rest (n + 1)) s').result = .ok c := by
  obtain ⟨mark', c, hmark', hresult⟩ := h
  cases hmark.symm.trans hmark'
  have hpre := @observes_beforeGate _ store a.contractId a.eventType a.expectedVersion inputs s
  obtain ⟨k, hrest⟩ :=
    rest_run (store.beforeGate a.contractId a.expectedVersion a.eventType) inputs s
  rw [Attempt.code, transition_eq hanchor, run_bind, hpre] at hresult
  cases hseen : ((store.beforeGate a.contractId a.expectedVersion a.eventType).run inputs s).result
    with
  | error e =>
    rw [hseen] at hresult
    cases hresult
  | ok seen =>
    rw [hseen] at hresult
    obtain ⟨_, s', hgate, hafter⟩ := run_atomic_bind_ok hresult
    refine ⟨seen, _, s', fun w => ?_, ?_, hgate, c, ?_⟩
    · rw [Attempt.code, transition_eq hanchor, run_bind, hpre, hseen]
    · rw [hrest]
      exact hreliable _
    · rw [← hafter]
      exact hresult

/-- A transition that is complete otherwise takes counter and mark one further, if the counter is
at the mark. -/
theorem run_transition_of_eq (heq : s.anchor = mark) :
    (∃ c, ((a.code store).run inputs s).result = .ok c) ∧
      ((a.code store).run inputs s).state.anchor = mark + 1 ∧
      HighWaterMark.read store.toStoreIdentity ((a.code store).run inputs s).state.db =
        .ok (mark + 1) := by
  obtain ⟨seen, rest, s', hrun, hi, hgate, c, hafter⟩ :=
    exists_parts hanchor hreliable h hmark
  have hrun := hrun s.anchor
  rw [← heq] at hgate
  rw [run_atomic hgate] at hrun
  obtain ⟨-, hcounter, hread⟩ := gate_ok hanchor hparticipates hi (heq ▸ hmark) hgate
  obtain ⟨hkeeps, hkept⟩ := afterGate_ok hafter
  have hrun : (a.code store).run inputs s = _ := hrun
  rw [hrun]
  refine ⟨⟨c, hafter⟩, hkeeps.trans (heq ▸ hcounter), ?_⟩
  rw [HighWaterMark.read, Database.selectAnchor, hkept]
  exact heq ▸ hread

/-- It is refused, and changes nothing, if the counter is not at the mark. -/
theorem run_transition_of_ne (hne : s.anchor ≠ mark) :
    ((a.code store).run inputs s).result = .error rollbackDetected ∧
      ((a.code store).run inputs s).state = s := by
  obtain ⟨seen, rest, s', hrun, hi, hgate, -⟩ :=
    exists_parts hanchor hreliable h hmark
  have hsqlite := (gate_ok (s := { s with anchor := mark }) hanchor hparticipates hi hmark hgate).1
  have hrefused := gate_of_ne hanchor hparticipates hi hmark hsqlite hne
  have hrun : (a.code store).run inputs s = _ := hrun s.anchor
  rw [hrun, atomic, atom_bind, run_atom, hrefused]
  exact ⟨rfl, rfl⟩

end Transitions

/-! ### Runs -/

/-- Two stores, and the counter of the witness that they share. -/
structure Deployment where
  worlds : Runtime → World
  witness : ℕ

namespace Deployment

/-- What a call on a store finds. -/
def seen (d : Deployment) (r : Runtime) : World := { d.worlds r with anchor := d.witness }

/-- The deployment after a call on a store. -/
def after (d : Deployment) (r : Runtime) (s : World) : Deployment :=
  ⟨Function.update d.worlds r s, s.anchor⟩

end Deployment

/-- The runtime of a store can be built: the anchor is seeded and its provisioning is complete. -/
def Provisioned (store : Store) (s : World) : Prop :=
  ∃ inputs status, (store.anchorProvisioningStatus.run inputs s).result = .ok status ∧
    status.seeded = true ∧ status.complete = true

/-- An action takes a deployment to another one; the Boolean says whether it is refused. -/
inductive Performs (stores : Runtime → Store) (d : Deployment) : Action → Bool → Deployment → Prop
  /-- A store is provisioned with the value that the counter has. -/
  | provision (r : Runtime) (value : ℤ) (handle : String) (inputs : ℕ → Answers)
      (current : value = d.witness)
      (h : (((stores r).provisionAnchorBaseline value handle).run inputs (d.seen r)).result = .ok ()) :
      Performs stores d (.provision r) false
        (d.after r (((stores r).provisionAnchorBaseline value handle).run inputs (d.seen r)).state)
  /-- A transition that takes part in the witness and is complete otherwise. -/
  | transition (r : Runtime) (a : Attempt) (inputs : ℕ → Answers)
      (provisioned : Provisioned (stores r) (d.seen r))
      (participates : a.policy.participatesInWitness = true)
      (reliable : ∀ n, Reliable (inputs n)) (completes : a.Completes (stores r) inputs (d.seen r)) :
      Performs stores d (.transition r)
        (match ((a.code (stores r)).run inputs (d.seen r)).result with
          | .error e => e.cls = .wholeStoreRollbackDetected
          | .ok _ => false)
        (d.after r ((a.code (stores r)).run inputs (d.seen r)).state)
  /-- The tables change in another way; the store is not restored, so its mark stays. -/
  | work (r : Runtime) (s : World) (mark : s.db.anchorState = (d.worlds r).db.anchorState)
      (counter : s.anchor = d.witness) : Performs stores d (.work r) false (d.after r s)

/-- The runs of two stores: the actions so far, which of them were refused, and the deployment. -/
inductive Runs (stores : Runtime → Store) : List Action → List Bool → Deployment → Prop
  /-- No store has been provisioned. -/
  | start (d : Deployment) (h : ∀ r, HighWaterMark.isSeeded (d.worlds r).db = false) :
      Runs stores [] [] d
  | step {as : List Action} {bs : List Bool} {d d' : Deployment} {a : Action} {b : Bool}
      (h : Runs stores as bs d) (hstep : Performs stores d a b d') :
      Runs stores (as ++ [a]) (bs ++ [b]) d'

/-- Where a store stands, as long as no transition has been refused. -/
structure Marks (store : Store) (as : List Action) (r : Runtime) (d : Deployment) : Prop where
  unseeded : .provision r ∉ as → HighWaterMark.isSeeded (d.worlds r).db = false
  seeded : .provision r ∈ as → HighWaterMark.isSeeded (d.worlds r).db = true ∧ ∃ mark,
    HighWaterMark.read store.toStoreIdentity (d.worlds r).db = .ok mark ∧ mark ≤ d.witness ∧
      (Overtaken as r ↔ mark ≠ d.witness)

/-- The marker of a completed provisioning leaves the high-water mark alone. -/
theorem selectAnchor_insertMarker {identity : StoreIdentity} {handle : String} {value : ℕ}
    {provisionedAt : DateTime} {db db' : Database}
    (h : ProvisioningRecord.insertMarker identity handle value provisionedAt db = .ok db') :
    db'.selectAnchor HighWaterMark.key = db.selectAnchor HighWaterMark.key := by
  simp only [ProvisioningRecord.insertMarker, bind_eq_ok] at h
  obtain ⟨encoded, -, code, -, h⟩ := h
  split at h
  · rename_i db'' hdb
    cases h
    unfold Database.insertAnchor Database.constraintFailed fail at hdb
    split_ifs at hdb
    cases hdb
    have hother : ProvisioningRecord.key ≠ HighWaterMark.key := by decide
    rw [Database.selectAnchor, List.find?_append]
    simp [Database.selectAnchor, hother]
  · cases h

/-- What a call of `provision_anchor_baseline` that returns has found and written: the seed, which
it has read back, and then the marker. -/
theorem provision_steps {store : Store} {value : ℤ} {handle : String} {inputs : ℕ → Answers}
    {s : World}
    (h : ((store.provisionAnchorBaseline value handle).run inputs s).result = .ok ()) :
    HighWaterMark.isSeeded s.db = false ∧
      ((store.provisionAnchorBaseline value handle).run inputs s).state.anchor = s.anchor ∧
      ∃ (db : Database) (mark : ℕ) (provisionedAt : DateTime), value = mark ∧
        HighWaterMark.isSeeded db = true ∧
        HighWaterMark.read store.toStoreIdentity db = .ok mark ∧
        ProvisioningRecord.insertMarker store.toStoreIdentity handle value.toNat provisionedAt db =
          .ok ((store.provisionAnchorBaseline value handle).run inputs s).state.db := by
  unfold Store.provisionAnchorBaseline Store.completeProvisioning Store.now at h ⊢
  obtain ⟨_, -, hrun⟩ := run_check_bind_ok h
  rw [hrun] at h ⊢
  obtain ⟨t, hrun⟩ := run_consult_bind_ok h
  rw [hrun] at h ⊢
  obtain ⟨_, hnonneg, hrun⟩ := run_check_bind_ok h
  rw [hrun] at h ⊢
  obtain ⟨seeded, hseeded, hrun⟩ := run_query_bind_ok h
  rw [hrun] at h ⊢
  obtain ⟨_, hunseeded, hrun⟩ := run_check_bind_ok h
  rw [hrun] at h ⊢
  obtain ⟨db, hinsert, hrun⟩ := run_execute_bind_ok h
  rw [hrun] at h ⊢
  obtain ⟨reread, hreread, hrun⟩ := run_query_bind_ok h
  rw [hrun] at h ⊢
  obtain ⟨_, hvalue, hrun⟩ := run_check_bind_ok h
  rw [hrun] at h ⊢
  obtain ⟨again, hagain, hrun⟩ := run_query_bind_ok h
  rw [hrun] at h ⊢
  obtain ⟨_, hseeded', hrun⟩ := run_check_bind_ok h
  rw [hrun] at h ⊢
  obtain ⟨_, -, hrun⟩ := run_query_bind_ok h
  rw [hrun] at h ⊢
  obtain ⟨_, -, hrun⟩ := run_check_bind_ok h
  rw [hrun] at h ⊢
  obtain ⟨_, -, hrun⟩ := run_query_bind_ok h
  rw [hrun] at h ⊢
  obtain ⟨_, -, hrun⟩ := run_check_bind_ok h
  rw [hrun] at h ⊢
  obtain ⟨db', hmarker, hend⟩ := run_execute_ok h
  rw [hend]
  refine ⟨?_, rfl, db, reread, t, (demand_eq_ok.1 hvalue).symm, ?_, hreread, hmarker⟩
  · rw [Except.ok.inj hseeded]
    exact demand_eq_ok.1 hunseeded
  · exact (Except.ok.inj hagain).trans (demand_eq_ok.1 hseeded')

/-- A call of `provision_anchor_baseline` that returns has seeded the store. -/
theorem provision_ok {store : Store} {value : ℤ} {handle : String} {inputs : ℕ → Answers} {s : World}
    (h : ((store.provisionAnchorBaseline value handle).run inputs s).result = .ok ()) :
    HighWaterMark.isSeeded s.db = false ∧
      HighWaterMark.isSeeded ((store.provisionAnchorBaseline value handle).run inputs s).state.db =
        true ∧
      (∃ mark : ℕ, value = mark ∧ HighWaterMark.read store.toStoreIdentity
        ((store.provisionAnchorBaseline value handle).run inputs s).state.db = .ok mark) ∧
      ((store.provisionAnchorBaseline value handle).run inputs s).state.anchor = s.anchor := by
  obtain ⟨hunseeded, hanchor, db, mark, t, hvalue, hseeded, hread, hmarker⟩ := provision_steps h
  have hkept := selectAnchor_insertMarker hmarker
  refine ⟨hunseeded, ?_, ⟨mark, hvalue, ?_⟩, hanchor⟩
  · rwa [HighWaterMark.isSeeded, hkept]
  · rwa [HighWaterMark.read, hkept]

namespace Deployment

variable (d : Deployment) {r r' : Runtime} (s : World)

theorem worlds_after_self : (d.after r s).worlds r = s := Function.update_self _ _ _

theorem worlds_after_of_ne (h : r ≠ r') : (d.after r' s).worlds r = d.worlds r :=
  Function.update_of_ne h _ _

end Deployment

/-- An action that neither provisions a store nor overtakes it, and leaves mark and counter alone. -/
theorem Marks.of_same {store : Store} {as : List Action} {a : Action} {r : Runtime}
    {d d' : Deployment} (h : Marks store as r d) (hprovision : .provision r ≠ a)
    (htransition : .transition r.other ≠ a)
    (hmark : (d'.worlds r).db.selectAnchor HighWaterMark.key =
      (d.worlds r).db.selectAnchor HighWaterMark.key) (hcounter : d'.witness = d.witness) :
    Marks store (as ++ [a]) r d' := by
  have hmem : .provision r ∈ as ++ [a] ↔ .provision r ∈ as := by simp [hprovision]
  have hover : Overtaken (as ++ [a]) r ↔ Overtaken as r := by
    rw [overtaken_concat]
    exact or_iff_left fun h => htransition h.1
  constructor
  · intro hnot
    rw [HighWaterMark.isSeeded, hmark]
    exact h.unseeded fun hin => hnot (hmem.2 hin)
  · intro hin
    obtain ⟨hseeded, mark, hread, hle, hiff⟩ := h.seeded (hmem.1 hin)
    rw [HighWaterMark.isSeeded, HighWaterMark.read, hmark, hover, hcounter]
    exact ⟨hseeded, mark, hread, hle, hiff⟩

theorem isSeeded_of_read {store : StoreIdentity} {db : Database} {n : ℕ}
    (h : HighWaterMark.read store db = .ok (n + 1)) : HighWaterMark.isSeeded db = true := by
  by_contra hnot
  have hnone : db.selectAnchor HighWaterMark.key = none := by
    simpa [HighWaterMark.isSeeded] using hnot
  rw [HighWaterMark.read_of_selectAnchor_eq_none hnone] at h
  exact absurd (Except.ok.inj h) (Nat.succ_ne_zero n).symm

/-- A store that has been provisioned has a mark. -/
theorem Marks.mem_of_provisioned {store : Store} {as : List Action} {r : Runtime} {d : Deployment}
    (h : Marks store as r d) (hprovisioned : Provisioned store (d.seen r)) : .provision r ∈ as := by
  by_contra hnot
  obtain ⟨inputs, status, hstatus, hseeded, -⟩ := hprovisioned
  rw [seeded_of_status hstatus] at hseeded
  have hunseeded : HighWaterMark.isSeeded (d.seen r).db = false := h.unseeded hnot
  rw [hunseeded] at hseeded
  cases hseeded

section Stores

variable {stores : Runtime → Store} (hanchor : ∀ r, (stores r).hasAnchor = true) {as : List Action}
  {bs : List Bool} {d : Deployment}

include hanchor

/-- While no transition has been refused, each store that was provisioned has its mark at the
counter, unless the other one has overtaken it. -/
theorem marks_of_runs (h : Runs stores as bs d) (hbs : ∀ b ∈ bs, b = false) (r : Runtime) :
    Marks (stores r) as r d := by
  induction h generalizing r with
  | start d h => exact ⟨fun _ => h r, nofun⟩
  | @step as bs d d' a b hruns hstep ih =>
    have ih := ih fun b hb => hbs b (List.mem_append_left _ hb)
    have hb := hbs b (List.mem_append_right _ List.mem_cons_self)
    cases hstep with
    | provision r' value handle inputs current hresult =>
      obtain ⟨hunseeded, hseeded, ⟨mark, hvalue, hread⟩, hcounter⟩ := provision_ok hresult
      by_cases hr : r = r'
      · subst hr
        have hnew : .provision r ∉ as := by
          intro hin
          have hsame : HighWaterMark.isSeeded (d.worlds r).db = false := hunseeded
          rw [((ih r).seeded hin).1] at hsame
          cases hsame
        have hover : ¬ Overtaken (as ++ [.provision r]) r := by
          rw [overtaken_concat]
          rintro (hover | ⟨hne, -⟩)
          · exact hnew (hover.subset List.mem_cons_self)
          · cases hne
        have hmark : mark = d.witness := Int.ofNat.inj (hvalue.symm.trans current)
        refine ⟨fun hnot => absurd (List.mem_append_right _ List.mem_cons_self) hnot, fun _ => ?_⟩
        rw [Deployment.worlds_after_self]
        refine ⟨hseeded, mark, hread, ?_, iff_of_false hover ?_⟩
        · exact (hmark.trans hcounter.symm).le
        · exact not_not.2 (hmark.trans hcounter.symm)
      · exact (ih r).of_same (fun h => hr (Action.provision.inj h)) nofun
          (by rw [Deployment.worlds_after_of_ne _ _ hr]) hcounter
    | work r' s hmark hcounter =>
      refine (ih r).of_same nofun nofun ?_ hcounter
      by_cases hr : r = r'
      · rw [hr, Deployment.worlds_after_self, Database.selectAnchor, hmark, Database.selectAnchor]
      · rw [Deployment.worlds_after_of_ne _ _ hr]
    | transition r' a inputs provisioned participates reliable completes =>
      have hin := (ih r').mem_of_provisioned provisioned
      obtain ⟨-, mark, hread, -, hiff⟩ := (ih r').seeded hin
      have hat : d.witness = mark := by
        by_contra hne
        have hrefused := (run_transition_of_ne (s := d.seen r') (hanchor r') participates reliable
          completes hread hne).1
        rw [hrefused] at hb
        simp [rollbackDetected] at hb
      obtain ⟨-, hcounter, hread'⟩ := run_transition_of_eq (s := d.seen r') (hanchor r')
        participates reliable completes hread hat
      by_cases hr : r = r'
      · subst hr
        have hover : ¬ Overtaken (as ++ [.transition r]) r := by
          rw [overtaken_concat]
          rintro (hover | ⟨hother, -⟩)
          · exact hiff.1 hover hat.symm
          · exact other_ne r (Action.transition.inj hother)
        refine ⟨fun hnot => absurd (List.mem_append_left _ hin) hnot, fun _ => ?_⟩
        rw [Deployment.worlds_after_self]
        exact ⟨isSeeded_of_read hread', mark + 1, hread', hcounter.ge,
          iff_of_false hover (not_not.2 hcounter.symm)⟩
      · -- the other store is overtaken if it has been provisioned
        have hother : r.other = r' := (eq_or_eq_other r r').resolve_left (Ne.symm hr) |>.symm
        have hcounter : (d.after r' ((a.code (stores r')).run inputs (d.seen r')).state).witness =
          mark + 1 := hcounter
        have hmem : .provision r ∈ as ++ [.transition r'] ↔ .provision r ∈ as := by simp
        constructor
        · intro hnot
          rw [Deployment.worlds_after_of_ne _ _ hr]
          exact (ih r).unseeded fun hin => hnot (hmem.2 hin)
        · intro hin'
          obtain ⟨hseeded, mark', hread, hle, -⟩ := (ih r).seeded (hmem.1 hin')
          rw [Deployment.worlds_after_of_ne _ _ hr]
          refine ⟨hseeded, mark', hread, by omega, iff_of_true ?_ (by omega)⟩
          exact overtaken_concat.2 (.inr ⟨congrArg Action.transition hother, hmem.1 hin'⟩)

/-- A transition is refused exactly if the store has been overtaken. -/
theorem refused_iff {a : Action} {b : Bool} {d' : Deployment} (h : Runs stores as bs d)
    (hbs : ∀ b ∈ bs, b = false) (hstep : Performs stores d a b d') :
    b = true ↔ ∃ r, .transition r = a ∧ Overtaken as r := by
  have hmarks := marks_of_runs hanchor h hbs
  cases hstep with
  | provision => simp
  | work => simp
  | transition r a inputs provisioned participates reliable completes =>
    obtain ⟨-, mark, hread, -, hiff⟩ :=
      (hmarks r).seeded ((hmarks r).mem_of_provisioned provisioned)
    have hover : (∃ r', Action.transition r' = .transition r ∧ Overtaken as r') ↔
        Overtaken as r := by simp
    rw [hover, hiff]
    by_cases hat : d.witness = mark
    · obtain ⟨⟨c, hresult⟩, -⟩ := run_transition_of_eq (s := d.seen r) (hanchor r) participates
        reliable completes hread hat
      rw [hresult]
      simp [hat]
    · obtain ⟨hresult, -⟩ := run_transition_of_ne (s := d.seen r) (hanchor r) participates reliable
        completes hread hat
      rw [hresult]
      simp [rollbackDetected, Ne.symm hat]

end Stores

/-! ### Transitions that are complete -/

section Completes

variable {store : Store} {i : Answers} {c : RecoveryContract} {call mark : ℕ}
  {policy : ExecutionSecurityPolicy} {s : World}

/-- The parts before the gate hand over the contract. -/
theorem beforeGate_live (hfit : Fit store i) (hs : Coherent store s)
    (hlatest : s.latest c.contractId = some c) (isPrepared : c.state = prepared)
    (isConfirmed : c.isConfirmed = true)
    (unexpired : ∀ t, i.clock = some t → c.isExpired t = false) :
    ∃ t, ((store.beforeGate c.contractId c.stateVersion "state_transition").run (fun _ => i)
        s).result = .ok (c, t) ∧ i.clock = some t := by
  have hlive : (alone 0 fun j _ _ => j = i).Live store := live_alone hfit
  have hwp : wp ((alone 0 fun j _ _ => j = i).context store)
      (store.beforeGate c.contractId c.stateVersion "state_transition")
      (fun r _ => ∃ t, r = .ok (c, t) ∧ i.clock = some t) s := by
    refine wp_met (by decide) (wp_pass rfl (wp_met nofun (wp_met nofun ?_)))
    refine (wp_bind _ _ _ _).mpr (load_live hlive.readable steady_alone hs hlatest fun s₁ hs₁ h₁ _ => ?_)
    refine wp_met ⟨isPrepared, rfl⟩ ?_
    refine (wp_bind _ _ _ _).mpr (now_live hlive fun s₂ j instant hs₂ h₂ hj hclock => ?_)
    have hj : j = i := hj
    rw [hj] at hclock
    have hunexpired := unexpired instant hclock
    refine wp_met (fun _ hexpired => ?_) (wp_met ⟨isConfirmed, hunexpired⟩ ⟨instant, rfl, hclock⟩)
    rw [hunexpired] at hexpired
    cases hexpired
  exact (run_of_wp (fun s => Quiet.refl s) (fun _ => i) (fun _ _ _ => rfl) hs hwp).2

/-- The gate lets a call pass whose counter is at the mark. -/
theorem exists_gate (hanchor : store.hasAnchor = true) (hrate : store.ratePolicy = none)
    (hfit : Fit store i) (hi : Reliable i) (hparticipates : policy.participatesInWitness = true)
    (hmark : HighWaterMark.read store.toStoreIdentity s.db = .ok mark) (hcounter : s.anchor = mark)
    (hdigits : mark + 1 < 10 ^ intMaxStrDigits) :
    ∃ s', store.gate policy i s = (s', .ok ()) ∧ Quiet s s' := by
  obtain ⟨row, hrow, -⟩ := HighWaterMark.exists_row store.toStoreIdentity hdigits
  have hpersist : HighWaterMark.persist store.toStoreIdentity (mark + 1) s.db =
      .ok (s.db.upsertAnchor row) := by
    rw [HighWaterMark.persist, hrow]
    rfl
  refine ⟨{ s with db := s.db.upsertAnchor row, anchor := mark + 1 }, ?_, rfl, rfl, rfl, rfl, rfl⟩
  unfold Store.gate
  rw [hfit.sqlite]
  dsimp only
  rw [if_pos ⟨hanchor, hparticipates⟩, beforeExecutingTransition_reliable hi,
    beforeExecutingTransition_anchor hmark, if_pos hcounter, hpersist]
  simp only [Store.checkExecuteAllowed, hrate, ok_bind, hfit.toUntroubled.commitFailure]

/-- A transition of a confirmed contract is complete if nothing fails. -/
theorem completes_of_latest (hanchor : store.hasAnchor = true) (hrate : store.ratePolicy = none)
    (hfit : Fit store i) (hi : Reliable i) (hparticipates : policy.participatesInWitness = true)
    (hs : Coherent store s) (hlatest : s.latest c.contractId = some c)
    (isPrepared : c.state = prepared) (isConfirmed : c.isConfirmed = true)
    (unexpired : ∀ t, i.clock = some t → c.isExpired t = false)
    (hversion : c.stateVersion + 1 < 2 ^ 63)
    (hfree : ∀ d ∈ contractsOf (commitsOf s.trace), isReservationState d.state = true →
      d.targetIdentityDigest ≠ c.targetIdentityDigest)
    (hown : own call s.trace = [])
    (hmark : HighWaterMark.read store.toStoreIdentity s.db = .ok mark)
    (hdigits : mark + 1 < 10 ^ intMaxStrDigits) :
    Attempt.Completes ⟨call, c.contractId, c.stateVersion, policy, "state_transition"⟩ store
      (fun _ => i) s := by
  let s₀ : World := { s with anchor := mark }
  have hquiet₀ : Quiet s s₀ := ⟨rfl, rfl, rfl, rfl, rfl⟩
  have hs₀ : Coherent store s₀ := hquiet₀.coherent hs
  obtain ⟨t, hpre, hclock⟩ := beforeGate_live hfit hs₀ hlatest isPrepared isConfirmed
    unexpired
  obtain ⟨s₁, hgate, hquiet₁⟩ := exists_gate (s := s₀) hanchor hrate hfit hi hparticipates hmark rfl
    hdigits
  have hquiet := hquiet₀.trans hquiet₁
  have hs₁ : Coherent store s₁ := hquiet.coherent hs
  have hlatest₁ : s₁.latest c.contractId = some c := (hquiet.latest _).trans hlatest
  -- what follows the gate is the construction of the new version and its transaction
  have hlegal : requireTransition c.state executing false = .ok () := by
    rw [isPrepared]
    rfl
  have hchange : Change (originOf (s₁.history c.contractId)) c "state_transition" (some t)
      (Store.moved c executing) :=
    .transition hlegal nofun nofun (fun _ hexpired => by
      rw [unexpired t hclock] at hexpired
      cases hexpired) (fun _ => ⟨isConfirmed, unexpired t hclock⟩) (by decide)
  have hprogress := hchange.progressValid c.progressValid.confirmationDigest
    c.progressValid.verifiedTargetFingerprint c.progressValid.confirmedAt
  have hwp : wp ((alone call fun j _ _ => j = i).context store)
      (store.afterGate call "state_transition" (c, t)) (fun r _ => ∃ d, r = .ok d) s₁ := by
    refine construct_live (live_alone hfit) steady_alone hs₁ hlatest₁ hchange hprogress hversion
      (by decide) ?_ ?_ fun s' k _ _ _ => ⟨k.after, rfl⟩
    · intro s' _ hquiet' _ _ d hd
      rw [(hquiet.trans hquiet').trace] at hd
      exact hfree d hd
    · intro k hcall hbefore hfields
      have hown₁ : own call s₁.trace = [] := by rw [hquiet.trace, hown]
      refine (MutationExecutor.unsent_of_own hown₁).justified hcall
  obtain ⟨d, hafter⟩ := (run_of_wp (fun s => Quiet.refl s) (fun _ => i) (fun _ _ _ => rfl) hs₁
    hwp).2
  refine ⟨mark, d, hmark, ?_⟩
  have hobserves := @observes_beforeGate _ store c.contractId "state_transition" c.stateVersion
    (fun _ => i) s₀ mark
  obtain ⟨k, hrest⟩ := rest_run (store.beforeGate c.contractId c.stateVersion "state_transition")
    (fun _ => i) s₀
  rw [Attempt.code, transition_eq hanchor, run_bind]
  dsimp only
  rw [hobserves, hpre, hrest]
  dsimp only
  rw [run_atomic hgate]
  exact hafter

end Completes

end Model

/-! ### Two sample stores -/

namespace SharedPair

open Sample (midnight)

attribute [local instance] Sample.platform

/-- `PRODUCTION_STORE_ID`, and `CONTRACT_STORE_ID` of the second runtime. -/
def storeId : Runtime → String
  | .aliasDescription => "tier1-production-anchor"
  | .writeBatch1 => "tier1-production-write-batch1-store"

def store (r : Runtime) : Store :=
  { Sample.store true none with
    storeId := storeId r
    isIdentifier_storeId := by
      cases r
      · decide +kernel
      · decide +kernel }

def answers : Answers := Sample.answers (.timeout true)

theorem reliable : Reliable answers := ⟨rfl, rfl⟩

theorem fit (r : Runtime) : Fit (store r) answers where
  sqlite := rfl
  commit := rfl
  fault _ := rfl
  clock := ⟨_, rfl⟩
  recordClock := ⟨_, rfl⟩
  cooldown state limits hlimits := by cases r <;> cases hlimits

theorem ready (r : Runtime) :
    Ready (store r) answers Sample.contract Sample.evidence Sample.hex where
  fit := fit r
  verdict := rfl
  verifier := rfl
  isPreparing := rfl
  isFirst := rfl
  unconfirmed := rfl
  window := by
    rintro t ⟨⟩
    decide +kernel
  allowed _ _ _ _ := rfl
  bindings := (@Sample.ready none (fun _ h => by cases h) true (.timeout true)).bindings
  digest := (@Sample.ready none (fun _ h => by cases h) true (.timeout true)).digest
  code := Sample.isHex64_hex

/-- A store that has been provisioned with zero. -/
@[irreducible]
def provisioned (r : Runtime) : World :=
  (((store r).provisionAnchorBaseline (0 : ℕ) "0x01500016").run (fun _ => answers) {}).state

theorem provisionAnchorBaseline_ok (r : Runtime) :
    (((store r).provisionAnchorBaseline (0 : ℕ) "0x01500016").run (fun _ => answers) {}).result =
      .ok () := by
  cases r <;> decide +kernel

/-- The status of a store depends on `anchor_state` only. -/
theorem result_status_congr {s s' : World} (h : s'.db.anchorState = s.db.anchorState) (r : Runtime) :
    ((store r).anchorProvisioningStatus.run (fun _ => answers) s').result =
      ((store r).anchorProvisioningStatus.run (fun _ => answers) s).result := by
  have hselect : s'.db.selectAnchor = s.db.selectAnchor := by
    funext key
    rw [Database.selectAnchor, h, Database.selectAnchor]
  unfold Store.anchorProvisioningStatus
  rw [Op.result_query_bind rfl, Op.result_query_bind rfl, HighWaterMark.isSeeded, hselect,
    HighWaterMark.isSeeded]
  refine congrArg _ (funext fun seeded => ?_)
  rw [Op.result_query_bind rfl, Op.result_query_bind rfl, HighWaterMark.read, hselect,
    HighWaterMark.read]
  refine congrArg _ (funext fun baseline => ?_)
  rw [Op.result_query_bind rfl, Op.result_query_bind rfl, ProvisioningRecord.read, hselect,
    ProvisioningRecord.read]
  rfl

theorem provisioned_of_eq {s : World} {r : Runtime}
    (h : s.db.anchorState = (provisioned r).db.anchorState) : Provisioned (store r) s := by
  have hstatus : ((store r).anchorProvisioningStatus.run (fun _ => answers)
      (provisioned r)).result.map (fun status => (status.seeded, status.complete)) =
        .ok (true, true) := by
    cases r <;> decide +kernel
  rw [← result_status_congr h] at hstatus
  cases hresult : ((store r).anchorProvisioningStatus.run (fun _ => answers) s).result with
  | error e =>
    rw [hresult] at hstatus
    cases hstatus
  | ok status =>
    rw [hresult] at hstatus
    obtain ⟨hseeded, hcomplete⟩ := Prod.mk.inj (Except.ok.inj hstatus)
    exact ⟨_, status, hresult, hseeded, hcomplete⟩

/-- A contract is created, prepared and confirmed. -/
def confirming (r : Runtime) : ℕ → Operation (store r)
  | 0 => .create Sample.contract
  | 1 => .transition "contract-1" preparing 0 prepared none "state_transition"
  | _ => .confirm "contract-1" Sample.evidence 1

/-- A store with a confirmed contract, and any rows in `anchor_state`. -/
theorem exists_confirmed (r : Runtime) (rows : List AnchorRow) : ∃ s c, Coherent (store r) s ∧
    s.latest c.contractId = some c ∧ c.state = prepared ∧ c.isConfirmed = true ∧
    c.stateVersion = 2 ∧ (∀ t, answers.clock = some t → c.isExpired t = false) ∧
    (∀ d ∈ contractsOf (commitsOf s.trace), isReservationState d.state = true →
      d.targetIdentityDigest ≠ c.targetIdentityDigest) ∧ own 3 s.trace = [] ∧
    s.db.anchorState = rows ∧ s.anchor = 0 := by
  obtain ⟨cfg, c, hreach, hnext, hsingle, hsame, hstate, hversion, hconfirmed, -⟩ :=
    @reachable_confirmed _ _ (confirming r) (fun _ _ _ => True) _ _ _ _ (ready r) (fun _ _ => trivial) rfl
      rfl rfl
  have hown : own 3 cfg.shared.trace = [] :=
    (((safety (store r) (confirming r) _).reachable hreach).fresh 3 hnext.le).2
  let s : World :=
    { cfg.shared with
      db := { cfg.shared.db with anchorState := rows }
      anchor := 0 }
  have hquiet : Quiet cfg.shared s := ⟨rfl, rfl, rfl, rfl, rfl⟩
  refine ⟨s, c, hquiet.coherent hsingle.coherent, hsingle.latest, hstate, hconfirmed, hversion, ?_,
    hsingle.free (by rw [hstate]; rfl) (hquiet.coherent hsingle.coherent) hquiet, hown, rfl, rfl⟩
  intro t ht
  have hwindow := ((ready r).window t ht).2
  rw [RecoveryContract.isExpired, hsame.expiresAt]
  exact hwindow

theorem read_of_eq {s : World} {r : Runtime}
    (h : s.db.anchorState = (provisioned r).db.anchorState) :
    HighWaterMark.read (store r).toStoreIdentity s.db = .ok 0 := by
  obtain ⟨-, -, ⟨mark, hvalue, hread⟩, -⟩ := provision_ok (provisionAnchorBaseline_ok r)
  have hzero : mark = 0 := (Int.ofNat.inj hvalue).symm
  have hread : HighWaterMark.read (store r).toStoreIdentity (provisioned r).db = .ok 0 := by
    unfold provisioned
    rw [hread, hzero]
  have hselect : s.db.selectAnchor = (provisioned r).db.selectAnchor := by
    funext key
    rw [Database.selectAnchor, h, Database.selectAnchor]
  rw [HighWaterMark.read] at hread ⊢
  rw [hselect]
  exact hread

/-- A new store is provisioned while the counter is at zero. -/
theorem performs_provision {d : Deployment} {r : Runtime} (hworld : d.worlds r = {})
    (hcounter : d.witness = 0) : ∃ d', Performs store d (.provision r) false d' ∧
      d'.witness = 0 ∧ d'.worlds r = provisioned r ∧ ∀ r', r' ≠ r → d'.worlds r' = d.worlds r' := by
  have hseen : d.seen r = {} := by
    rw [Deployment.seen, hworld, hcounter]
  have hok := provisionAnchorBaseline_ok r
  rw [← hseen] at hok
  have hstep := @Performs.provision _ store _ r (0 : ℕ) "0x01500016" (fun _ => answers)
    (by rw [hcounter]) hok
  have hanchor := (provision_ok hok).2.2.2
  have hstate : (((store r).provisionAnchorBaseline (0 : ℕ) "0x01500016").run (fun _ => answers)
      (d.seen r)).state = provisioned r := by
    rw [hseen]
    unfold provisioned
    rfl
  rw [hstate] at hstep hanchor
  have hbefore : (d.seen r).anchor = 0 := hcounter
  exact ⟨_, hstep, hanchor.trans hbefore, Deployment.worlds_after_self _ _,
    fun r' hr => Deployment.worlds_after_of_ne _ _ hr⟩

/-- A confirmed contract of a store that was provisioned with zero can be brought into
`EXECUTING`, as far as its own store is concerned. -/
theorem performs_transition {d : Deployment} {r : Runtime} {s : World} {c : RecoveryContract}
    (hworld : d.worlds r = s) (hs : Coherent (store r) s)
    (hlatest : s.latest c.contractId = some c) (isPrepared : c.state = prepared)
    (isConfirmed : c.isConfirmed = true) (hversion : c.stateVersion = 2)
    (unexpired : ∀ t, answers.clock = some t → c.isExpired t = false)
    (hfree : ∀ d ∈ contractsOf (commitsOf s.trace), isReservationState d.state = true →
      d.targetIdentityDigest ≠ c.targetIdentityDigest) (hown : own 3 s.trace = [])
    (hrows : s.db.anchorState = (provisioned r).db.anchorState) :
    ∃ b d', Performs store d (.transition r) b d' ∧ ∀ r', r' ≠ r → d'.worlds r' = d.worlds r' := by
  have hseen : (d.seen r).db = s.db := by
    rw [Deployment.seen, hworld]
  have hquiet : Quiet s (d.seen r) := by
    rw [Deployment.seen, hworld]
    exact ⟨rfl, rfl, rfl, rfl, rfl⟩
  have hrows' : (d.seen r).db.anchorState = (provisioned r).db.anchorState := by
    rw [hseen, hrows]
  have hcompletes : Attempt.Completes ⟨3, c.contractId, c.stateVersion, ⟨.highAssuranceTier1⟩,
      "state_transition"⟩ (store r) (fun _ => answers) (d.seen r) := by
    refine completes_of_latest rfl rfl (fit r) reliable rfl (hquiet.coherent hs)
      ((hquiet.latest _).trans hlatest) isPrepared isConfirmed unexpired
      (by rw [hversion]; decide) ?_ ?_ (read_of_eq hrows') ?_
    · rw [hquiet.trace]
      exact hfree
    · rw [hquiet.trace]
      exact hown
    · exact Nat.one_lt_pow (by decide) (by decide)
  exact ⟨_, _, .transition r _ (fun _ => answers) (provisioned_of_eq hrows') rfl
    (fun _ => reliable) hcompletes, fun r' hr => Deployment.worlds_after_of_ne _ _ hr⟩

open Tier1.Runtime Tier1.Action

/-- Both stores are provisioned and get a confirmed contract; then the first makes a transition, and
the second may try one. -/
theorem exists_run : ∃ d, Runs store [.provision aliasDescription, .provision writeBatch1,
      .work aliasDescription, .work writeBatch1, .transition aliasDescription]
      [false, false, false, false, false] d ∧
    ∃ b d', Performs store d (.transition writeBatch1) b d' := by
  have hne : writeBatch1 ≠ aliasDescription := by decide
  have hstart : Runs store [] [] ⟨fun _ => {}, 0⟩ := .start _ fun _ => rfl
  obtain ⟨d₁, h₁, hcounter₁, hworld₁, hkept₁⟩ := performs_provision (r := aliasDescription)
    (d := ⟨fun _ => {}, 0⟩) rfl rfl
  obtain ⟨d₂, h₂, hcounter₂, hworld₂, hkept₂⟩ := performs_provision (r := writeBatch1) (d := d₁)
    (hkept₁ _ hne) hcounter₁
  obtain ⟨s, c, hs, hlatest, isPrepared, isConfirmed, hversion, unexpired, hfree, hown, hrows,
    hanchor⟩ := exists_confirmed aliasDescription (provisioned aliasDescription).db.anchorState
  obtain ⟨s', c', hs', hlatest', isPrepared', isConfirmed', hversion', unexpired', hfree', hown',
    hrows', hanchor'⟩ := exists_confirmed writeBatch1 (provisioned writeBatch1).db.anchorState
  have h₃ : Performs store d₂ (.work aliasDescription) false (d₂.after aliasDescription s) :=
    .work _ s (by rw [hrows, hkept₂ _ hne.symm, hworld₁]) (hanchor.trans hcounter₂.symm)
  have hworld₃ : (d₂.after aliasDescription s).worlds writeBatch1 = provisioned writeBatch1 :=
    (Deployment.worlds_after_of_ne _ _ hne).trans hworld₂
  have h₄ : Performs store (d₂.after aliasDescription s) (.work writeBatch1) false
      ((d₂.after aliasDescription s).after writeBatch1 s') :=
    .work _ s' (by rw [hrows', hworld₃]) (hanchor'.trans hanchor.symm)
  have hruns := (((hstart.step h₁).step h₂).step h₃).step h₄
  obtain ⟨b, d₅, h₅, hkept₅⟩ := performs_transition (r := aliasDescription)
    (d := (d₂.after aliasDescription s).after writeBatch1 s')
    ((Deployment.worlds_after_of_ne _ _ hne.symm).trans (Deployment.worlds_after_self _ _)) hs
    hlatest isPrepared isConfirmed hversion unexpired hfree hown hrows
  obtain ⟨b', d₆, h₆, -⟩ := performs_transition (r := writeBatch1) (d := d₅)
    ((hkept₅ _ hne).trans (Deployment.worlds_after_self _ _)) hs' hlatest' isPrepared' isConfirmed'
    hversion' unexpired' hfree' hown' hrows'
  -- the first transition is not refused, as no store has made one before
  have hb : b = false := by
    rw [← Bool.not_eq_true, refused_iff (fun _ => rfl) hruns (by decide) h₅]
    rintro ⟨r, -, hover⟩
    cases r <;> exact absurd hover (by unfold Overtaken; decide)
  subst hb
  exact ⟨d₅, hruns.step h₅, b', d₆, h₆⟩

end SharedPair

/-! ### Transitions on both stores -/

/-- No transition of a run is refused exactly if no store makes one after the other store has made
one since it was provisioned. -/
theorem not_refused_iff [Platform] {stores : Runtime → Store}
    (hanchor : ∀ r, (stores r).hasAnchor = true) {as : List Action} {bs : List Bool}
    {d : Deployment} (h : Runs stores as bs d) : (∀ b ∈ bs, b = false) ↔ ¬ Alternates as := by
  induction h with
  | start => 
    refine iff_of_true nofun ?_
    rintro ⟨r, hr⟩
    cases hr
  | @step as bs d d' a b hruns hstep ih =>
    have hall : (∀ b' ∈ bs ++ [b], b' = false) ↔ (∀ b ∈ bs, b = false) ∧ b = false := by
      simp [or_imp, forall_and]
    rw [hall, alternates_concat, not_or, ← ih]
    refine and_congr_right fun hbs => ?_
    rw [← refused_iff hanchor hruns hbs hstep, Bool.not_eq_true]

section

attribute [local instance] Sample.platform

open Tier1.Runtime Tier1.Action

/-- The conditions of `not_refused_iff` are met by a run with one transition. -/
theorem not_refused_iff_sample : ∃ d, Runs SharedPair.store [.provision aliasDescription,
      .provision writeBatch1, .work aliasDescription, .work writeBatch1,
      .transition aliasDescription] [false, false, false, false, false] d ∧
    ((∀ b ∈ [false, false, false, false, false], b = false) ↔ ¬ Alternates
      [.provision aliasDescription, .provision writeBatch1, .work aliasDescription,
        .work writeBatch1, .transition aliasDescription]) := by
  obtain ⟨d, hruns, -⟩ := SharedPair.exists_run
  exact ⟨d, hruns, not_refused_iff (fun _ => rfl) hruns⟩

/-- Both stores are provisioned with the value of the counter. A transition on the first makes one
on the second raise `WholeStoreRollbackDetected`, although nothing was restored. -/
theorem refused_sample : ∃ bs d, Runs SharedPair.store [.provision aliasDescription,
      .provision writeBatch1, .work aliasDescription, .work writeBatch1,
      .transition aliasDescription, .transition writeBatch1] bs d ∧ true ∈ bs := by
  obtain ⟨d, hruns, b, d', hstep⟩ := SharedPair.exists_run
  have hb : b = true := by
    rw [refused_iff (fun _ => rfl) hruns (by decide) hstep]
    exact ⟨writeBatch1, rfl, by unfold Overtaken; decide⟩
  subst hb
  exact ⟨_, d', hruns.step hstep, by decide⟩

end

end Tier1
