import Mathlib.Data.Nat.Notation
import PfsenseMcp.Concurrency.Steps
import PfsenseMcp.Tier1.Runs

/-!
# The steps of an operation

Every operation of the store and the executor is composed of a few kinds of steps: it reads,
records an event, creates or replaces a contract, or passes the gate of `EXECUTING`. A relation
that every step of each kind meets, the `StepLaws`, is met by every step of every operation.
Only `provision_anchor_baseline` writes to `anchor_state` outside the gate, and is treated apart.

## Main results

* `Operation.does`: the steps of an operation meet the relation, whatever the other calls do.
-/

namespace Tier1

open Python Concurrency Procedure RecoveryState

variable [Platform]

/-- A relation that every kind of step of a call meets. -/
structure StepLaws (store : Store) (call : ℕ) (R : Answers → World → World → Prop) : Prop where
  /-- A step that leaves the world alone. -/
  refl : ∀ i s, R i s s
  /-- A step that records an event other than a commit. -/
  recorded : ∀ i (s : World) (e : Event), e.call = call → commitsOf [e] = [] →
    R i s { s with trace := s.trace ++ [e] }
  /-- The transaction of `create`. -/
  createBlock : ∀ contract instant, contract.state = preparing →
    (Store.transact (store.createBlock contract instant) fun recordedAt =>
      ⟨call, none, contract, "contract_created", recordedAt, some instant⟩).Does R
  /-- The transaction of `_replace`. -/
  replace : ∀ current updated eventType checkedAt,
    (store.replace call current updated eventType checkedAt).Does R
  /-- The transaction before an `EXECUTING` transition. -/
  gate : ∀ policy, (store.executingGate policy).Does R

namespace Op

variable {R : Answers → World → World → Prop} {α β : Type}

theorem does_check (x : Except Error α) : (check x).Does R := does_ofExcept x

/-- What follows a check is reached only if the check succeeds. -/
theorem does_check_bind {x : Except Error α} {f : α → Op β}
    (h : ∀ a, x = .ok a → (f a).Does R) : (check x >>= f).Does R := by
  cases x with
  | error e => trivial
  | ok a => exact h a rfl

theorem does_atomic {f : Answers → World → World × Except Error α}
    (h : ∀ i s, R i s (f i s).1) : (atomic f).Does R :=
  fun i s => ⟨h i s, does_ofExcept _⟩

/-- A transaction, by what it commits. -/
theorem does_transact {block : Answers → Database → Except Error (Database × DateTime)}
    {commit : DateTime → Commit} (hrefl : ∀ i s, R i s s)
    (h : ∀ i (s : World) db t, block i s.db = .ok (db, t) →
      R i s { s with db := db, trace := s.trace ++ [.committed (commit t)] }) :
    (Store.transact block commit).Does R := by
  refine does_atomic fun i s => ?_
  cases hsqlite : i.sqlite with
  | some e => exact hrefl i s
  | none =>
    dsimp only
    split
    · exact hrefl i s
    · rename_i db t hresult
      simp only [bind_eq_ok] at hresult
      obtain ⟨⟨db', t'⟩, hblock, _, -, hresult⟩ := hresult
      cases hresult
      exact h i s db t hblock

/-- A statement that writes the tables, by what it writes. -/
theorem does_execute {f : Database → Except Error Database} (hrefl : ∀ i s, R i s s)
    (h : ∀ i (s : World) db, f s.db = .ok db → R i s { s with db := db }) :
    (execute f).Does R := by
  refine does_atomic fun i s => ?_
  cases hsqlite : i.sqlite with
  | some e => exact hrefl i s
  | none =>
    dsimp only
    cases hf : f s.db with
    | error e => exact hrefl i s
    | ok db => exact h i s db hf

end Op

open Op

/-! ### Reading -/

section Reading

variable {store : Store} {R : Answers → World → World → Prop} (hrefl : ∀ i s, R i s s)

include hrefl

theorem reads_query {α : Type} (f : Database → Except Error α) : (Op.query f).Does R :=
  does_atomic fun i s => hrefl i s

theorem reads_consult {α : Type} (f : Answers → Except Error α) : (Op.consult f).Does R :=
  does_atomic fun i s => hrefl i s

theorem reads_now : Store.now.Does R := reads_consult hrefl _

theorem reads_verifyRelatedState (contract : RecoveryContract) :
    (store.verifyRelatedState contract).Does R := by
  refine does_bind (reads_query hrefl _) fun _ => ?_
  refine does_bind (does_check _) fun _ => ?_
  refine does_bind (reads_query hrefl _) fun _ => ?_
  exact does_bind (does_check _) fun _ => trivial

theorem reads_load (contractId : String) : (store.load contractId).Does R := by
  refine does_bind (reads_query hrefl _) fun _ => ?_
  refine does_bind (does_check _) fun _ => ?_
  refine does_bind (does_check _) fun _ => ?_
  exact does_bind (reads_verifyRelatedState hrefl _) fun _ => trivial

theorem reads_auditEvents (contractId : String) : (store.auditEvents contractId).Does R := by
  refine does_bind (reads_query hrefl _) fun _ => ?_
  refine does_bind (does_check _) fun _ => ?_
  refine does_bind (reads_query hrefl _) fun _ => ?_
  refine does_bind (does_check _) fun _ => ?_
  refine does_bind (reads_query hrefl _) fun _ => ?_
  exact does_bind (does_check _) fun _ => trivial

theorem reads_verifyContracts (contracts : List RecoveryContract) :
    (store.verifyContracts contracts).Does R := by
  induction contracts with
  | nil => trivial
  | cons c cs ih => exact does_bind (reads_verifyRelatedState hrefl c) fun _ => ih

theorem reads_allContracts : store.allContracts.Does R := by
  refine does_bind (reads_query hrefl _) fun _ => ?_
  refine does_bind (does_check _) fun _ => ?_
  exact does_bind (reads_verifyContracts hrefl _) fun _ => trivial

theorem reads_interrupted : store.interrupted.Does R :=
  does_bind (reads_allContracts hrefl) fun _ => trivial

theorem reads_findByIdempotencyKey (key : String) :
    (store.findByIdempotencyKey key).Does R := by
  refine does_bind (reads_query hrefl _) fun row => ?_
  cases row with
  | none => trivial
  | some row =>
    refine does_bind (does_check _) fun _ => ?_
    refine does_bind (does_check _) fun _ => ?_
    refine does_bind (does_check _) fun _ => ?_
    exact does_bind (reads_verifyRelatedState hrefl _) fun _ => trivial

theorem reads_verifyHistorical (key : String) (rows : List ContractRow) :
    (store.verifyHistorical key rows).Does R := by
  induction rows with
  | nil => trivial
  | cons row rows ih =>
    refine does_bind (does_check _) fun _ => ?_
    refine does_bind (does_check _) fun _ => ?_
    refine does_bind (reads_verifyRelatedState hrefl _) fun _ => ?_
    exact does_bind ih fun _ => trivial

theorem reads_findHistoricalByIdempotencyKey (key : String) :
    (store.findHistoricalByIdempotencyKey key).Does R :=
  does_bind (reads_query hrefl _) fun _ => reads_verifyHistorical hrefl key _

theorem reads_verify (configured : Bool) (missing failing refused : String) :
    (Store.verify configured missing failing refused).Does R :=
  does_bind (does_check _) fun _ => reads_consult hrefl _

end Reading

/-! ### Changing -/

namespace StepLaws

section Store

variable {store : Store} {call : ℕ} {R : Answers → World → World → Prop}
  (laws : StepLaws store call R) (contractId : String)

include laws

/-- An event that is no commit. -/
theorem record {event : Event} (hcall : event.call = call) (h : commitsOf [event] = []) :
    (Op.record event).Does R := does_atomic fun i s => laws.recorded i s event hcall h

theorem create (contract : RecoveryContract) : (store.create call contract).Does R := by
  refine does_check_bind fun _ hnew => ?_
  refine does_bind (reads_now laws.refl) fun _ => ?_
  refine does_bind (does_check _) fun _ => ?_
  exact does_bind (laws.createBlock _ _ (demand_eq_ok.1 hnew).1) fun _ => trivial

theorem createAuthorized (contract : RecoveryContract) :
    (store.createAuthorized call contract).Does R :=
  does_bind (does_check _) fun _ => laws.create contract

theorem enterExecuting (current : RecoveryContract) (target : RecoveryState)
    (instant : DateTime) (policy : Option ExecutionSecurityPolicy) :
    (store.enterExecuting current target instant policy).Does R := by
  unfold Store.enterExecuting
  by_cases htarget : target = executing
  · rw [if_pos htarget]
    refine does_bind (does_check _) fun _ => ?_
    cases policy with
    | none => exact does_check _
    | some policy =>
      dsimp only
      split_ifs
      · exact laws.gate policy
      · trivial
  · rw [if_neg htarget]
    trivial

theorem transition (expectedState : RecoveryState) (expectedVersion : ℤ)
    (target : RecoveryState) (policy : Option ExecutionSecurityPolicy) (eventType : String) :
    (store.transition call contractId expectedState expectedVersion target policy
      eventType).Does R := by
  refine does_bind (does_check _) fun _ => ?_
  refine does_bind (does_check _) fun _ => ?_
  refine does_bind (does_check _) fun _ => ?_
  refine does_bind (does_check _) fun _ => ?_
  refine does_bind (reads_load laws.refl _) fun _ => ?_
  refine does_bind (does_check _) fun _ => ?_
  refine does_bind (reads_now laws.refl) fun _ => ?_
  refine does_bind (does_check _) fun _ => ?_
  refine does_bind (laws.enterExecuting _ _ _ _) fun _ => ?_
  exact does_bind (does_check _) fun _ => laws.replace _ _ _ _

theorem expirePrepared (expectedVersion : ℤ) (instant : Option DateTime) :
    (store.expirePrepared call contractId expectedVersion instant).Does R := by
  refine does_bind (reads_load laws.refl _) fun _ => ?_
  refine does_bind (does_check _) fun _ => ?_
  refine does_bind (does_check _) fun _ => ?_
  refine does_bind (does_check _) fun _ => ?_
  refine does_bind (does_check _) fun _ => ?_
  refine does_bind (does_check _) fun _ => ?_
  exact laws.transition contractId _ _ _ _ _
theorem confirm (evidence : ConfirmationEvidence) (expectedVersion : ℤ) :
    (store.confirm call contractId evidence expectedVersion).Does R := by
  refine does_bind (reads_load laws.refl _) fun _ => ?_
  refine does_bind (does_check _) fun _ => ?_
  refine does_bind (reads_now laws.refl) fun _ => ?_
  refine does_bind (does_check _) fun _ => ?_
  refine does_bind (does_check _) fun _ => ?_
  refine does_bind (reads_verify laws.refl _ _ _ _) fun _ => ?_
  refine does_bind (does_check _) fun _ => ?_
  exact does_bind (does_check _) fun _ => laws.replace _ _ _ _

theorem resolveReconciliation (evidence : ReconciliationEvidence) :
    (store.resolveReconciliation call contractId evidence).Does R := by
  refine does_bind (reads_load laws.refl _) fun _ => ?_
  refine does_bind (does_check _) fun _ => ?_
  refine does_bind (reads_auditEvents laws.refl _) fun _ => ?_
  refine does_bind (does_check _) fun _ => ?_
  refine does_bind (does_check _) fun _ => ?_
  refine does_bind (does_check _) fun _ => ?_
  refine does_bind (reads_verify laws.refl _ _ _ _) fun _ => ?_
  refine does_bind (does_check _) fun _ => ?_
  exact does_bind (does_check _) fun _ => laws.replace _ _ _ _

theorem rotateArtifacts (expectedVersion : ℤ) (identity intent snapshot : ProtectedArtifact) :
    (store.rotateArtifacts call contractId expectedVersion identity intent snapshot).Does R := by
  refine does_bind (reads_load laws.refl _) fun _ => ?_
  refine does_bind (does_check _) fun _ => ?_
  exact does_bind (does_check _) fun _ => laws.replace _ _ _ _

theorem markExecutionVerified (expectedVersion : ℤ) (fingerprint : String) (locator : ℤ) :
    (store.markExecutionVerified call contractId expectedVersion fingerprint locator).Does R := by
  refine does_bind (reads_load laws.refl _) fun _ => ?_
  refine does_bind (does_check _) fun _ => ?_
  refine does_bind (does_check _) fun _ => ?_
  exact does_bind (does_check _) fun _ => laws.replace _ _ _ _

theorem markRollbackVerified (expectedVersion : ℤ) (locator : ℤ) :
    (store.markRollbackVerified call contractId expectedVersion locator).Does R := by
  refine does_bind (reads_load laws.refl _) fun _ => ?_
  refine does_bind (does_check _) fun _ => ?_
  refine does_bind (does_check _) fun _ => ?_
  exact does_bind (does_check _) fun _ => laws.replace _ _ _ _

theorem reconcileEach (contracts : List RecoveryContract) :
    (store.reconcileEach call contracts).Does R := by
  induction contracts with
  | nil => trivial
  | cons c cs ih =>
    refine does_bind (laws.transition _ _ _ _ _ _) fun _ => ?_
    exact does_bind ih fun _ => trivial

theorem reconcileInterrupted :
    (store.reconcileInterrupted call).Does R :=
  does_bind (reads_interrupted laws.refl) fun _ => laws.reconcileEach _

theorem rotateKey (newKeyId : String) (reencrypt : ℕ → RecoveryContract →
      Except Error (ProtectedArtifact × ProtectedArtifact × ProtectedArtifact)) :
    (store.rotateKey call newKeyId reencrypt).Does R := by
  have heach : ∀ contracts n,
      (store.rotateEach call newKeyId reencrypt n contracts).Does R := by
    intro contracts
    induction contracts with
    | nil => exact fun _ => trivial
    | cons c cs ih =>
      intro n
      unfold Store.rotateEach
      split_ifs
      · exact ih _
      · refine does_bind (does_check _) fun _ => ?_
        exact does_bind (laws.rotateArtifacts _ _ _ _ _) fun _ => ih _
  exact does_bind (reads_allContracts laws.refl) fun _ => heach _ _
/-- The two rows that a provisioning writes are written by statements of their own. -/
theorem provisionAnchorBaseline {value : ℤ} {handle : String}
    (hseed : (Op.execute (HighWaterMark.insertSeed store.toStoreIdentity value.toNat)).Does R)
    (hmarker : ∀ t, (Op.execute (ProvisioningRecord.insertMarker store.toStoreIdentity handle
      value.toNat t)).Does R) :
    (store.provisionAnchorBaseline value handle).Does R := by
  refine does_bind (does_check _) fun _ => ?_
  refine does_bind (reads_now laws.refl) fun t => ?_
  refine does_bind (does_check _) fun _ => ?_
  refine does_bind (reads_query laws.refl _) fun _ => ?_
  refine does_bind (does_check _) fun _ => ?_
  refine does_bind hseed fun _ => ?_
  refine does_bind (reads_query laws.refl _) fun _ => ?_
  refine does_bind (does_check _) fun _ => ?_
  refine does_bind (reads_query laws.refl _) fun _ => ?_
  refine does_bind (does_check _) fun _ => ?_
  refine does_bind (reads_query laws.refl _) fun _ => ?_
  refine does_bind (does_check _) fun _ => ?_
  refine does_bind (reads_query laws.refl _) fun _ => ?_
  refine does_bind (does_check _) fun _ => ?_
  exact hmarker t

end Store

section Executor

open MutationExecutor

variable {executor : MutationExecutor} {call : ℕ} {R : Answers → World → World → Prop}
  (laws : StepLaws executor.store call R) (adapter : CapabilityAdapter)
  (contract : RecoveryContract)

include laws

theorem send (direction : Direction) (request : Request)
    (context : Option AcceptanceExecutionContext) :
    (executor.send call direction contract request context).Does R := by
  refine does_bind (does_check _) fun _ => ?_
  exact does_atomic fun i s => laws.recorded i s _ rfl rfl

theorem readTarget : MutationExecutor.readTarget.Does R := reads_consult laws.refl _

theorem finishExecute (target : RecoveryState) (detail : String) :
    (executor.finishExecute call contract target detail).Does R :=
  does_bind (laws.transition _ _ _ _ _ _) fun _ => trivial

theorem finishRollback (target : RecoveryState) (detail : String) :
    (executor.finishRollback call contract target detail).Does R :=
  does_bind (laws.transition _ _ _ _ _ _) fun _ => trivial

theorem verifyExecution (pre : Platform.Obj) (intent : Json) (response : TransportResponse) :
    (executor.verifyExecution call adapter contract pre intent response).Does R := by
  refine does_bind (does_attempt laws.readTarget) fun post => ?_
  dsimp only
  split
  · exact laws.finishExecute contract _ _
  · refine does_bind (laws.record rfl rfl) fun _ => ?_
    refine does_bind (laws.markExecutionVerified _ _ _ _) fun _ => ?_
    exact does_bind (does_check _) fun _ => trivial
  · refine does_bind (laws.record rfl rfl) fun _ => ?_
    exact laws.finishExecute contract _ _

theorem sendExecution (context : Option AcceptanceExecutionContext) (pre : Platform.Obj)
    (intent : Json) (request : Request) :
    (executor.sendExecution call adapter context contract pre intent request).Does R := by
  refine does_bind (laws.send contract _ _ _) fun sent => ?_
  split
  · exact laws.verifyExecution adapter contract _ _ _
  · exact laws.finishExecute contract _ _

theorem runExecution (context : Option AcceptanceExecutionContext) :
    (executor.runExecution call adapter context contract).Does R := by
  have hfinish : ∀ detail, (executor.finishExecute call contract failed detail).Does R :=
    laws.finishExecute contract failed
  refine does_bind (does_attempt laws.readTarget) fun pre => ?_
  cases pre with
  | error e => exact hfinish _
  | ok pre =>
    dsimp only
    split
    · exact hfinish _
    · split
      · exact hfinish _
      · split
        · exact hfinish _
        · split
          · exact hfinish _
          · exact hfinish _
          · exact laws.sendExecution adapter contract _ _ _ _

theorem refuseExecution (eventType detail : String) :
    (executor.refuseExecution call contract eventType detail).Does R :=
  does_bind (laws.transition _ _ _ _ _ _) fun _ => trivial

theorem authorizeExecution (hint : Platform.Obj) (intent : Json)
    (context : Option AcceptanceExecutionContext) (registryClass : WriteSecurityClass) :
    (executor.authorizeExecution call adapter hint intent context contract
      registryClass).Does R := by
  refine does_bind (does_check _) fun _ => ?_
  refine does_bind (does_check _) fun _ => ?_
  refine does_bind (does_check _) fun _ => ?_
  refine does_bind (does_check _) fun _ => ?_
  refine does_bind (reads_consult laws.refl _) fun _ => ?_
  refine does_bind (laws.transition _ _ _ _ _ _) fun _ => ?_
  exact laws.runExecution adapter _ _

theorem execute (contractId : String) (hint : Platform.Obj) (intent : Json)
    (context : Option AcceptanceExecutionContext) :
    (executor.execute call contractId adapter hint intent context).Does R := by
  refine does_bind (reads_load laws.refl _) fun contract => ?_
  refine does_bind (does_check _) fun _ => ?_
  refine does_bind (does_check _) fun _ => ?_
  refine does_bind (reads_consult laws.refl _) fun _ => ?_
  refine does_bind (does_check _) fun _ => ?_
  split
  · exact laws.refuseExecution _ _ _
  · rename_i registryClass _
    by_cases hclass : registryClass ≠ contract.securityClass
    · rw [if_pos hclass]
      exact laws.refuseExecution _ _ _
    · rw [if_neg hclass]
      have happroved : (approved registryClass).Does R := by
        unfold approved
        split_ifs
        · exact reads_consult laws.refl _
        · trivial
      refine does_bind happroved fun approval => ?_
      split_ifs
      · exact laws.refuseExecution _ _ _
      · exact laws.authorizeExecution adapter _ _ _ _ _

theorem verifyRollback (snapshot : Json) :
    (executor.verifyRollback call adapter contract snapshot).Does R := by
  refine does_bind (does_attempt laws.readTarget) fun post => ?_
  dsimp only
  split
  · exact laws.finishRollback contract _ _
  · exact does_bind (laws.markRollbackVerified _ _ _) fun _ => trivial
  · exact laws.finishRollback contract _ _

theorem sendRollback (snapshot : Json) (request : Request) :
    (executor.sendRollback call adapter contract snapshot request).Does R := by
  refine does_bind (laws.send contract _ _ _) fun sent => ?_
  by_cases hsent : sent.2.1 = .verifiedSuccess
  · rw [if_pos hsent]
    exact laws.verifyRollback adapter contract _
  · rw [if_neg hsent]
    exact laws.finishRollback contract _ _

theorem runRollback :
    (executor.runRollback call adapter contract).Does R := by
  have hfinish : ∀ detail, (executor.finishRollback call contract rollbackFailed detail).Does R :=
    laws.finishRollback contract rollbackFailed
  refine does_bind (does_attempt (does_bind (does_check _) fun _ => laws.readTarget)) fun pre => ?_
  cases pre with
  | error e => exact hfinish _
  | ok pre =>
    dsimp only
    split
    · exact hfinish _
    · split
      · exact hfinish _
      · split
        · exact hfinish _
        · split
          · exact hfinish _
          · exact hfinish _
          · exact laws.sendRollback adapter contract _ _

theorem rollback (contractId : String) :
    (executor.rollback call contractId adapter).Does R := by
  refine does_bind (reads_load laws.refl _) fun contract => ?_
  refine does_bind (does_check _) fun _ => ?_
  refine does_bind (does_check _) fun _ => ?_
  refine does_bind (laws.transition _ _ _ _ _ _) fun _ => ?_
  exact laws.runRollback adapter _

theorem observeReconciliationTarget (contractId : String) :
    (executor.observeReconciliationTarget contractId adapter).Does R := by
  refine does_bind (reads_load laws.refl _) fun contract => ?_
  refine does_bind (does_check _) fun _ => ?_
  refine does_bind (does_check _) fun _ => ?_
  refine does_bind (reads_auditEvents laws.refl _) fun _ => ?_
  refine does_bind (does_check _) fun _ => ?_
  refine does_bind (does_check _) fun _ => ?_
  refine does_bind (does_check _) fun _ => ?_
  refine does_bind (does_attempt ?_) fun observed => ?_
  · refine does_bind (does_check _) fun _ => ?_
    refine does_bind laws.readTarget fun _ => ?_
    refine does_bind (does_check _) fun _ => ?_
    exact does_bind (does_check _) fun _ => trivial
  · split
    · exact does_check _
    · trivial

end Executor

end StepLaws

/-- The steps of an operation meet the relation. -/
theorem Operation.does {store : Store} {call : ℕ} {R : Answers → World → World → Prop}
    (laws : StepLaws store call R) (op : Operation store)
    (hprovision : ∀ value handle, op = .provisionAnchorBaseline value handle →
      (store.provisionAnchorBaseline value handle).Does R) : (op.code call).Does R := by
  have hdiscard : ∀ {α : Type} {p : Op α}, p.Does R →
      p.discard.Does R := fun hp => does_bind hp fun _ => trivial
  cases op with
  | load => exact hdiscard (reads_load laws.refl _)
  | auditEvents => exact hdiscard (reads_auditEvents laws.refl _)
  | allContracts => exact hdiscard (reads_allContracts laws.refl)
  | interrupted => exact hdiscard (reads_interrupted laws.refl)
  | findByIdempotencyKey => exact hdiscard (reads_findByIdempotencyKey laws.refl _)
  | findHistoricalByIdempotencyKey =>
    exact hdiscard (reads_findHistoricalByIdempotencyKey laws.refl _)
  | create => exact laws.create _
  | createAuthorized => exact laws.createAuthorized _
  | transition => exact hdiscard (laws.transition _ _ _ _ _ _)
  | expirePrepared => exact hdiscard (laws.expirePrepared _ _ _)
  | confirm => exact hdiscard (laws.confirm _ _ _)
  | resolveReconciliation => exact hdiscard (laws.resolveReconciliation _ _)
  | rotateArtifacts => exact hdiscard (laws.rotateArtifacts _ _ _ _ _)
  | rotateKey => exact laws.rotateKey _ _
  | markExecutionVerified => exact hdiscard (laws.markExecutionVerified _ _ _ _)
  | markRollbackVerified => exact hdiscard (laws.markRollbackVerified _ _ _)
  | reconcileInterrupted => exact hdiscard laws.reconcileInterrupted
  | provisionAnchorBaseline value handle => exact hprovision value handle rfl
  | execute executor h =>
    cases h
    exact hdiscard (laws.execute _ _ _ _ _)
  | rollback executor h =>
    cases h
    exact hdiscard (laws.rollback _ _)
  | observeReconciliationTarget executor h =>
    cases h
    exact hdiscard (laws.observeReconciliationTarget _ _)

end Tier1
