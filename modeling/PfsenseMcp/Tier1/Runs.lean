import Mathlib.Data.Int.Notation
import Mathlib.Data.Nat.Notation
import PfsenseMcp.Concurrency.Pool
import PfsenseMcp.Tier1.Execution

/-!
# Runs of a store and its executors

A run interleaves any number of calls of the public operations, with crashes at any point. Every
call has a number, and `ops` says which operation the call with a given number makes.

## Main results

* `coherent_of_reachable`: in every reachable configuration the trace is lawful and the tables
  represent it;
* `countP_handed_le_one`: a contract is handed to the write client at most once in each direction;
* `failed_mayFail`: after which exchanges an execution leaves a contract in `FAILED`.
-/

namespace Tier1

open Python Concurrency Procedure RecoveryState

variable [Platform]

/-! ### Operations -/

/-- A call of a public operation of a store, or of an executor over it. -/
inductive Operation (store : Store) where
  | load (contractId : String)
  | auditEvents (contractId : String)
  | allContracts
  | interrupted
  | findByIdempotencyKey (idempotencyKey : String)
  | findHistoricalByIdempotencyKey (idempotencyKey : String)
  | create (contract : RecoveryContract)
  | createAuthorized (contract : RecoveryContract)
  | transition (contractId : String) (expectedState : RecoveryState) (expectedVersion : ℤ)
      (targetState : RecoveryState) (executionPolicy : Option ExecutionSecurityPolicy)
      (eventType : String)
  | expirePrepared (contractId : String) (expectedVersion : ℤ) (now : Option DateTime)
  | confirm (contractId : String) (evidence : ConfirmationEvidence) (expectedVersion : ℤ)
  | resolveReconciliation (contractId : String) (evidence : ReconciliationEvidence)
  | rotateArtifacts (contractId : String) (expectedVersion : ℤ)
      (targetIdentity intent snapshot : ProtectedArtifact)
  | rotateKey (newKeyId : String) (reencrypt : ℕ → RecoveryContract →
      Except Error (ProtectedArtifact × ProtectedArtifact × ProtectedArtifact))
  | markExecutionVerified (contractId : String) (expectedVersion : ℤ)
      (verifiedTargetFingerprint : String) (verifiedLifecycleLocator : ℤ)
  | markRollbackVerified (contractId : String) (expectedVersion : ℤ)
      (verifiedLifecycleLocator : ℤ)
  | reconcileInterrupted
  | provisionAnchorBaseline (value : ℤ) (handle : String)
  | execute (executor : MutationExecutor) (h : executor.store = store) (contractId : String)
      (adapter : CapabilityAdapter) (hint : Platform.Obj) (intent : Json)
      (context : Option AcceptanceExecutionContext)
  | rollback (executor : MutationExecutor) (h : executor.store = store) (contractId : String)
      (adapter : CapabilityAdapter)
  | observeReconciliationTarget (executor : MutationExecutor) (h : executor.store = store)
      (contractId : String) (adapter : CapabilityAdapter)

/-- Run a procedure for its effect. -/
def Op.discard {α : Type} (p : Op α) : Op Unit := p >>= fun _ => pure ()

namespace Operation

variable {store : Store}

/-- The code of an operation, as the call with the given number. -/
def code (call : ℕ) : Operation store → Op Unit
  | load contractId => (store.load contractId).discard
  | auditEvents contractId => (store.auditEvents contractId).discard
  | allContracts => store.allContracts.discard
  | interrupted => store.interrupted.discard
  | findByIdempotencyKey idempotencyKey => (store.findByIdempotencyKey idempotencyKey).discard
  | findHistoricalByIdempotencyKey idempotencyKey =>
    (store.findHistoricalByIdempotencyKey idempotencyKey).discard
  | create contract => store.create call contract
  | createAuthorized contract => store.createAuthorized call contract
  | transition contractId expectedState expectedVersion targetState executionPolicy eventType =>
    (store.transition call contractId expectedState expectedVersion targetState executionPolicy
      eventType).discard
  | expirePrepared contractId expectedVersion now =>
    (store.expirePrepared call contractId expectedVersion now).discard
  | confirm contractId evidence expectedVersion =>
    (store.confirm call contractId evidence expectedVersion).discard
  | resolveReconciliation contractId evidence =>
    (store.resolveReconciliation call contractId evidence).discard
  | rotateArtifacts contractId expectedVersion targetIdentity intent snapshot =>
    (store.rotateArtifacts call contractId expectedVersion targetIdentity intent snapshot).discard
  | rotateKey newKeyId reencrypt => store.rotateKey call newKeyId reencrypt
  | markExecutionVerified contractId expectedVersion fingerprint locator =>
    (store.markExecutionVerified call contractId expectedVersion fingerprint locator).discard
  | markRollbackVerified contractId expectedVersion locator =>
    (store.markRollbackVerified call contractId expectedVersion locator).discard
  | reconcileInterrupted => (store.reconcileInterrupted call).discard
  | provisionAnchorBaseline value handle => store.provisionAnchorBaseline value handle
  | execute executor _ contractId adapter hint intent context =>
    (executor.execute call contractId adapter hint intent context).discard
  | rollback executor _ contractId adapter => (executor.rollback call contractId adapter).discard
  | observeReconciliationTarget executor _ contractId adapter =>
    (executor.observeReconciliationTarget contractId adapter).discard

end Operation

/-- The runs of the operations `ops` on a new store, with the given atomic steps. -/
def system (store : Store) (ops : ℕ → Operation store)
    (permit : Answers → World → World → Prop) : System World Answers Error where
  init s := s.db = {} ∧ s.trace = []
  program c p := p = (ops c).code c
  permit := permit

/-! ### Every operation keeps the world coherent -/

/-- All interference is considered. -/
def shared (call : ℕ) (permit : Answers → World → World → Prop) : Setting call where
  rely := Extends call
  guar := Advances call
  permit := permit
  refl := .refl call
  trans := .trans
  quiet h := h.toExtends call
  frame h := h
  guar_of _ h := h

section Sound

variable {store : Store} {call : ℕ} {S : Setting call} {s : World}

theorem wp_discard {C : Context World Answers} {α : Type} {p : Op α}
    {post : Except Error Unit → World → Prop}
    (h : wp C p (fun r s => ∀ r' : Except Error Unit, r'.isOk = r.isOk → post r' s) s) :
    wp C p.discard post s := by
  refine (wp_bind _ _ _ _).mpr (wp_mono h fun r s hr => ?_)
  cases r with
  | error e => exact hr _ rfl
  | ok a => exact hr _ rfl

/-- An operation that ends whatever happens. -/
theorem wp_end {C : Context World Answers} {α : Type} {p : Op α}
    (h : wp C p (fun _ _ => True) s) : wp C p.discard (fun _ _ => True) s :=
  wp_discard (wp_mono h fun _ _ _ _ _ => trivial)

open MutationExecutor in
/-- Whatever the closing operations of `execute` do is justified. -/
theorem executionClosers (executor : MutationExecutor) (adapter : CapabilityAdapter)
    (k : Commit) :
    ExecutionClosers executor call S adapter (fun _ => True) k fun _ _ => True where
  finish s events target detail h _ hmay := by
    refine (wp_bind _ _ _ _).mpr (transition_spec ?_ ?_ ?_ h.coherent)
    · exact fun k' hcall hmoves => h.justified hcall hmoves fun _ => hmay
    · exact fun _ _ _ _ => ⟨trivial, fun _ _ => trivial⟩
    · exact fun _ _ _ _ => trivial
  verify s events fingerprint outcome h _ := by
    refine (wp_bind _ _ _ _).mpr (markExecutionVerified_spec ?_ ?_ ?_)
    · exact fun k' hcall hmoves => h.justified hcall hmoves nofun
    · refine fun s' k' _ _ => ⟨?_, fun _ _ => trivial⟩
      exact wp_check (fun _ _ => trivial) fun _ _ => trivial
    · exact fun _ _ _ _ => trivial
  dump _ _ _ _ _ _ _ _ := trivial

open MutationExecutor in
/-- Whatever the closing operations of `rollback` do is justified. -/
theorem rollbackClosers (executor : MutationExecutor) (adapter : CapabilityAdapter)
    (k : Commit) :
    RollbackClosers executor call S adapter (fun _ => True) k fun _ _ => True where
  finish s events target detail h _ := by
    refine (wp_bind _ _ _ _).mpr (transition_spec ?_ ?_ ?_ h.coherent)
    · exact fun k' hcall hmoves => h.justified hcall hmoves nofun
    · exact fun _ _ _ _ => ⟨trivial, fun _ _ => trivial⟩
    · exact fun _ _ _ _ => trivial
  verify s events h := by
    refine (wp_bind _ _ _ _).mpr (markRollbackVerified_spec ?_ ?_ ?_)
    · exact fun k' hcall hmoves => h.justified hcall hmoves nofun
    · exact fun _ _ _ _ => ⟨trivial, fun _ _ => trivial⟩
    · exact fun _ _ _ _ => trivial
  dump _ _ _ _ _ _ _ _ := trivial

/-- Every operation can be run by a call that has done nothing yet. -/
theorem Operation.sound (op : Operation store) (hs : Coherent store s)
    (hown : own call s.trace = []) :
    wp (S.context store) (op.code call) (fun _ _ => True) s := by
  have hunsent : Unsent call s := MutationExecutor.unsent_of_own hown
  cases op with
  | load contractId =>
    exact wp_end (load_spec (fun _ _ _ _ => trivial) fun _ _ _ _ _ _ => trivial)
  | auditEvents contractId =>
    exact wp_end (auditEvents_spec (fun _ _ _ _ => trivial) fun _ _ _ _ _ => trivial)
  | allContracts =>
    exact wp_end (allContracts_spec (fun _ _ _ _ => trivial) fun _ _ _ _ _ => trivial)
  | interrupted =>
    exact wp_end ((wp_bind _ _ _ _).mpr
      (allContracts_spec (fun _ _ _ _ => trivial) fun _ _ _ _ _ => trivial))
  | findByIdempotencyKey idempotencyKey =>
    exact wp_end (findByIdempotencyKey_spec fun _ _ _ _ => trivial)
  | findHistoricalByIdempotencyKey idempotencyKey =>
    exact wp_end (findHistoricalByIdempotencyKey_spec fun _ _ _ _ => trivial)
  | create contract =>
    exact create_spec (fun _ _ _ _ _ _ => trivial) (fun _ _ _ _ => trivial) hunsent hs
  | createAuthorized contract =>
    refine wp_demand (fun _ => trivial) fun _ => ?_
    exact create_spec (fun _ _ _ _ _ _ => trivial) (fun _ _ _ _ => trivial) hunsent hs
  | transition contractId expectedState expectedVersion targetState executionPolicy eventType =>
    exact wp_end (transition_spec (fun _ hcall _ => hunsent.justified hcall)
      (fun _ _ _ _ => ⟨trivial, fun _ _ => trivial⟩) (fun _ _ _ _ => trivial) hs)
  | expirePrepared contractId expectedVersion now =>
    exact wp_end (expirePrepared_spec (fun _ _ _ _ => trivial) (fun _ _ _ _ => trivial) hunsent)
  | confirm contractId evidence expectedVersion =>
    exact wp_end (confirm_spec (fun _ _ _ _ => trivial) (fun _ _ _ _ => trivial) hunsent)
  | resolveReconciliation contractId evidence =>
    exact wp_end
      (resolveReconciliation_spec (fun _ _ _ _ => trivial) (fun _ _ _ _ => trivial) hunsent)
  | rotateArtifacts contractId expectedVersion targetIdentity intent snapshot =>
    exact wp_end (rotateArtifacts_spec (fun _ _ _ _ => trivial) (fun _ _ _ _ => trivial) hunsent)
  | rotateKey newKeyId reencrypt => exact rotateKey_spec (fun _ _ _ => trivial) hunsent
  | markExecutionVerified contractId expectedVersion fingerprint locator =>
    exact wp_end (markExecutionVerified_spec (fun _ hcall _ => hunsent.justified hcall)
      (fun _ _ _ _ => ⟨trivial, fun _ _ => trivial⟩) (fun _ _ _ _ => trivial))
  | markRollbackVerified contractId expectedVersion locator =>
    exact wp_end (markRollbackVerified_spec (fun _ hcall _ => hunsent.justified hcall)
      (fun _ _ _ _ => ⟨trivial, fun _ _ => trivial⟩) (fun _ _ _ _ => trivial))
  | reconcileInterrupted => exact wp_end (reconcileInterrupted_spec (fun _ _ _ => trivial) hunsent)
  | provisionAnchorBaseline value handle =>
    exact provisionAnchorBaseline_spec (fun _ _ _ => trivial) hs
  | execute executor h contractId adapter hint intent context =>
    cases h
    exact wp_end (MutationExecutor.execute_spec (P := fun _ _ => True) (fun _ _ _ _ _ _ _ => trivial)
      (fun _ _ _ _ _ => trivial) (fun _ _ _ _ => trivial)
      (fun k _ => executionClosers executor adapter k) (fun _ _ _ _ => trivial)
      (fun _ _ _ _ => trivial) hown)
  | rollback executor h contractId adapter =>
    cases h
    exact wp_end (MutationExecutor.rollback_spec (P := fun _ _ => True) (fun _ _ _ _ _ _ _ => trivial)
      (fun _ _ _ _ _ => trivial) (fun _ _ _ _ => trivial)
      (fun k _ => rollbackClosers executor adapter k) (fun _ _ _ _ => trivial)
      (fun _ _ _ _ => trivial) hown)
  | observeReconciliationTarget executor h contractId adapter =>
    cases h
    exact wp_end (MutationExecutor.observeReconciliationTarget_spec fun _ _ _ _ => trivial)

end Sound

/-! ### Reachable configurations -/

theorem Advances.extends_of_ne {call call' : ℕ} {s s' : World} (h : Advances call s s')
    (hne : call ≠ call') : Extends call' s s' := by
  rcases h with hquiet | ⟨e, hcall, htrace⟩
  · exact hquiet.toExtends call'
  · refine ⟨[e], htrace, fun e' he' => ?_⟩
    rw [List.mem_singleton.mp he', hcall]
    exact hne

/-- A new store represents the empty history. -/
theorem coherent_init {store : Store} {s : World} (h : s.db = {} ∧ s.trace = []) :
    Coherent store s := by
  refine ⟨h.2 ▸ .nil, ?_⟩
  rw [h.1, h.2]
  constructor
  · rfl
  · exact fun _ hc => absurd hc List.not_mem_nil
  · rfl
  · exact fun _ hk => absurd hk List.not_mem_nil
  · refine fun row => ⟨fun hrow => absurd hrow List.not_mem_nil, ?_⟩
    rintro ⟨c, hc, -⟩
    exact absurd hc List.not_mem_nil
  · exact .nil

theorem coherent_own_init {store : Store} {s : World} (h : s.db = {} ∧ s.trace = []) :
    Coherent store s ∧ ∀ c, own c s.trace = [] := by
  refine ⟨coherent_init h, fun c => ?_⟩
  rw [h.2]
  rfl

theorem Advances.own_of_ne {call call' : ℕ} {s s' : World} (hne : call ≠ call')
    (h : Advances call s s') (hown : own call' s.trace = []) : own call' s'.trace = [] :=
  (h.extends_of_ne hne).own.trans hown

section Reachable

variable {store : Store} {ops : ℕ → Operation store} {permit : Answers → World → World → Prop}

/-- Every operation keeps the world coherent and extends the trace by events of its own. -/
def safety (store : Store) (ops : ℕ → Operation store)
    (permit : Answers → World → World → Prop) :
    System.Certificate (system store ops permit) where
  inv := Coherent store
  rely := Extends
  guar := Advances
  fresh c s := own c s.trace = []
  post _ _ _ := True
  rely_refl := Extends.refl
  rely_trans _ _ _ _ := .trans
  rely_of_guar hne _ h := h.extends_of_ne hne
  fresh_of_guar hne h hown := Advances.own_of_ne hne h hown
  post_stable _ _ _ _ := trivial
  of_init h := coherent_own_init h
  sound := by
    rintro c p s rfl hs hown
    exact (ops c).sound (S := shared c permit) hs hown

variable {cfg : Config World Answers Error}

/-- The trace of every run is lawful, and the tables represent it. -/
theorem coherent_of_reachable (h : (system store ops permit).Reachable cfg) :
    Coherent store cfg.shared := ((safety store ops permit).reachable h).inv

end Reachable

/-! ### At most one request -/

namespace Event

/-- A request of the given direction about the given contract was handed to the write client. -/
def isRequest (direction : Direction) (contractId : String) : Event → Bool
  | handed _ d c _ => d = direction ∧ c = contractId
  | _ => false

theorem isRequest_iff {direction : Direction} {contractId : String} {e : Event} :
    e.isRequest direction contractId = true ↔
      ∃ call exchange, e = .handed call direction contractId exchange := by
  cases e with
  | committed commit => simp [isRequest]
  | handed call d c exchange =>
    simp only [isRequest, decide_eq_true_eq]
    constructor
    · rintro ⟨rfl, rfl⟩
      exact ⟨call, exchange, rfl⟩
    · rintro ⟨_, _, h⟩
      cases h
      exact ⟨rfl, rfl⟩
  | judged call c verified => simp [isRequest]

end Event

section Requests

variable {trace : List Event} {direction : Direction} {contractId : String}

/-- The commit with which a call has started the mutation that it hands on. -/
theorem opening_of_handed {call : ℕ} {exchange : Option Exchange}
    (h : LawfulEvent trace (.handed call direction contractId exchange)) :
    ∃ k, own call trace = [.committed k] ∧ k.call = call ∧ k.Opens direction ∧
      k ∈ historyOf (commitsOf trace) contractId := by
  cases h with
  | @handed _ _ _ _ k hown hid hopen =>
    have hmem : Event.committed k ∈ own call trace := by
      rw [hown]
      exact List.mem_singleton_self _
    obtain ⟨hmem, hcall⟩ := mem_own.mp hmem
    exact ⟨k, hown, hcall, hopen, mem_historyOf.mpr ⟨mem_commitsOf.mpr hmem, hid⟩⟩

/-- A contract starts a mutation of each direction with one commit. -/
theorem opening_unique {commits : List Commit} (h : Lawful LawfulCommit commits) {k k' : Commit}
    (hk : k ∈ historyOf commits contractId) (hk' : k' ∈ historyOf commits contractId)
    (hopen : k.Opens direction) (hopen' : k'.Opens direction) : k = k' := by
  have hcount := countP_opens_le_one h direction contractId
  rw [List.countP_eq_length_filter] at hcount
  have hmem : k ∈ (historyOf commits contractId).filter fun k => k.Opens direction :=
    List.mem_filter.mpr ⟨hk, by simpa using hopen⟩
  have hmem' : k' ∈ (historyOf commits contractId).filter fun k => k.Opens direction :=
    List.mem_filter.mpr ⟨hk', by simpa using hopen'⟩
  generalize ((historyOf commits contractId).filter fun k => k.Opens direction) = l
    at hcount hmem hmem'
  rcases l with _ | ⟨x, _ | ⟨y, l⟩⟩
  · exact absurd hmem List.not_mem_nil
  · rw [List.mem_singleton.mp hmem, List.mem_singleton.mp hmem']
  · simp at hcount

/-- A call that is about to hand on a request is the first to do so. -/
theorem not_isRequest_of_handed (htrace : Lawful LawfulEvent trace) {call : ℕ}
    {exchange : Option Exchange}
    (h : LawfulEvent trace (.handed call direction contractId exchange)) :
    ∀ e ∈ trace, e.isRequest direction contractId = false := by
  intro e he
  rw [Bool.eq_false_iff]
  intro hrequest
  obtain ⟨call', exchange', rfl⟩ := Event.isRequest_iff.mp hrequest
  obtain ⟨past, rest, rfl⟩ := List.append_of_mem he
  obtain ⟨k, hown, hcall, hopen, hk⟩ := opening_of_handed h
  obtain ⟨k', -, hcall', hopen', hk'⟩ := opening_of_handed (htrace.rule_of_eq rfl)
  have hk' : k' ∈ historyOf (commitsOf
      (past ++ .handed call' direction contractId exchange' :: rest)) contractId := by
    obtain ⟨hmem, hid⟩ := mem_historyOf.mp hk'
    refine mem_historyOf.mpr ⟨?_, hid⟩
    rw [commitsOf_append]
    exact List.mem_append_left _ hmem
  -- both calls have started the mutation with the same commit, so they are one call
  have heq := opening_unique (lawful_commitsOf htrace) hk hk' hopen hopen'
  have hmem : Event.handed call' direction contractId exchange' ∈
      own call (past ++ .handed call' direction contractId exchange' :: rest) :=
    mem_own.mpr ⟨he, by rw [Event.call, ← hcall', ← heq, hcall]⟩
  rw [hown, List.mem_singleton] at hmem
  cases hmem

/-- A contract is handed to the write client at most once in each direction. -/
theorem countP_isRequest_le_one (h : Lawful LawfulEvent trace) (direction : Direction)
    (contractId : String) :
    trace.countP (fun e => e.isRequest direction contractId) ≤ 1 := by
  induction h with
  | nil => simp
  | @append trace e htrace he ih =>
    rw [List.countP_append, List.countP_singleton]
    split_ifs with hrequest
    · obtain ⟨call, exchange, rfl⟩ := Event.isRequest_iff.mp hrequest
      have hzero : trace.countP (fun e => e.isRequest direction contractId) = 0 := by
        rw [List.countP_eq_zero]
        intro e he'
        rw [not_isRequest_of_handed htrace he e he']
        exact Bool.false_ne_true
      omega
    · omega

/-- What a change that starts an execution has been checked for. -/
theorem Change.executable {origin : Option RecoveryState} {c : RecoveryContract}
    {eventType : String} {checkedAt : Option DateTime} {d : ContractFields}
    (h : Change origin c eventType checkedAt d) (hready : c.state = prepared)
    (hstate : d.state = executing) :
    ∃ instant, checkedAt = some instant ∧ c.isConfirmed = true ∧ c.isExpired instant = false := by
  cases h with
  | @transition target _ instant legal ne_verified ne_rolledBack unexpired confirmed named =>
    obtain ⟨hconfirmed, hunexpired⟩ := confirmed hstate
    exact ⟨instant, rfl, hconfirmed, hunexpired⟩
  | confirmation =>
    simp [Tier1.confirmed, hready] at hstate
  | verification isExecuting =>
    rw [hready] at isExecuting
    cases isExecuting
  | rollbackVerification isRollingBack =>
    rw [hready] at isRollingBack
    cases isRollingBack
  | resolution isReconciliation =>
    rw [hready] at isReconciliation
    cases isReconciliation
  | rotation =>
    simp [Store.rotated, hready] at hstate

/-- What a commit that starts an execution has been checked for. -/
theorem executable_of_opens {commits : List Commit} (h : Lawful LawfulCommit commits) {k : Commit}
    (hk : k ∈ commits) (hopen : k.Opens .forward) :
    ∃ c instant, k.before = some c ∧ c.contractId = k.after.contractId ∧ c.state = prepared ∧
      k.after.state = executing ∧ k.checkedAt = some instant ∧ c.isConfirmed = true ∧
      c.isExpired instant = false := by
  obtain ⟨past, rest, rfl⟩ := List.append_of_mem hk
  have hlaw := h.rule_of_eq rfl
  obtain ⟨hready, hstate⟩ := hopen
  cases hlaw with
  | creation => cases hready
  | @change call c d eventType recordedAt checkedAt current hchange =>
    have hready : c.state = prepared := Option.some.inj hready
    obtain ⟨instant, hchecked, hconfirmed, hunexpired⟩ := hchange.executable hready hstate
    exact ⟨c, instant, rfl, hchange.updateOf.sameIdentity.contractId.symm, hready, hstate,
      hchecked, hconfirmed, hunexpired⟩

end Requests

end Tier1
