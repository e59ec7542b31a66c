import Mathlib.Data.Int.Notation
import Mathlib.Data.Nat.Notation
import PfsenseMcp.Tier1.Execution
import PfsenseMcp.Tier1.Progress

/-!
# The steps of one execution

`execute` takes a contract to `EXECUTING`, reads the target, sends a request, reads the target
again and closes the contract. Here its code is cut at these five points, so that the steps of
several executions can be interleaved.

## Main results

* `execute_eq`, `runExecution_eq`, `verifyExecution_eq`: `execute` is the composition of its steps;
* `startExecution_spec`: what the first step commits, and what it has checked;
* `finishExecute_spec`, `conclude_live`: how a contract is closed.
-/

namespace Tier1

open Python Concurrency Procedure RecoveryState

variable [Platform]

namespace MutationExecutor

/-! ### The steps -/

/-- What `execute` does with a contract of the right security class, up to `EXECUTING`. -/
def startAuthorized (executor : MutationExecutor) (call : ℕ) (adapter : CapabilityAdapter)
    (hint : Platform.Obj) (intent : Json) (contract : RecoveryContract)
    (registryClass : WriteSecurityClass) : Op RecoveryContract := do
  Op.check (authorize executor.policy ⟨adapter.capability, adapter.endpointSymbol,
    adapter.httpMethod⟩)
  let targetIdentity ← Op.check (adapter.naturalIdentity hint)
  let targetPrecondition ← Op.check (adapter.fingerprint hint)
  Op.check (contract.verifyBindings adapter.capability adapter.endpointSymbol adapter.httpMethod
    targetIdentity targetPrecondition intent)
  requirePfrestWritable
  executor.store.transition call contract.contractId prepared contract.stateVersion executing
    (some (executionPolicies registryClass)) "state_transition"

/-- `execute` up to `EXECUTING`: the outcome of a refusal, or the contract that is `EXECUTING`. -/
def startExecution (executor : MutationExecutor) (call : ℕ) (contractId : String)
    (adapter : CapabilityAdapter) (hint : Platform.Obj) (intent : Json) :
    Op (Outcome ⊕ RecoveryContract) := do
  let contract ← executor.store.load contractId
  Op.check (demand (contract.state = prepared) .contractConflict
    "Recovery Contract is not PREPARED.")
  Op.check (demand (contract.isConfirmed = true) .contractConflict
    "Recovery Contract is unconfirmed or expired.")
  let instant ← now
  Op.check (demand (contract.isExpired instant = false) .contractConflict
    "Recovery Contract is unconfirmed or expired.")
  match executor.capabilitySecurityClasses contract.capability with
  | none =>
    Sum.inl <$> executor.refuseExecution call contract "security_class_mismatch"
      execute.classMismatch
  | some registryClass =>
    if registryClass ≠ contract.securityClass then
      Sum.inl <$> executor.refuseExecution call contract "security_class_mismatch"
        execute.classMismatch
    else do
      let approval ← approved registryClass
      if approval = false then
        Sum.inl <$> executor.refuseExecution call contract "sealed_write_approval_rejected"
          execute.approvalRejected
      else
        Sum.inr <$> executor.startAuthorized call adapter hint intent contract registryClass

/-- What `execute` makes of the read before the send: a refusal, or a request. -/
def examine (executor : MutationExecutor) (adapter : CapabilityAdapter)
    (contract : RecoveryContract) (pre : Except Error Platform.Obj) :
    Except String (Platform.Obj × Json × Request) :=
  match pre with
  | .error e => .error s!"pre-send target read failed ({e.cls.name})"
  | .ok pre =>
    match readFingerprint contract adapter pre with
    | .error _ => .error "pre-send target validation failed"
    | .ok fingerprint =>
      if fingerprint ≠ contract.targetFingerprint then
        .error "target fingerprint drift before send"
      else
        match resolveTransportTarget contract adapter pre with
        | .error _ => .error "target incarnation continuity unproven before send"
        | .ok target =>
          match (do
            let intent ← decrypt executor.encryptionKey contract contract.protectedIntent .intent
            let request ← adapter.buildRequest intent target
            (.ok (intent, request) : Except Error (Json × Option Request))) with
          | .error e => .error s!"request construction failed ({e.cls.name})"
          | .ok (_, none) => .error "adapter did not return a typed request"
          | .ok (intent, some request) => .ok (pre, intent, request)

/-- What `execute` observes after the send. -/
def observe (adapter : CapabilityAdapter) (contract : RecoveryContract) (pre : Platform.Obj)
    (intent : Json) (response : TransportResponse) (post : Except Error Platform.Obj) :
    Except Error (ResolvedTransportTarget × Except Error String × Option String) := do
  let post ← post
  let target ← resolveTransportTarget contract adapter post
  let outcome ← adapter.parseResponse response
  let verified ← adapter.isSemanticallyVerified pre post intent
  if verified then do
    let fingerprint ← readFingerprint contract adapter post
    .ok (target, outcome, some fingerprint)
  else .ok (target, outcome, none)

/-- How `execute` closes a contract whose request was answered with success. -/
def conclude (executor : MutationExecutor) (call : ℕ) (adapter : CapabilityAdapter)
    (contract : RecoveryContract) (pre : Platform.Obj) (intent : Json)
    (response : TransportResponse) (post : Except Error Platform.Obj) : Op Outcome :=
  match observe adapter contract pre intent response post with
  | .error e =>
    executor.finishExecute call contract reconciliation
      s!"post-send verification failed ({e.cls.name})"
  | .ok (target, outcome, some fingerprint) => do
    Op.record (.judged call contract.contractId true)
    let updated ← executor.store.markExecutionVerified call contract.contractId
      contract.stateVersion fingerprint target.numericLocator
    let text ← Op.check outcome
    return ⟨contract.contractId, updated.state, "parsed response: " ++ text⟩
  | .ok (_, _, none) => do
    Op.record (.judged call contract.contractId false)
    executor.finishExecute call contract
      (classifyFault .afterSend .verifiedFailure).targetState
      "response received but not semantically verified"

/-- How `execute` closes a contract whose request was not answered with success. -/
def closeUnanswered (executor : MutationExecutor) (call : ℕ) (contract : RecoveryContract)
    (boundary : MutationBoundary) (knowledge : EffectKnowledge) : Op Outcome :=
  executor.finishExecute call contract (classifyFault boundary knowledge).targetState
    (if knowledge = .ambiguous then "ambiguous outcome during send"
    else "mutation refused before any effect")

/-! ### Their composition -/

section Composition

variable (executor : MutationExecutor) (call : ℕ) (adapter : CapabilityAdapter)
  (context : Option AcceptanceExecutionContext) (contract : RecoveryContract)

theorem verifyExecution_eq (pre : Platform.Obj) (intent : Json) (response : TransportResponse) :
    executor.verifyExecution call adapter contract pre intent response =
      readTarget.attempt >>= executor.conclude call adapter contract pre intent response := rfl

theorem sendExecution_eq (pre : Platform.Obj) (intent : Json) (request : Request) :
    executor.sendExecution call adapter context contract pre intent request = (do
      let sent ← executor.send call .forward contract request context
      match sent with
      | (_, .verifiedSuccess, some response) =>
        executor.verifyExecution call adapter contract pre intent response
      | (boundary, knowledge, _) => executor.closeUnanswered call contract boundary knowledge) :=
  rfl

theorem runExecution_eq :
    executor.runExecution call adapter context contract = (do
      let pre ← readTarget.attempt
      match executor.examine adapter contract pre with
      | .error detail => executor.finishExecute call contract failed detail
      | .ok (pre, intent, request) =>
        executor.sendExecution call adapter context contract pre intent request) := by
  unfold runExecution
  refine congrArg (readTarget.attempt >>= ·) (funext fun pre => ?_)
  unfold examine
  cases pre with
  | error e => rfl
  | ok pre =>
    dsimp only
    cases readFingerprint contract adapter pre with
    | error e => rfl
    | ok fingerprint =>
      dsimp only
      by_cases hdrift : fingerprint ≠ contract.targetFingerprint
      · rw [if_pos hdrift, if_pos hdrift]
      · rw [if_neg hdrift, if_neg hdrift]
        cases resolveTransportTarget contract adapter pre with
        | error e => rfl
        | ok target =>
          dsimp only
          generalize (do
            let intent ← decrypt executor.encryptionKey contract contract.protectedIntent .intent
            let request ← adapter.buildRequest intent target
            (.ok (intent, request) : Except Error (Json × Option Request))) = built
          rcases built with e | ⟨intent, _ | request⟩ <;> rfl

theorem authorizeExecution_eq (hint : Platform.Obj) (intent : Json)
    (registryClass : WriteSecurityClass) :
    executor.authorizeExecution call adapter hint intent context contract registryClass =
      executor.startAuthorized call adapter hint intent contract registryClass >>=
        executor.runExecution call adapter context := by
  simp only [authorizeExecution, startAuthorized, bind_assoc]

/-- `execute` starts the contract, or refuses it, and then runs. -/
theorem execute_eq (contractId : String) (hint : Platform.Obj) (intent : Json) :
    executor.execute call contractId adapter hint intent context = (do
      let started ← executor.startExecution call contractId adapter hint intent
      match started with
      | .inl outcome => pure outcome
      | .inr contract => executor.runExecution call adapter context contract) := by
  have hrefused : ∀ p : Op Outcome, ((Sum.inl <$> p : Op (Outcome ⊕ RecoveryContract)) >>=
      fun started => match started with
        | .inl outcome => pure outcome
        | .inr contract => executor.runExecution call adapter context contract) = p := by
    intro p
    rw [bind_map_left]
    exact bind_pure p
  unfold execute startExecution
  simp only [bind_assoc]
  refine bind_congr fun contract => bind_congr fun _ => bind_congr fun _ =>
    bind_congr fun instant => bind_congr fun _ => ?_
  cases executor.capabilitySecurityClasses contract.capability with
  | none => exact (hrefused _).symm
  | some registryClass =>
    dsimp only
    by_cases hclass : registryClass ≠ contract.securityClass
    · rw [if_pos hclass, if_pos hclass]
      exact (hrefused _).symm
    · rw [if_neg hclass, if_neg hclass, bind_assoc]
      refine bind_congr fun approval => ?_
      by_cases hrejected : approval = false
      · rw [if_pos hrejected, if_pos hrejected]
        exact (hrefused _).symm
      · rw [if_neg hrejected, if_neg hrejected, authorizeExecution_eq, bind_map_left]

end Composition

/-! ### What they do -/

/-- A contract that passed the checks of an adapter. -/
structure Bound (adapter : CapabilityAdapter) (hint : Platform.Obj) (c : RecoveryContract) :
    Prop where
  capability : c.capability = adapter.capability
  identity : ∃ identity, adapter.naturalIdentity hint = .ok identity ∧
    digestValue .targetIdentity identity [c.capability.name] = .ok c.targetIdentityDigest

theorem bound_of_verifyBindings {adapter : CapabilityAdapter} {hint : Platform.Obj}
    {c : RecoveryContract} {identity precondition intent : Json}
    (hidentity : adapter.naturalIdentity hint = .ok identity)
    (h : c.verifyBindings adapter.capability adapter.endpointSymbol adapter.httpMethod identity
      precondition intent = .ok ()) : Bound adapter hint c := by
  simp only [RecoveryContract.verifyBindings, bind_eq_ok, demand_eq_ok, Prod.mk.injEq] at h
  obtain ⟨digest, hdigest, _, -, _, -, hcapability, -, -, hsame, -⟩ := h
  exact ⟨hcapability.symm, identity, hidentity, by rw [hdigest, hsame]⟩

theorem Bound.of_sameIdentity {adapter : CapabilityAdapter} {hint : Platform.Obj}
    {c d : RecoveryContract} (h : Bound adapter hint c)
    (hsame : c.SameIdentity d.toContractFields) : Bound adapter hint d := by
  obtain ⟨hcapability, identity, hidentity, hdigest⟩ := h
  refine ⟨hsame.capability.trans hcapability, identity, hidentity, ?_⟩
  rw [hsame.capability, hsame.targetIdentityDigest]
  exact hdigest

section Start

variable {executor : MutationExecutor} {call : ℕ} {S : Setting call} {s : World}
  {adapter : CapabilityAdapter} {hint : Platform.Obj} {intent : Json}

/-- The contract that was loaded and the one that was committed later agree on their identity. -/
theorem sameIdentity_of_commits {c : RecoveryContract} {k : Commit} {s' : World}
    (hrecorded : s.Recorded c) (h : S.Commits executor.store s s' k)
    (hid : k.after.contractId = c.contractId) : c.SameIdentity k.after.toContractFields := by
  obtain ⟨⟨s₁, h₁, -, htrace⟩, hs', -⟩ := h
  obtain ⟨k₀, hk₀, rfl⟩ := (S.frame h₁).recorded hrecorded
  have hcommits : commitsOf s'.trace = commitsOf s₁.trace ++ [k] := by
    rw [htrace, commitsOf_append]
    rfl
  have hlatest : latestOf (commitsOf s'.trace) k.after.contractId = some k.after := by
    rw [hcommits]
    exact View.latest_append_self (V := commitView) _ _
  refine (sameIdentity_of_mem hs'.commits hlatest k₀ (mem_historyOf.mpr ⟨?_, hid.symm⟩)).1
  rw [hcommits]
  exact List.mem_append_left _ hk₀

/-- What a call ends with that has not taken a contract to `EXECUTING`. -/
def NotStarted (r : Except Error (Outcome ⊕ RecoveryContract)) : Prop := ∀ c, r ≠ .ok (.inr c)

theorem notStarted_error (e : Error) : NotStarted (.error e) := fun _ h => by cases h

theorem notStarted_refused (outcome : Outcome) : NotStarted (.ok (.inl outcome)) :=
  fun _ h => by cases h

/-- What the checks before `EXECUTING` end in, once the contract is loaded. -/
theorem startAuthorized_spec {contract : RecoveryContract} {registryClass : WriteSecurityClass}
    {post : Except Error RecoveryContract → World → Prop} (hs : Coherent executor.store s)
    (hown : own call s.trace = []) (hrecorded : s.Recorded contract)
    (hstarted : ∀ s' k, S.Commits executor.store s s' k → k.Opens .forward →
      k.after.contractId = contract.contractId → Bound adapter hint k.after →
      post (.ok k.after) s' ∧ ∀ e, post (.error e) s')
    (hrest : ∀ s' e, Coherent executor.store s' → S.rely s s' → post (.error e) s') :
    wp (S.context executor.store) (executor.startAuthorized call adapter hint intent contract
      registryClass) post s := by
  have here := fun e => hrest s e hs (S.refl s)
  refine wp_check (fun e _ => here e) fun _ _ => ?_
  refine wp_check (fun e _ => here e) fun identity hidentity => ?_
  refine wp_check (fun e _ => here e) fun precondition _ => ?_
  refine wp_check (fun e _ => here e) fun _ hbindings => ?_
  have hbound := bound_of_verifyBindings hidentity hbindings
  refine (wp_bind _ _ _ _).mpr (wp_consult fun s₁ hs₁ h₁ i => ?_)
  have hown₁ : own call s₁.trace = [] := (S.frame h₁).own.trans hown
  split
  · exact hrest s₁ _ hs₁ h₁
  · rename_i readOnly _
    cases demand (readOnly = some false) .globalReadOnlyBlocked
      "WRITE blocked: owner must disable pfREST Read Only in WebConfigurator." with
    | error e => exact hrest s₁ _ hs₁ h₁
    | ok _ =>
      refine transition_spec ?_ ?_ (fun s₂ e hs₂ h₂ => hrest s₂ e hs₂ (S.trans h₁ h₂)) hs₁
      · exact fun k hcall _ => (unsent_of_own hown₁).justified hcall
      · intro s₂ k hcommits hmoves
        have hid : k.after.contractId = contract.contractId := hmoves.2.1
        have hcommits := hcommits.of_rely h₁
        have hsame := sameIdentity_of_commits hrecorded hcommits hid
        have h := hstarted s₂ k hcommits (opens_of_moves hmoves) hid (hbound.of_sameIdentity hsame)
        exact ⟨h.1, fun _ => h.2⟩

/-- `execute` takes a contract that is `PREPARED` to `EXECUTING`, or closes it, or leaves all
contracts as they are. -/
theorem startExecution_spec {contractId : String}
    {post : Except Error (Outcome ⊕ RecoveryContract) → World → Prop}
    (hown : own call s.trace = [])
    (hstarted : ∀ s' k, S.Commits executor.store s s' k → k.Opens .forward →
      k.after.contractId = contractId → Bound adapter hint k.after →
      post (.ok (.inr k.after)) s')
    (hclosed : ∀ s' k r, S.Commits executor.store s s' k →
      k.before.map (fun c => c.state) = some prepared → k.after.state ≠ prepared →
      k.after.contractId = contractId → NotStarted r → post r s')
    (hrest : ∀ s' r, Coherent executor.store s' → S.rely s s' → NotStarted r → post r s') :
    wp (S.context executor.store) (executor.startExecution call contractId adapter hint intent)
      post s := by
  have herr : ∀ s' e, Coherent executor.store s' → S.rely s s' → post (.error e) s' :=
    fun s' e hs' h' => hrest s' _ hs' h' (notStarted_error e)
  refine (wp_bind _ _ _ _).mpr (load_spec herr ?_)
  intro s₁ contract hs₁ h₁ hrecorded hid
  refine wp_demand (fun e => herr s₁ e hs₁ h₁) fun _ => ?_
  refine wp_demand (fun e => herr s₁ e hs₁ h₁) fun _ => ?_
  refine (wp_bind _ _ _ _).mpr (wp_consult fun s₂ hs₂ h₂ i => ?_)
  have hrecorded := (S.frame h₂).recorded hrecorded
  have h₂ := S.trans h₁ h₂
  cases i.executorClock with
  | none => exact herr s₂ _ hs₂ h₂
  | some instant =>
    rw [andThen_ok]
    refine wp_demand (fun e => herr s₂ e hs₂ h₂) fun _ => ?_
    -- a refusal closes the contract, or raises
    have hrefuse : ∀ s₃ eventType detail, Coherent executor.store s₃ → S.rely s s₃ →
        wp (S.context executor.store)
          (Sum.inl <$> executor.refuseExecution call contract eventType detail) post s₃ := by
      intro s₃ eventType detail hs₃ h₃
      rw [← bind_pure_comp]
      refine (wp_bind _ _ _ _).mpr ((wp_bind _ _ _ _).mpr (transition_spec ?_ ?_ ?_ hs₃))
      · exact fun k hcall _ =>
          (unsent_of_own ((S.frame h₃).own.trans hown)).justified hcall
      · rintro s₄ k hcommits ⟨⟨c, hbefore, -, hstate, -⟩, hkid, hfailed⟩
        have hclosed := fun r => hclosed s₄ k r (hcommits.of_rely h₃)
          (by rw [hbefore, Option.map_some, hstate]) (by rw [hfailed]; exact nofun)
          (hkid.trans hid)
        exact ⟨hclosed _ (notStarted_refused _), fun _ e => hclosed _ (notStarted_error e)⟩
      · exact fun s₄ e hs₄ h₄ => herr s₄ e hs₄ (S.trans h₃ h₄)
    split
    · exact hrefuse s₂ _ _ hs₂ h₂
    · rename_i registryClass _
      split
      · exact hrefuse s₂ _ _ hs₂ h₂
      · have hgo : ∀ s₃, Coherent executor.store s₃ → S.rely s s₃ → s₃.Recorded contract →
            ∀ approval, andThen (S.context executor.store) (fun approval =>
              if approval = false then
                Sum.inl <$> executor.refuseExecution call contract
                  "sealed_write_approval_rejected" execute.approvalRejected
              else Sum.inr <$> executor.startAuthorized call adapter hint intent contract
                registryClass) post approval s₃ := by
          intro s₃ hs₃ h₃ hrecorded₃ approval
          cases approval with
          | error e => exact herr s₃ e hs₃ h₃
          | ok approval =>
            rw [andThen_ok]
            split
            · exact hrefuse s₃ _ _ hs₃ h₃
            · rw [← bind_pure_comp]
              refine (wp_bind _ _ _ _).mpr (startAuthorized_spec hs₃
                ((S.frame h₃).own.trans hown) hrecorded₃ ?_ ?_)
              · intro s₄ k hcommits hopen hkid hbound
                have hcommits := hcommits.of_rely h₃
                have hkid := hkid.trans hid
                refine ⟨hstarted s₄ k hcommits hopen hkid hbound, fun e => ?_⟩
                refine hclosed s₄ k _ hcommits hopen.1 ?_ hkid (notStarted_error e)
                rw [hopen.2]
                exact nofun
              · exact fun s₄ e hs₄ h₄ => herr s₄ e hs₄ (S.trans h₃ h₄)
        refine (wp_bind _ _ _ _).mpr ?_
        unfold approved
        split
        · exact wp_consult fun s₃ hs₃ h₃ i =>
            hgo s₃ hs₃ (S.trans h₂ h₃) ((S.frame h₃).recorded hrecorded) _
        · exact hgo s₂ hs₂ h₂ hrecorded _

end Start

end MutationExecutor

end Tier1
