import Mathlib.Data.Nat.Notation
import PfsenseMcp.Tier1.ExecutionSteps
import PfsenseMcp.Tier1.Lifecycle
import PfsenseMcp.Tier1.Seen

/-!
# What a send rests on

`execute` hands a request to the write client only after a series of checks, and it reports a
mutation as verified only after it has read the target again. Other calls may run between any two
of its steps, so the checks are stated about what the call itself has seen, in the order in which
it has seen it.

## Main results

* `ExecuteCall.execute_past`: every step of `execute` rests on what the call has seen before;
* `sends_of_handed`: in every run, a request that `execute` hands on has passed every gate;
* `confirms_of_verified`: in every run, a contract that `execute` takes to `VERIFIED` has been read
  back, and its adapter has found the effect.
-/

namespace Tier1

open Python Concurrency Procedure RecoveryState Op

section Model

variable [Platform]

/-- A call of `execute`, by its number and its arguments. -/
structure ExecuteCall where
  executor : MutationExecutor
  call : ℕ
  contractId : String
  adapter : CapabilityAdapter
  hint : Platform.Obj
  intent : Json
  context : Option AcceptanceExecutionContext

namespace ExecuteCall

/-! ### The gates -/

/-- What `execute` has found out about a contract before it looks at its own arguments. -/
structure Loaded (x : ExecuteCall) (past : Past) (c : RecoveryContract) : Prop where
  loaded : SawFirst x.call past fun _ s => s.latest x.contractId = some c
  isPrepared : c.state = prepared
  isConfirmed : c.isConfirmed = true
  unexpired : SawFirst x.call past fun i _ =>
    ∃ instant, i.executorClock = some instant ∧ c.isExpired instant = false
  registered : x.executor.capabilitySecurityClasses c.capability = some c.securityClass
  approved : c.securityClass = .standardSealedWrite →
    SawFirst x.call past fun i _ => i.approval = .ok true

/-- What `execute` has found out before it takes a contract to `EXECUTING`. -/
structure Cleared (x : ExecuteCall) (past : Past) (c : RecoveryContract) : Prop
    extends x.Loaded past c where
  admitted : authorize x.executor.policy ⟨c.capability, c.endpointSymbol, c.httpMethod⟩ = .ok ()
  bindings : ∃ identity precondition, x.adapter.naturalIdentity x.hint = .ok identity ∧
    x.adapter.fingerprint x.hint = .ok precondition ∧
    c.verifyBindings c.capability c.endpointSymbol c.httpMethod identity precondition x.intent =
      .ok ()
  writable : SawFirst x.call past fun i _ => i.settings = .ok (some false)

theorem Loaded.mono {x : ExecuteCall} {past past' : Past} {c : RecoveryContract}
    (h : x.Loaded past c) (hpast : past <+: past') : x.Loaded past' c :=
  { h with
    loaded := h.loaded.mono hpast
    unexpired := h.unexpired.mono hpast
    approved := fun hclass => (h.approved hclass).mono hpast }

theorem Cleared.mono {x : ExecuteCall} {past past' : Past} {c : RecoveryContract}
    (h : x.Cleared past c) (hpast : past <+: past') : x.Cleared past' c :=
  { h with
    toLoaded := h.toLoaded.mono hpast
    writable := h.writable.mono hpast }

/-- The call has taken a contract to `EXECUTING`, and has done nothing else. -/
def Started (x : ExecuteCall) (s : World) (c d : RecoveryContract) : Prop :=
  c.SameIdentity d.toContractFields ∧
    ∃ k, own x.call s.trace = [.committed k] ∧ k.Opens .forward ∧ k.after = d

/-- The step `t` hands on the request for the contract `d`, which was `c` when it was checked. -/
structure Sends (x : ExecuteCall) (past : Past) (t : Taken World Answers)
    (c d : RecoveryContract) (pre : Platform.Obj) (payload : Json) : Prop where
  cleared : x.Cleared past c
  started : x.Started t.before c d
  /-- The last thing that the call did was to read the target. -/
  read : ∃ earlier last, past = earlier ++ [last] ∧ last.input.target = .ok pre ∧
    own x.call last.before.trace = own x.call t.before.trace
  fingerprint : readFingerprint d x.adapter pre = .ok d.targetFingerprint
  built : ∃ target request body, resolveTransportTarget d x.adapter pre = .ok target ∧
    decrypt x.executor.encryptionKey d d.protectedIntent .intent = .ok payload ∧
    x.adapter.buildRequest payload target = .ok (some request) ∧ request.modelDumpJson = .ok body
  handed : t.after.trace = t.before.trace ++ [.handed x.call .forward x.contractId
    (x.executor.exchangeOf x.context d t.input.exchange)]

/-- The commit `k` reports a request as verified that was handed on in the step `sent`, and after
which the target was read in the step `read`. -/
structure Confirms (x : ExecuteCall) (past : Past) (sent read : Taken World Answers)
    (c d : RecoveryContract) (pre : Platform.Obj) (payload : Json) (k : Commit) : Prop where
  sends : x.Sends past sent c d pre payload
  answered : ∃ statusCode text, x.executor.exchangeOf x.context d sent.input.exchange =
    some (.response statusCode text) ∧ 200 ≤ statusCode ∧ statusCode < 300
  contractId : k.after.contractId = x.contractId
  reread : ∃ post target fingerprint, read.input.target = .ok post ∧
    resolveTransportTarget d x.adapter post = .ok target ∧
    x.adapter.isSemanticallyVerified pre post payload = .ok true ∧
    readFingerprint d x.adapter post = .ok fingerprint ∧
    k.after.verifiedTargetFingerprint = some fingerprint

/-- What a step of the call rests on. -/
structure Rests (x : ExecuteCall) (past : Past) (t : Taken World Answers) : Prop where
  send : ∀ direction contractId exchange,
    t.after.trace = t.before.trace ++ [.handed x.call direction contractId exchange] →
    ∃ c d pre payload, x.Sends past t c d pre payload
  verify : ∀ k, t.after.trace = t.before.trace ++ [.committed k] → k.after.state = verified →
    ∃ before sent read c d pre payload, before ++ [sent, read] <+: past ∧
      x.Confirms before sent read c d pre payload k

variable {x : ExecuteCall} {past : Past} {t : Taken World Answers} {c d : RecoveryContract}
  {pre : Platform.Obj} {payload : Json}

theorem Loaded.contractId_eq (h : x.Loaded past c) : c.contractId = x.contractId := by
  obtain ⟨t, -, -, hlatest⟩ := h.loaded
  exact contractId_of_latestOf hlatest

theorem Sends.contractId_eq (h : x.Sends past t c d pre payload) : d.contractId = x.contractId :=
  h.started.1.contractId.trans h.cleared.contractId_eq

theorem lenient : Lenient x.Rests := by
  intro past t h
  constructor
  · intro direction contractId exchange hevent
    rcases h with hsame | ⟨k, hk, -⟩
    · rw [hsame] at hevent
      exact absurd hevent (by simp)
    · rw [hk] at hevent
      exact absurd (List.append_cancel_left hevent) (by simp)
  · intro k hevent hverified
    rcases h with hsame | ⟨k', hk', hne, -⟩
    · rw [hsame] at hevent
      exact absurd hevent (by simp)
    · rw [hk'] at hevent
      cases List.append_cancel_left hevent
      exact absurd hverified hne

/-! ### Before `EXECUTING` -/

section Start

variable {S : Setting x.call} {s : World}

/-- The contract of the call is `EXECUTING`, after all checks. -/
def Opened (x : ExecuteCall) (s : World) (past : Past) (d : RecoveryContract) : Prop :=
  Coherent x.executor.store s ∧ ∃ c, x.Cleared past c ∧ x.Started s c d

/-- A transition leads there only after all checks. -/
def Starts (x : ExecuteCall) (r : Except Error RecoveryContract) (s : World) (past : Past) : Prop :=
  ∀ d, r = .ok d → x.Opened s past d

theorem starts_error {e : Error} : x.Starts (.error e) s past := fun _ h => by cases h

/-- What is checked last, and the transition. -/
theorem startAuthorized_past {c : RecoveryContract} (hown : own x.call s.trace = [])
    (hrecorded : s.Recorded c) (hloaded : x.Loaded past c) :
    wpPast (S.context x.executor.store) x.Rests
      (x.executor.startAuthorized x.call x.adapter x.hint x.intent c c.securityClass)
      x.Starts s past := by
  refine past_check (fun e _ => starts_error) fun _ hadmitted => ?_
  refine past_check (fun e _ => starts_error) fun identity hidentity => ?_
  refine past_check (fun e _ => starts_error) fun precondition hprecondition => ?_
  refine past_check (fun e _ => starts_error) fun _ hbindings => ?_
  -- the arguments of the call are those of the contract
  have hsame := hbindings
  simp only [RecoveryContract.verifyBindings, bind_eq_ok, demand_eq_ok, Prod.mk.injEq] at hsame
  obtain ⟨-, -, -, -, -, -, hcapability, hendpoint, hmethod, -⟩ := hsame
  rw [hcapability, hendpoint, hmethod] at hadmitted hbindings
  refine (wpPast_bind _ _ _).2 (past_consult lenient fun s₁ i hs₁ h₁ => ?_)
  have hown₁ : own x.call s₁.trace = [] := (S.frame h₁).own.trans hown
  have hpast : past <+: past ++ [⟨i, s₁, s₁⟩] := List.prefix_append _ _
  cases hsettings : i.settings with
  | error e => exact starts_error
  | ok readOnly =>
    dsimp only
    by_cases hfalse : readOnly = some false
    · rw [demand_of hfalse]
      have hcleared : x.Cleared (past ++ [⟨i, s₁, s₁⟩]) c :=
        { hloaded.mono hpast with
          admitted := hadmitted
          bindings := ⟨identity, precondition, hidentity, hprecondition, hbindings⟩
          writable := .now hown₁ (hsettings.trans (by rw [hfalse])) }
      have htransition : wp (S.context x.executor.store) (x.executor.store.transition x.call
          c.contractId prepared c.stateVersion executing (some (executionPolicies c.securityClass))
          "state_transition") (fun r s' => ∀ d, r = .ok d →
            Coherent x.executor.store s' ∧ x.Started s' c d) s₁ := by
        refine transition_spec ?_ ?_ ?_ hs₁
        · exact fun k hcall _ => (MutationExecutor.unsent_of_own hown₁).justified hcall
        · intro s₂ k hcommits hmoves
          have hkid : k.after.contractId = c.contractId := hmoves.2.1
          have hsame := MutationExecutor.sameIdentity_of_commits
            ((S.frame h₁).recorded hrecorded) hcommits hkid
          refine ⟨fun d hd => ?_, fun _ e d hd => by cases hd⟩
          cases hd
          exact ⟨hcommits.coherent, hsame, k, MutationExecutor.own_of_commits hown₁ hcommits,
            MutationExecutor.opens_of_moves hmoves, rfl⟩
        · exact fun s₂ e _ _ d hd => by cases hd
      refine past_of_wp lenient (transition_unproven _ _ _ _ _ _) htransition ?_
      intro r s₂ past' hr hpast' d hd
      obtain ⟨hs₂, hstarted⟩ := hr d hd
      exact ⟨hs₂, c, hcleared.mono hpast', hstarted⟩
    · rw [demand, if_neg hfalse]
      exact starts_error

/-- `execute` up to `EXECUTING` leads there only after all checks. -/
def Launches (x : ExecuteCall) (r : Except Error (Outcome ⊕ RecoveryContract)) (s : World)
    (past : Past) : Prop :=
  ∀ d, r = .ok (.inr d) → x.Opened s past d

theorem launches_of_notStarted {r : Except Error (Outcome ⊕ RecoveryContract)}
    (h : MutationExecutor.NotStarted r) : x.Launches r s past :=
  fun d hd => absurd hd (h d)

theorem launches_error {e : Error} : x.Launches (.error e) s past :=
  launches_of_notStarted (MutationExecutor.notStarted_error e)

/-- A refusal leads nowhere. -/
theorem refuseExecution_past {c : RecoveryContract} {eventType detail : String} :
    wpPast (S.context x.executor.store) x.Rests
      (Sum.inl <$> x.executor.refuseExecution x.call c eventType detail) x.Launches s past := by
  have hdoes : (x.executor.refuseExecution x.call c eventType detail).Does fun _ => Unproven :=
    does_bind (transition_unproven _ _ _ _ _ _) fun _ => trivial
  rw [← bind_pure_comp]
  refine (wpPast_bind _ _ _).2 (past_of_does lenient hdoes fun r s' past' _ => ?_)
  cases r with
  | error e => exact launches_error
  | ok outcome => exact launches_of_notStarted (MutationExecutor.notStarted_refused outcome)

/-- `execute` checks the contract, its class and its approval, and then its own arguments. -/
theorem startExecution_past (hown : own x.call s.trace = []) :
    wpPast (S.context x.executor.store) x.Rests
      (x.executor.startExecution x.call x.contractId x.adapter x.hint x.intent) x.Launches s
      past := by
  refine (wpPast_bind _ _ _).2 (load_past lenient hown (fun _ _ _ => launches_error) ?_)
  intro s₁ past₁ c _ h₁ hrecorded hid hpast hloaded
  refine past_demand (fun _ => launches_error) fun hprepared => ?_
  refine past_demand (fun _ => launches_error) fun hconfirmed => ?_
  refine (wpPast_bind _ _ _).2 (past_consult lenient fun s₂ i _ h₂ => ?_)
  have hrecorded := (S.frame h₂).recorded hrecorded
  have hown₂ : own x.call s₂.trace = [] := (S.frame (S.trans h₁ h₂)).own.trans hown
  cases hclock : i.executorClock with
  | none => exact launches_error
  | some instant =>
    refine past_demand (fun _ => launches_error) fun hunexpired => ?_
    have hloaded := hloaded.mono (List.prefix_append past₁ [⟨i, s₂, s₂⟩])
    have hunexpired : SawFirst x.call (past₁ ++ [⟨i, s₂, s₂⟩]) fun i _ =>
        ∃ instant, i.executorClock = some instant ∧ c.isExpired instant = false :=
      .now hown₂ ⟨instant, hclock, hunexpired⟩
    cases hclass : x.executor.capabilitySecurityClasses c.capability with
    | none => exact refuseExecution_past
    | some registryClass =>
      dsimp only
      by_cases hsame : registryClass ≠ c.securityClass
      · rw [if_pos hsame]
        exact refuseExecution_past
      · rw [if_neg hsame]
        obtain rfl := not_not.1 hsame
        -- with the approval, if one is required, the arguments are checked
        have hgo : ∀ s₃ past₃, S.rely s₂ s₃ → past₁ ++ [⟨i, s₂, s₂⟩] <+: past₃ →
            (c.securityClass = .standardSealedWrite →
              SawFirst x.call past₃ fun i _ => i.approval = .ok true) →
            wpPast (S.context x.executor.store) x.Rests (Sum.inr <$> x.executor.startAuthorized
              x.call x.adapter x.hint x.intent c c.securityClass) x.Launches s₃ past₃ := by
          intro s₃ past₃ h₃ hpast₃ happroved
          have hown₃ : own x.call s₃.trace = [] := (S.frame h₃).own.trans hown₂
          have hall : x.Loaded past₃ c :=
            ⟨hloaded.mono hpast₃, hprepared, hconfirmed, hunexpired.mono hpast₃, hclass, happroved⟩
          rw [← bind_pure_comp]
          refine (wpPast_bind _ _ _).2 (wpPast_mono (startAuthorized_past hown₃
            ((S.frame h₃).recorded hrecorded) hall) fun r s₄ past₄ hr => ?_)
          cases r with
          | error e => exact launches_error
          | ok d =>
            intro d' hd'
            cases hd'
            exact hr d rfl
        refine (wpPast_bind _ _ _).2 ?_
        unfold MutationExecutor.approved
        by_cases hstandard : c.securityClass = .standardSealedWrite
        · rw [if_pos hstandard]
          refine past_consult lenient fun s₃ i' _ h₃ => ?_
          have hown₃ : own x.call s₃.trace = [] := (S.frame h₃).own.trans hown₂
          cases happroval : i'.approval with
          | error e => exact launches_error
          | ok approval =>
            rw [andThenPast_ok]
            by_cases hrefused : approval = false
            · rw [if_pos hrefused]
              exact refuseExecution_past
            · rw [if_neg hrefused]
              refine hgo s₃ _ h₃ (List.prefix_append _ _) fun _ => .now hown₃ ?_
              rw [happroval, eq_true_of_ne_false hrefused]
        · rw [if_neg hstandard]
          exact hgo s₂ _ (S.refl s₂) (List.prefix_refl _) fun h => absurd h hstandard

end Start

/-! ### After `EXECUTING` -/

section Run

variable {S : Setting x.call} {s : World}

theorem finishExecute_does (target : RecoveryState) (detail : String) :
    (x.executor.finishExecute x.call d target detail).Does fun _ => Unproven :=
  does_bind (transition_unproven _ _ _ _ _ _) fun _ => trivial

theorem finishExecute_past (target : RecoveryState) (detail : String) :
    wpPast (S.context x.executor.store) x.Rests (x.executor.finishExecute x.call d target detail)
      (fun _ _ _ => True) s past :=
  past_of_does lenient (finishExecute_does target detail) fun _ _ _ _ => trivial

/-- What the read before the send has shown. -/
theorem examine_eq_ok {executor : MutationExecutor} {adapter : CapabilityAdapter}
    {target : Except Error Platform.Obj} {pre : Platform.Obj} {payload : Json} {request : Request}
    (h : executor.examine adapter d target = .ok (pre, payload, request)) :
    target = .ok pre ∧ readFingerprint d adapter pre = .ok d.targetFingerprint ∧
      ∃ resolved, resolveTransportTarget d adapter pre = .ok resolved ∧
        decrypt executor.encryptionKey d d.protectedIntent .intent = .ok payload ∧
        adapter.buildRequest payload resolved = .ok (some request) := by
  unfold MutationExecutor.examine at h
  cases target with
  | error e => cases h
  | ok pre' =>
    dsimp only at h
    cases hfingerprint : readFingerprint d adapter pre' with
    | error e =>
      rw [hfingerprint] at h
      cases h
    | ok fingerprint =>
      rw [hfingerprint] at h
      dsimp only at h
      by_cases hdrift : fingerprint ≠ d.targetFingerprint
      · rw [if_pos hdrift] at h
        cases h
      · rw [if_neg hdrift] at h
        obtain rfl := not_not.1 hdrift
        cases hresolved : resolveTransportTarget d adapter pre' with
        | error e =>
          rw [hresolved] at h
          cases h
        | ok resolved =>
          rw [hresolved] at h
          dsimp only at h
          split at h
          · cases h
          · cases h
          · rename_i payload' request' hbuilt
            cases h
            simp only [bind_eq_ok] at hbuilt
            obtain ⟨_, hdecrypt, _, hbuild, hbuilt⟩ := hbuilt
            cases hbuilt
            exact ⟨rfl, hfingerprint, resolved, hresolved, hdecrypt, hbuild⟩

/-- An event that is no commit is recorded. -/
theorem past_record {event : Event} {post : Except Error Unit → World → Past → Prop}
    (hevent : ∀ direction contractId exchange,
      event ≠ .handed x.call direction contractId exchange)
    (hcommit : ∀ k, event ≠ .committed k)
    (h : ∀ s' past', past <+: past' → post (.ok ()) s' past') :
    wpPast (S.context x.executor.store) x.Rests (Op.record event) post s past := by
  intro s' _ _ i _
  refine ⟨⟨fun direction contractId exchange htrace => ?_, fun k htrace => ?_⟩,
    h _ _ (List.prefix_append _ _)⟩
  · exact absurd (List.singleton_inj.1 (List.append_cancel_left htrace)) (hevent _ _ _)
  · exact absurd (List.singleton_inj.1 (List.append_cancel_left htrace)) (hcommit k)

/-- The commit that ends an execution as verified. -/
theorem markExecutionVerified_past {fingerprint : String} {locator : ℤ}
    (hconfirms : ∀ k : Commit, k.after.contractId = d.contractId →
      k.after.verifiedTargetFingerprint = some fingerprint →
        ∃ before sent read c d pre payload, before ++ [sent, read] <+: past ∧
          x.Confirms before sent read c d pre payload k) :
    wpPast (S.context x.executor.store) x.Rests (x.executor.store.markExecutionVerified x.call
      d.contractId d.stateVersion fingerprint locator) (fun _ _ _ => True) s past := by
  have hload : wp (S.context x.executor.store) (x.executor.store.load d.contractId)
      (fun r _ => ∀ c, r = .ok c → c.contractId = d.contractId) s := by
    refine load_spec (fun _ _ _ _ c hc => by cases hc) fun _ c _ _ _ hid c' hc' => ?_
    cases hc'
    exact hid
  refine (wpPast_bind _ _ _).2 (past_of_wp lenient (reads_load unproven_refl _) hload
    fun r s₁ past₁ hr hpast => ?_)
  cases r with
  | error e => trivial
  | ok current =>
    refine past_demand (fun _ => trivial) fun _ => ?_
    refine past_demand (fun _ => trivial) fun _ => ?_
    refine past_check (fun _ _ => trivial) fun updated hupdated => ?_
    have hfields := RecoveryContract.ofFields_eq_ok.1 hupdated
    have hid : updated.contractId = d.contractId := by
      rw [hfields]
      exact hr current rfl
    have hsealed : updated.verifiedTargetFingerprint = some fingerprint := by
      rw [hfields, Store.sealed]
    refine past_replace lenient (fun t ht => ?_) fun _ _ _ => trivial
    obtain ⟨recordedAt, ht⟩ := ht
    constructor
    · intro direction contractId exchange hevent
      cases List.append_cancel_left (ht.symm.trans hevent)
    · intro k hk _
      cases List.append_cancel_left (ht.symm.trans hk)
      obtain ⟨before, sent, read, c, d, pre, payload, hprefix, hconfirms⟩ :=
        hconfirms ⟨x.call, some current, updated, "state_transition", recordedAt, none⟩ hid hsealed
      exact ⟨before, sent, read, c, d, pre, payload, hprefix.trans hpast, hconfirms⟩

/-- What the read after the send has shown, if the adapter has found the effect. -/
theorem observe_eq_ok {adapter : CapabilityAdapter} {pre : Platform.Obj} {payload : Json}
    {response : TransportResponse} {read : Except Error Platform.Obj}
    {target : ResolvedTransportTarget} {outcome : Except Error String} {fingerprint : String}
    (h : MutationExecutor.observe adapter d pre payload response read =
      .ok (target, outcome, some fingerprint)) :
    ∃ post, read = .ok post ∧ resolveTransportTarget d adapter post = .ok target ∧
      adapter.isSemanticallyVerified pre post payload = .ok true ∧
      readFingerprint d adapter post = .ok fingerprint := by
  simp only [MutationExecutor.observe, bind_eq_ok] at h
  obtain ⟨post, hread, target', htarget, outcome', -, verified, hverified, h⟩ := h
  by_cases hyes : verified = true
  · rw [if_pos hyes] at h
    obtain ⟨fingerprint', hfingerprint, h⟩ := bind_eq_ok.1 h
    cases h
    exact ⟨post, hread, htarget, hverified.trans (by rw [hyes]), hfingerprint⟩
  · rw [if_neg hyes] at h
    cases h

/-- The read after a send that was answered with success. -/
theorem verifyExecution_past {c : RecoveryContract} {before : Past} {sent : Taken World Answers}
    {pre : Platform.Obj} {payload : Json} {response : TransportResponse}
    (hpast : past = before ++ [sent]) (hsends : x.Sends before sent c d pre payload)
    (hanswered : ∃ statusCode text, x.executor.exchangeOf x.context d sent.input.exchange =
      some (.response statusCode text) ∧ 200 ≤ statusCode ∧ statusCode < 300) :
    wpPast (S.context x.executor.store) x.Rests (x.executor.verifyExecution x.call x.adapter d pre
      payload response) (fun _ _ _ => True) s past := by
  rw [MutationExecutor.verifyExecution_eq]
  refine (wpPast_bind _ _ _).2 ((wpPast_attempt _ _).2 (past_consult lenient fun s₁ i _ _ => ?_))
  rw [andThenPast_ok, MutationExecutor.conclude]
  cases hobserve : MutationExecutor.observe x.adapter d pre payload response i.target with
  | error e => exact finishExecute_past _ _
  | ok observed =>
    obtain ⟨target, outcome, fingerprint⟩ := observed
    cases fingerprint with
    | none =>
      refine (wpPast_bind _ _ _).2 (past_record (fun _ _ _ => by simp) (fun _ => by simp) ?_)
      exact fun s₂ past₂ _ => finishExecute_past _ _
    | some fingerprint =>
      refine (wpPast_bind _ _ _).2 (past_record (fun _ _ _ => by simp) (fun _ => by simp) ?_)
      intro s₂ past₂ hpast₂
      refine (wpPast_bind _ _ _).2 (wpPast_mono (markExecutionVerified_past fun k hid hk => ?_) ?_)
      · refine ⟨before, sent, ⟨i, s₁, s₁⟩, c, d, pre, payload, ?_, hsends, hanswered,
          hid.trans hsends.contractId_eq, ?_⟩
        · rw [hpast, List.append_assoc] at hpast₂
          exact hpast₂
        · obtain ⟨post, htarget, hresolve, hverified, hfingerprint⟩ := observe_eq_ok hobserve
          exact ⟨post, target, fingerprint, htarget, hresolve, hverified, hfingerprint, hk⟩
      · intro r s₃ past₃ _
        cases r with
        | error e => trivial
        | ok updated => exact past_check (fun _ _ => trivial) fun _ _ => trivial

/-- The send. -/
theorem sendExecution_past {c : RecoveryContract} {pre : Platform.Obj} {payload : Json}
    {request : Request} (hcleared : x.Cleared past c) (hstarted : x.Started s c d)
    (hread : ∃ earlier last, past = earlier ++ [last] ∧ last.input.target = .ok pre ∧
      own x.call last.before.trace = own x.call s.trace)
    (hfingerprint : readFingerprint d x.adapter pre = .ok d.targetFingerprint)
    (hbuilt : ∃ target, resolveTransportTarget d x.adapter pre = .ok target ∧
      decrypt x.executor.encryptionKey d d.protectedIntent .intent = .ok payload ∧
      x.adapter.buildRequest payload target = .ok (some request)) :
    wpPast (S.context x.executor.store) x.Rests (x.executor.sendExecution x.call x.adapter x.context
      d pre payload request) (fun _ _ _ => True) s past := by
  obtain ⟨target, hresolve, hdecrypt, hbuild⟩ := hbuilt
  rw [MutationExecutor.sendExecution_eq]
  refine (wpPast_bind _ _ _).2 (past_check (fun _ _ => trivial) fun body hbody => ?_)
  intro s₁ hs₁ h₁ i _
  have hown : own x.call s₁.trace = own x.call s.trace := (S.frame h₁).own
  have hid : d.contractId = x.contractId :=
    hstarted.1.contractId.trans hcleared.contractId_eq
  have hsends : ∀ s₂ : World, s₂.trace = s₁.trace ++ [.handed x.call .forward d.contractId
      (x.executor.exchangeOf x.context d i.exchange)] →
      x.Sends past ⟨i, s₁, s₂⟩ c d pre payload := by
    intro s₂ htrace
    refine ⟨hcleared, ?_, ?_, hfingerprint, ⟨target, request, body, hresolve, hdecrypt, hbuild,
      hbody⟩, ?_⟩
    · rw [Started, hown]
      exact hstarted
    · rw [hown]
      exact hread
    · rw [← hid]
      exact htrace
  refine ⟨⟨fun _ _ _ _ => ⟨c, d, pre, payload, hsends _ rfl⟩, fun k hk => ?_⟩,
    (wpPast_ofExcept _ _).2 ?_⟩
  · cases List.append_cancel_left hk
  · rw [andThenPast_ok]
    generalize hsent : classifySend (x.executor.writeClient.send x.context d.endpointSymbol
      d.httpMethod i.exchange) = sent
    obtain ⟨boundary, knowledge, response⟩ := sent
    by_cases hsuccess : knowledge = .verifiedSuccess
    · subst hsuccess
      obtain ⟨statusCode, text, hexchange, rfl, hstatus⟩ :=
        MutationExecutor.response_of_classifySend x.executor hsent
      exact verifyExecution_past rfl (hsends _ rfl) ⟨statusCode, text, hexchange, hstatus⟩
    · dsimp only
      split
      · rename_i hcase
        cases hcase
        exact absurd rfl hsuccess
      · exact finishExecute_past _ _

/-- What `execute` does once the contract is `EXECUTING`. -/
theorem runExecution_past {c : RecoveryContract} (hcleared : x.Cleared past c)
    (hstarted : x.Started s c d) :
    wpPast (S.context x.executor.store) x.Rests
      (x.executor.runExecution x.call x.adapter x.context d) (fun _ _ _ => True) s past := by
  rw [MutationExecutor.runExecution_eq]
  refine (wpPast_bind _ _ _).2 ((wpPast_attempt _ _).2 (past_consult lenient fun s₁ i _ h₁ => ?_))
  have hown : own x.call s₁.trace = own x.call s.trace := (S.frame h₁).own
  rw [andThenPast_ok]
  cases hexamine : x.executor.examine x.adapter d i.target with
  | error detail => exact finishExecute_past _ _
  | ok found =>
    obtain ⟨pre, payload, request⟩ := found
    obtain ⟨htarget, hfingerprint, hbuilt⟩ := examine_eq_ok hexamine
    refine sendExecution_past (hcleared.mono (List.prefix_append _ _)) ?_
      ⟨past, ⟨i, s₁, s₁⟩, rfl, htarget, rfl⟩ hfingerprint hbuilt
    rw [Started, hown]
    exact hstarted

/-- Every step of `execute` rests on what the call has seen before. -/
theorem execute_past (hown : own x.call s.trace = []) :
    wpPast (S.context x.executor.store) x.Rests (x.executor.execute x.call x.contractId x.adapter
      x.hint x.intent x.context) (fun _ _ _ => True) s past := by
  rw [MutationExecutor.execute_eq]
  refine (wpPast_bind _ _ _).2 (wpPast_mono (startExecution_past hown) fun r s₁ past₁ hr => ?_)
  rcases r with e | outcome | d
  · trivial
  · trivial
  · obtain ⟨-, c, hcleared, hstarted⟩ := hr d rfl
    exact runExecution_past hcleared hstarted

end Run

end ExecuteCall

/-! ### All runs -/

section Runs

variable {store : Store} {ops : ℕ → Operation store} {permit : Answers → World → World → Prop}

/-- What the steps of the calls of `execute` rest on. -/
def gates (store : Store) (ops : ℕ → Operation store) (permit : Answers → World → World → Prop) :
    System.Account (safety store ops permit) where
  rests call past t := ∀ executor h contractId adapter hint intent context,
    ops call = .execute executor h contractId adapter hint intent context →
      ExecuteCall.Rests ⟨executor, call, contractId, adapter, hint, intent, context⟩ past t
  sound := by
    rintro call p s rfl - hown
    by_cases hexecute : ∃ executor h contractId adapter hint intent context,
        ops call = .execute executor h contractId adapter hint intent context
    · obtain ⟨executor, h, contractId, adapter, hint, intent, context, hop⟩ := hexecute
      subst h
      rw [hop]
      have hpast := @ExecuteCall.execute_past _
        ⟨executor, call, contractId, adapter, hint, intent, context⟩ [] (shared call permit) s hown
      refine wpPast_imp ((wpPast_bind _ _ _).2 (wpPast_mono hpast fun r _ _ _ => ?_)) ?_
      · cases r with
        | error e => trivial
        | ok outcome => trivial
      · rintro past t hrests _ _ _ _ _ _ _ hop'
        cases hop'
        exact hrests
    · -- nothing is asked of the other operations
      refine wpPast_mono (wpPast_of_does (does_of_forall ?_ _)) fun _ _ _ _ => trivial
      intro _ _ _ _ executor h contractId adapter hint intent context hop
      exact absurd ⟨executor, h, contractId, adapter, hint, intent, context, hop⟩ hexecute

variable {cfg : Config World Answers Error} {past : ℕ → Past} {call : ℕ}
  {executor : MutationExecutor} {h : executor.store = store} {contractId : String}
  {adapter : CapabilityAdapter} {hint : Platform.Obj} {intent : Json}
  {context : Option AcceptanceExecutionContext}

/-- An event of a call has been recorded in a step of that call. -/
theorem exists_step_of_event (hrun : (system store ops permit).Recorded cfg past) {event : Event}
    (hevent : event ∈ cfg.shared.trace) :
    ∃ before t, System.TookAfter past event.call before t ∧
      t.after.trace = t.before.trace ++ [event] := by
  have hinit : ∀ s, (system store ops permit).init s → event ∉ s.trace := by
    rintro s ⟨-, hnil⟩
    rw [hnil]
    exact List.not_mem_nil
  obtain ⟨c, before, t, htook, hnew, hold⟩ := hrun.exists_taken hinit hevent
  obtain ⟨-, -, hguar⟩ := ((gates store ops permit).recorded hrun).took c before t htook
  have hguar : Advances c t.before t.after := hguar
  rcases hguar with hquiet | ⟨e, hcall, htrace⟩
  · rw [hquiet.trace] at hold
    exact absurd hold hnew
  · rw [htrace, List.mem_append, List.mem_singleton] at hold
    obtain rfl := hold.resolve_left hnew
    rw [hcall]
    exact ⟨before, t, htook, htrace⟩

/-- A request that `execute` hands on has passed every gate. -/
theorem sends_of_handed (hrun : (system store ops permit).Recorded cfg past)
    (hop : ops call = .execute executor h contractId adapter hint intent context)
    {direction : Direction} {handedId : String} {exchange : Option Exchange}
    (hevent : .handed call direction handedId exchange ∈ cfg.shared.trace) :
    direction = .forward ∧ handedId = contractId ∧
      ∃ before sent c d pre payload, System.TookAfter past call before sent ∧
        ExecuteCall.Sends ⟨executor, call, contractId, adapter, hint, intent, context⟩ before sent
          c d pre payload ∧
        exchange = executor.exchangeOf context d sent.input.exchange := by
  obtain ⟨before, sent, htook, htrace⟩ := exists_step_of_event hrun hevent
  have hrests := (((gates store ops permit).recorded hrun).took call before sent htook).1
    executor h contractId adapter hint intent context hop
  obtain ⟨c, d, pre, payload, hsends⟩ := hrests.send direction handedId exchange htrace
  cases List.append_cancel_left (htrace.symm.trans hsends.handed)
  exact ⟨rfl, rfl, before, sent, c, d, pre, payload, htook, hsends, rfl⟩

/-- A contract that `execute` takes to `VERIFIED` has been read back after the send. -/
theorem confirms_of_verified (hrun : (system store ops permit).Recorded cfg past) {k : Commit}
    (hop : ops k.call = .execute executor h contractId adapter hint intent context)
    (hcommit : .committed k ∈ cfg.shared.trace) (hverified : k.after.state = verified) :
    ∃ before sent read c d pre payload, before ++ [sent, read] <+: past k.call ∧
      ExecuteCall.Confirms ⟨executor, k.call, contractId, adapter, hint, intent, context⟩ before
        sent read c d pre payload k := by
  obtain ⟨earlier, t, htook, htrace⟩ := exists_step_of_event hrun hcommit
  have hrests := (((gates store ops permit).recorded hrun).took k.call earlier t htook).1
    executor h contractId adapter hint intent context hop
  obtain ⟨before, sent, read, c, d, pre, payload, hprefix, hconfirms⟩ :=
    hrests.verify k htrace hverified
  exact ⟨before, sent, read, c, d, pre, payload,
    hprefix.trans ((List.prefix_append _ _).trans htook), hconfirms⟩

end Runs

/-! ### Two runs of the sample contract -/

namespace MutationExecutor

variable {executor : MutationExecutor} {call : ℕ} {S : Setting call} {s : World}
  {adapter : CapabilityAdapter} {context : Option AcceptanceExecutionContext}
  {post : Except Error Outcome → World → Prop}

/-- A mutation that the appliance has accepted, and whose effect the adapter finds, is closed as
`VERIFIED`. `P` holds from the start of the mutation on. -/
theorem sendExecution_verified {P : World → Prop} {k : Commit} {obj : Platform.Obj}
    {target : ResolvedTransportTarget} {request : Request} {intent : Json}
    {body text outcome fingerprint : String} {statusCode : ℕ}
    (hstable : ∀ s s', P s → Coherent executor.store s → Coherent executor.store s' →
      S.rely s s' → P s')
    (hrecord : ∀ s e, P s → commitsOf [e] = [] → P { s with trace := s.trace ++ [e] })
    (hknown : ∀ s, P s → s.latest k.after.contractId = some k.after)
    (hlive : S.Live executor.store) (hsteady : S.Steady executor.store k.after)
    (h₀ : Started executor.store call .forward P k [] s) (hopen : k.Opens .forward)
    (hversion : k.after.stateVersion + 1 < 2 ^ 63)
    (hbody : request.modelDumpJson = .ok body)
    (hexchange : ∀ {i s s'}, S.permit i s s' → i.exchange = .response statusCode text)
    (hstatus : 200 ≤ statusCode ∧ statusCode < 300) {path : String}
    (hpath : executor.writeClient.path context k.after.endpointSymbol k.after.httpMethod = .ok path)
    (hread : ∀ {i s s'}, S.permit i s s' → i.target = .ok obj)
    (htarget : resolveTransportTarget k.after adapter obj = .ok target)
    (hparse : adapter.parseResponse ⟨statusCode, text⟩ = .ok (.ok outcome))
    (hverdict : adapter.isSemanticallyVerified obj obj intent = .ok true)
    (hfingerprint : readFingerprint k.after adapter obj = .ok fingerprint)
    (hhex : isHex64 fingerprint = true)
    (h : ∀ s s' k', Coherent executor.store s → P s → S.Commits executor.store s s' k' →
      k'.after.toContractFields = Store.sealed k.after fingerprint → ∀ r, post r s') :
    wp (S.context executor.store)
      (executor.sendExecution call adapter context k.after obj intent request) post s := by
  refine (wp_bind _ _ _ _).mpr (send_spec hstable hrecord h₀ rfl hopen ?_ ?_)
  · intro e he
    rw [hbody] at he
    cases he
  intro _ s₁ i hi h₁
  have hsent : executor.writeClient.send context k.after.endpointSymbol k.after.httpMethod
      (.response statusCode text) = .ok ⟨statusCode, text⟩ := by
    rw [WriteApiClient.send, hpath]
    rfl
  rw [hexchange hi] at h₁
  rw [hexchange hi, andThen_ok, hsent]
  dsimp only [classifySend]
  rw [if_pos hstatus]
  refine (wp_bind _ _ _ _).mpr ((wp_attempt _ _ _).mpr (readTarget_spec hstable h₁ ?_))
  intro s₂ i h₂ hi
  rw [hread hi, andThen_ok, ok_bind, htarget, ok_bind, hparse, ok_bind, hverdict, ok_bind,
    if_pos rfl, hfingerprint, ok_bind]
  refine (wp_bind _ _ _ _).mpr (judge_spec hstable hrecord h₂ fun s₃ h₃ => ?_)
  rw [andThen_ok, numericLocator_eq htarget]
  refine (wp_bind _ _ _ _).mpr (markExecutionVerified_live hlive hsteady h₃.coherent
    (hknown s₃ h₃.known) hopen.2 hhex hversion ?_ ?_)
  · exact fun k' hcall hmoves =>
      h₃.justified hcall hmoves fun _ hfailed => absurd hfailed (by decide)
  · exact fun s' k' hcommits _ hfields => h s₃ s' k' h₃.coherent h₃.known hcommits hfields _

end MutationExecutor

end Model

namespace Sample

attribute [local instance] platform

/-- The call that executes the sample contract. -/
def executeCall (verified : Bool) : ExecuteCall :=
  ⟨executor plain, 3, "contract-1", adapter verified (.ok "body"), (), .null, none⟩

/-- The request of the sample contract has passed the gates. -/
theorem sends_of_handed_sample : ∃ cfg past before sent c d pre payload,
    (system plain (script (execution false (.ok "body"))) fun _ _ _ => True).Recorded cfg past ∧
      .handed 3 .forward "contract-1" (some (.response 200 "")) ∈ cfg.shared.trace ∧
      System.TookAfter past 3 before sent ∧
      (executeCall false).Sends before sent c d pre payload := by
  obtain ⟨cfg, k, k', hreach, hown, -⟩ := reachable_unverified
  obtain ⟨past, hrun⟩ := hreach.exists_recorded
  have hmem : .handed 3 .forward "contract-1" (some (.response 200 "")) ∈
      own 3 cfg.shared.trace := by
    rw [hown]
    exact List.mem_cons_of_mem _ List.mem_cons_self
  have hevent := (mem_own.mp hmem).1
  have hop : script (execution false (.ok "body")) 3 = execution false (.ok "body") := rfl
  obtain ⟨-, -, before, sent, c, d, pre, payload, htook, hsends, -⟩ :=
    sends_of_handed hrun hop hevent
  exact ⟨cfg, past, before, sent, c, d, pre, payload, hrun, hevent, htook, hsends⟩

/-- What the runs of the sample contract have in common up to its execution. -/
structure Scripted (ops : ℕ → Operation plain) : Prop where
  create : ops 0 = .create contract
  prepare : ops 1 = .transition "contract-1" preparing 0 prepared none "state_transition"
  confirm : ops 2 = .confirm "contract-1" evidence 1
  execute : ops 3 = execution true (.ok "body")

/-- The fields of the sample contract after its confirmation. -/
def reached (state : RecoveryState) (version : ℤ) (confirmedAt : DateTime)
    (fingerprint : Option String) : ContractFields :=
  { contract.toContractFields with
    state := state, stateVersion := version, confirmationDigest := some hex,
    confirmedAt := some confirmedAt, verifiedTargetFingerprint := fingerprint }

theorem ready_plain (exchange : Exchange) :
    Ready plain (answers exchange) contract evidence hex :=
  ready (fun _ h => by cases h) false exchange

/-- The sample contract has been verified in the fourth call. -/
structure Closed (s : World) (confirmedAt : DateTime) (k : Commit) : Prop where
  single : Single plain s k.after
  committed : .committed k ∈ s.trace
  call : k.call = 3
  fields : k.after.toContractFields = reached verified 4 confirmedAt (some hex)

/-- The sample contract once it is `EXECUTING`: the appliance accepts the request, and the adapter
finds its effect. -/
theorem runExecution_verified {s : World} {d : RecoveryContract} {k : Commit} {t : DateTime}
    (hsingle : Single plain s k.after) (hd : d.toContractFields = reached prepared 2 t none)
    (hfields : k.after.toContractFields = Store.moved d executing) (hopen : k.Opens .forward)
    (hown : own 3 s.trace = [.committed k]) :
    wp ((alone 3 fun i _ _ => i = answers (.response 200 "")).context plain)
      ((executor plain).runExecution 3 (adapter true (.ok "body")) none k.after)
      (fun _ s => ∃ k, Closed s t k) s := by
  have hsame : contract.SameIdentity d.toContractFields := by
    rw [hd]
    constructor <;> rfl
  refine runExecution_sample hsame hfields (by rw [hd]; rfl) fun s₁ hs₁ hquiet₁ hsame' => ?_
  have hpath : (executor plain).writeClient.path none k.after.endpointSymbol k.after.httpMethod =
      .ok "/api/v2/firewall/alias" := by
    rw [hsame'.endpointSymbol, hsame'.httpMethod]
    rfl
  have hexchange : ∀ i, i = answers (.response 200 "") → i.exchange = .response 200 "" := by
    rintro _ rfl
    rfl
  have hstarted : MutationExecutor.Started plain 3 .forward
      (fun s => s.latest k.after.contractId = some k.after ∧
        ∀ k' ∈ commitsOf s.trace, k'.after.contractId = k.after.contractId) k [] s₁ := by
    refine ⟨hs₁, ?_, fun _ _ _ h => absurd h List.not_mem_nil, (hquiet₁.latest _).trans
      hsingle.latest, ?_⟩
    · rw [hquiet₁.trace]
      exact hown
    · rw [hquiet₁.trace]
      exact hsingle.only
  refine MutationExecutor.sendExecution_verified ?_ ?_ (fun _ h => h.1)
    (live_alone (ready_plain _).fit) steady_alone hstarted hopen ?_ rfl (hexchange _) (by decide)
    hpath ?_ (resolveTransportTarget_eq hsame') rfl rfl (readFingerprint_eq hsame')
    k.after.identityValid.targetFingerprint ?_
  · rintro s₂ s₃ ⟨hlatest, honly⟩ - - hquiet
    refine ⟨(hquiet.latest _).trans hlatest, ?_⟩
    rw [hquiet.trace]
    exact honly
  · rintro s₂ e ⟨hlatest, honly⟩ he
    rw [World.latest, commitsOf_append, he, List.append_nil]
    exact ⟨hlatest, honly⟩
  · have hversion : k.after.stateVersion = 3 := by
      rw [hfields, Store.moved, hd]
      rfl
    rw [hversion]
    decide
  · rintro _ _ _ rfl
    rfl
  · rintro s₂ s₃ k' hs₂ ⟨hlatest, honly⟩ hcommits hsealed _
    have hsingle₃ : Single plain s₃ k'.after :=
      Single.of_commits ⟨hs₂, hlatest, honly⟩ hcommits (by rw [hsealed, Store.sealed])
    obtain ⟨⟨_, -, -, htrace⟩, -, hcall⟩ := hcommits
    refine ⟨k', hsingle₃, ?_, hcall, ?_⟩
    · rw [htrace]
      exact List.mem_append_right _ (List.mem_singleton_self _)
    · rw [hsealed, Store.sealed, hsame'.targetFingerprint, hfields, Store.moved, hd]
      rfl

section Scripted

variable {ops : ℕ → Operation plain} (hops : Scripted ops)

include hops

/-- The sample contract is confirmed with the fields that it was created with. -/
theorem exists_confirmed_run : ∃ cfg d,
    (system plain ops fun _ _ _ => True).Reachable cfg ∧ cfg.next = 3 ∧
      Single plain cfg.shared d ∧ ∃ t, d.toContractFields = reached prepared 2 t none := by
  have hready := ready_plain (.response 200 "")
  have hprepared : ∃ cfg p, (system plain ops fun _ _ _ => True).Reachable cfg ∧ cfg.next = 2 ∧
      Single plain cfg.shared p ∧ p.toContractFields = Store.moved contract prepared :=
    reachable_prepared hready (fun _ _ => trivial) hops.create hops.prepare
  obtain ⟨cfg, p, hreach, hnext, hsingle, hp⟩ := hprepared
  have hsame : contract.SameIdentity p.toContractFields := by
    rw [hp]
    constructor <;> rfl
  have hid : p.contractId = "contract-1" := hsame.contractId
  have hstate : p.state = prepared := by rw [hp]; rfl
  have hversion : p.stateVersion = 1 := by rw [hp]; rfl
  have hunconfirmed : p.isConfirmed = false := by
    rw [RecoveryContract.isConfirmed, hp]
    rfl
  obtain ⟨digest, hdigest, hcode⟩ := hready.digest
  have hcall := exists_call (i := answers (.response 200 "")) hreach (fun _ _ _ => trivial)
    fun _ s => ∃ d, Single plain s d ∧ ∃ t, d.toContractFields = confirmed p hex t
  refine (hcall fun hown => ?_).elim fun cfg' hended => ?_
  · rw [hnext] at hown ⊢
    rw [hops.confirm]
    refine wp_discard ?_
    rw [← hid, ← hversion]
    refine confirm_live (live_ready hready 2) steady_alone ?_ rfl hsingle.coherent hsingle.latest
      hstate hunconfirmed ?_ (hready.bindings p hsame) hdigest (hcode p hsame hstate hunconfirmed)
      isHex64_hex (by rw [hversion]; decide) (MutationExecutor.unsent_of_own hown) ?_
    · rintro _ _ _ rfl
      rfl
    · rintro _ _ _ t rfl hclock
      have hwindow := hready.window t hclock
      rw [RecoveryContract.isExpired, hsame.createdAt, hsame.expiresAt]
      exact hwindow
    · intro s' k t hcommits _ hfields _ _
      exact ⟨k.after, hsingle.of_commits hcommits (by rw [hfields]; rfl), t, hfields⟩
  · obtain ⟨_, hreach', hnext', _, d, hsingle', t, hd⟩ := hended
    refine ⟨cfg', d, hreach', by rw [hnext', hnext], hsingle', t, ?_⟩
    rw [hd, confirmed, hp]
    rfl

/-- A run in which the appliance accepts the request, and the adapter finds its effect. -/
theorem exists_verified_run : ∃ cfg k,
    (system plain ops fun _ _ _ => True).Reachable cfg ∧ cfg.next = 4 ∧
      ∃ t, Closed cfg.shared t k := by
  obtain ⟨cfg, d, hreach, hnext, hsingle, t, hd⟩ := exists_confirmed_run hops
  have hsame : contract.SameIdentity d.toContractFields := by
    rw [hd]
    constructor <;> rfl
  have hid : d.contractId = "contract-1" := hsame.contractId
  have hstate : d.state = prepared := by
    rw [hd]
    rfl
  have hversion : d.stateVersion = 2 := by
    rw [hd]
    rfl
  have hunexpired : d.isExpired (midnight 1 (by decide)) = false := by
    rw [RecoveryContract.isExpired, hsame.expiresAt]
    decide +kernel
  have hcall := exists_call (i := answers (.response 200 "")) hreach (fun _ _ _ => trivial)
    fun _ s => ∃ k, Closed s t k
  rw [hnext] at hcall
  refine (hcall fun hown => ?_).elim ?_
  swap
  · rintro cfg' ⟨-, hreach', hnext', -, k, hk⟩
    exact ⟨cfg', k, hreach', hnext', t, hk⟩
  rw [hops.execute]
  refine wp_discard ?_
  rw [← hid]
  refine MutationExecutor.execute_live (live_alone (ready_plain _).fit) steady_alone rfl rfl
    hsingle.coherent hsingle.latest hstate ?_ ?_ ?_ ?_ (admits hsame plain) ?_ ?_ hown ?_
  · rw [RecoveryContract.isConfirmed, hd]
    rfl
  · rintro _ _ _ t rfl hclock
    cases hclock
    exact hunexpired
  · rintro _ _ _ rfl
    exact ⟨_, rfl, hunexpired⟩
  · rintro _ _ _ rfl
    rfl
  · rw [hversion]
    decide
  · exact fun s' hs' hquiet => hsingle.free (by rw [hstate]; rfl) hs' hquiet
  intro s k hcommits hbefore hfields
  have hopen : k.Opens .forward := by
    refine ⟨?_, by rw [hfields]; rfl⟩
    rw [hbefore, Option.map_some, hstate]
    rfl
  have hkid : k.after.contractId = d.contractId := by rw [hfields]; rfl
  exact wp_mono (runExecution_verified (hsingle.of_commits hcommits hkid) hd hfields hopen
    (MutationExecutor.own_of_commits hown hcommits)) fun _ _ h _ _ => h

end Scripted

/-- The sample contract has been read back. -/
theorem confirms_of_verified_sample : ∃ cfg past k before sent read c d pre payload,
    (system plain (script (execution true (.ok "body"))) fun _ _ _ => True).Recorded cfg past ∧
      .committed k ∈ cfg.shared.trace ∧ k.after.state = verified ∧
      before ++ [sent, read] <+: past 3 ∧
      (executeCall true).Confirms before sent read c d pre payload k := by
  have hops : Scripted (script (execution true (.ok "body"))) := ⟨rfl, rfl, rfl, rfl⟩
  obtain ⟨cfg, k, hreach, -, t, -, hcommit, hcall, hk⟩ := exists_verified_run hops
  obtain ⟨past, hrun⟩ := hreach.exists_recorded
  have hverified : k.after.state = verified := by
    rw [hk]
    rfl
  have hop : script (execution true (.ok "body")) k.call = execution true (.ok "body") := by
    rw [hcall]
    rfl
  obtain ⟨before, sent, read, c, d, pre, payload, hprefix, hconfirms⟩ :=
    confirms_of_verified hrun hop hcommit hverified
  rw [hcall] at hprefix hconfirms
  exact ⟨cfg, past, k, before, sent, read, c, d, pre, payload, hrun, hcommit, hverified, hprefix,
    hconfirms⟩

end Sample

end Tier1
