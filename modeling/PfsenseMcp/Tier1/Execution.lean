import Mathlib.Data.Nat.Notation
import PfsenseMcp.Tier1.Operations

/-!
# What the executor does

`execute` and `rollback` start a mutation by a commit of their own, hand one request to the write
client, and then close the contract. Every way out ends in one of three closing operations of the
store. The specifications here follow the code up to these; what a closing operation achieves is
a hypothesis, so that the safety of a run and its progress share one walk through the code.

## Main results

* `mayFail_of_classifySend`: the answers after which a send is classified as without effect;
* `execute_spec`, `rollback_spec`: the events of a call are its start, at most one request, and
  its end.
-/

namespace Tier1

open Python Concurrency Procedure RecoveryState

variable [Platform]

namespace MutationExecutor

/-! ### Classification -/

omit [Platform] in
theorem path_error {client : WriteApiClient} {context : Option AcceptanceExecutionContext}
    {endpointSymbol httpMethod : String} {e : Error}
    (h : client.path context endpointSymbol httpMethod = .error e) : e.cls = .writeNotAllowed := by
  unfold WriteApiClient.path WriteApiClient.pathForTier1 WriteApiClient.pathForTier1Acceptance
    WriteApiClient.refuse fail at h
  split at h <;> split at h <;> try split_ifs at h
  all_goals
    cases h
    rfl

/-- The exchanges after which a send is classified as without effect. -/
theorem mayFail_of_classifySend (executor : MutationExecutor)
    {context : Option AcceptanceExecutionContext} {contract : RecoveryContract}
    {exchange : Exchange} {events : List Event} {call : ℕ} {contractId : String}
    {boundary : MutationBoundary} {knowledge : EffectKnowledge}
    {response : Option TransportResponse}
    (h : classifySend (executor.writeClient.send context contract.endpointSymbol
      contract.httpMethod exchange) = (boundary, knowledge, response))
    (hfailed : (classifyFault boundary knowledge).targetState = failed) :
    MayFail events call contractId (executor.exchangeOf context contract exchange) := by
  unfold exchangeOf
  cases hpath : executor.writeClient.path context contract.endpointSymbol contract.httpMethod with
  | error e => trivial
  | ok path =>
    rw [WriteApiClient.send, hpath, ok_bind] at h
    cases exchange with
    | connectError | connectTimeout | poolTimeout | transportError => trivial
    | timeout sent =>
      simp only [HttpTransport.request, fail, classifySend, reduceCtorEq, if_false, or_self] at h
      cases h
      simp [classifyFault] at hfailed
    | otherError name message sent =>
      simp only [HttpTransport.request, fail, classifySend, reduceCtorEq, if_false, or_self] at h
      cases h
      simp [classifyFault] at hfailed
    | response statusCode text =>
      simp only [HttpTransport.request, classifySend] at h
      split_ifs at h with h₁ h₂
      · cases h
        simp [classifyFault] at hfailed
      · exact .inl h₂
      · cases h
        simp [classifyFault] at hfailed

/-- A send that is classified as successful was answered with a 2xx status. -/
theorem response_of_classifySend (executor : MutationExecutor)
    {context : Option AcceptanceExecutionContext} {contract : RecoveryContract}
    {exchange : Exchange} {boundary : MutationBoundary} {response : Option TransportResponse}
    (h : classifySend (executor.writeClient.send context contract.endpointSymbol
      contract.httpMethod exchange) = (boundary, .verifiedSuccess, response)) :
    ∃ statusCode text, executor.exchangeOf context contract exchange =
        some (.response statusCode text) ∧
      response = some ⟨statusCode, text⟩ ∧ 200 ≤ statusCode ∧ statusCode < 300 := by
  unfold exchangeOf
  cases hpath : executor.writeClient.path context contract.endpointSymbol contract.httpMethod with
  | error e =>
    have hrefused : classifySend (.error e) = (.beforeSend, .provenNone, none) := by
      simp [classifySend, path_error hpath]
    rw [WriteApiClient.send, hpath] at h
    change classifySend (.error e) = _ at h
    rw [hrefused] at h
    cases h
  | ok path =>
    rw [WriteApiClient.send, hpath, ok_bind] at h
    cases exchange with
    | response statusCode text =>
      simp only [HttpTransport.request, classifySend] at h
      split_ifs at h with h₁ h₂ <;> cases h
      exact ⟨statusCode, text, rfl, rfl, h₁⟩
    | _ => simp [HttpTransport.request, fail, classifySend] at h

omit [Platform] in
theorem boundary_of_classifySend {result : Except Error TransportResponse}
    {boundary : MutationBoundary} {knowledge : EffectKnowledge}
    {response : Option TransportResponse}
    (h : classifySend result = (boundary, knowledge, response)) : boundary ≠ .duringRollback := by
  unfold classifySend at h
  split at h <;> split_ifs at h <;> cases h <;> exact nofun

omit [Platform] in
/-- Without success, a fault of an execution leads to `FAILED` or to `RECONCILIATION`. -/
theorem targetState_of_ne {boundary : MutationBoundary} {knowledge : EffectKnowledge}
    (hboundary : boundary ≠ .duringRollback) (hknowledge : knowledge ≠ .verifiedSuccess) :
    (classifyFault boundary knowledge).targetState = failed ∨
      (classifyFault boundary knowledge).targetState = reconciliation := by
  unfold classifyFault
  split_ifs <;> simp

/-! ### The walk through an execution -/

/-- The call has started a mutation with the commit `k` and done `events` since; `P` is what is
known of the world. -/
structure Started (store : Store) (call : ℕ) (direction : Direction) (P : World → Prop)
    (k : Commit) (events : List Event) (s : World) : Prop where
  coherent : Coherent store s
  own : own call s.trace = .committed k :: events
  sends : ∀ d contractId exchange, .handed call d contractId exchange ∈ events →
    d = direction ∧ contractId = k.after.contractId
  known : P s

section Walk

variable {executor : MutationExecutor} {call : ℕ} {S : Setting call} {direction : Direction}
  {P : World → Prop} {k : Commit}

theorem Started.of_rely {s s' : World} {events : List Event}
    (hstable : ∀ s s', P s → Coherent executor.store s → Coherent executor.store s' →
    S.rely s s' → P s')
    (h : Started executor.store call direction P k events s)
    (hs' : Coherent executor.store s') (hrely : S.rely s s') :
    Started executor.store call direction P k events s' :=
  ⟨hs', (S.frame hrely).own.trans h.own, h.sends, hstable s s' h.known h.coherent hs' hrely⟩

theorem Started.record {s : World} {events : List Event} {e : Event}
    (hrecord : ∀ s e, P s → commitsOf [e] = [] → P { s with trace := s.trace ++ [e] })
    (h : Started executor.store call direction P k events s) (he : LawfulEvent s.trace e)
    (hcall : e.call = call) (hne : commitsOf [e] = [])
    (hsends : ∀ d contractId exchange, .handed call d contractId exchange = e →
      d = direction ∧ contractId = k.after.contractId) :
    Started executor.store call direction P k (events ++ [e])
      { s with trace := s.trace ++ [e] } := by
  refine ⟨h.coherent.record he hne, ?_, fun d contractId exchange hmem => ?_,
    hrecord s e h.known hne⟩
  · have hown : Tier1.own call [e] = [e] := by simp [Tier1.own, hcall]
    rw [own_append, h.own, hown]
    rfl
  · rcases List.mem_append.mp hmem with hmem | hmem
    · exact h.sends d contractId exchange hmem
    · exact hsends d contractId exchange (List.mem_singleton.mp hmem)

/-- A commit that ends the mutation is justified. -/
theorem Started.justified {s : World} {events : List Event} {version : ℤ}
    {target : RecoveryState} {k' : Commit}
    (h : Started executor.store call direction P k events s) (hcall : k'.call = call)
    (hmoves : Moves k.after.contractId direction.inFlightState version target k')
    (hmay : direction = .forward → target = failed → ∀ exchange,
      .handed call .forward k.after.contractId exchange ∈ events →
      MayFail events call k.after.contractId exchange) :
    Justified (Tier1.own call s.trace) k' := by
  obtain ⟨⟨c, hbefore, hid, hstate, -⟩, -, hafter⟩ := hmoves
  intro d contractId exchange hmem
  rw [h.own, hcall] at hmem
  rcases List.mem_cons.mp hmem with hmem | hmem
  · cases hmem
  · obtain ⟨rfl, rfl⟩ := h.sends d contractId exchange hmem
    refine ⟨⟨c, hbefore, hid, hstate⟩, ?_⟩
    rintro rfl hfailed
    rw [hcall, h.own]
    exact (hmay rfl (hafter ▸ hfailed) exchange hmem).mono (List.subset_cons_self _ _)

variable (hstable : ∀ s s', P s → Coherent executor.store s → Coherent executor.store s' →
    S.rely s s' → P s')
  (hrecord : ∀ s e, P s → commitsOf [e] = [] → P { s with trace := s.trace ++ [e] })

include hstable

theorem readTarget_spec {s : World} {events : List Event}
    (h : Started executor.store call direction P k events s)
    {post : Except Error Platform.Obj → World → Prop}
    (hpost : ∀ s' i, Started executor.store call direction P k events s' → S.permit i s' s' →
      post i.target s') :
    wp (S.context executor.store) readTarget post s :=
  wp_atomic fun s' hs' hrely i hi => ⟨hs', .inl (.refl s'), hpost s' i (h.of_rely hstable hs' hrely) hi⟩

include hrecord

/-- A verdict of the adapter is recorded. -/
theorem judge_spec {s : World} {events : List Event}
    (h : Started executor.store call direction P k events s) {contractId : String}
    {verified : Bool} {post : Except Error Unit → World → Prop}
    (hpost : ∀ s', Started executor.store call direction P k
      (events ++ [.judged call contractId verified]) s' → post (.ok ()) s') :
    wp (S.context executor.store) (Op.record (.judged call contractId verified)) post s := by
  refine wp_atomic fun s' hs' hrely i _ => ?_
  have hlawful : LawfulEvent s'.trace (.judged call contractId verified) := .judged
  have hjudged := (h.of_rely hstable hs' hrely).record hrecord hlawful rfl rfl
    fun _ _ _ h => by cases h
  exact ⟨hjudged.coherent, .inr ⟨_, rfl, rfl⟩, hpost _ hjudged⟩

/-- A request is handed on once, right after the start. -/
theorem send_spec {s : World} {contract : RecoveryContract}
    {request : Request} {context : Option AcceptanceExecutionContext}
    (h : Started executor.store call direction P k [] s)
    (hid : k.after.contractId = contract.contractId) (hopen : k.Opens direction)
    {post : Except Error (MutationBoundary × EffectKnowledge × Option TransportResponse) →
      World → Prop}
    (hdump : ∀ e, request.modelDumpJson = .error e → post (.error e) s)
    (hpost : ∀ s₁ s' i, S.permit i s₁ s' → Started executor.store call direction P k
        [.handed call direction contract.contractId
          (executor.exchangeOf context contract i.exchange)] s' →
      post (.ok (classifySend (executor.writeClient.send context contract.endpointSymbol
        contract.httpMethod i.exchange))) s') :
    wp (S.context executor.store) (executor.send call direction contract request context)
      post s := by
  refine wp_check hdump fun _ _ => ?_
  refine wp_atomic fun s' hs' hrely i hi => ?_
  have h' := h.of_rely hstable hs' hrely
  have hlawful : LawfulEvent s'.trace (.handed call direction contract.contractId
      (executor.exchangeOf context contract i.exchange)) := .handed h'.own hid hopen
  have hhanded := h'.record hrecord hlawful rfl rfl fun d contractId exchange heq => by
    cases heq
    exact ⟨rfl, hid.symm⟩
  exact ⟨hhanded.coherent, .inr ⟨_, rfl, rfl⟩, hpost _ _ i hi hhanded⟩

end Walk

theorem numericLocator_eq {contract : RecoveryContract} {adapter : CapabilityAdapter}
    {rawTarget : Platform.Obj} {target : ResolvedTransportTarget}
    (h : resolveTransportTarget contract adapter rawTarget = .ok target) :
    target.numericLocator = contract.lifecycleLocator := by
  simp only [resolveTransportTarget, bind_eq_ok, demand_eq_ok] at h
  obtain ⟨_, -, _, -, _, -, _, -, _, hlocator, h⟩ := h
  cases h
  exact hlocator

theorem isHex64_of_readFingerprint {contract : RecoveryContract} {adapter : CapabilityAdapter}
    {rawTarget : Platform.Obj} {fingerprint : String}
    (h : readFingerprint contract adapter rawTarget = .ok fingerprint) :
    isHex64 fingerprint = true := by
  simp only [readFingerprint, bind_eq_ok] at h
  obtain ⟨_, -, h⟩ := h
  exact isHex64_of_digestValue h

/-- What the closing operations of `execute` achieve, for a call that has started with `k`. -/
structure ExecutionClosers (executor : MutationExecutor) (call : ℕ) (S : Setting call)
    (adapter : CapabilityAdapter) (P : World → Prop) (k : Commit)
    (post : Except Error Outcome → World → Prop) : Prop where
  finish : ∀ s events target detail, Started executor.store call .forward P k events s →
    target = failed ∨ target = reconciliation →
    (target = failed → ∀ exchange,
      .handed call .forward k.after.contractId exchange ∈ events →
      MayFail events call k.after.contractId exchange) →
    wp (S.context executor.store) (executor.finishExecute call k.after target detail) post s
  verify : ∀ s events fingerprint outcome,
    Started executor.store call .forward P k events s → isHex64 fingerprint = true →
    wp (S.context executor.store) (do
      let updated ← executor.store.markExecutionVerified call k.after.contractId
        k.after.stateVersion fingerprint k.after.lifecycleLocator
      let text ← Op.check outcome
      return (⟨k.after.contractId, updated.state, "parsed response: " ++ text⟩ : Outcome)) post s
  dump : ∀ s intent target request e, Started executor.store call .forward P k [] s →
    adapter.buildRequest intent target = .ok (some request) →
    request.modelDumpJson = .error e → post (.error e) s

/-- What the closing operations of `rollback` achieve, for a call that has started with `k`. -/
structure RollbackClosers (executor : MutationExecutor) (call : ℕ) (S : Setting call)
    (adapter : CapabilityAdapter) (P : World → Prop) (k : Commit)
    (post : Except Error Outcome → World → Prop) : Prop where
  finish : ∀ s events target detail, Started executor.store call .rollback P k events s →
    target = rollbackFailed ∨ target = reconciliation →
    wp (S.context executor.store) (executor.finishRollback call k.after target detail) post s
  verify : ∀ s events, Started executor.store call .rollback P k events s →
    wp (S.context executor.store) (do
      let updated ← executor.store.markRollbackVerified call k.after.contractId
        k.after.stateVersion k.after.lifecycleLocator
      return (⟨k.after.contractId, updated.state, "rollback verified"⟩ : Outcome)) post s
  dump : ∀ s snapshot target request e, Started executor.store call .rollback P k [] s →
    adapter.buildRollbackRequest snapshot target = .ok (some request) →
    request.modelDumpJson = .error e → post (.error e) s

section Execute

variable {executor : MutationExecutor} {call : ℕ} {S : Setting call} {P : World → Prop}
  {k : Commit} {adapter : CapabilityAdapter} {context : Option AcceptanceExecutionContext}
  {post : Except Error Outcome → World → Prop}

variable (hstable : ∀ s s', P s → Coherent executor.store s → Coherent executor.store s' →
    S.rely s s' → P s')
  (hrecord : ∀ s e, P s → commitsOf [e] = [] → P { s with trace := s.trace ++ [e] })
  (closers : ExecutionClosers executor call S adapter P k post)

include hstable hrecord closers

/-- After an answer with a 2xx status. -/
theorem verifyExecution_spec {s : World} {exchange : Option Exchange} {statusCode : ℕ}
    {text : String}
    (h : Started executor.store call .forward P k
      [.handed call .forward k.after.contractId exchange] s)
    (hexchange : exchange = some (.response statusCode text))
    (hstatus : 200 ≤ statusCode ∧ statusCode < 300) {pre : Platform.Obj} {intent : Json}
    {response : TransportResponse} :
    wp (S.context executor.store) (executor.verifyExecution call adapter k.after pre intent
      response) post s := by
  refine (wp_bind _ _ _ _).mpr ((wp_attempt _ _ _).mpr (readTarget_spec hstable h ?_))
  intro s₁ i h₁ _
  rw [andThen_ok]
  generalize i.target = read
  generalize hobserved : (do
    let post ← read
    let target ← resolveTransportTarget k.after adapter post
    let outcome ← adapter.parseResponse response
    let verified ← adapter.isSemanticallyVerified pre post intent
    if verified then do
      let fingerprint ← readFingerprint k.after adapter post
      .ok (target, outcome, some fingerprint)
    else .ok (target, outcome, none) :
      Except Error (ResolvedTransportTarget × Except Error String × Option String)) = observed
  rcases observed with e | ⟨target, outcome, fingerprint⟩
  · exact closers.finish s₁ _ _ _ h₁ (.inr rfl) nofun
  · simp only [bind_eq_ok] at hobserved
    obtain ⟨post', hpost', target', htarget, outcome', -, verdict, -, hobserved⟩ := hobserved
    cases verdict with
    | true =>
      obtain ⟨fp, hfp, hobserved⟩ := bind_eq_ok.mp hobserved
      cases hobserved
      refine (wp_bind _ _ _ _).mpr (judge_spec hstable hrecord h₁ ?_)
      intro s₂ h₂
      rw [andThen_ok, numericLocator_eq htarget]
      exact closers.verify s₂ _ fp outcome h₂ (isHex64_of_readFingerprint hfp)
    | false =>
      cases hobserved
      refine (wp_bind _ _ _ _).mpr (judge_spec hstable hrecord h₁ ?_)
      intro s₂ h₂
      refine closers.finish s₂ _ _ _ h₂ (.inl rfl) fun _ exchange' hmem => ?_
      -- the one request of the call was answered, and the verdict is on record
      simp only [List.cons_append, List.nil_append, List.mem_cons, List.not_mem_nil, or_false,
        reduceCtorEq, Event.handed.injEq, true_and] at hmem
      rw [hmem, hexchange]
      exact .inr ⟨hstatus.1, hstatus.2, by simp⟩

/-- Once the request is built. -/
theorem sendExecution_spec {s : World} (h : Started executor.store call .forward P k [] s)
    (hopen : k.Opens .forward) {pre : Platform.Obj} {intent : Json} {request : Request}
    {target : ResolvedTransportTarget}
    (hrequest : adapter.buildRequest intent target = .ok (some request)) :
    wp (S.context executor.store) (executor.sendExecution call adapter context k.after pre intent
      request) post s := by
  refine (wp_bind _ _ _ _).mpr (send_spec hstable hrecord h rfl hopen
    (fun e he => closers.dump s _ _ _ e h hrequest he) ?_)
  intro _ s₁ i _ h₁
  generalize i.exchange = exchange at h₁ ⊢
  rw [andThen_ok]
  generalize hsent : classifySend (executor.writeClient.send context k.after.endpointSymbol
    k.after.httpMethod exchange) = sent
  obtain ⟨boundary, knowledge, response⟩ := sent
  split
  · rename_i hsent'
    cases hsent'
    obtain ⟨statusCode, text, hexchange, -, hstatus⟩ := response_of_classifySend executor hsent
    exact verifyExecution_spec hstable hrecord closers h₁ hexchange hstatus
  · rename_i boundary' knowledge' response' hnot hsent'
    cases hsent'
    have hsuccess : knowledge ≠ .verifiedSuccess := by
      rintro rfl
      obtain ⟨statusCode, text, -, hresponse, -⟩ := response_of_classifySend executor hsent
      exact hnot _ rfl hresponse
    have htarget := targetState_of_ne (boundary_of_classifySend hsent) hsuccess
    refine closers.finish s₁ _ _ _ h₁ htarget fun hfailed exchange' hmem => ?_
    simp only [List.mem_singleton, Event.handed.injEq, true_and] at hmem
    rw [hmem]
    exact mayFail_of_classifySend executor hsent hfailed

/-- Once the contract is `EXECUTING`. -/
theorem runExecution_spec {s : World} (h : Started executor.store call .forward P k [] s)
    (hopen : k.Opens .forward) :
    wp (S.context executor.store) (executor.runExecution call adapter context k.after) post s := by
  have hfinish : ∀ s' detail, Started executor.store call .forward P k [] s' →
      wp (S.context executor.store) (executor.finishExecute call k.after failed detail) post s' :=
    fun s' detail h' => closers.finish s' [] failed detail h' (.inl rfl)
      fun _ _ hmem => absurd hmem List.not_mem_nil
  refine (wp_bind _ _ _ _).mpr ((wp_attempt _ _ _).mpr (readTarget_spec hstable h ?_))
  intro s₁ i h₁ _
  rw [andThen_ok]
  split
  · exact hfinish s₁ _ h₁
  · split
    · exact hfinish s₁ _ h₁
    · split
      · exact hfinish s₁ _ h₁
      · split
        · exact hfinish s₁ _ h₁
        · split
          · exact hfinish s₁ _ h₁
          · exact hfinish s₁ _ h₁
          · rename_i hbuilt
            simp only [bind_eq_ok] at hbuilt
            obtain ⟨intent, -, request, hrequest, hbuilt⟩ := hbuilt
            cases hbuilt
            exact sendExecution_spec hstable hrecord closers h₁ hopen hrequest

end Execute

section Rollback

variable {executor : MutationExecutor} {call : ℕ} {S : Setting call} {P : World → Prop}
  {k : Commit} {adapter : CapabilityAdapter} {post : Except Error Outcome → World → Prop}

variable (hstable : ∀ s s', P s → Coherent executor.store s → Coherent executor.store s' →
    S.rely s s' → P s')
  (hrecord : ∀ s e, P s → commitsOf [e] = [] → P { s with trace := s.trace ++ [e] })
  (closers : RollbackClosers executor call S adapter P k post)

include hstable closers

/-- After an answer with a 2xx status. -/
theorem verifyRollback_spec {s : World} {events : List Event}
    (h : Started executor.store call .rollback P k events s) {snapshot : Json} :
    wp (S.context executor.store) (executor.verifyRollback call adapter k.after snapshot)
      post s := by
  refine (wp_bind _ _ _ _).mpr ((wp_attempt _ _ _).mpr (readTarget_spec hstable h ?_))
  intro s₁ i h₁ _
  rw [andThen_ok]
  generalize i.target = read
  generalize hobserved : (do
    let post ← read
    let target ← resolveTransportTarget k.after adapter post
    let verified ← adapter.isRollbackVerified snapshot post
    .ok (target, verified) : Except Error (ResolvedTransportTarget × Bool)) = observed
  rcases observed with e | ⟨target, _ | _⟩
  · exact closers.finish s₁ _ _ _ h₁ (.inr rfl)
  · exact closers.finish s₁ _ _ _ h₁ (.inl rfl)
  · simp only [bind_eq_ok] at hobserved
    obtain ⟨_, -, _, htarget, _, -, hobserved⟩ := hobserved
    cases hobserved
    dsimp only
    rw [numericLocator_eq htarget]
    exact closers.verify s₁ _ h₁

include hrecord

/-- Once the request is built. -/
theorem sendRollback_spec {s : World} (h : Started executor.store call .rollback P k [] s)
    (hopen : k.Opens .rollback) {snapshot : Json} {request : Request}
    {target : ResolvedTransportTarget}
    (hrequest : adapter.buildRollbackRequest snapshot target = .ok (some request)) :
    wp (S.context executor.store) (executor.sendRollback call adapter k.after snapshot request)
      post s := by
  refine (wp_bind _ _ _ _).mpr (send_spec hstable hrecord h rfl hopen
    (fun e he => closers.dump s _ _ _ e h hrequest he) ?_)
  intro _ s₁ i _ h₁
  rw [andThen_ok]
  split
  · exact verifyRollback_spec hstable closers h₁
  · rename_i hsuccess
    refine closers.finish s₁ _ _ _ h₁ ?_
    unfold classifyFault
    split_ifs <;> simp_all

/-- Once the contract is `ROLLING_BACK`. -/
theorem runRollback_spec {s : World} (h : Started executor.store call .rollback P k [] s)
    (hopen : k.Opens .rollback) :
    wp (S.context executor.store) (executor.runRollback call adapter k.after) post s := by
  have hfinish : ∀ s' detail, Started executor.store call .rollback P k [] s' →
      wp (S.context executor.store)
        (executor.finishRollback call k.after rollbackFailed detail) post s' :=
    fun s' detail h' => closers.finish s' [] rollbackFailed detail h' (.inl rfl)
  refine (wp_bind _ _ _ _).mpr ((wp_attempt _ _ _).mpr (wp_check ?_ fun _ _ => ?_))
  · exact fun e _ => hfinish s _ h
  refine readTarget_spec hstable h ?_
  intro s₁ i h₁ _
  rw [andThen_ok]
  split
  · exact hfinish s₁ _ h₁
  · split
    · exact hfinish s₁ _ h₁
    · split
      · exact hfinish s₁ _ h₁
      · split
        · exact hfinish s₁ _ h₁
        · split
          · exact hfinish s₁ _ h₁
          · exact hfinish s₁ _ h₁
          · rename_i hbuilt
            simp only [bind_eq_ok] at hbuilt
            obtain ⟨snapshot, -, request, hrequest, hbuilt⟩ := hbuilt
            cases hbuilt
            exact sendRollback_spec hstable hrecord closers h₁ hopen hrequest

end Rollback

/-! ### The public operations -/

section Public

variable {executor : MutationExecutor} {call : ℕ} {S : Setting call} {P : Commit → World → Prop}
  {adapter : CapabilityAdapter} {context : Option AcceptanceExecutionContext}
  {post : Except Error Outcome → World → Prop} {s : World}

/-- The call has not started a mutation of the given direction. -/
def Unstarted (call : ℕ) (direction : Direction) (s : World) : Prop :=
  ∀ k, .committed k ∈ own call s.trace → ¬k.Opens direction

theorem unstarted_of_nil {direction : Direction} (h : own call s.trace = []) :
    Unstarted call direction s := by
  intro k hk
  rw [h] at hk
  exact absurd hk List.not_mem_nil

/-- The events of a call that has made a commit. -/
theorem own_of_commits {store : Store} {s' : World} {k : Commit} {events : List Event}
    (hown : own call s.trace = events) (h : S.Commits store s s' k) :
    own call s'.trace = events ++ [.committed k] := by
  obtain ⟨⟨s₁, h₁, -, htrace⟩, -, hcall⟩ := h
  have hk : own call [.committed k] = [.committed k] := by simp [own, Event.call, hcall]
  rw [htrace, own_append, (S.frame h₁).own, hown, hk]

theorem unsent_of_own {s : World} (h : own call s.trace = []) : Unsent call s := by
  intro direction contractId exchange hmem
  rw [h] at hmem
  exact absurd hmem List.not_mem_nil

theorem opens_of_moves {contractId : String} {version : ℤ} {direction : Direction} {k : Commit}
    (h : Moves contractId direction.readyState version direction.inFlightState k) :
    k.Opens direction := by
  obtain ⟨⟨c, hbefore, -, hstate, -⟩, -, hafter⟩ := h
  exact ⟨by rw [hbefore, Option.map_some, hstate], hafter⟩

/-- A refused contract is closed before any mutation was started. -/
theorem refuseExecution_spec {contract : RecoveryContract} {eventType detail : String}
    (hrest : ∀ s' r, Coherent executor.store s' → Unstarted call .forward s' → post r s')
    (hs : Coherent executor.store s) (hown : own call s.trace = []) :
    wp (S.context executor.store) (executor.refuseExecution call contract eventType detail)
      post s := by
  refine (wp_bind _ _ _ _).mpr (transition_spec ?_ ?_ ?_ hs)
  · exact fun k hcall _ => (unsent_of_own hown).justified hcall
  · rintro s₁ k hcommits ⟨-, -, hstate⟩
    have hunstarted : Unstarted call .forward s₁ := by
      intro k' hk' hopen
      rw [own_of_commits hown hcommits, List.nil_append, List.mem_singleton] at hk'
      cases hk'
      have hexecuting : k.after.state = executing := hopen.2
      rw [hstate] at hexecuting
      cases hexecuting
    exact ⟨hrest s₁ _ hcommits.coherent hunstarted,
      fun _ e => hrest s₁ _ hcommits.coherent hunstarted⟩
  · exact fun s₁ e hs₁ h₁ =>
      hrest s₁ _ hs₁ (unstarted_of_nil ((S.frame h₁).own.trans hown))

variable
  (hstable : ∀ k s s', P k s → Coherent executor.store s → Coherent executor.store s' →
    S.rely s s' → P k s')
  (hrecord : ∀ k s e, P k s → commitsOf [e] = [] → P k { s with trace := s.trace ++ [e] })
  (hstart : ∀ s s' k, S.Commits executor.store s s' k → P k s')

include hstable hrecord hstart

/-- A contract that passes the checks of `execute` is started. -/
theorem authorizeExecution_spec {hint : Platform.Obj} {intent : Json}
    {contract : RecoveryContract} {registryClass : WriteSecurityClass}
    (closers : ∀ k, k.Opens .forward → ExecutionClosers executor call S adapter (P k) k post)
    (hfault : S.Faulty → ∀ s' e, Coherent executor.store s' → post (.error e) s')
    (hrest : ∀ s' r, Coherent executor.store s' → Unstarted call .forward s' → post r s')
    (hs : Coherent executor.store s) (hown : own call s.trace = []) :
    wp (S.context executor.store) (executor.authorizeExecution call adapter hint intent context
      contract registryClass) post s := by
  have hrest' : ∀ s' r, Coherent executor.store s' → S.rely s s' → post r s' :=
    fun s' r hs' h' => hrest s' r hs' (unstarted_of_nil ((S.frame h').own.trans hown))
  have here := fun e => hrest' s (.error e) hs (S.refl s)
  refine wp_check (fun e _ => here e) fun _ _ => ?_
  refine wp_check (fun e _ => here e) fun _ _ => ?_
  refine wp_check (fun e _ => here e) fun _ _ => ?_
  refine wp_check (fun e _ => here e) fun _ _ => ?_
  refine (wp_bind _ _ _ _).mpr (wp_consult fun s₁ hs₁ h₁ i => ?_)
  have hown₁ : own call s₁.trace = [] := (S.frame h₁).own.trans hown
  split
  · exact hrest' s₁ _ hs₁ h₁
  · rename_i readOnly _
    cases demand (readOnly = some false) .globalReadOnlyBlocked
      "WRITE blocked: owner must disable pfREST Read Only in WebConfigurator." with
    | error e => exact hrest' s₁ _ hs₁ h₁
    | ok _ =>
      refine (wp_bind _ _ _ _).mpr (transition_spec ?_ ?_ ?_ hs₁)
      · exact fun k hcall _ => (unsent_of_own hown₁).justified hcall
      · intro s₂ k hcommits hmoves
        have hopen : k.Opens .forward := opens_of_moves hmoves
        refine ⟨?_, fun hfaulty e => hfault hfaulty s₂ e hcommits.coherent⟩
        have hstarted : Started executor.store call .forward (P k) k [] s₂ :=
          ⟨hcommits.coherent, own_of_commits hown₁ hcommits,
            fun _ _ _ hmem => absurd hmem List.not_mem_nil, hstart s₁ s₂ k hcommits⟩
        exact runExecution_spec (hstable k) (hrecord k) (closers k hopen) hstarted hopen
      · exact fun s₂ e hs₂ h₂ => hrest' s₂ _ hs₂ (S.trans h₁ h₂)

/-- `execute` starts at most one mutation, and then ends through its closing operations. -/
theorem execute_spec {contractId : String} {hint : Platform.Obj} {intent : Json}
    (closers : ∀ k, k.Opens .forward → ExecutionClosers executor call S adapter (P k) k post)
    (hfault : S.Faulty → ∀ s' e, Coherent executor.store s' → post (.error e) s')
    (hrest : ∀ s' r, Coherent executor.store s' → Unstarted call .forward s' → post r s')
    (hown : own call s.trace = []) :
    wp (S.context executor.store) (executor.execute call contractId adapter hint intent context)
      post s := by
  have hrest' : ∀ s' r, Coherent executor.store s' → S.rely s s' → post r s' :=
    fun s' r hs' h' => hrest s' r hs' (unstarted_of_nil ((S.frame h').own.trans hown))
  refine (wp_bind _ _ _ _).mpr (load_spec (fun s₁ e hs₁ h₁ => hrest' s₁ _ hs₁ h₁) ?_)
  intro s₁ contract hs₁ h₁ _ _
  refine wp_demand (fun e => hrest' s₁ _ hs₁ h₁) fun _ => ?_
  refine wp_demand (fun e => hrest' s₁ _ hs₁ h₁) fun _ => ?_
  refine (wp_bind _ _ _ _).mpr (wp_consult fun s₂ hs₂ h₂ i => ?_)
  have h₂ := S.trans h₁ h₂
  cases i.executorClock with
  | none => exact hrest' s₂ _ hs₂ h₂
  | some instant =>
    rw [andThen_ok]
    refine wp_demand (fun e => hrest' s₂ _ hs₂ h₂) fun _ => ?_
    have hown₂ : own call s₂.trace = [] := (S.frame h₂).own.trans hown
    split
    · exact refuseExecution_spec hrest hs₂ hown₂
    · rename_i registryClass _
      split
      · exact refuseExecution_spec hrest hs₂ hown₂
      · have hgo : ∀ s₃, Coherent executor.store s₃ → S.rely s₂ s₃ → ∀ approval,
            andThen (S.context executor.store) (fun approval =>
              if approval = false then
                executor.refuseExecution call contract "sealed_write_approval_rejected"
                  execute.approvalRejected
              else executor.authorizeExecution call adapter hint intent context contract
                registryClass) post approval s₃ := by
          intro s₃ hs₃ h₃ approval
          have hown₃ : own call s₃.trace = [] := (S.frame h₃).own.trans hown₂
          cases approval with
          | error e => exact hrest' s₃ _ hs₃ (S.trans h₂ h₃)
          | ok approval =>
            rw [andThen_ok]
            split
            · exact refuseExecution_spec hrest hs₃ hown₃
            · exact authorizeExecution_spec hstable hrecord hstart closers hfault hrest hs₃ hown₃
        refine (wp_bind _ _ _ _).mpr ?_
        unfold approved
        split
        · exact wp_consult fun s₃ hs₃ h₃ i => hgo s₃ hs₃ h₃ _
        · exact hgo s₂ hs₂ (S.refl s₂) _

/-- `rollback` starts at most one mutation, and then ends through its closing operations. -/
theorem rollback_spec {contractId : String}
    (closers : ∀ k, k.Opens .rollback → RollbackClosers executor call S adapter (P k) k post)
    (hfault : S.Faulty → ∀ s' e, Coherent executor.store s' → post (.error e) s')
    (hrest : ∀ s' r, Coherent executor.store s' → Unstarted call .rollback s' → post r s')
    (hown : own call s.trace = []) :
    wp (S.context executor.store) (executor.rollback call contractId adapter) post s := by
  have hrest' : ∀ s' r, Coherent executor.store s' → S.rely s s' → post r s' :=
    fun s' r hs' h' => hrest s' r hs' (unstarted_of_nil ((S.frame h').own.trans hown))
  refine (wp_bind _ _ _ _).mpr (load_spec (fun s₁ e hs₁ h₁ => hrest' s₁ _ hs₁ h₁) ?_)
  intro s₁ contract hs₁ h₁ _ _
  refine wp_demand (fun e => hrest' s₁ _ hs₁ h₁) fun _ => ?_
  refine wp_demand (fun e => hrest' s₁ _ hs₁ h₁) fun _ => ?_
  have hown₁ : own call s₁.trace = [] := (S.frame h₁).own.trans hown
  refine (wp_bind _ _ _ _).mpr (transition_spec ?_ ?_ ?_ hs₁)
  · exact fun k hcall _ => (unsent_of_own hown₁).justified hcall
  · intro s₂ k hcommits hmoves
    have hopen : k.Opens .rollback := opens_of_moves hmoves
    refine ⟨?_, fun hfaulty e => hfault hfaulty s₂ e hcommits.coherent⟩
    have hstarted : Started executor.store call .rollback (P k) k [] s₂ :=
      ⟨hcommits.coherent, own_of_commits hown₁ hcommits,
        fun _ _ _ hmem => absurd hmem List.not_mem_nil, hstart s₁ s₂ k hcommits⟩
    exact runRollback_spec (hstable k) (hrecord k) (closers k hopen) hstarted hopen
  · exact fun s₂ e hs₂ h₂ => hrest' s₂ _ hs₂ (S.trans h₁ h₂)

end Public

/-- `observe_reconciliation_target` only looks. -/
theorem observeReconciliationTarget_spec {executor : MutationExecutor} {call : ℕ}
    {S : Setting call} {s : World} {contractId : String} {adapter : CapabilityAdapter}
    {post : Except Error AuthoritativeReconciliationObservation → World → Prop}
    (h : ∀ s' r, Coherent executor.store s' → S.rely s s' → post r s') :
    wp (S.context executor.store) (executor.observeReconciliationTarget contractId adapter)
      post s := by
  refine (wp_bind _ _ _ _).mpr (load_spec (fun s₁ e hs₁ h₁ => h s₁ _ hs₁ h₁) ?_)
  intro s₁ contract hs₁ h₁ _ _
  refine wp_demand (fun e => h s₁ _ hs₁ h₁) fun _ => ?_
  refine wp_demand (fun e => h s₁ _ hs₁ h₁) fun _ => ?_
  refine (wp_bind _ _ _ _).mpr
    (auditEvents_spec (fun s₂ e hs₂ h₂ => h s₂ _ hs₂ (S.trans h₁ h₂)) ?_)
  intro s₂ events hs₂ h₂ _
  have h₂ := S.trans h₁ h₂
  refine wp_check (fun e _ => h s₂ _ hs₂ h₂) fun latest _ => ?_
  refine wp_check (fun e _ => h s₂ _ hs₂ h₂) fun origin _ => ?_
  refine wp_demand (fun e => h s₂ _ hs₂ h₂) fun _ => ?_
  refine (wp_bind _ _ _ _).mpr ((wp_attempt _ _ _).mpr ?_)
  refine wp_check (fun e _ => h s₂ _ hs₂ h₂) fun _ _ => ?_
  refine (wp_bind _ _ _ _).mpr (wp_consult fun s₃ hs₃ h₃ i => ?_)
  have h₃ := S.trans h₂ h₃
  cases i.target with
  | error e => exact h s₃ _ hs₃ h₃
  | ok rawTarget =>
    rw [andThen_ok]
    refine wp_check (fun e _ => h s₃ _ hs₃ h₃) fun target _ => ?_
    exact wp_check (fun e _ => h s₃ _ hs₃ h₃) fun fingerprint _ => h s₃ _ hs₃ h₃

end MutationExecutor

end Tier1
