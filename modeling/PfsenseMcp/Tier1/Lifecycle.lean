import Mathlib.Data.Int.Notation
import Mathlib.Data.Nat.Notation
import PfsenseMcp.Tier1.CanonicalForm
import PfsenseMcp.Tier1.Progress
import PfsenseMcp.Tier1.Runs

/-!
# The life of one contract

A run may make its calls one after the other. If nothing fails on the way, a contract is created,
prepared, confirmed and executed. This shows that the states the other modules speak about are
reached, and their examples start from here.

## Main results

* `exists_call`: a call made alone takes a run from one configuration to another, as its weakest
  precondition says;
* `reachable_confirmed`: a run to a store that holds one contract, prepared and confirmed.
-/

namespace Tier1

open Python Concurrency Procedure RecoveryState

section Runs

variable [Platform]

/-- The store holds one contract, and has never held another. -/
structure Single (store : Store) (s : World) (c : RecoveryContract) : Prop where
  coherent : Coherent store s
  latest : s.latest c.contractId = some c
  only : ∀ k ∈ commitsOf s.trace, k.after.contractId = c.contractId

section Single

variable {store : Store} {s s' : World} {c : RecoveryContract} {k : Commit} {call : ℕ}
  {permit : Answers → World → World → Prop}

/-- The contract that a store holds alone is the only one. -/
theorem Single.eq_of_mem (h : Single store s c) {d : RecoveryContract}
    (hd : d ∈ contractsOf (commitsOf s.trace)) : d = c := by
  rw [mem_contractsOf h.coherent.commits] at hd
  obtain ⟨k, hk, rfl⟩ := View.exists_of_latest hd
  have hid : (commitView.after k).contractId = c.contractId := h.only k (mem_historyOf.mp hk).1
  rw [hid] at hd
  exact Option.some.inj (hd.symm.trans h.latest)

theorem Single.of_quiet (h : Single store s c) (hs' : Coherent store s') (hquiet : Quiet s s') :
    Single store s' c :=
  ⟨hs', (hquiet.latest _).trans h.latest, by rw [hquiet.trace]; exact h.only⟩

/-- A commit about the one contract leaves one contract. -/
theorem Single.of_commits (h : Single store s c)
    (hcommits : (alone call permit).Commits store s s' k)
    (hid : k.after.contractId = c.contractId) : Single store s' k.after := by
  obtain ⟨⟨s₁, hquiet, -, htrace⟩, hcoherent, -⟩ := hcommits
  have hcommits : commitsOf s'.trace = commitsOf s.trace ++ [k] := by
    rw [htrace, commitsOf_append, hquiet.trace]
    rfl
  refine ⟨hcoherent, ?_, fun k' hk' => ?_⟩
  · rw [World.latest, hcommits]
    exact View.latest_append_self (V := commitView) _ _
  · rw [hcommits] at hk'
    rcases List.mem_append.mp hk' with hk' | hk'
    · rw [h.only k' hk', hid]
    · rw [List.mem_singleton.mp hk']

/-- The one contract finds its target free. -/
theorem Single.free (h : Single store s c) (hstate : isReservationState c.state = false)
    {s' : World} (hs' : Coherent store s') (hquiet : Quiet s s') :
    ∀ d ∈ contractsOf (commitsOf s'.trace), isReservationState d.state = true →
      d.targetIdentityDigest ≠ c.targetIdentityDigest := by
  intro d hd hreserved
  rw [(h.of_quiet hs' hquiet).eq_of_mem hd, hstate] at hreserved
  cases hreserved

end Single

section Calls

variable {store : Store} {ops : ℕ → Operation store} {permit : Answers → World → World → Prop}
  {cfg : Config World Answers Error} {i : Answers}

/-- A call made alone takes a run on. -/
theorem exists_call (h : (system store ops permit).Reachable cfg)
    (hpermit : ∀ s s', Advances cfg.next s s' → permit i s s')
    (post : Except Error Unit → World → Prop)
    (hwp : own cfg.next cfg.shared.trace = [] →
      wp ((alone cfg.next fun j _ _ => j = i).context store) ((ops cfg.next).code cfg.next) post
        cfg.shared) :
    ∃ cfg' r, (system store ops permit).Reachable cfg' ∧ cfg'.next = cfg.next + 1 ∧
      cfg'.calls cfg.next = some (ofExcept r) ∧ post r cfg'.shared := by
  have hholds := (safety store ops permit).reachable h
  have hown := (hholds.fresh cfg.next (Nat.le_refl _)).2
  have hpermitted : ((ops cfg.next).code cfg.next).Permitted permit (fun _ => i) cfg.shared :=
    permitted_of_wp (fun s => Quiet.refl s) _ (fun _ _ _ => rfl) (fun _ => hpermit) hholds.inv
      (hwp hown)
  obtain ⟨cfg', hreach, hshared, hnext, hcall⟩ :=
    System.reachable_call (fun _ => i) h hpermitted rfl
  have hrun := run_of_wp (fun s => Quiet.refl s) (fun _ => i) (fun _ _ _ => rfl) hholds.inv
    (hwp hown)
  exact ⟨cfg', _, hreach, hnext, hcall, hshared ▸ hrun.2⟩

end Calls

/-! ### To a confirmed contract -/

/-- A contract, the evidence of its confirmation and an environment in which it can be created,
prepared and confirmed. `code` is the digest of the confirmation. -/
structure Ready (store : Store) (i : Answers) (c : RecoveryContract)
    (evidence : ConfirmationEvidence) (code : String) : Prop where
  fit : Fit store i
  verdict : i.verdict = some true
  verifier : store.hasConfirmationVerifier = true
  isPreparing : c.state = preparing
  isFirst : c.stateVersion = 0
  unconfirmed : c.isConfirmed = false
  window : ∀ t, i.clock = some t → c.createdAt ≤ t ∧ c.isExpired t = false
  allowed : ∀ db t, db.contracts = [] → db.rateCooldowns = [] →
    store.checkPrepareAllowed db c t = .ok ()
  bindings : ∀ d : RecoveryContract, c.SameIdentity d.toContractFields →
    evidence.verifyBindings d = .ok ()
  digest : ∃ digest, evidence.evidenceDigest = .ok digest ∧
    ∀ d : RecoveryContract, c.SameIdentity d.toContractFields → d.state = prepared →
      d.isConfirmed = false → ∀ t, d.withConfirmation evidence.authorityId digest t =
        RecoveryContract.ofFields (confirmed d code t)
  code : isHex64 code = true

section Confirmed

variable {store : Store} {ops : ℕ → Operation store} {permit : Answers → World → World → Prop}
  {cfg : Config World Answers Error} {i : Answers} {c : RecoveryContract}
  {evidence : ConfirmationEvidence} {code : String}

theorem live_ready (h : Ready store i c evidence code) (call : ℕ) :
    (alone call fun j _ _ => j = i).Live store := live_alone h.fit

/-- The first call creates the contract. -/
theorem reachable_created (h : Ready store i c evidence code) (hpermit : ∀ s s', permit i s s')
    (hops : ops 0 = .create c) :
    ∃ cfg, (system store ops permit).Reachable cfg ∧ cfg.next = 1 ∧ Single store cfg.shared c := by
  have hstart : (system store ops permit).Reachable (.start {}) := .start ⟨rfl, rfl⟩
  have hcall := exists_call hstart (fun s s' _ => hpermit s s') fun _ s => Single store s c
  refine (hcall fun hown => ?_).elim fun cfg ⟨_, hreach, hnext, _, hpost⟩ =>
    ⟨cfg, hreach, hnext, hpost⟩
  · have hfresh : ∀ s' : World, Quiet {} s' → commitsOf s'.trace = [] := by
      intro s' hquiet
      rw [hquiet.trace]
      rfl
    rw [Config.start, hops]
    refine create_live (live_ready h 0) h.isPreparing h.isFirst h.unconfirmed ?_ ?_ ?_ ?_ ?_
    · rintro _ _ _ t rfl hclock
      exact h.window t hclock
    · intro s' _ hquiet d hd
      rw [hfresh s' hquiet] at hd
      exact absurd hd List.not_mem_nil
    · exact fun s' t _ hquiet => h.allowed s'.db t hquiet.contracts hquiet.rateCooldowns
    · exact MutationExecutor.unsent_of_own hown
    · rintro s' k hcommits - rfl
      obtain ⟨⟨s₁, hquiet, -, htrace⟩, hcoherent, -⟩ := hcommits
      have hcommits : commitsOf s'.trace = [k] := by
        rw [htrace, commitsOf_append, hfresh s₁ hquiet]
        rfl
      refine ⟨hcoherent, ?_, fun k' hk' => ?_⟩
      · rw [World.latest, hcommits]
        exact View.latest_append_self (V := commitView) [] k
      · rw [hcommits] at hk'
        rw [List.mem_singleton.mp hk']

/-- The second call prepares it. -/
theorem reachable_prepared (h : Ready store i c evidence code) (hpermit : ∀ s s', permit i s s')
    (hops : ops 0 = .create c)
    (hops₁ : ops 1 = .transition c.contractId preparing 0 prepared none "state_transition") :
    ∃ cfg d, (system store ops permit).Reachable cfg ∧ cfg.next = 2 ∧
      Single store cfg.shared d ∧ d.toContractFields = Store.moved c prepared := by
  obtain ⟨cfg, hreach, hnext, hsingle⟩ := reachable_created h hpermit hops
  have hcall := exists_call hreach (fun s s' _ => hpermit s s') fun _ s =>
    ∃ d, Single store s d ∧ d.toContractFields = Store.moved c prepared
  refine (hcall fun hown => ?_).elim fun cfg' ⟨_, hreach', hnext', _, d, hsingle', hd⟩ =>
    ⟨cfg', d, hreach', by rw [hnext', hnext], hsingle', hd⟩
  · rw [hnext] at hown ⊢
    rw [hops₁]
    have hversion : c.stateVersion + 1 < 2 ^ 63 := by rw [h.isFirst]; decide
    have hlegal : requireTransition c.state prepared false = .ok () := by rw [h.isPreparing]; rfl
    refine wp_discard ?_
    rw [← h.isPreparing, ← h.isFirst]
    refine transition_live (live_ready h 1) steady_alone hsingle.coherent hsingle.latest (by decide)
      (by decide) hlegal nofun nofun nofun ?_ hversion ?_ ?_ ?_
    · rintro _ _ _ t rfl hclock _ hexpired
      rw [(h.window t hclock).2] at hexpired
      cases hexpired
    · exact fun _ _ _ hreserved => by cases hreserved
    · exact fun k hcall _ => (MutationExecutor.unsent_of_own hown).justified hcall
    · intro s' k hcommits _ hfields _ _
      exact ⟨k.after, hsingle.of_commits hcommits (by rw [hfields]; rfl), hfields⟩

/-- The third call confirms it. -/
theorem reachable_confirmed (h : Ready store i c evidence code) (hpermit : ∀ s s', permit i s s')
    (hops : ops 0 = .create c)
    (hops₁ : ops 1 = .transition c.contractId preparing 0 prepared none "state_transition")
    (hops₂ : ops 2 = .confirm c.contractId evidence 1) :
    ∃ cfg d, (system store ops permit).Reachable cfg ∧ cfg.next = 3 ∧
      Single store cfg.shared d ∧ c.SameIdentity d.toContractFields ∧ d.state = prepared ∧
      d.stateVersion = 2 ∧ d.isConfirmed = true ∧ d.protectedIntent = c.protectedIntent := by
  obtain ⟨cfg, p, hreach, hnext, hsingle, hp⟩ := reachable_prepared h hpermit hops hops₁
  have hsame : c.SameIdentity p.toContractFields := by
    rw [hp]
    constructor <;> rfl
  have hid : p.contractId = c.contractId := hsame.contractId
  have hstate : p.state = prepared := by rw [hp]; rfl
  have hversion : p.stateVersion = 1 := by
    rw [hp]
    change c.stateVersion + 1 = 1
    rw [h.isFirst]
    rfl
  have hunconfirmed : p.isConfirmed = false := by
    have hdigest : p.confirmationDigest = c.confirmationDigest := by rw [hp]; rfl
    rw [RecoveryContract.isConfirmed, hdigest]
    exact h.unconfirmed
  obtain ⟨digest, hdigest, hcode⟩ := h.digest
  have hcall := exists_call hreach (fun s s' _ => hpermit s s') fun _ s =>
    ∃ d, Single store s d ∧ ∃ t, d.toContractFields = confirmed p code t
  refine (hcall fun hown => ?_).elim fun cfg' hended => ?_
  · rw [hnext] at hown ⊢
    rw [hops₂]
    refine wp_discard ?_
    rw [← hid, ← hversion]
    refine confirm_live (live_ready h 2) steady_alone ?_ h.verifier hsingle.coherent hsingle.latest
      hstate hunconfirmed ?_ (h.bindings p hsame) hdigest (hcode p hsame hstate hunconfirmed)
      h.code (by rw [hversion]; decide) (MutationExecutor.unsent_of_own hown) ?_
    · rintro _ _ _ rfl
      exact h.verdict
    · rintro _ _ _ t rfl hclock
      have hwindow := h.window t hclock
      rw [RecoveryContract.isExpired, hsame.createdAt, hsame.expiresAt]
      exact hwindow
    · intro s' k t hcommits _ hfields _ _
      exact ⟨k.after, hsingle.of_commits hcommits (by rw [hfields]; rfl), t, hfields⟩
  · obtain ⟨_, hreach', hnext', _, d, hsingle', t, hd⟩ := hended
    refine ⟨cfg', d, hreach', by rw [hnext', hnext], hsingle', hsame.trans ?_, ?_, ?_, ?_, ?_⟩
    · rw [hd]
      constructor <;> rfl
    · rw [hd]
      exact hstate
    · rw [hd]
      change p.stateVersion + 1 = 2
      rw [hversion]
      rfl
    · rw [RecoveryContract.isConfirmed, hd]
      rfl
    · rw [hd]
      change p.protectedIntent = c.protectedIntent
      rw [hp]
      rfl

end Confirmed

/-! ### Execution -/

namespace MutationExecutor

variable {executor : MutationExecutor} {call : ℕ} {S : Setting call} {s : World}
  {c : RecoveryContract} {adapter : CapabilityAdapter} {hint : Platform.Obj} {intent : Json}
  {context : Option AcceptanceExecutionContext} {post : Except Error Outcome → World → Prop}

/-- The contract passes every gate of `execute`, for a class that needs no sealed approval. -/
structure Admits (executor : MutationExecutor) (c : RecoveryContract)
    (adapter : CapabilityAdapter) (hint : Platform.Obj) (intent : Json) : Prop where
  registered : executor.capabilitySecurityClasses c.capability = some .highAssuranceTier1
  securityClass : c.securityClass = .highAssuranceTier1
  authorized : authorize executor.policy ⟨adapter.capability, adapter.endpointSymbol,
    adapter.httpMethod⟩ = .ok ()
  bindings : ∃ identity precondition, adapter.naturalIdentity hint = .ok identity ∧
    adapter.fingerprint hint = .ok precondition ∧
    c.verifyBindings adapter.capability adapter.endpointSymbol adapter.httpMethod identity
      precondition intent = .ok ()

/-- `execute` starts the mutation of a contract that passes every gate, where neither an anchor
nor a rate policy is configured. -/
theorem execute_live (hlive : S.Live executor.store) (hsteady : S.Steady executor.store c)
    (hanchor : executor.store.hasAnchor = false) (hrate : executor.store.ratePolicy = none)
    (hs : Coherent executor.store s) (hlatest : s.latest c.contractId = some c)
    (isPrepared : c.state = prepared) (isConfirmed : c.isConfirmed = true)
    (unexpired : ∀ {i s s' t}, S.permit i s s' → i.clock = some t → c.isExpired t = false)
    (hclock : ∀ {i s s'}, S.permit i s s' →
      ∃ t, i.executorClock = some t ∧ c.isExpired t = false)
    (hsettings : ∀ {i s s'}, S.permit i s s' → i.settings = .ok (some false))
    (hadmits : executor.Admits c adapter hint intent) (hversion : c.stateVersion + 1 < 2 ^ 63)
    (hfree : ∀ s', Coherent executor.store s' → S.rely s s' →
      ∀ d ∈ contractsOf (commitsOf s'.trace), isReservationState d.state = true →
        d.targetIdentityDigest ≠ c.targetIdentityDigest)
    (hown : own call s.trace = [])
    (h : ∀ s' k, S.Commits executor.store s s' k → k.before = some c →
      k.after.toContractFields = Store.moved c executing →
      wp (S.context executor.store) (executor.runExecution call adapter context k.after) post s') :
    wp (S.context executor.store)
      (executor.execute call c.contractId adapter hint intent context) post s := by
  refine (wp_bind _ _ _ _).mpr (load_live hlive.readable hsteady hs hlatest fun s₁ hs₁ h₁ hlatest₁ => ?_)
  refine wp_met isPrepared (wp_met isConfirmed ?_)
  refine (wp_bind _ _ _ _).mpr (wp_atomic fun s₂ hs₂ h₂ i hi => ⟨hs₂, .inl (.refl s₂), ?_⟩)
  have hlatest₂ := hsteady hs₁ hs₂ h₂ hlatest₁
  have h₂ := S.trans h₁ h₂
  obtain ⟨t, ht, hunexpired⟩ := hclock hi
  dsimp only
  rw [ht]
  refine wp_met hunexpired ?_
  rw [hadmits.registered]
  dsimp only
  rw [if_neg (fun hne => hne hadmits.securityClass.symm)]
  change wp _ (executor.authorizeExecution call adapter hint intent context c .highAssuranceTier1)
    post s₂
  obtain ⟨identity, precondition, hidentity, hprecondition, hbindings⟩ := hadmits.bindings
  refine wp_pass hadmits.authorized (wp_pass hidentity (wp_pass hprecondition
    (wp_pass hbindings ?_)))
  refine (wp_bind _ _ _ _).mpr (wp_atomic fun s₃ hs₃ h₃ i hi => ⟨hs₃, .inl (.refl s₃), ?_⟩)
  have hlatest₃ := hsteady hs₂ hs₃ h₃ hlatest₂
  have h₃ := S.trans h₂ h₃
  dsimp only
  rw [hsettings hi]
  change wp _ _ post s₃
  refine (wp_bind _ _ _ _).mpr ?_
  refine transition_executing_live hlive hsteady hanchor
    (fun _ _ _ => by rw [Store.checkExecuteAllowed, hrate]) hs₃ hlatest₃ isPrepared isConfirmed
    unexpired (by decide) (by decide) hversion ?_ ?_ ?_
  · exact fun s' hs' hrely => hfree s' hs' (S.trans h₃ hrely)
  · intro k hcall _
    have hown₃ : own call s₃.trace = [] := (S.frame h₃).own.trans hown
    exact (unsent_of_own hown₃).justified hcall
  · exact fun s' k hcommits hbefore hfields => h s' k (hcommits.of_rely h₃) hbefore hfields

/-- Once the contract is `EXECUTING`, a request is sent if the target is as expected and the
adapter builds one. -/
theorem runExecution_live {obj : Platform.Obj} {target : ResolvedTransportTarget}
    {request : Request} {intent : Json}
    (hread : ∀ {i s s'}, S.permit i s s' → i.target = .ok obj)
    (hfingerprint : readFingerprint c adapter obj = .ok c.targetFingerprint)
    (htarget : resolveTransportTarget c adapter obj = .ok target)
    (hintent : decrypt executor.encryptionKey c c.protectedIntent .intent = .ok intent)
    (hrequest : adapter.buildRequest intent target = .ok (some request))
    (h : ∀ s', Coherent executor.store s' → S.rely s s' →
      wp (S.context executor.store)
        (executor.sendExecution call adapter context c obj intent request) post s') :
    wp (S.context executor.store) (executor.runExecution call adapter context c) post s := by
  refine (wp_bind _ _ _ _).mpr ((wp_attempt _ _ _).mpr
    (wp_atomic fun s₁ hs₁ h₁ i hi => ⟨hs₁, .inl (.refl s₁), ?_⟩))
  dsimp only
  rw [hread hi, andThen_ok]
  dsimp only
  rw [hfingerprint]
  dsimp only
  rw [if_neg (fun hne => hne rfl), htarget]
  dsimp only
  rw [hintent, ok_bind, hrequest, ok_bind]
  exact h s₁ hs₁ h₁

/-- A mutation that the appliance has accepted, and whose effect the adapter does not find, is
closed as `FAILED`. -/
theorem sendExecution_unverified {k : Commit} {obj : Platform.Obj}
    {target : ResolvedTransportTarget} {request : Request} {intent : Json} {body text : String}
    {outcome : Except Error String} {statusCode : ℕ}
    (hlive : S.Live executor.store) (hsteady : S.Steady executor.store k.after)
    (hs : Coherent executor.store s) (hlatest : s.latest k.after.contractId = some k.after)
    (hown : own call s.trace = [.committed k]) (hopen : k.Opens .forward)
    (hversion : k.after.stateVersion + 1 < 2 ^ 63)
    (hbody : request.modelDumpJson = .ok body)
    (hexchange : ∀ {i s s'}, S.permit i s s' → i.exchange = .response statusCode text)
    (hstatus : 200 ≤ statusCode ∧ statusCode < 300) {path : String}
    (hpath : executor.writeClient.path context k.after.endpointSymbol k.after.httpMethod = .ok path)
    (hread : ∀ {i s s'}, S.permit i s s' → i.target = .ok obj)
    (htarget : resolveTransportTarget k.after adapter obj = .ok target)
    (hparse : adapter.parseResponse ⟨statusCode, text⟩ = .ok outcome)
    (hverdict : adapter.isSemanticallyVerified obj obj intent = .ok false)
    (h : ∀ s' k', Coherent executor.store s' → s'.latest k.after.contractId = some k'.after →
      own call s'.trace = [.committed k,
        .handed call .forward k.after.contractId (some (.response statusCode text)),
        .judged call k.after.contractId false, .committed k'] →
      k'.before = some k.after → k'.after.state = failed → ∀ r, post r s') :
    wp (S.context executor.store)
      (executor.sendExecution call adapter context k.after obj intent request) post s := by
  have hexecuting : k.after.state = executing := hopen.2
  have hstable : ∀ s s', s.latest k.after.contractId = some k.after →
      Coherent executor.store s → Coherent executor.store s' → S.rely s s' →
      s'.latest k.after.contractId = some k.after :=
    fun s s' hlatest hs hs' hrely => hsteady hs hs' hrely hlatest
  have hrecord : ∀ (s : World) (e : Event), s.latest k.after.contractId = some k.after →
      commitsOf [e] = [] → World.latest { s with trace := s.trace ++ [e] } k.after.contractId =
        some k.after := by
    intro s e hlatest he
    rw [World.latest, commitsOf_append, he, List.append_nil]
    exact hlatest
  have hstarted : Started executor.store call .forward
      (fun s => s.latest k.after.contractId = some k.after) k [] s :=
    ⟨hs, hown, fun _ _ _ hmem => absurd hmem List.not_mem_nil, hlatest⟩
  refine (wp_bind _ _ _ _).mpr (send_spec hstable hrecord hstarted rfl hopen ?_ ?_)
  · intro e he
    rw [hbody] at he
    cases he
  intro _ s₁ i hi h₁
  have hsent : executor.writeClient.send context k.after.endpointSymbol k.after.httpMethod
      (.response statusCode text) = .ok ⟨statusCode, text⟩ := by
    rw [WriteApiClient.send, hpath]
    rfl
  have hexchangeOf : executor.exchangeOf context k.after (.response statusCode text) =
      some (.response statusCode text) := by
    rw [exchangeOf, hpath]
  rw [hexchange hi, hexchangeOf] at h₁
  rw [hexchange hi, andThen_ok, hsent]
  dsimp only [classifySend]
  rw [if_pos hstatus]
  refine (wp_bind _ _ _ _).mpr ((wp_attempt _ _ _).mpr (readTarget_spec hstable h₁ ?_))
  intro s₂ i h₂ hi
  rw [hread hi, andThen_ok, ok_bind, htarget, ok_bind, hparse, ok_bind, hverdict, ok_bind]
  refine (wp_bind _ _ _ _).mpr (judge_spec hstable hrecord h₂ fun s₃ h₃ => ?_)
  rw [andThen_ok]
  refine (wp_bind _ _ _ _).mpr ?_
  change wp _ (executor.store.transition call k.after.contractId executing k.after.stateVersion
    failed none "state_transition") _ s₃
  rw [← hexecuting]
  refine transition_live hlive hsteady h₃.coherent h₃.known ?_ ?_ ?_ ?_ ?_ ?_ ?_ hversion
    ?_ ?_ ?_
  · decide
  · decide
  · rw [hexecuting]
    rfl
  · rintro ⟨⟩
  · rintro ⟨⟩
  · rintro ⟨⟩
  · rintro _ _ _ t _ _ hearly
    rw [hexecuting] at hearly
    rcases hearly with hearly | hearly <;> cases hearly
  · exact fun _ _ _ hreserved => by cases hreserved
  · intro k' hcall hmoves
    rw [hexecuting] at hmoves
    refine h₃.justified hcall hmoves fun _ _ exchange hmem => ?_
    simp only [List.cons_append, List.nil_append, List.mem_cons, List.not_mem_nil, or_false,
      reduceCtorEq, Event.handed.injEq, true_and] at hmem
    rw [hmem]
    exact .inr ⟨hstatus.1, hstatus.2, by simp⟩
  · intro s' k' hcommits hbefore hfields
    have hid : k'.after.contractId = k.after.contractId := by rw [hfields]; rfl
    refine h s' k' hcommits.coherent (hid ▸ hcommits.latest) ?_ hbefore (by rw [hfields]; rfl) _
    exact own_of_commits h₃.own hcommits

end MutationExecutor

/-! ### Digests on a platform that leaves texts as they are -/

/-- The bytes that `derive_idempotency_key` hashes. -/
@[irreducible]
def idempotencyBytes (capability : Capability) (endpointSymbol httpMethod targetIdentityDigest
    targetFingerprint : String) (lifecycleLocator : ℤ)
    (intentDigest snapshotDigest rollbackPlanVersion : String) : Bytes :=
  Value.digestBytes .idempotency
    (.obj [("intent_digest", .str intentDigest), ("lifecycle_locator", .int lifecycleLocator),
      ("rollback_plan_version", .str rollbackPlanVersion), ("snapshot_digest", .str snapshotDigest),
      ("target_fingerprint", .str targetFingerprint),
      ("target_identity_digest", .str targetIdentityDigest)])
    [capability.name, endpointSymbol, httpMethod]

section Digests

variable (hnfc : ∀ s, Platform.nfc s = s)

/-- An empty value has a digest. -/
theorem digestValue_null {purpose : DigestPurpose} {context : List String}
    (hcontext : context.length ≤ 16) (hparts : ∀ part ∈ context, part.toList.length ≤ 500) :
    ∃ message, digestValue purpose .null context = .ok (Platform.sha256 message) := by
  refine ⟨_, (Value.digestValue_eq purpose .null context (Nat.zero_le _) (by decide) (by decide) hcontext
    fun part hpart => ?_).1⟩
  have := hparts part hpart
  unfold maxCanonicalStringBytes
  omega

omit [Platform] in
theorem short_of_isIdentifier {text : String} (h : isIdentifier text = true) :
    text.toList.length ≤ 500 := (length_le_of_isIdentifier h).trans (by decide)

omit [Platform] in
theorem short_of_isHex64 {text : String} (h : isHex64 text = true) :
    text.toList.length ≤ 500 := (length_of_isHex64 h).le.trans (by decide)

include hnfc

/-- The digest of an evidence. -/
theorem evidenceDigest_eq (e : ConfirmationEvidence) :
    ∃ message, e.evidenceDigest = .ok (Platform.sha256 message) := by
  obtain ⟨_, ⟨h₁, h₂, h₃, h₄, h₅⟩, _, ⟨h₆, h₇, h₈⟩, -⟩ : ∃ _ : Unit, _ ∧ ∃ _ : Unit, _ ∧ _ := by
    simpa only [ConfirmationFields.postInit, bind_eq_ok, demand_eq_ok] using e.valid
  have h₉ : e.expiresAt.isoformat.toList.length ≤ 500 :=
    e.expiresAt.length_isoformat_le.trans (by decide)
  have h₁₀ : isHex64 e.proofDigest = true := Platform.isHex64_sha256 _
  exact ⟨_, Value.digestValue_record .confirmation
    [("algorithm", e.algorithm), ("authority_id", e.authorityId),
      ("contract_id", e.contractId), ("expires_at", e.expiresAt.isoformat),
      ("intent_digest", e.intentDigest), ("nonce", e.nonce), ("operation_id", e.operationId),
      ("proof_digest", e.proofDigest), ("target_fingerprint", e.targetFingerprint),
      ("target_identity_digest", e.targetIdentityDigest)] [] (by simp) (by simp) (by
      simp only [List.forall_mem_cons, hnfc, and_self, and_true]
      exact ⟨⟨by decide, short_of_isIdentifier h₂⟩, ⟨by decide, short_of_isIdentifier h₁⟩,
        ⟨by decide, short_of_isIdentifier h₄⟩, ⟨by decide, h₉⟩,
        ⟨by decide, short_of_isHex64 h₈⟩, ⟨by decide, short_of_isIdentifier h₃⟩,
        ⟨by decide, short_of_isIdentifier h₅⟩, ⟨by decide, short_of_isHex64 h₁₀⟩,
        ⟨by decide, short_of_isHex64 h₇⟩, ⟨by decide, short_of_isHex64 h₆⟩,
        fun _ h => absurd h List.not_mem_nil⟩) (by simp) (by simp)⟩

/-- The digest of a confirmation. -/
theorem withConfirmation_eq {d : RecoveryContract} (isPrepared : d.state = prepared)
    (unconfirmed : d.isConfirmed = false) (authorityId digest : String)
    (hauthority : isIdentifier authorityId = true) (hdigest : isHex64 digest = true) :
    ∃ message, ∀ t, d.withConfirmation authorityId digest t =
      RecoveryContract.ofFields (confirmed d (Platform.sha256 message) t) := by
  have hid := d.identityValid
  have hexpires : d.expiresAt.isoformat.toList.length ≤ 500 :=
    d.expiresAt.length_isoformat_le.trans (by decide)
  have hvalue := Value.digestValue_record .confirmation
    [("authority_id", authorityId), ("contract_id", d.contractId),
      ("evidence_digest", digest), ("expires_at", d.expiresAt.isoformat),
      ("intent_digest", d.intentDigest), ("operation_id", d.operationId),
      ("target_fingerprint", d.targetFingerprint),
      ("target_identity_digest", d.targetIdentityDigest)] [] (by simp) (by simp) (by
      simp only [List.forall_mem_cons, hnfc, and_self, and_true]
      exact ⟨⟨by decide, short_of_isIdentifier hauthority⟩,
        ⟨by decide, short_of_isIdentifier hid.contractId⟩,
        ⟨by decide, short_of_isHex64 hdigest⟩, ⟨by decide, hexpires⟩,
        ⟨by decide, short_of_isHex64 hid.intentDigest⟩,
        ⟨by decide, short_of_isIdentifier hid.operationId⟩,
        ⟨by decide, short_of_isHex64 hid.targetFingerprint⟩,
        ⟨by decide, short_of_isHex64 hid.targetIdentityDigest⟩,
        fun _ h => absurd h List.not_mem_nil⟩) (by simp) (by simp)
  generalize Value.digestBytes _ _ _ = message at hvalue
  refine ⟨message, fun t => ?_⟩
  unfold RecoveryContract.withConfirmation
  rw [demand_of ⟨isPrepared, unconfirmed⟩, ok_bind, demand_of hauthority, ok_bind,
    demand_of hdigest, ok_bind]
  simp only [List.map_cons, List.map_nil] at hvalue
  rw [hvalue]
  rfl

/-- An idempotency key is the digest of some bytes, which determine the endpoint. -/
theorem deriveIdempotencyKey_eq (capability : Capability) (endpointSymbol httpMethod
    targetIdentityDigest targetFingerprint : String) (lifecycleLocator : ℤ)
    (intentDigest snapshotDigest rollbackPlanVersion : String)
    (hname : capability.name.toList.length ≤ 500)
    (hendpoint : endpointSymbol.toList.length ≤ 500) (hmethod : httpMethod.toList.length ≤ 500)
    (hidentity : targetIdentityDigest.toList.length ≤ 500)
    (hfingerprint : targetFingerprint.toList.length ≤ 500)
    (hlocator : 0 ≤ lifecycleLocator ∧ lifecycleLocator < 10 ^ 10)
    (hintent : intentDigest.toList.length ≤ 500) (hsnapshot : snapshotDigest.toList.length ≤ 500)
    (hplan : rollbackPlanVersion.toList.length ≤ 500) :
    deriveIdempotencyKey capability endpointSymbol httpMethod targetIdentityDigest
      targetFingerprint lifecycleLocator intentDigest snapshotDigest rollbackPlanVersion =
        .ok (Platform.sha256 (idempotencyBytes capability endpointSymbol httpMethod
          targetIdentityDigest targetFingerprint lifecycleLocator intentDigest snapshotDigest
          rollbackPlanVersion)) ∧
      ∃ body, Bytes.frames ((domainPrefix :: DigestPurpose.idempotency.value ::
        [capability.name, endpointSymbol, httpMethod]).map Bytes.encodeUtf8 ++ [body]) =
          some (idempotencyBytes capability endpointSymbol httpMethod targetIdentityDigest
            targetFingerprint lifecycleLocator intentDigest snapshotDigest
            rollbackPlanVersion) := by
  have hnormal : ∀ s : String, s.toList.length ≤ 500 → normalizedString s = .ok s := by
    intro s hshort
    have hlength := Bytes.length_encodeUtf8_le s
    simp only [normalizedString, hnfc]
    exact if_neg (by unfold maxCanonicalStringBytes; omega)
  have hint : Json.weight (.int lifecycleLocator) ≤ 10 :=
    Json.weight_int_le (by decide) hlocator.1 hlocator.2
  have hvalue := Value.digestValue_eq .idempotency
    (.obj [("intent_digest", .str intentDigest), ("lifecycle_locator", .int lifecycleLocator),
      ("rollback_plan_version", .str rollbackPlanVersion), ("snapshot_digest", .str snapshotDigest),
      ("target_fingerprint", .str targetFingerprint),
      ("target_identity_digest", .str targetIdentityDigest)])
    [capability.name, endpointSymbol, httpMethod] ?_ ?_ ?_ (by simp) ?_
  · rw [idempotencyBytes]
    exact ⟨hvalue.1, _, hvalue.2⟩
  · refine ⟨by decide, by simp [maxCanonicalCollectionItems], by simp, ?_⟩
    have hkey : ∀ s : String, s.toList.length ≤ 500 → normalizedString s = .ok s := hnormal
    refine ⟨hkey _ (by decide), ⟨by decide, hnormal _ hintent⟩, hkey _ (by decide),
      ⟨by decide, by omega, by omega⟩, hkey _ (by decide), ⟨by decide, hnormal _ hplan⟩,
      hkey _ (by decide), ⟨by decide, hnormal _ hsnapshot⟩, hkey _ (by decide),
      ⟨by decide, hnormal _ hfingerprint⟩, hkey _ (by decide), ⟨by decide, hnormal _ hidentity⟩,
      trivial⟩
  · simp [Value.nodeCount, Value.nodeCountFields, maxCanonicalNodes]
  · have hkeys : ["intent_digest", "lifecycle_locator", "rollback_plan_version",
        "snapshot_digest", "target_fingerprint", "target_identity_digest"].map
          (fun k => k.toList.length) = [13, 17, 21, 15, 18, 22] := by decide
    simp only [List.map_cons, List.map_nil, List.cons.injEq, and_true] at hkeys
    obtain ⟨k₁, k₂, k₃, k₄, k₅, k₆⟩ := hkeys
    rw [Json.weight.eq_7]
    simp only [Json.weightFields, k₁, k₂, k₃, k₄, k₅, k₆]
    simp only [Json.weight.eq_5]
    unfold maxCanonicalBytes
    omega
  · intro part hpart
    have hpart : part.toList.length ≤ 500 := by
      simp only [List.mem_cons, List.not_mem_nil, or_false] at hpart
      rcases hpart with rfl | rfl | rfl
      · exact hname
      · exact hendpoint
      · exact hmethod
    unfold maxCanonicalStringBytes
    omega

end Digests

end Runs

/-! ### A sample contract

One contract, on a platform whose digests are all the same. It shows that the hypotheses of the
results above can be met, and the examples of the later modules run it. -/

namespace Sample

attribute [local instance] platform

theorem isDay_one : 1 ≤ 1 ∧ 1 ≤ 31 := by decide

theorem isDay_two : 1 ≤ 2 ∧ 2 ≤ 31 := by decide

theorem isDay_three : 1 ≤ 3 ∧ 3 ≤ 31 := by decide

theorem isYear : 1 ≤ 2026 ∧ 2026 ≤ 9999 := by decide

theorem isMonth_one : 1 ≤ 1 ∧ 1 ≤ 12 := by decide

theorem isHour_zero : 0 < 24 := by decide

theorem isMinute_zero : 0 < 60 := by decide

theorem isMicrosecond_zero : 0 < 1000000 := by decide

/-- Midnight on a day of January 2026. -/
def midnight (day : ℕ) (h : 1 ≤ day ∧ day ≤ 31) : DateTime where
  year := 2026
  month := 1
  day := day
  hour := 0
  minute := 0
  second := 0
  microsecond := 0
  year_range := isYear
  month_range := isMonth_one
  day_range := h
  hour_lt := isHour_zero
  minute_lt := isMinute_zero
  second_lt := isMinute_zero
  microsecond_lt := isMicrosecond_zero

def artifact : ProtectedArtifact where
  keyId := "key-1"
  algorithm := "aes-256-gcm-v1"
  ciphertext := [0, 0, 0, 0, 0, 0, 0, 0, 0, 0, 0, 0, 0]
  valid := by decide +kernel

def fields : ContractFields where
  contractId := "contract-1"
  operationId := "operation-1"
  idempotencyKey := hex
  capability := .firewallWrite
  securityClass := .highAssuranceTier1
  endpointSymbol := "FIREWALL_ALIAS_DESCRIPTION"
  httpMethod := "PATCH"
  targetIdentityDigest := hex
  targetFingerprint := hex
  lifecycleLocator := 0
  intentDigest := hex
  snapshotDigest := hex
  rollbackPlanVersion := "v1"
  createdAt := midnight 1 isDay_one
  expiresAt := midnight 2 isDay_two
  state := preparing
  stateVersion := 0
  protectedTargetIdentity := artifact
  protectedIntent := artifact
  protectedSnapshot := artifact

theorem valid_fields : fields.postInit = .ok () := by
  obtain ⟨hkey, -⟩ := deriveIdempotencyKey_eq (fun _ => rfl) .firewallWrite
    "FIREWALL_ALIAS_DESCRIPTION" "PATCH" hex hex 0 hex hex "v1" (by decide) (by decide) (by decide)
    (short_of_isHex64 isHex64_hex) (short_of_isHex64 isHex64_hex) (by decide)
    (short_of_isHex64 isHex64_hex) (short_of_isHex64 isHex64_hex) (by decide)
  refine ContractFields.postInit_eq_ok.mpr ⟨⟨by decide, by decide, by decide, by decide, rfl, rfl,
    isHex64_hex, isHex64_hex, isHex64_hex, isHex64_hex, isHex64_hex, by decide, by decide,
    nofun, hkey⟩, ⟨nofun, nofun, by decide, by decide, by decide, nofun⟩⟩

def contract : RecoveryContract := ⟨fields, valid_fields⟩

def evidence : ConfirmationEvidence where
  authorityId := "owner"
  algorithm := "ed25519"
  nonce := "n-1"
  contractId := "contract-1"
  operationId := "operation-1"
  targetIdentityDigest := hex
  targetFingerprint := hex
  intentDigest := hex
  expiresAt := midnight 2 isDay_two
  issuedAt := midnight 1 isDay_one
  proof := [0]
  valid := by decide +kernel

theorem length_key : (List.replicate 32 (0 : UInt8)).length = 32 := by decide

theorem integrityKey_length : 32 ≤ (List.replicate 32 (0 : UInt8)).length := length_key.ge

theorem isIdentifier_store : isIdentifier "store-1" = true := by decide

theorem isIdentifier_key : isIdentifier "key-1" = true := by decide

/-- A store with the given anchor and rate policy. -/
def store (hasAnchor : Bool) (ratePolicy : Option RateLimits) : Store where
  integrityKey := List.replicate 32 0
  storeId := "store-1"
  integrityKey_length := integrityKey_length
  isIdentifier_storeId := isIdentifier_store
  hasConfirmationVerifier := true
  hasReconciliationVerifier := true
  hasAnchor := hasAnchor
  ratePolicy := ratePolicy

/-- An environment in which nothing fails, and the appliance answers a request as given. -/
def answers (exchange : Exchange) : Answers where
  clock := some (midnight 1 isDay_one)
  recordClock := some (midnight 1 isDay_one)
  cooldownClock := some (midnight 1 isDay_one)
  sqlite := none
  commit := none
  fault _ := none
  verdict := some true
  anchorRead := none
  anchorAdvance := .advanced 0
  executorClock := some (midnight 1 isDay_one)
  approval := .ok true
  settings := .ok (some false)
  target := .ok ()
  exchange := exchange

theorem fit {ratePolicy : Option RateLimits} (hrate : ∀ limits ∈ ratePolicy,
    limits.targetCooldownSeconds = 0) (hasAnchor : Bool) (exchange : Exchange) :
    Fit (store hasAnchor ratePolicy) (answers exchange) where
  sqlite := rfl
  commit := rfl
  fault _ := rfl
  clock := ⟨_, rfl⟩
  recordClock := ⟨_, rfl⟩
  cooldown state limits hlimits _ := by
    refine ⟨_, rfl, ?_⟩
    rw [hrate limits hlimits]
    decide

/-- The sample contract can be created, prepared and confirmed. -/
theorem ready {ratePolicy : Option RateLimits} (hrate : ∀ limits ∈ ratePolicy,
    limits.targetCooldownSeconds = 0 ∧ 0 < limits.reconciliationLockoutThreshold ∧
      0 < limits.maxOutstandingPreparedPerTarget) (hasAnchor : Bool) (exchange : Exchange) :
    Ready (store hasAnchor ratePolicy) (answers exchange) contract evidence hex where
  fit := fit (fun limits hlimits => (hrate limits hlimits).1) hasAnchor exchange
  verdict := rfl
  verifier := rfl
  isPreparing := rfl
  isFirst := rfl
  unconfirmed := rfl
  window := by
    rintro t ⟨⟩
    decide
  allowed db t hcontracts hcooldowns := by
    unfold Store.checkPrepareAllowed
    cases hpolicy : (store hasAnchor ratePolicy).ratePolicy with
    | none => rfl
    | some limits =>
      obtain ⟨-, hlockout, houtstanding⟩ := hrate limits hpolicy
      simp [RateLimits.checkPrepareAllowed, Database.countStates, Database.countTarget,
        Database.selectCooldown, hcontracts, hcooldowns, demand_of hlockout,
        demand_of houtstanding, ok_bind]
  bindings d hsame := by
    refine demand_of ?_
    rw [hsame.contractId, hsame.operationId, hsame.targetIdentityDigest, hsame.targetFingerprint,
      hsame.intentDigest, hsame.expiresAt]
    rfl
  digest := by
    obtain ⟨_, hdigest⟩ := evidenceDigest_eq (fun _ => rfl) evidence
    refine ⟨hex, hdigest, fun d _ hstate hunconfirmed t => ?_⟩
    obtain ⟨_, hcode⟩ := withConfirmation_eq (fun _ => rfl) hstate hunconfirmed
      evidence.authorityId hex (by decide) isHex64_hex
    exact hcode t
  code := isHex64_hex

/-- An adapter that finds every target as expected. It judges a mutation as given, and its
requests are serialised as given. -/
def adapter (verified : Bool) (modelDumpJson : Except Error String) : CapabilityAdapter where
  endpointSymbol := "FIREWALL_ALIAS_DESCRIPTION"
  httpMethod := "PATCH"
  capability := .firewallWrite
  naturalIdentity _ := .ok .null
  fingerprint _ := .ok .null
  transportLocator _ := .ok 0
  buildRequest _ _ := .ok (some ⟨modelDumpJson⟩)
  parseResponse _ := .ok (.ok "updated")
  isSemanticallyVerified _ _ _ := .ok verified
  buildRollbackRequest _ _ := .ok (some ⟨modelDumpJson⟩)
  isRollbackVerified _ _ := .ok verified

def executor (store : Store) : MutationExecutor where
  store := store
  writeClient := ⟨"firewall-1"⟩
  policy := [⟨.firewallWrite, "FIREWALL_ALIAS_DESCRIPTION", "PATCH"⟩]
  encryptionKey := List.replicate 32 0
  capabilitySecurityClasses _ := some .highAssuranceTier1

section Adapter

variable {d : RecoveryContract} (hsame : contract.SameIdentity d.toContractFields)
  {verified : Bool} {modelDumpJson : Except Error String}

include hsame

theorem digest_targetIdentity :
    digestValue .targetIdentity .null [d.capability.name] = .ok hex := by
  rw [hsame.capability]
  exact (digestValue_null (by decide) (by decide)).elim fun _ h => h

theorem digest_targetFingerprint : digestValue .targetFingerprint .null
    [d.capability.name, d.endpointSymbol, d.httpMethod] = .ok hex := by
  rw [hsame.capability, hsame.endpointSymbol, hsame.httpMethod]
  exact (digestValue_null (by decide) (by decide)).elim fun _ h => h

/-- The sample contract passes the gates of `execute`. -/
theorem admits (store : Store) :
    (executor store).Admits d (adapter verified modelDumpJson) () .null where
  registered := rfl
  securityClass := hsame.securityClass
  authorized := by
    change authorize [⟨.firewallWrite, "FIREWALL_ALIAS_DESCRIPTION", "PATCH"⟩]
      ⟨.firewallWrite, "FIREWALL_ALIAS_DESCRIPTION", "PATCH"⟩ = .ok ()
    decide
  bindings := by
    refine ⟨.null, .null, rfl, rfl, ?_⟩
    have hintent : digestValue .intent .null
        [d.capability.name, d.endpointSymbol, d.httpMethod] = .ok hex := by
      rw [hsame.capability, hsame.endpointSymbol, hsame.httpMethod]
      exact (digestValue_null (by decide) (by decide)).elim fun _ h => h
    unfold RecoveryContract.verifyBindings
    rw [digest_targetIdentity hsame, ok_bind, digest_targetFingerprint hsame, ok_bind, hintent,
      ok_bind]
    refine demand_of ?_
    rw [hsame.capability, hsame.endpointSymbol, hsame.httpMethod, hsame.targetIdentityDigest,
      hsame.targetFingerprint, hsame.intentDigest]
    rfl

theorem readFingerprint_eq :
    readFingerprint d (adapter verified modelDumpJson) () = .ok d.targetFingerprint := by
  rw [hsame.targetFingerprint]
  exact digest_targetFingerprint hsame

theorem resolveTransportTarget_eq :
    resolveTransportTarget d (adapter verified modelDumpJson) () = .ok ⟨0, hex⟩ := by
  unfold resolveTransportTarget
  have hidentity : digestValue .targetIdentity .null [d.capability.name] = .ok hex :=
    digest_targetIdentity hsame
  change (digestValue .targetIdentity .null [d.capability.name] >>= _) = _
  rw [hidentity, ok_bind, demand_of (by rw [hsame.targetIdentityDigest]; rfl), ok_bind]
  change (demand ((0 : ℤ) = d.lifecycleLocator) _ _ >>= _) = _
  rw [demand_of (by rw [hsame.lifecycleLocator]; rfl)]
  rfl

theorem decrypt_eq (store : Store) (hintent : d.protectedIntent = artifact) :
    decrypt (executor store).encryptionKey d d.protectedIntent .intent = .ok (.obj []) := by
  have hid : d.contractId = contract.contractId := hsame.contractId
  unfold decrypt
  have hplain : decryptArtifact (executor store).encryptionKey d.protectedIntent d.contractId
      .intent = .ok [123, 125] := by
    rw [hid, hintent]
    change decryptArtifact (List.replicate 32 0) artifact contract.contractId .intent = _
    decide
  rw [hplain, ok_bind]
  have hparse : (Bytes.decodeUtf8 [123, 125] >>= Json.parse) = some (.obj []) := rfl
  rw [hparse]
  rfl

end Adapter

/-- The calls that lead to the confirmed contract, and one operation after them. -/
def script {store : Store} (op : Operation store) : ℕ → Operation store
  | 0 => .create contract
  | 1 => .transition "contract-1" preparing 0 prepared none "state_transition"
  | 2 => .confirm "contract-1" evidence 1
  | _ => op

/-- A run of the sample contract to its confirmation. -/
theorem reachable_sample {hasAnchor : Bool} {ratePolicy : Option RateLimits}
    (hrate : ∀ limits ∈ ratePolicy, limits.targetCooldownSeconds = 0 ∧
      0 < limits.reconciliationLockoutThreshold ∧ 0 < limits.maxOutstandingPreparedPerTarget)
    (op : Operation (store hasAnchor ratePolicy)) {permit : Answers → World → World → Prop}
    (exchange : Exchange) (hpermit : ∀ s s', permit (answers exchange) s s') :
    ∃ cfg d, (system (store hasAnchor ratePolicy) (script op) permit).Reachable cfg ∧
      cfg.next = 3 ∧ Single (store hasAnchor ratePolicy) cfg.shared d ∧
      contract.SameIdentity d.toContractFields ∧ d.state = prepared ∧ d.stateVersion = 2 ∧
      d.isConfirmed = true ∧ d.protectedIntent = artifact :=
  reachable_confirmed (ready hrate hasAnchor exchange) hpermit rfl rfl rfl

/-- The sample store, without an anchor and without a rate policy. -/
abbrev plain : Store := store false none

/-- An execution of the sample contract. -/
def execution (verified : Bool) (modelDumpJson : Except Error String) : Operation plain :=
  .execute (executor plain) rfl "contract-1" (adapter verified modelDumpJson) () .null none

/-- The sample contract in `EXECUTING`, in a run where the next call is its execution: what has to
be shown about the rest of that call. -/
theorem reachable_executed (verified : Bool) (modelDumpJson : Except Error String)
    (permit : Answers → World → World → Prop) (exchange : Exchange)
    (hpermit : ∀ s s', permit (answers exchange) s s')
    (post : Except Error Unit → World → Prop)
    (h : ∀ s d k, Single plain s k.after → contract.SameIdentity d.toContractFields →
      k.before = some d → k.after.toContractFields = Store.moved d executing →
      d.state = prepared → d.stateVersion = 2 → d.protectedIntent = artifact →
      own 3 s.trace = [.committed k] →
      wp ((alone 3 fun j _ _ => j = answers exchange).context plain)
        ((executor plain).runExecution 3 (adapter verified modelDumpJson) none k.after)
        (fun r s => ∀ r' : Except Error Unit, r'.isOk = r.isOk → post r' s) s) :
    ∃ cfg r, (system plain (script (execution verified modelDumpJson)) permit).Reachable cfg ∧
      cfg.next = 4 ∧ cfg.calls 3 = some (ofExcept r) ∧ post r cfg.shared := by
  obtain ⟨cfg, d, hreach, hnext, hsingle, hsame, hstate, hversion, hconfirmed, hartifact⟩ :=
    reachable_sample (fun _ h => by cases h) (execution verified modelDumpJson) exchange hpermit
  have hcall := exists_call hreach (fun s s' _ => hpermit s s') post
  rw [hnext] at hcall
  refine (hcall fun hown => ?_).elim fun cfg' ⟨r, hreach', hnext', hr, hpost⟩ =>
    ⟨cfg', r, hreach', hnext', hr, hpost⟩
  refine wp_discard ?_
  have hid : d.contractId = "contract-1" := hsame.contractId
  have hunexpired : d.isExpired (midnight 1 (by decide)) = false := by
    rw [RecoveryContract.isExpired, hsame.expiresAt]
    decide
  have hfit : Fit plain (answers exchange) := fit (fun _ h => by cases h) false exchange
  change wp _ ((executor plain).execute 3 "contract-1" (adapter verified modelDumpJson) () .null
    none) _ _
  rw [← hid]
  refine MutationExecutor.execute_live (live_alone hfit) steady_alone
    rfl rfl hsingle.coherent hsingle.latest hstate hconfirmed ?_ ?_ ?_ (admits hsame plain) ?_ ?_
    hown ?_
  · rintro _ _ _ t rfl hclock
    cases hclock
    exact hunexpired
  · rintro _ _ _ rfl
    exact ⟨_, rfl, hunexpired⟩
  · rintro _ _ _ rfl
    rfl
  · rw [hversion]
    decide
  · exact fun s' hs' hquiet => hsingle.free (by rw [hstate]; rfl) hs' hquiet
  · intro s' k hcommits hbefore hfields
    have hkid : k.after.contractId = d.contractId := by rw [hfields]; rfl
    exact h s' d k (hsingle.of_commits hcommits hkid) hsame hbefore hfields hstate hversion hartifact
      (MutationExecutor.own_of_commits hown hcommits)

/-- What the adapter and the executor find once the sample contract is `EXECUTING`. -/
theorem runExecution_sample {verified : Bool} {modelDumpJson : Except Error String}
    {exchange : Exchange} {s : World} {d : RecoveryContract} {k : Commit}
    {post : Except Error Outcome → World → Prop}
    (hsame : contract.SameIdentity d.toContractFields)
    (hfields : k.after.toContractFields = Store.moved d executing)
    (hartifact : d.protectedIntent = artifact)
    (h : ∀ s', Coherent plain s' → Quiet s s' →
      contract.SameIdentity k.after.toContractFields →
      wp ((alone 3 fun j _ _ => j = answers exchange).context plain)
        ((executor plain).sendExecution 3 (adapter verified modelDumpJson) none k.after ()
          (.obj []) ⟨modelDumpJson⟩) post s') :
    wp ((alone 3 fun j _ _ => j = answers exchange).context plain)
      ((executor plain).runExecution 3 (adapter verified modelDumpJson) none k.after) post s := by
  have hsame' : contract.SameIdentity k.after.toContractFields := by
    refine hsame.trans ?_
    rw [hfields]
    constructor <;> rfl
  have hintent : k.after.protectedIntent = artifact := by
    rw [hfields]
    exact hartifact
  refine MutationExecutor.runExecution_live ?_
    (readFingerprint_eq hsame') (resolveTransportTarget_eq hsame') (decrypt_eq hsame' plain hintent)
    rfl fun s' hs' hquiet => h s' hs' hquiet hsame'
  rintro _ _ _ rfl
  rfl

/-- A run in which the sample contract is executed: the appliance accepts the request, and the
adapter does not find its effect. -/
theorem reachable_unverified :
    ∃ cfg k k', (system plain (script (execution false (.ok "body")))
        fun _ _ _ => True).Reachable cfg ∧
      own 3 cfg.shared.trace = [.committed k,
        .handed 3 .forward "contract-1" (some (.response 200 "")), .judged 3 "contract-1" false,
        .committed k'] ∧
      k.after.contractId = "contract-1" ∧ k.after.state = executing ∧
      k'.before = some k.after ∧ k'.after.state = failed ∧
      cfg.shared.latest "contract-1" = some k'.after := by
  have hrun := reachable_executed false (.ok "body") (fun _ _ _ => True) (.response 200 "")
    (fun _ _ => trivial) fun _ s => ∃ k k', own 3 s.trace = [.committed k,
        .handed 3 .forward "contract-1" (some (.response 200 "")), .judged 3 "contract-1" false,
        .committed k'] ∧
      k.after.contractId = "contract-1" ∧ k.after.state = executing ∧
      k'.before = some k.after ∧ k'.after.state = failed ∧
      s.latest "contract-1" = some k'.after
  refine (hrun ?_).elim fun cfg ⟨_, hreach, _, _, k, k', hk⟩ => ⟨cfg, k, k', hreach, hk⟩
  intro s d k hsingle hsame hbefore hfields hstate hversion hartifact hown
  refine runExecution_sample hsame hfields hartifact fun s' hs' hquiet hsame' => ?_
  have hid : k.after.contractId = "contract-1" := hsame'.contractId
  have hopen : k.Opens .forward := by
    refine ⟨?_, by rw [hfields]; rfl⟩
    rw [hbefore, Option.map_some, hstate]
    rfl
  have hpath : (executor plain).writeClient.path none k.after.endpointSymbol k.after.httpMethod =
      .ok "/api/v2/firewall/alias" := by
    rw [hsame'.endpointSymbol, hsame'.httpMethod]
    rfl
  have hexchange : ∀ i, i = answers (.response 200 "") → i.exchange = .response 200 "" := by
    rintro _ rfl
    rfl
  refine MutationExecutor.sendExecution_unverified (live_alone ?_) steady_alone hs'
    ((hquiet.latest _).trans hsingle.latest) ?_ hopen ?_ rfl (hexchange _) (by decide) hpath ?_
    (resolveTransportTarget_eq hsame') rfl rfl ?_
  · exact fit (fun _ h => by cases h) false _
  · rw [hquiet.trace]
    exact hown
  · rw [hfields]
    change d.stateVersion + 1 + 1 < _
    rw [hversion]
    decide
  · rintro _ _ _ rfl
    rfl
  · intro s'' k' _ hlatest hown' hbefore' hfailed _ _ _
    rw [hid] at hown' hlatest
    exact ⟨k, k', hown', hid, hopen.2, hbefore', hfailed, hlatest⟩

/-- The commits and the request of that run. -/
theorem reachable_failed :
    ∃ cfg k k', (system plain (script (execution false (.ok "body")))
        fun _ _ _ => True).Reachable cfg ∧
      .committed k ∈ cfg.shared.trace ∧ .committed k' ∈ cfg.shared.trace ∧
      .handed k'.call .forward "contract-1" (some (.response 200 "")) ∈ cfg.shared.trace ∧
      k.after.contractId = "contract-1" ∧ k.after.state = executing ∧
      k'.before = some k.after ∧ k'.after.state = failed ∧
      cfg.shared.latest k'.after.contractId = some k'.after ∧
      k'.after.contractId = "contract-1" := by
  obtain ⟨cfg, k, k', hreach, hown, hkid, hexecuting, hbefore, hfailed, hlatest⟩ := reachable_unverified
  have hmem : ∀ e ∈ own 3 cfg.shared.trace, e ∈ cfg.shared.trace ∧ e.call = 3 :=
    fun e he => mem_own.mp he
  simp only [hown, List.mem_cons, List.not_mem_nil, or_false, forall_eq_or_imp, forall_eq] at hmem
  obtain ⟨⟨hfirst, -⟩, ⟨hhanded, -⟩, -, hlast, hcall⟩ := hmem
  have hcall : k'.call = 3 := hcall
  rw [← hcall] at hhanded
  have hid := contractId_of_latestOf hlatest
  rw [← hid] at hlatest
  exact ⟨cfg, k, k', hreach, hfirst, hlast, hhanded, hkid, hexecuting, hbefore, hfailed, hlatest, hid⟩

end Sample

end Tier1
