import Mathlib.Data.Nat.Notation
import PfsenseMcp.Tier1.Gates

/-!
# What a rollback rests on

`rollback` writes the snapshot of a contract back. It must not overwrite a change that somebody else
has made in the meantime, so it compares the target with what was found when the mutation was
verified, and it reports success only after it has read the target again.

## Main results

* `RollbackCall.rollback_past`: every step of `rollback` rests on what the call has seen before;
* `sends_of_rollback`: in every run, a request that `rollback` hands on has passed every gate;
* `confirms_of_rolledBack`: in every run, a contract that `rollback` takes to `ROLLED_BACK` has been
  read back, and its adapter has found the snapshot.
-/

namespace Tier1

open Python Concurrency Procedure RecoveryState Op

section Model

variable [Platform]

/-- A call of `rollback`, by its number and its arguments. -/
structure RollbackCall where
  executor : MutationExecutor
  call : ℕ
  contractId : String
  adapter : CapabilityAdapter

namespace RollbackCall

/-! ### The gates -/

/-- The call has found the contract `c` verified and sealed. -/
structure Loaded (x : RollbackCall) (past : Past) (c : RecoveryContract) : Prop where
  loaded : SawFirst x.call past fun _ s => s.latest x.contractId = some c
  isVerified : c.state = verified
  isSealed : c.verifiedTargetFingerprint ≠ none

theorem Loaded.mono {x : RollbackCall} {past past' : Past} {c : RecoveryContract}
    (h : x.Loaded past c) (hpast : past <+: past') : x.Loaded past' c :=
  { h with loaded := h.loaded.mono hpast }

/-- The call has taken a contract to `ROLLING_BACK`, and has done nothing else. -/
def Started (x : RollbackCall) (s : World) (c d : RecoveryContract) : Prop :=
  c.SameIdentity d.toContractFields ∧
    ∃ k, own x.call s.trace = [.committed k] ∧ k.Opens .rollback ∧ k.after = d

/-- What the read before the send, of the object `pre`, has shown. -/
structure Examined (x : RollbackCall) (d : RecoveryContract) (pre : Platform.Obj)
    (snapshot : Json) (request : Request) : Prop where
  /-- The protected identity of the target can be opened. -/
  identity : ∃ identity, decrypt x.executor.encryptionKey d d.protectedTargetIdentity
    .targetIdentity = .ok identity
  /-- The target is as it was found when the mutation was verified. -/
  unchanged : ∃ fingerprint, readFingerprint d x.adapter pre = .ok fingerprint ∧
    d.verifiedTargetFingerprint = some fingerprint
  /-- The request is built from the snapshot and for the target that was read. -/
  built : ∃ target, resolveTransportTarget d x.adapter pre = .ok target ∧
    decrypt x.executor.encryptionKey d d.protectedSnapshot .snapshot = .ok snapshot ∧
    x.adapter.buildRollbackRequest snapshot target = .ok (some request)

/-- The step `t` hands on the request that takes the contract `d` back, which was `c` when it was
checked. -/
structure Sends (x : RollbackCall) (past : Past) (t : Taken World Answers)
    (c d : RecoveryContract) (snapshot : Json) : Prop where
  loaded : x.Loaded past c
  started : x.Started t.before c d
  /-- The last thing that the call did was to read the target. -/
  read : ∃ earlier last pre request body, past = earlier ++ [last] ∧ last.input.target = .ok pre ∧
    own x.call last.before.trace = own x.call t.before.trace ∧
    x.Examined d pre snapshot request ∧ request.modelDumpJson = .ok body
  handed : t.after.trace = t.before.trace ++ [.handed x.call .rollback x.contractId
    (x.executor.exchangeOf none d t.input.exchange)]

/-- The commit `k` reports a contract as taken back by a request that was handed on in the step
`sent`, and after which the target was read in the step `read`. -/
structure Confirms (x : RollbackCall) (past : Past) (sent read : Taken World Answers)
    (c d : RecoveryContract) (snapshot : Json) (k : Commit) : Prop where
  sends : x.Sends past sent c d snapshot
  answered : ∃ statusCode text, x.executor.exchangeOf none d sent.input.exchange =
    some (.response statusCode text) ∧ 200 ≤ statusCode ∧ statusCode < 300
  contractId : k.after.contractId = x.contractId
  reread : ∃ post target, read.input.target = .ok post ∧
    resolveTransportTarget d x.adapter post = .ok target ∧
    x.adapter.isRollbackVerified snapshot post = .ok true

/-- What a step of the call rests on. -/
structure Rests (x : RollbackCall) (past : Past) (t : Taken World Answers) : Prop where
  send : ∀ direction contractId exchange,
    t.after.trace = t.before.trace ++ [.handed x.call direction contractId exchange] →
    ∃ c d snapshot, x.Sends past t c d snapshot
  takeBack : ∀ k, t.after.trace = t.before.trace ++ [.committed k] → k.after.state = rolledBack →
    ∃ before sent read c d snapshot, before ++ [sent, read] <+: past ∧
      x.Confirms before sent read c d snapshot k

variable {x : RollbackCall} {past : Past} {t : Taken World Answers} {c d : RecoveryContract}
  {snapshot : Json} {S : Setting x.call} {s : World}

theorem Loaded.contractId_eq (h : x.Loaded past c) : c.contractId = x.contractId := by
  obtain ⟨t, -, -, hlatest⟩ := h.loaded
  exact contractId_of_latestOf hlatest

theorem Sends.contractId_eq (h : x.Sends past t c d snapshot) : d.contractId = x.contractId :=
  h.started.1.contractId.trans h.loaded.contractId_eq

theorem lenient : Lenient x.Rests := by
  intro past t h
  constructor
  · intro direction contractId exchange hevent
    rcases h with hsame | ⟨k, hk, -⟩
    · rw [hsame] at hevent
      exact absurd hevent (by simp)
    · rw [hk] at hevent
      exact absurd (List.append_cancel_left hevent) (by simp)
  · intro k hevent hrolledBack
    rcases h with hsame | ⟨k', hk', -, hne⟩
    · rw [hsame] at hevent
      exact absurd hevent (by simp)
    · rw [hk'] at hevent
      cases List.append_cancel_left hevent
      exact absurd hrolledBack hne

/-! ### After `ROLLING_BACK` -/

theorem finishRollback_past (target : RecoveryState) (detail : String) :
    wpPast (S.context x.executor.store) x.Rests (x.executor.finishRollback x.call d target detail)
      (fun _ _ _ => True) s past := by
  have hdoes : (x.executor.finishRollback x.call d target detail).Does fun _ => Unproven :=
    does_bind (transition_unproven _ _ _ _ _ _) fun _ => trivial
  exact past_of_does lenient hdoes fun _ _ _ _ => trivial

/-- The commit that ends a rollback as successful. -/
theorem markRollbackVerified_past {locator : ℤ}
    (hconfirms : ∀ k : Commit, k.after.contractId = d.contractId →
      ∃ before sent read c d snapshot, before ++ [sent, read] <+: past ∧
        x.Confirms before sent read c d snapshot k) :
    wpPast (S.context x.executor.store) x.Rests (x.executor.store.markRollbackVerified x.call
      d.contractId d.stateVersion locator) (fun _ _ _ => True) s past := by
  have hload : wp (S.context x.executor.store) (x.executor.store.load d.contractId)
      (fun r _ => ∀ c, r = .ok c → c.contractId = d.contractId) s := by
    refine load_spec (fun _ _ _ _ c hc => by cases hc) fun _ c _ _ _ hid c' hc' => ?_
    cases hc'
    exact hid
  refine (wpPast_bind _ _ _).2 (past_of_wp lenient (reads_load unproven_refl _) hload
    fun r s₁ past₁ hr hpast => ?_)
  cases r with
  | error e => trivial
  | ok current =>
    refine past_demand (fun _ => trivial) fun _ => ?_
    refine past_demand (fun _ => trivial) fun _ => ?_
    refine past_check (fun _ _ => trivial) fun updated hupdated => ?_
    have hid : updated.contractId = d.contractId := by
      rw [RecoveryContract.ofFields_eq_ok.1 hupdated]
      exact hr current rfl
    refine past_replace lenient (fun t ht => ?_) fun _ _ _ => trivial
    obtain ⟨recordedAt, ht⟩ := ht
    constructor
    · intro direction contractId exchange hevent
      cases List.append_cancel_left (ht.symm.trans hevent)
    · intro k hk _
      cases List.append_cancel_left (ht.symm.trans hk)
      obtain ⟨before, sent, read, c, d, snapshot, hprefix, hconfirms⟩ :=
        hconfirms ⟨x.call, some current, updated, "state_transition", recordedAt, none⟩ hid
      exact ⟨before, sent, read, c, d, snapshot, hprefix.trans hpast, hconfirms⟩

/-- The read after a send that was answered with success. -/
theorem verifyRollback_past {before : Past} {sent : Taken World Answers}
    (hpast : past = before ++ [sent]) (hsends : x.Sends before sent c d snapshot)
    (hanswered : ∃ statusCode text, x.executor.exchangeOf none d sent.input.exchange =
      some (.response statusCode text) ∧ 200 ≤ statusCode ∧ statusCode < 300) :
    wpPast (S.context x.executor.store) x.Rests (x.executor.verifyRollback x.call x.adapter d
      snapshot) (fun _ _ _ => True) s past := by
  refine (wpPast_bind _ _ _).2 ((wpPast_attempt _ _).2 (past_consult lenient fun s₁ i _ _ => ?_))
  rw [andThenPast_ok]
  generalize hobserved : (do
    let post ← i.target
    let target ← resolveTransportTarget d x.adapter post
    let verified ← x.adapter.isRollbackVerified snapshot post
    .ok (target, verified) : Except Error (ResolvedTransportTarget × Bool)) = observed
  rcases observed with e | ⟨target, _ | _⟩
  · exact finishRollback_past _ _
  · exact finishRollback_past _ _
  · simp only [bind_eq_ok] at hobserved
    obtain ⟨post, hread, target', htarget, verdict, hverdict, hobserved⟩ := hobserved
    cases hobserved
    refine (wpPast_bind _ _ _).2 (wpPast_mono (markRollbackVerified_past fun k hid => ?_) ?_)
    · refine ⟨before, sent, ⟨i, s₁, s₁⟩, c, d, snapshot, ?_, hsends, hanswered,
        hid.trans hsends.contractId_eq, post, target, hread, htarget, hverdict⟩
      rw [hpast, List.append_assoc]
      exact List.prefix_refl _
    · intro r s₂ past₂ _
      cases r <;> trivial

/-- The send. -/
theorem sendRollback_past {request : Request} {pre : Platform.Obj} (hloaded : x.Loaded past c)
    (hstarted : x.Started s c d)
    (hread : ∃ earlier last, past = earlier ++ [last] ∧ last.input.target = .ok pre ∧
      own x.call last.before.trace = own x.call s.trace)
    (hexamined : x.Examined d pre snapshot request) :
    wpPast (S.context x.executor.store) x.Rests (x.executor.sendRollback x.call x.adapter d
      snapshot request) (fun _ _ _ => True) s past := by
  obtain ⟨earlier, last, rfl, htarget, hlast⟩ := hread
  refine (wpPast_bind _ _ _).2 (past_check (fun _ _ => trivial) fun body hbody => ?_)
  intro s₁ hs₁ h₁ i _
  have hown : own x.call s₁.trace = own x.call s.trace := (S.frame h₁).own
  have hid : d.contractId = x.contractId := hstarted.1.contractId.trans hloaded.contractId_eq
  have hsends : ∀ s₂ : World, s₂.trace = s₁.trace ++ [.handed x.call .rollback d.contractId
      (x.executor.exchangeOf none d i.exchange)] →
      x.Sends (earlier ++ [last]) ⟨i, s₁, s₂⟩ c d snapshot := by
    intro s₂ htrace
    refine ⟨hloaded, ?_, ⟨earlier, last, pre, request, body, rfl, htarget, ?_, hexamined, hbody⟩,
      ?_⟩
    · rw [Started, hown]
      exact hstarted
    · rw [hown]
      exact hlast
    · rw [← hid]
      exact htrace
  refine ⟨⟨fun _ _ _ _ => ⟨c, d, snapshot, hsends _ rfl⟩, fun k hk => ?_⟩,
    (wpPast_ofExcept _ _).2 ?_⟩
  · cases List.append_cancel_left hk
  · rw [andThenPast_ok]
    generalize hsent : classifySend (x.executor.writeClient.send none d.endpointSymbol
      d.httpMethod i.exchange) = sent
    obtain ⟨boundary, knowledge, response⟩ := sent
    dsimp only
    by_cases hsuccess : knowledge = .verifiedSuccess
    · subst hsuccess
      rw [if_pos rfl]
      obtain ⟨statusCode, text, hexchange, -, hstatus⟩ :=
        MutationExecutor.response_of_classifySend x.executor hsent
      exact verifyRollback_past rfl (hsends _ rfl) ⟨statusCode, text, hexchange, hstatus⟩
    · rw [if_neg hsuccess]
      exact finishRollback_past _ _

/-- What `rollback` does once the contract is `ROLLING_BACK`. -/
theorem runRollback_past (hloaded : x.Loaded past c) (hstarted : x.Started s c d) :
    wpPast (S.context x.executor.store) x.Rests
      (x.executor.runRollback x.call x.adapter d) (fun _ _ _ => True) s past := by
  refine (wpPast_bind _ _ _).2 ((wpPast_attempt _ _).2 (past_check (fun e _ => ?_) ?_))
  · exact finishRollback_past _ _
  intro identity hidentity
  refine past_consult lenient fun s₁ i _ h₁ => ?_
  rw [andThenPast_ok]
  have hown : own x.call s₁.trace = own x.call s.trace := (S.frame h₁).own
  split
  · exact finishRollback_past _ _
  · rename_i pre hpre
    split
    · exact finishRollback_past _ _
    · rename_i fingerprint hfingerprint
      split
      · exact finishRollback_past _ _
      · rename_i hunchanged
        split
        · exact finishRollback_past _ _
        · rename_i target htarget
          split
          · exact finishRollback_past _ _
          · exact finishRollback_past _ _
          · rename_i hbuilt
            simp only [bind_eq_ok] at hbuilt
            obtain ⟨snapshot, hsnapshot, request, hrequest, hbuilt⟩ := hbuilt
            cases hbuilt
            refine sendRollback_past (hloaded.mono (List.prefix_append _ _)) ?_
              ⟨past, ⟨i, s₁, s₁⟩, rfl, hpre, rfl⟩ ⟨⟨identity, hidentity⟩, ⟨fingerprint,
                hfingerprint, (not_not.1 hunchanged).symm⟩, target, htarget, hsnapshot, hrequest⟩
            rw [Started, hown]
            exact hstarted

/-! ### The whole call -/

/-- Every step of `rollback` rests on what the call has seen before. -/
theorem rollback_past (hown : own x.call s.trace = []) :
    wpPast (S.context x.executor.store) x.Rests
      (x.executor.rollback x.call x.contractId x.adapter) (fun _ _ _ => True) s past := by
  refine (wpPast_bind _ _ _).2 (load_past lenient hown (fun _ _ _ => trivial) ?_)
  intro s₁ past₁ c hs₁ h₁ hrecorded hid _ hloaded
  refine past_demand (fun _ => trivial) fun hverified => ?_
  refine past_demand (fun _ => trivial) fun hsealed => ?_
  have hown₁ : own x.call s₁.trace = [] := (S.frame h₁).own.trans hown
  have htransition : wp (S.context x.executor.store) (x.executor.store.transition x.call
      x.contractId verified c.stateVersion rollingBack none "state_transition") (fun r s' =>
        ∀ d, r = .ok d → x.Started s' c d) s₁ := by
    refine transition_spec ?_ ?_ ?_ hs₁
    · exact fun k hcall _ => (MutationExecutor.unsent_of_own hown₁).justified hcall
    · intro s₂ k hcommits hmoves
      have hkid : k.after.contractId = x.contractId := hmoves.2.1
      have hsame := MutationExecutor.sameIdentity_of_commits hrecorded hcommits
        (hkid.trans hid.symm)
      refine ⟨fun d hd => ?_, fun _ e d hd => by cases hd⟩
      cases hd
      exact ⟨hsame, k, MutationExecutor.own_of_commits hown₁ hcommits,
        MutationExecutor.opens_of_moves hmoves, rfl⟩
    · exact fun s₂ e _ _ d hd => by cases hd
  refine (wpPast_bind _ _ _).2 (past_of_wp lenient (transition_unproven _ _ _ _ _ _) htransition ?_)
  intro r s₂ past₂ hr hpast₂
  cases r with
  | error e => trivial
  | ok d => exact runRollback_past ((Loaded.mk hloaded hverified hsealed).mono hpast₂) (hr d rfl)

end RollbackCall

/-! ### All runs -/

section Runs

variable {store : Store} {ops : ℕ → Operation store} {permit : Answers → World → World → Prop}

/-- What the steps of the calls of `rollback` rest on. -/
def rollbackGates (store : Store) (ops : ℕ → Operation store)
    (permit : Answers → World → World → Prop) : System.Account (safety store ops permit) where
  rests call past t := ∀ executor h contractId adapter,
    ops call = .rollback executor h contractId adapter →
      RollbackCall.Rests ⟨executor, call, contractId, adapter⟩ past t
  sound := by
    rintro call p s rfl - hown
    by_cases hrollback : ∃ executor h contractId adapter,
        ops call = .rollback executor h contractId adapter
    · obtain ⟨executor, h, contractId, adapter, hop⟩ := hrollback
      subst h
      rw [hop]
      have hpast := @RollbackCall.rollback_past _ ⟨executor, call, contractId, adapter⟩ []
        (shared call permit) s hown
      refine wpPast_imp ((wpPast_bind _ _ _).2 (wpPast_mono hpast fun r _ _ _ => ?_)) ?_
      · cases r with
        | error e => trivial
        | ok outcome => trivial
      · rintro past t hrests _ _ _ _ hop'
        cases hop'
        exact hrests
    · -- nothing is asked of the other operations
      refine wpPast_mono (wpPast_of_does (does_of_forall ?_ _)) fun _ _ _ _ => trivial
      intro _ _ _ _ executor h contractId adapter hop
      exact absurd ⟨executor, h, contractId, adapter, hop⟩ hrollback

variable {cfg : Config World Answers Error} {past : ℕ → Past} {call : ℕ}
  {executor : MutationExecutor} {h : executor.store = store} {contractId : String}
  {adapter : CapabilityAdapter}

/-- A request that `rollback` hands on has passed every gate. -/
theorem sends_of_rollback (hrun : (system store ops permit).Recorded cfg past)
    (hop : ops call = .rollback executor h contractId adapter)
    {direction : Direction} {handedId : String} {exchange : Option Exchange}
    (hevent : .handed call direction handedId exchange ∈ cfg.shared.trace) :
    direction = .rollback ∧ handedId = contractId ∧
      ∃ before sent c d snapshot, System.TookAfter past call before sent ∧
        RollbackCall.Sends ⟨executor, call, contractId, adapter⟩ before sent c d snapshot ∧
        exchange = executor.exchangeOf none d sent.input.exchange := by
  obtain ⟨before, sent, htook, htrace⟩ := exists_step_of_event hrun hevent
  have hrests := (((rollbackGates store ops permit).recorded hrun).took call before sent htook).1
    executor h contractId adapter hop
  obtain ⟨c, d, snapshot, hsends⟩ := hrests.send direction handedId exchange htrace
  cases List.append_cancel_left (htrace.symm.trans hsends.handed)
  exact ⟨rfl, rfl, before, sent, c, d, snapshot, htook, hsends, rfl⟩

/-- A contract that `rollback` takes to `ROLLED_BACK` has been read back after the send. -/
theorem confirms_of_rolledBack (hrun : (system store ops permit).Recorded cfg past) {k : Commit}
    (hop : ops k.call = .rollback executor h contractId adapter)
    (hcommit : .committed k ∈ cfg.shared.trace) (hrolledBack : k.after.state = rolledBack) :
    ∃ before sent read c d snapshot, before ++ [sent, read] <+: past k.call ∧
      RollbackCall.Confirms ⟨executor, k.call, contractId, adapter⟩ before sent read c d snapshot
        k := by
  obtain ⟨earlier, t, htook, htrace⟩ := exists_step_of_event hrun hcommit
  have hrests := (((rollbackGates store ops permit).recorded hrun).took k.call earlier t htook).1
    executor h contractId adapter hop
  obtain ⟨before, sent, read, c, d, snapshot, hprefix, hconfirms⟩ :=
    hrests.takeBack k htrace hrolledBack
  exact ⟨before, sent, read, c, d, snapshot,
    hprefix.trans ((List.prefix_append _ _).trans htook), hconfirms⟩

end Runs

/-! ### A rollback of the sample contract -/

namespace MutationExecutor

variable {executor : MutationExecutor} {call : ℕ} {S : Setting call} {s : World}
  {adapter : CapabilityAdapter} {post : Except Error Outcome → World → Prop}
  {c : RecoveryContract} {obj : Platform.Obj} {target : ResolvedTransportTarget}
  {request : Request} {snapshot : Json}

/-- `rollback` of a sealed contract whose target has not been changed comes to the send. -/
theorem runRollback_live {identity : Json} {fingerprint : String}
    (hidentity : decrypt executor.encryptionKey c c.protectedTargetIdentity .targetIdentity =
      .ok identity)
    (hread : ∀ {i s s'}, S.permit i s s' → i.target = .ok obj)
    (hfingerprint : readFingerprint c adapter obj = .ok fingerprint)
    (hsealed : c.verifiedTargetFingerprint = some fingerprint)
    (htarget : resolveTransportTarget c adapter obj = .ok target)
    (hsnapshot : decrypt executor.encryptionKey c c.protectedSnapshot .snapshot = .ok snapshot)
    (hrequest : adapter.buildRollbackRequest snapshot target = .ok (some request))
    (h : ∀ s', Coherent executor.store s' → S.rely s s' →
      wp (S.context executor.store)
        (executor.sendRollback call adapter c snapshot request) post s') :
    wp (S.context executor.store) (executor.runRollback call adapter c) post s := by
  refine (wp_bind _ _ _ _).mpr ((wp_attempt _ _ _).mpr (wp_pass hidentity
    (wp_atomic fun s₁ hs₁ h₁ i hi => ⟨hs₁, .inl (.refl s₁), ?_⟩)))
  dsimp only
  rw [hread hi, andThen_ok]
  dsimp only
  rw [hfingerprint]
  dsimp only
  rw [if_neg (fun hne => hne hsealed.symm), htarget]
  dsimp only
  rw [hsnapshot, ok_bind, hrequest, ok_bind]
  exact h s₁ hs₁ h₁

/-- A rollback that the appliance has accepted, and whose effect the adapter finds, is closed as
`ROLLED_BACK`. -/
theorem sendRollback_verified {P : World → Prop} {k : Commit} {body text : String}
    {statusCode : ℕ}
    (hstable : ∀ s s', P s → Coherent executor.store s → Coherent executor.store s' →
      S.rely s s' → P s')
    (hrecord : ∀ s e, P s → commitsOf [e] = [] → P { s with trace := s.trace ++ [e] })
    (hknown : ∀ s, P s → s.latest k.after.contractId = some k.after)
    (hlive : S.Live executor.store) (hsteady : S.Steady executor.store k.after)
    (h₀ : Started executor.store call .rollback P k [] s) (hopen : k.Opens .rollback)
    (hversion : k.after.stateVersion + 1 < 2 ^ 63)
    (hbody : request.modelDumpJson = .ok body)
    (hexchange : ∀ {i s s'}, S.permit i s s' → i.exchange = .response statusCode text)
    (hstatus : 200 ≤ statusCode ∧ statusCode < 300) {path : String}
    (hpath : executor.writeClient.path none k.after.endpointSymbol k.after.httpMethod = .ok path)
    (hread : ∀ {i s s'}, S.permit i s s' → i.target = .ok obj)
    (htarget : resolveTransportTarget k.after adapter obj = .ok target)
    (hverdict : adapter.isRollbackVerified snapshot obj = .ok true)
    (h : ∀ s s' k' exchange, own call s.trace = [.committed k,
        .handed call .rollback k.after.contractId exchange] → S.Commits executor.store s s' k' →
      k'.after.toContractFields = Store.moved k.after rolledBack → ∀ r, post r s') :
    wp (S.context executor.store)
      (executor.sendRollback call adapter k.after snapshot request) post s := by
  refine (wp_bind _ _ _ _).mpr (send_spec hstable hrecord h₀ rfl hopen ?_ ?_)
  · intro e he
    rw [hbody] at he
    cases he
  intro _ s₁ i hi h₁
  have hsent : classifySend (executor.writeClient.send none k.after.endpointSymbol
      k.after.httpMethod (.response statusCode text)) =
        (.afterSend, .verifiedSuccess, some ⟨statusCode, text⟩) := by
    rw [WriteApiClient.send, hpath]
    exact if_pos hstatus
  rw [hexchange hi] at h₁
  rw [hexchange hi, andThen_ok, hsent, if_pos rfl]
  refine (wp_bind _ _ _ _).mpr ((wp_attempt _ _ _).mpr (readTarget_spec hstable h₁ ?_))
  intro s₂ i h₂ hi
  rw [hread hi, andThen_ok, ok_bind, htarget, ok_bind, hverdict, ok_bind]
  dsimp only
  rw [numericLocator_eq htarget]
  refine (wp_bind _ _ _ _).mpr (markRollbackVerified_live hlive hsteady h₂.coherent
    (hknown s₂ h₂.known) hopen.2 hversion ?_ ?_)
  · exact fun k' hcall hmoves => h₂.justified hcall hmoves fun hforward => by cases hforward
  · exact fun s' k' hcommits _ hfields => h s₂ s' k' _ h₂.own hcommits hfields _

end MutationExecutor

end Model

namespace Sample

attribute [local instance] platform

/-- The call that takes the sample contract back. -/
def rollbackCall : RollbackCall := ⟨executor plain, 4, "contract-1", adapter true (.ok "body")⟩

theorem store_executor_plain : (executor plain).store = plain := rfl

/-- The sample contract is created, prepared, confirmed, executed and taken back. -/
def rollbackScript (call : ℕ) : Operation plain :=
  if call = 4 then
    .rollback (executor plain) store_executor_plain "contract-1" (adapter true (.ok "body"))
  else script (execution true (.ok "body")) call

theorem scripted_rollback : Scripted rollbackScript := ⟨rfl, rfl, rfl, rfl⟩

theorem decrypt_artifact {d : RecoveryContract} (hsame : contract.SameIdentity d.toContractFields)
    (role : ArtifactRole) :
    decrypt (executor plain).encryptionKey d artifact role = .ok (.obj []) := by
  have hid : d.contractId = contract.contractId := hsame.contractId
  unfold decrypt
  have hplain : decryptArtifact (executor plain).encryptionKey artifact d.contractId role =
      .ok [123, 125] := by
    rw [hid]
    cases role <;> decide +kernel
  rw [hplain, ok_bind]
  have hparse : (Bytes.decodeUtf8 [123, 125] >>= Json.parse) = some (.obj []) := rfl
  rw [hparse]
  rfl

/-- The sample contract has been taken back in the fifth call. -/
structure TakenBack (s : World) (k : Commit) (exchange : Option Exchange) : Prop where
  handed : .handed 4 .rollback "contract-1" exchange ∈ s.trace
  committed : .committed k ∈ s.trace
  call : k.call = 4
  isRolledBack : k.after.state = rolledBack

/-- The sample contract once it is `ROLLING_BACK`: the appliance accepts the request, and the
adapter finds the snapshot. -/
theorem runRollback_sample {s : World} {d : RecoveryContract} {k : Commit} {t : DateTime}
    (hsingle : Single plain s k.after) (hd : d.toContractFields = reached verified 4 t (some hex))
    (hfields : k.after.toContractFields = Store.moved d rollingBack) (hopen : k.Opens .rollback)
    (hown : own 4 s.trace = [.committed k]) :
    wp ((alone 4 fun i _ _ => i = answers (.response 200 "")).context plain)
      ((executor plain).runRollback 4 (adapter true (.ok "body")) k.after)
      (fun _ s => ∃ k exchange, TakenBack s k exchange) s := by
  have hlive : (alone 4 fun i _ _ => i = answers (.response 200 "")).Live plain :=
    live_alone (ready_plain (.response 200 "")).fit
  have hsame : contract.SameIdentity k.after.toContractFields := by
    rw [hfields, Store.moved, hd]
    constructor <;> rfl
  have hexchange : ∀ i, i = answers (.response 200 "") → i.exchange = .response 200 "" := by
    rintro _ rfl
    rfl
  have hread : ∀ {i s s'}, (alone 4 fun i _ _ => i = answers (.response 200 "")).permit i s s' →
      i.target = .ok () := by
    rintro _ _ _ rfl
    rfl
  have hpath : (executor plain).writeClient.path none k.after.endpointSymbol k.after.httpMethod =
      .ok "/api/v2/firewall/alias" := by
    rw [hsame.endpointSymbol, hsame.httpMethod]
    rfl
  have hfingerprint : readFingerprint k.after (adapter true (.ok "body")) () = .ok hex := by
    rw [readFingerprint_eq hsame, hsame.targetFingerprint]
    rfl
  have hidentity : decrypt (executor plain).encryptionKey k.after k.after.protectedTargetIdentity
      .targetIdentity = .ok (.obj []) := by
    rw [hfields, Store.moved, hd]
    exact decrypt_artifact hsame _
  have hsnapshot : decrypt (executor plain).encryptionKey k.after k.after.protectedSnapshot
      .snapshot = .ok (.obj []) := by
    rw [hfields, Store.moved, hd]
    exact decrypt_artifact hsame _
  refine MutationExecutor.runRollback_live hidentity hread hfingerprint ?_
    (resolveTransportTarget_eq hsame) hsnapshot rfl fun s₁ hs₁ hquiet₁ => ?_
  · rw [hfields, Store.moved, hd]
    rfl
  have hstarted : MutationExecutor.Started plain 4 .rollback
      (fun s => s.latest k.after.contractId = some k.after) k [] s₁ := by
    refine ⟨hs₁, ?_, fun _ _ _ h => absurd h List.not_mem_nil, (hquiet₁.latest _).trans
      hsingle.latest⟩
    rw [hquiet₁.trace]
    exact hown
  refine MutationExecutor.sendRollback_verified ?_ ?_ (fun _ h => h) hlive steady_alone hstarted
    hopen ?_ rfl (hexchange _) (by decide) hpath hread (resolveTransportTarget_eq hsame) rfl ?_
  · exact fun s₂ s₃ hlatest _ _ hquiet => (hquiet.latest _).trans hlatest
  · intro s₂ e hlatest he
    rw [World.latest, commitsOf_append, he, List.append_nil]
    exact hlatest
  · have hversion : k.after.stateVersion = 5 := by
      rw [hfields, Store.moved, hd]
      rfl
    rw [hversion]
    decide
  · intro s₂ s₃ k' exchange hown₂ hcommits hfields' _
    have hid : k.after.contractId = "contract-1" := hsame.contractId
    rw [hid] at hown₂
    obtain ⟨⟨s₄, hquiet, -, htrace⟩, -, hcall⟩ := hcommits
    refine ⟨k', exchange, ?_, ?_, hcall, by rw [hfields']; rfl⟩
    · have hhanded : .handed 4 .rollback "contract-1" exchange ∈ own 4 s₂.trace := by
        rw [hown₂]
        exact List.mem_cons_of_mem _ List.mem_cons_self
      rw [htrace, hquiet.trace]
      exact List.mem_append_left _ (mem_own.mp hhanded).1
    · rw [htrace]
      exact List.mem_append_right _ (List.mem_singleton_self _)

/-- A run in which the sample contract is taken back. -/
theorem exists_rolledBack_run : ∃ cfg k exchange,
    (system plain rollbackScript fun _ _ _ => True).Reachable cfg ∧
      TakenBack cfg.shared k exchange := by
  obtain ⟨cfg, k, hreach, hnext, t, hsingle, -, -, hd⟩ := exists_verified_run scripted_rollback
  generalize k.after = d at hsingle hd
  have hid : d.contractId = "contract-1" := by
    rw [hd]
    rfl
  have hstate : d.state = verified := by
    rw [hd]
    rfl
  have hversion : d.stateVersion = 4 := by
    rw [hd]
    rfl
  have hsealed : d.verifiedTargetFingerprint = some hex := by
    rw [hd]
    rfl
  have hlive : (alone 4 fun i _ _ => i = answers (.response 200 "")).Live plain :=
    live_alone (ready_plain (.response 200 "")).fit
  have hcall := exists_call (i := answers (.response 200 "")) hreach (fun _ _ _ => trivial)
    fun _ s => ∃ k exchange, TakenBack s k exchange
  rw [hnext] at hcall
  refine (hcall fun hown => ?_).elim fun cfg' ⟨_, hreach', _, _, k, exchange, hk⟩ =>
    ⟨cfg', k, exchange, hreach', hk⟩
  have hop : rollbackScript (3 + 1) = .rollback (executor plain) rfl "contract-1"
      (adapter true (.ok "body")) := rfl
  rw [hop, ← hid]
  refine wp_discard ?_
  refine (wp_bind _ _ _ _).mpr (load_live hlive.readable steady_alone hsingle.coherent
    hsingle.latest fun s₁ hs₁ hquiet₁ hlatest₁ => ?_)
  refine wp_met hstate (wp_met (by rw [hsealed]; simp) ?_)
  have hown₁ : own 4 s₁.trace = [] := by
    rw [hquiet₁.trace]
    exact hown
  have hsingle₁ := hsingle.of_quiet hs₁ hquiet₁
  rw [← hstate]
  refine (wp_bind _ _ _ _).mpr (transition_live hlive steady_alone hs₁ hlatest₁ (by decide)
    (by decide) (by rw [hstate]; rfl) (by decide) (by decide) (by decide) ?_ ?_ ?_ ?_ ?_)
  · rw [hstate]
    rintro _ _ _ _ _ _ (h | h) <;> cases h
  · rw [hversion]
    decide
  · exact fun s' hs' hquiet _ hfree => hsingle₁.free hfree hs' hquiet
  · exact fun k hcall _ => (MutationExecutor.unsent_of_own hown₁).justified hcall
  intro s₂ k hcommits hbefore hfields
  have hkid : k.after.contractId = d.contractId := by rw [hfields]; rfl
  have hopen : k.Opens .rollback := by
    refine ⟨?_, by rw [hfields]; rfl⟩
    rw [hbefore, Option.map_some, hstate]
    rfl
  rw [andThen_ok]
  refine wp_mono (runRollback_sample (hsingle₁.of_commits hcommits hkid) hd hfields hopen
    (MutationExecutor.own_of_commits hown₁ hcommits)) fun _ _ h _ _ => h

/-- The request that takes the sample contract back has passed the gates. -/
theorem sends_of_rollback_sample : ∃ cfg past exchange before sent c d snapshot,
    (system plain rollbackScript fun _ _ _ => True).Recorded cfg past ∧
      .handed 4 .rollback "contract-1" exchange ∈ cfg.shared.trace ∧
      System.TookAfter past 4 before sent ∧ rollbackCall.Sends before sent c d snapshot := by
  obtain ⟨cfg, k, exchange, hreach, htaken⟩ := exists_rolledBack_run
  obtain ⟨past, hrun⟩ := hreach.exists_recorded
  have hop : rollbackScript 4 = .rollback (executor plain) rfl "contract-1"
      (adapter true (.ok "body")) := rfl
  obtain ⟨-, -, before, sent, c, d, snapshot, htook, hsends, -⟩ :=
    sends_of_rollback hrun hop htaken.handed
  exact ⟨cfg, past, exchange, before, sent, c, d, snapshot, hrun, htaken.handed, htook, hsends⟩

/-- The sample contract has been taken back for good. -/
theorem confirms_of_rolledBack_sample : ∃ cfg past k before sent read c d snapshot,
    (system plain rollbackScript fun _ _ _ => True).Recorded cfg past ∧
      .committed k ∈ cfg.shared.trace ∧ k.after.state = rolledBack ∧
      before ++ [sent, read] <+: past 4 ∧
      rollbackCall.Confirms before sent read c d snapshot k := by
  obtain ⟨cfg, k, exchange, hreach, -, hcommit, hcall, hrolledBack⟩ := exists_rolledBack_run
  obtain ⟨past, hrun⟩ := hreach.exists_recorded
  have hop : rollbackScript k.call = .rollback (executor plain) rfl "contract-1"
      (adapter true (.ok "body")) := by
    rw [hcall]
    rfl
  obtain ⟨before, sent, read, c, d, snapshot, hprefix, hconfirms⟩ :=
    confirms_of_rolledBack hrun hop hcommit hrolledBack
  rw [hcall] at hprefix hconfirms
  exact ⟨cfg, past, k, before, sent, read, c, d, snapshot, hrun, hcommit, hrolledBack, hprefix,
    hconfirms⟩

end Sample

end Tier1
