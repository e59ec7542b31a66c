import Mathlib.Data.Int.Notation
import Mathlib.Data.Nat.Notation
import PfsenseMcp.Tier1.Operations

/-!
# When the operations succeed

The specifications of `Tier1.Operations` allow every operation to raise. Here, neither the process
nor SQLite fails, the clocks are in UTC, and the contract of the operation is not changed by
others meanwhile: a `Steady` contract. Then an operation whose guards pass commits.

Where others may change the contract, `Procedure.wp_unless` reduces to this case.

## Main results

* `load_live`, `transition_live` and one theorem for every other
  operation that the runs of the later modules need.
-/

namespace Tier1

open Python Concurrency Procedure RecoveryState

variable [Platform]

/-- A step in which neither the process nor SQLite fails, and the store clock is in UTC and leaves
room for the cooldown. -/
structure Fit (store : Store) (i : Answers) : Prop extends Store.Untroubled i where
  clock : ∃ t, i.clock = some t
  recordClock : ∃ t, i.recordClock = some t
  cooldown : ∀ state, store.CooldownFits state i

namespace Setting

variable {call : ℕ}

/-- Every step is fit. -/
def Live (S : Setting call) (store : Store) : Prop :=
  ∀ {i s s'}, S.permit i s s' → Fit store i

/-- SQLite does not fail. -/
def Readable (S : Setting call) : Prop := ∀ {i s s'}, S.permit i s s' → i.sqlite = none

theorem Live.readable {S : Setting call} {store : Store} (h : S.Live store) : S.Readable :=
  fun hi => (h hi).sqlite

/-- The others leave the contract `c` alone. -/
def Steady (S : Setting call) (store : Store) (c : RecoveryContract) : Prop :=
  ∀ {s s'}, Coherent store s → Coherent store s' → S.rely s s' →
    s.latest c.contractId = some c → s'.latest c.contractId = some c

theorem Live.not_faulty {S : Setting call} {store : Store} (h : S.Live store) : ¬S.Faulty := by
  rintro ⟨i, s, s', e, hi, he⟩
  rw [(h hi).toUntroubled.invokeFault] at he
  cases he

end Setting

/-- Nothing else runs, and the contracts do not change between the steps of a call. -/
def alone (call : ℕ) (permit : Answers → World → World → Prop) : Setting call where
  rely := Quiet
  guar := Advances call
  permit := permit
  refl := .refl
  trans := .trans
  quiet h := h
  frame h := h.toExtends call
  guar_of _ h := h

theorem Quiet.latest {s s' : World} (h : Quiet s s') (contractId : String) :
    s'.latest contractId = s.latest contractId := by rw [World.latest, h.trace, World.latest]

theorem live_alone {store : Store} {call : ℕ} {i : Answers} (h : Fit store i) :
    (alone call fun j _ _ => j = i).Live store := by
  rintro _ _ _ rfl
  exact h

theorem steady_alone {store : Store} {call : ℕ} {permit : Answers → World → World → Prop}
    {c : RecoveryContract} : (alone call permit).Steady store c :=
  fun _ _ hquiet hlatest => (hquiet.latest c.contractId).trans hlatest

section Live

variable {store : Store} {call : ℕ} {S : Setting call} {s : World} {c : RecoveryContract}

/-! ### Steps -/

/-- A check that passes. -/
theorem wp_pass {α β : Type} {x : Except Error β} {b : β} {f : β → Op α}
    {post : Except Error α → World → Prop} (hx : x = .ok b)
    (h : wp (S.context store) (f b) post s) :
    wp (S.context store) (Op.check x >>= f) post s := by
  rw [hx]
  exact h

/-- A guard that is met. -/
theorem wp_met {α : Type} {condition : Prop} [Decidable condition] {cls : ErrorClass}
    {message : String} {f : Unit → Op α} {post : Except Error α → World → Prop}
    (hcondition : condition) (h : wp (S.context store) (f ()) post s) :
    wp (S.context store) (Op.check (demand condition cls message) >>= f) post s :=
  wp_pass (demand_of hcondition) h

theorem wp_query_live {α : Type} (hread : S.Readable) {f : Database → Except Error α}
    {post : Except Error α → World → Prop}
    (h : ∀ s', Coherent store s' → S.rely s s' → ∃ a, f s'.db = .ok a ∧ post (.ok a) s') :
    wp (S.context store) (Op.query f) post s := by
  refine wp_atomic fun s' hs' hrely i hi => ⟨hs', .inl (.refl s'), ?_⟩
  obtain ⟨a, ha, hpost⟩ := h s' hs' hrely
  dsimp only
  rw [hread hi]
  dsimp only
  rw [ha]
  exact hpost

theorem now_live (hlive : S.Live store) {post : Except Error DateTime → World → Prop}
    (h : ∀ s' i t, Coherent store s' → S.rely s s' → S.permit i s' s' → i.clock = some t →
      post (.ok t) s') :
    wp (S.context store) Store.now post s := by
  refine wp_atomic fun s' hs' hrely i hi => ⟨hs', .inl (.refl s'), ?_⟩
  obtain ⟨t, ht⟩ := (hlive hi).clock
  dsimp only
  rw [ht]
  exact h s' i t hs' hrely hi ht

/-! ### Reading -/

theorem Coherent.exists_row {s : World} (h : Coherent store s)
    (hlatest : s.latest c.contractId = some c) :
    ∃ row, Store.requireRow (s.db.selectContract c.contractId) = .ok row ∧
      store.decodeRow row = .ok c := by
  refine ⟨store.rowOf c, ?_, Store.decodeRow_rowOf (h.represents.codes c ?_)⟩
  · rw [Store.selectContract_eq h.commits h.represents]
    rw [World.latest] at hlatest
    rw [hlatest]
    rfl
  · exact (mem_contractsOf h.commits).mpr hlatest

theorem verifyRelatedState_live (hread : S.Readable) (hsteady : S.Steady store c)
    (hs : Coherent store s) (hlatest : s.latest c.contractId = some c)
    {post : Except Error Unit → World → Prop}
    (h : ∀ s', Coherent store s' → S.rely s s' → s'.latest c.contractId = some c →
      post (.ok ()) s') :
    wp (S.context store) (store.verifyRelatedState c) post s := by
  refine (wp_bind _ _ _ _).mpr (wp_query_live hread fun s₁ hs₁ h₁ => ⟨_, rfl, ?_⟩)
  have hlatest₁ := hsteady hs hs₁ h₁ hlatest
  refine wp_pass (Store.verifyReservation_ok hs₁.commits hs₁.represents hlatest₁) ?_
  refine (wp_bind _ _ _ _).mpr (wp_query_live hread fun s₂ hs₂ h₂ => ⟨_, rfl, ?_⟩)
  have hlatest₂ := hsteady hs₁ hs₂ h₂ hlatest₁
  refine wp_pass (Store.verifiedAuditRows_ok hs₂.commits hs₂.represents hlatest₂) ?_
  exact h s₂ hs₂ (S.trans h₁ h₂) hlatest₂

/-- `load` returns the contract. -/
theorem load_live (hread : S.Readable) (hsteady : S.Steady store c)
    (hs : Coherent store s) (hlatest : s.latest c.contractId = some c)
    {post : Except Error RecoveryContract → World → Prop}
    (h : ∀ s', Coherent store s' → S.rely s s' → s'.latest c.contractId = some c →
      post (.ok c) s') :
    wp (S.context store) (store.load c.contractId) post s := by
  refine (wp_bind _ _ _ _).mpr (wp_query_live hread fun s₁ hs₁ h₁ => ?_)
  have hlatest₁ := hsteady hs hs₁ h₁ hlatest
  obtain ⟨row, hrow, hdecode⟩ := hs₁.exists_row hlatest₁
  refine ⟨row, hrow, ?_⟩
  refine wp_pass hdecode (wp_met rfl ?_)
  refine (wp_bind _ _ _ _).mpr (verifyRelatedState_live hread hsteady hs₁ hlatest₁ ?_)
  exact fun s₂ hs₂ h₂ hlatest₂ => h s₂ hs₂ (S.trans h₁ h₂) hlatest₂

/-- `audit_events` returns the events of the contract. -/
theorem auditEvents_live (hlive : S.Live store) (hsteady : S.Steady store c)
    (hs : Coherent store s) (hlatest : s.latest c.contractId = some c)
    {post : Except Error (List AuditEvent) → World → Prop}
    (h : ∀ s', Coherent store s' → S.rely s s' → s'.latest c.contractId = some c →
      post (.ok ((s'.history c.contractId).map fun k => (store.auditRowOf k).event)) s') :
    wp (S.context store) (store.auditEvents c.contractId) post s := by
  refine (wp_bind _ _ _ _).mpr (wp_query_live hlive.readable fun s₁ hs₁ h₁ => ?_)
  have hlatest₁ := hsteady hs hs₁ h₁ hlatest
  obtain ⟨row, hrow, hdecode⟩ := hs₁.exists_row hlatest₁
  refine ⟨row, hrow, ?_⟩
  refine wp_pass hdecode ?_
  refine (wp_bind _ _ _ _).mpr (wp_query_live hlive.readable fun s₂ hs₂ h₂ => ⟨_, rfl, ?_⟩)
  have hlatest₂ := hsteady hs₁ hs₂ h₂ hlatest₁
  have h₂ := S.trans h₁ h₂
  refine wp_pass (Store.verifyReservation_ok hs₂.commits hs₂.represents hlatest₂) ?_
  refine (wp_bind _ _ _ _).mpr (wp_query_live hlive.readable fun s₃ hs₃ h₃ => ⟨_, rfl, ?_⟩)
  have hlatest₃ := hsteady hs₂ hs₃ h₃ hlatest₂
  refine wp_pass (Store.verifiedAuditRows_ok hs₃.commits hs₃.represents hlatest₃) ?_
  have hrows := h s₃ hs₃ (S.trans h₂ h₃) hlatest₃
  rw [← Function.comp_def, ← List.map_map] at hrows
  exact hrows

/-! ### Changing -/

/-- `_replace` commits. -/
theorem replace_live (hlive : S.Live store) (hsteady : S.Steady store c)
    (hs : Coherent store s) (hlatest : s.latest c.contractId = some c)
    {updated : RecoveryContract} {eventType : String} {checkedAt : Option DateTime}
    (hchange : Change (originOf (s.history c.contractId)) c eventType checkedAt
      updated.toContractFields)
    (hversion : updated.stateVersion < 2 ^ 63) (hevent : eventType.toList.length ≤ 1000)
    (hfree : ∀ s', Coherent store s' → S.rely s s' → isReservationState updated.state = true →
      isReservationState c.state = false → ∀ d ∈ contractsOf (commitsOf s'.trace),
        isReservationState d.state = true → d.targetIdentityDigest ≠ updated.targetIdentityDigest)
    (hjust : ∀ t, Justified (own call s.trace) ⟨call, some c, updated, eventType, t, checkedAt⟩)
    {post : Except Error RecoveryContract → World → Prop}
    (h : ∀ s' t, S.Commits store s s' ⟨call, some c, updated, eventType, t, checkedAt⟩ →
      post (.ok updated) s') :
    wp (S.context store) (store.replace call c updated eventType checkedAt) post s := by
  have hrecorded := recorded_of_latest hlatest
  refine replace_spec hrecorded hchange.updateOf ?_ hjust ?_ ?_
  · intro s' hs' hrely hlatest'
    have hsame := history_eq_of_latest hs' (S.frame hrely) hrecorded hlatest'
    exact hsame ▸ hchange
  · exact fun s' t hcommits => ⟨h s' t hcommits, fun hfaulty => absurd hfaulty hlive.not_faulty⟩
  · rintro s' e hs' hrely ⟨i, hi, hfails⟩
    exfalso
    have hfit := hlive hi
    obtain ⟨t, ht⟩ := hfit.recordClock
    obtain ⟨db, hdb⟩ := Store.exists_replaceBlock hs'.commits hs'.represents
      (hsteady hs hs' hrely hlatest) hchange.updateOf hfit.toUntroubled ht
      (hfit.cooldown updated.state) hversion hevent (hfree s' hs' hrely)
    rcases hfails with hfails | hfails
    · rw [hfit.sqlite] at hfails
      cases hfails
    · rw [hdb, ok_bind, hfit.toUntroubled.commitFailure] at hfails
      cases hfails

/-- A change that passes its guards is accepted by the constructor, given digests that are
digests and a confirmation within the validity window. -/
theorem Change.progressValid {origin : Option RecoveryState} {eventType : String}
    {checkedAt : Option DateTime} {d : ContractFields} (h : Change origin c eventType checkedAt d)
    (hdigest : ∀ x ∈ d.confirmationDigest, isHex64 x = true)
    (hfingerprint : ∀ x ∈ d.verifiedTargetFingerprint, isHex64 x = true)
    (hconfirmed : ∀ t ∈ d.confirmedAt, c.createdAt ≤ t ∧ t < c.expiresAt) : d.ProgressValid := by
  have hupdate := h.updateOf
  have hc := c.progressValid
  refine ⟨hdigest, hfingerprint, h.fingerprintConsistent, ?_, ?_, ?_⟩
  · have := hc.stateVersion
    have := hupdate.stateVersion
    omega
  · rcases hupdate.confirmation with ⟨h₁, h₂⟩ | ⟨-, -, h₃, h₄, -⟩
    · rw [h₁, h₂]
      exact hc.confirmed
    · exact iff_of_false h₃ h₄
  · rw [hupdate.sameIdentity.createdAt, hupdate.sameIdentity.expiresAt]
    exact hconfirmed

/-- The tail of an operation that builds the updated contract and replaces the loaded one. -/
theorem construct_live (hlive : S.Live store) (hsteady : S.Steady store c)
    (hs : Coherent store s) (hlatest : s.latest c.contractId = some c)
    {fields : ContractFields} {eventType : String} {checkedAt : Option DateTime}
    (hchange : Change (originOf (s.history c.contractId)) c eventType checkedAt fields)
    (hprogress : fields.ProgressValid)
    (hversion : c.stateVersion + 1 < 2 ^ 63) (hevent : eventType.toList.length ≤ 1000)
    (hfree : ∀ s', Coherent store s' → S.rely s s' → isReservationState fields.state = true →
      isReservationState c.state = false → ∀ d ∈ contractsOf (commitsOf s'.trace),
        isReservationState d.state = true → d.targetIdentityDigest ≠ c.targetIdentityDigest)
    (hjust : ∀ k : Commit, k.call = call → k.before = some c →
      k.after.toContractFields = fields → Justified (own call s.trace) k)
    {post : Except Error RecoveryContract → World → Prop}
    (h : ∀ s' k, S.Commits store s s' k → k.before = some c →
      k.after.toContractFields = fields → post (.ok k.after) s') :
    wp (S.context store) (do
      let updated ← Op.check (RecoveryContract.ofFields fields)
      store.replace call c updated eventType checkedAt) post s := by
  have hupdate := hchange.updateOf
  obtain ⟨updated, hupdated, hfields⟩ :=
    RecoveryContract.exists_ofFields hupdate.sameIdentity hprogress
  have hdigest : updated.targetIdentityDigest = c.targetIdentityDigest := by
    rw [hfields]
    exact hupdate.sameIdentity.targetIdentityDigest
  refine wp_pass hupdated ?_
  refine replace_live hlive hsteady hs hlatest (hfields ▸ hchange) ?_ hevent ?_ ?_ ?_
  · rw [hfields, hupdate.stateVersion]
    exact hversion
  · rw [hdigest, hfields]
    exact hfree
  · exact fun t => hjust ⟨_, _, _, _, _, _⟩ rfl rfl hfields
  · exact fun s' t hcommits => h s' _ hcommits rfl hfields

/-- `transition` out of a state other than `RECONCILIATION` and into one other than `EXECUTING`
commits. -/
theorem transition_live (hlive : S.Live store) (hsteady : S.Steady store c)
    (hs : Coherent store s) (hlatest : s.latest c.contractId = some c)
    {targetState : RecoveryState} {executionPolicy : Option ExecutionSecurityPolicy}
    {eventType : String} (named : eventType ≠ "") (hevent : eventType.toList.length ≤ 1000)
    (legal : requireTransition c.state targetState false = .ok ())
    (ne_verified : targetState ≠ verified) (ne_rolledBack : targetState ≠ rolledBack)
    (ne_executing : targetState ≠ executing)
    (unexpired : ∀ {i s s' t}, S.permit i s s' → i.clock = some t →
      (c.state = preparing ∨ c.state = prepared) → c.isExpired t = true → targetState = expired)
    (hversion : c.stateVersion + 1 < 2 ^ 63)
    (hfree : ∀ s', Coherent store s' → S.rely s s' → isReservationState targetState = true →
      isReservationState c.state = false → ∀ d ∈ contractsOf (commitsOf s'.trace),
        isReservationState d.state = true → d.targetIdentityDigest ≠ c.targetIdentityDigest)
    (hjust : ∀ k : Commit, k.call = call →
      Moves c.contractId c.state c.stateVersion targetState k → Justified (own call s.trace) k)
    {post : Except Error RecoveryContract → World → Prop}
    (h : ∀ s' k, S.Commits store s s' k → k.before = some c →
      k.after.toContractFields = Store.moved c targetState → post (.ok k.after) s') :
    wp (S.context store) (store.transition call c.contractId c.state c.stateVersion targetState
      executionPolicy eventType) post s := by
  refine wp_met named (wp_pass legal (wp_met ne_verified (wp_met ne_rolledBack ?_)))
  refine (wp_bind _ _ _ _).mpr (load_live hlive.readable hsteady hs hlatest fun s₁ hs₁ h₁ hlatest₁ => ?_)
  refine wp_met ⟨rfl, rfl⟩ ?_
  refine (wp_bind _ _ _ _).mpr (now_live hlive fun s₂ i instant hs₂ h₂ hi hclock => ?_)
  have hlatest₂ := hsteady hs₁ hs₂ h₂ hlatest₁
  have h₂ := S.trans h₁ h₂
  have hunexpired := unexpired hi hclock
  refine wp_met hunexpired ?_
  have henter : store.enterExecuting c targetState instant executionPolicy = pure () := by
    unfold Store.enterExecuting
    rw [if_neg ne_executing]
  rw [henter]
  have hchange : Change (originOf (s₂.history c.contractId)) c eventType (some instant)
      (Store.moved c targetState) :=
    .transition legal ne_verified ne_rolledBack hunexpired (fun h => absurd h ne_executing) named
  have hprogress := hchange.progressValid c.progressValid.confirmationDigest
    c.progressValid.verifiedTargetFingerprint c.progressValid.confirmedAt
  refine construct_live hlive hsteady hs₂ hlatest₂ hchange hprogress hversion hevent ?_ ?_ ?_
  · exact fun s' hs' hrely => hfree s' hs' (S.trans h₂ hrely)
  · intro k hcall hbefore hfields
    rw [(S.frame h₂).own]
    exact hjust k hcall ⟨⟨c, hbefore, rfl, rfl, rfl⟩, by rw [hfields]; rfl, by rw [hfields]; rfl⟩
  · exact fun s' k hcommits => h s' k (hcommits.of_rely h₂)

/-- `mark_execution_verified` commits. -/
theorem markExecutionVerified_live (hlive : S.Live store) (hsteady : S.Steady store c)
    (hs : Coherent store s) (hlatest : s.latest c.contractId = some c)
    (isExecuting : c.state = executing) {fingerprint : String}
    (hfingerprint : isHex64 fingerprint = true) (hversion : c.stateVersion + 1 < 2 ^ 63)
    (hjust : ∀ k : Commit, k.call = call →
      Moves c.contractId executing c.stateVersion verified k → Justified (own call s.trace) k)
    {post : Except Error RecoveryContract → World → Prop}
    (h : ∀ s' k, S.Commits store s s' k → k.before = some c →
      k.after.toContractFields = Store.sealed c fingerprint → post (.ok k.after) s') :
    wp (S.context store) (store.markExecutionVerified call c.contractId c.stateVersion fingerprint
      c.lifecycleLocator) post s := by
  refine (wp_bind _ _ _ _).mpr (load_live hlive.readable hsteady hs hlatest fun s₁ hs₁ h₁ hlatest₁ => ?_)
  refine wp_met ⟨isExecuting, rfl⟩ (wp_met rfl ?_)
  have hchange : Change (originOf (s₁.history c.contractId)) c "state_transition" none
      (Store.sealed c fingerprint) := .verification isExecuting
  have hprogress := hchange.progressValid c.progressValid.confirmationDigest
    (fun x hx => by cases hx; exact hfingerprint) c.progressValid.confirmedAt
  refine construct_live hlive hsteady hs₁ hlatest₁ hchange hprogress hversion (by decide) ?_ ?_ ?_
  · exact fun _ _ _ hreserved => by cases hreserved
  · intro k hcall hbefore hfields
    rw [(S.frame h₁).own]
    exact hjust k hcall ⟨⟨c, hbefore, rfl, isExecuting, rfl⟩, by rw [hfields]; rfl,
      by rw [hfields]; rfl⟩
  · exact fun s' k hcommits => h s' k (hcommits.of_rely h₁)

/-- `mark_rollback_verified` commits. -/
theorem markRollbackVerified_live (hlive : S.Live store) (hsteady : S.Steady store c)
    (hs : Coherent store s) (hlatest : s.latest c.contractId = some c)
    (isRollingBack : c.state = rollingBack) (hversion : c.stateVersion + 1 < 2 ^ 63)
    (hjust : ∀ k : Commit, k.call = call →
      Moves c.contractId rollingBack c.stateVersion rolledBack k → Justified (own call s.trace) k)
    {post : Except Error RecoveryContract → World → Prop}
    (h : ∀ s' k, S.Commits store s s' k → k.before = some c →
      k.after.toContractFields = Store.moved c rolledBack → post (.ok k.after) s') :
    wp (S.context store) (store.markRollbackVerified call c.contractId c.stateVersion
      c.lifecycleLocator) post s := by
  refine (wp_bind _ _ _ _).mpr (load_live hlive.readable hsteady hs hlatest fun s₁ hs₁ h₁ hlatest₁ => ?_)
  refine wp_met ⟨isRollingBack, rfl⟩ (wp_met rfl ?_)
  have hchange : Change (originOf (s₁.history c.contractId)) c "state_transition" none
      (Store.moved c rolledBack) := .rollbackVerification isRollingBack
  have hprogress := hchange.progressValid c.progressValid.confirmationDigest
    c.progressValid.verifiedTargetFingerprint c.progressValid.confirmedAt
  refine construct_live hlive hsteady hs₁ hlatest₁ hchange hprogress hversion (by decide) ?_ ?_ ?_
  · exact fun _ _ _ hreserved => by cases hreserved
  · intro k hcall hbefore hfields
    rw [(S.frame h₁).own]
    exact hjust k hcall ⟨⟨c, hbefore, rfl, isRollingBack, rfl⟩, by rw [hfields]; rfl,
      by rw [hfields]; rfl⟩
  · exact fun s' k hcommits => h s' k (hcommits.of_rely h₁)

/-- `create` commits a contract with new identifiers, an idempotency key that is not in use, and a
validity window that the clock is in. -/
theorem create_live (hlive : S.Live store)
    (isPreparing : c.state = preparing) (isFirst : c.stateVersion = 0)
    (unconfirmed : c.isConfirmed = false)
    (hwindow : ∀ {i s s' t}, S.permit i s s' → i.clock = some t →
      c.createdAt ≤ t ∧ c.isExpired t = false)
    (hfresh : ∀ s', Coherent store s' → S.rely s s' → ∀ d ∈ contractsOf (commitsOf s'.trace),
      d.contractId ≠ c.contractId ∧ d.operationId ≠ c.operationId ∧
        (blocksFreshIdempotencyAttempt d.state = true → d.idempotencyKey ≠ c.idempotencyKey))
    (hallowed : ∀ s' t, Coherent store s' → S.rely s s' →
      store.checkPrepareAllowed s'.db c t = .ok ())
    (hunsent : Unsent call s) {post : Except Error Unit → World → Prop}
    (h : ∀ s' k, S.Commits store s s' k → k.before = none → k.after = c → post (.ok ()) s') :
    wp (S.context store) (store.create call c) post s := by
  refine wp_met ⟨isPreparing, isFirst, unconfirmed⟩ ?_
  refine (wp_bind _ _ _ _).mpr (now_live hlive fun s₁ i instant hs₁ h₁ hi hclock => ?_)
  refine wp_met (hwindow hi hclock) ?_
  refine (wp_bind _ _ _ _).mpr (transact_spec (fun _ => rfl) ?_ ?_ ?_ ?_)
  · intro s₂ i db t hs₂ _ hblock
    obtain ⟨hnone, hunblocked, hrep⟩ := Store.createBlock_ok hs₂.commits hs₂.represents
      isPreparing hblock call (some instant)
    exact ⟨.creation isPreparing isFirst unconfirmed hnone hunblocked, hrep⟩
  · exact fun t => (hunsent.of_rely h₁).justified rfl
  · exact fun s' t hcommits => ⟨h s' _ (hcommits.of_rely h₁) rfl rfl,
      fun hfaulty => absurd hfaulty hlive.not_faulty⟩
  · rintro s₂ e hs₂ h₂ ⟨i, hi, hfails⟩
    exfalso
    have hfit := hlive hi
    obtain ⟨t, ht⟩ := hfit.recordClock
    obtain ⟨db, hdb⟩ := Store.exists_createBlock hs₂.commits hs₂.represents isFirst
      (hfresh s₂ hs₂ (S.trans h₁ h₂)) hfit.toUntroubled ht
      (hallowed s₂ instant hs₂ (S.trans h₁ h₂))
    rcases hfails with hfails | hfails
    · rw [hfit.sqlite] at hfails
      cases hfails
    · rw [hdb, ok_bind, hfit.toUntroubled.commitFailure] at hfails
      cases hfails

/-- The verifier accepts. -/
def Accepting (S : Setting call) : Prop := ∀ {i s s'}, S.permit i s s' → i.verdict = some true

theorem verify_live (haccepts : Accepting S) {missing failing refused : String}
    {post : Except Error Unit → World → Prop}
    (h : ∀ s', Coherent store s' → S.rely s s' → post (.ok ()) s') :
    wp (S.context store) (Store.verify true missing failing refused) post s := by
  refine wp_met rfl (wp_atomic fun s' hs' hrely i hi => ⟨hs', .inl (.refl s'), ?_⟩)
  dsimp only
  rw [haccepts hi]
  exact h s' hs' hrely

/-- `confirm` commits. -/
theorem confirm_live (hlive : S.Live store) (hsteady : S.Steady store c)
    (haccepts : Accepting S) (hverifier : store.hasConfirmationVerifier = true)
    (hs : Coherent store s) (hlatest : s.latest c.contractId = some c)
    (isPrepared : c.state = prepared) (unconfirmed : c.isConfirmed = false)
    (hwindow : ∀ {i s s' t}, S.permit i s s' → i.clock = some t →
      c.createdAt ≤ t ∧ c.isExpired t = false)
    {evidence : ConfirmationEvidence} (hbindings : evidence.verifyBindings c = .ok ())
    {digest : String} (hdigest : evidence.evidenceDigest = .ok digest)
    {code : String} (hcode : ∀ t, c.withConfirmation evidence.authorityId digest t =
      RecoveryContract.ofFields (confirmed c code t)) (hhex : isHex64 code = true)
    (hversion : c.stateVersion + 1 < 2 ^ 63) (hunsent : Unsent call s)
    {post : Except Error RecoveryContract → World → Prop}
    (h : ∀ s' k t, S.Commits store s s' k → k.before = some c →
      k.after.toContractFields = confirmed c code t → post (.ok k.after) s') :
    wp (S.context store) (store.confirm call c.contractId evidence c.stateVersion) post s := by
  refine (wp_bind _ _ _ _).mpr (load_live hlive.readable hsteady hs hlatest fun s₁ hs₁ h₁ hlatest₁ => ?_)
  refine wp_met rfl ?_
  refine (wp_bind _ _ _ _).mpr (now_live hlive fun s₂ i instant hs₂ h₂ hi hclock => ?_)
  obtain ⟨hcreated, unexpired⟩ := hwindow hi hclock
  have hlatest₂ := hsteady hs₁ hs₂ h₂ hlatest₁
  have h₂ := S.trans h₁ h₂
  refine wp_met unexpired (wp_pass hbindings ?_)
  rw [hverifier]
  refine (wp_bind _ _ _ _).mpr (verify_live haccepts fun s₃ hs₃ h₃ => ?_)
  have hlatest₃ := hsteady hs₂ hs₃ h₃ hlatest₂
  have h₃ := S.trans h₂ h₃
  refine wp_pass hdigest ?_
  rw [hcode]
  have hchange : Change (originOf (s₃.history c.contractId)) c "contract_confirmed" (some instant)
      (confirmed c code instant) := .confirmation isPrepared unconfirmed unexpired
  have hprogress := hchange.progressValid (fun x hx => by cases hx; exact hhex)
    c.progressValid.verifiedTargetFingerprint
    (fun t ht => by
      cases ht
      exact ⟨hcreated, Nat.lt_of_not_le (of_decide_eq_false unexpired)⟩)
  refine construct_live hlive hsteady hs₃ hlatest₃ hchange hprogress hversion (by decide) ?_ ?_ ?_
  · intro _ _ _ hreserved
    have hstate : (confirmed c code instant).state = prepared := isPrepared
    rw [hstate] at hreserved
    cases hreserved
  · exact fun k hcall _ _ => (hunsent.of_rely h₃).justified hcall
  · exact fun s' k hcommits => h s' k instant (hcommits.of_rely h₃)

/-- Without an anchor, the gate of `EXECUTING` only asks the rate policy. -/
theorem executingGate_live (hlive : S.Live store) (hanchor : store.hasAnchor = false)
    {policy : ExecutionSecurityPolicy}
    (hallowed : ∀ s', Coherent store s' → S.rely s s' → store.checkExecuteAllowed s'.db = .ok ())
    {post : Except Error Unit → World → Prop}
    (h : ∀ s', Coherent store s' → S.rely s s' → post (.ok ()) s') :
    wp (S.context store) (store.executingGate policy) post s := by
  intro s' hs' hrely i hi
  dsimp only at hi ⊢
  -- that nothing fails is known once the step is permitted
  have hfit := hlive hi
  simp only [hfit.sqlite, hanchor, Bool.false_eq_true, false_and, if_false, ok_bind,
    hallowed s' hs' hrely, hfit.toUntroubled.commitFailure] at hi ⊢
  exact ⟨hs', S.guar_of hi (.inl (.refl s')), h s' hs' hrely⟩

/-- `transition` into `EXECUTING` commits, where no anchor is configured and the rate policy
allows it. -/
theorem transition_executing_live (hlive : S.Live store) (hsteady : S.Steady store c)
    (hanchor : store.hasAnchor = false)
    (hallowed : ∀ s', Coherent store s' → S.rely s s' → store.checkExecuteAllowed s'.db = .ok ())
    (hs : Coherent store s) (hlatest : s.latest c.contractId = some c)
    (isPrepared : c.state = prepared) (isConfirmed : c.isConfirmed = true)
    (unexpired : ∀ {i s s' t}, S.permit i s s' → i.clock = some t → c.isExpired t = false)
    {policy : ExecutionSecurityPolicy} {eventType : String} (named : eventType ≠ "")
    (hevent : eventType.toList.length ≤ 1000) (hversion : c.stateVersion + 1 < 2 ^ 63)
    (hfree : ∀ s', Coherent store s' → S.rely s s' → ∀ d ∈ contractsOf (commitsOf s'.trace),
      isReservationState d.state = true → d.targetIdentityDigest ≠ c.targetIdentityDigest)
    (hjust : ∀ k : Commit, k.call = call →
      Moves c.contractId prepared c.stateVersion executing k → Justified (own call s.trace) k)
    {post : Except Error RecoveryContract → World → Prop}
    (h : ∀ s' k, S.Commits store s s' k → k.before = some c →
      k.after.toContractFields = Store.moved c executing → post (.ok k.after) s') :
    wp (S.context store) (store.transition call c.contractId prepared c.stateVersion executing
      (some policy) eventType) post s := by
  have legal : requireTransition c.state executing false = .ok () := by
    rw [isPrepared]
    rfl
  refine wp_met named (wp_pass (isPrepared ▸ legal) (wp_met nofun (wp_met nofun ?_)))
  refine (wp_bind _ _ _ _).mpr (load_live hlive.readable hsteady hs hlatest fun s₁ hs₁ h₁ hlatest₁ => ?_)
  refine wp_met ⟨isPrepared, rfl⟩ ?_
  refine (wp_bind _ _ _ _).mpr (now_live hlive fun s₂ i instant hs₂ h₂ hi hclock => ?_)
  have hlatest₂ := hsteady hs₁ hs₂ h₂ hlatest₁
  have h₂ := S.trans h₁ h₂
  have hunexpired := unexpired hi hclock
  have hexpired : c.state = preparing ∨ c.state = prepared → c.isExpired instant = true →
      executing = expired := by
    intro _ h
    rw [hunexpired] at h
    cases h
  refine wp_met hexpired ?_
  -- what is left after the gate, whether the gate is run or not
  have htail : ∀ s₃, Coherent store s₃ → S.rely s s₃ → wp (S.context store) (do
      let updated ← Op.check (RecoveryContract.ofFields (Store.moved c executing))
      store.replace call c updated eventType (some instant)) post s₃ := by
    intro s₃ hs₃ h₃
    have hlatest₃ := hsteady hs hs₃ h₃ hlatest
    have hchange : Change (originOf (s₃.history c.contractId)) c eventType (some instant)
        (Store.moved c executing) :=
      .transition legal nofun nofun hexpired (fun _ => ⟨isConfirmed, hunexpired⟩) named
    have hprogress := hchange.progressValid c.progressValid.confirmationDigest
      c.progressValid.verifiedTargetFingerprint c.progressValid.confirmedAt
    refine construct_live hlive hsteady hs₃ hlatest₃ hchange hprogress hversion hevent ?_ ?_ ?_
    · exact fun s' hs' hrely _ _ => hfree s' hs' (S.trans h₃ hrely)
    · intro k hcall hbefore hfields
      rw [(S.frame h₃).own]
      exact hjust k hcall ⟨⟨c, hbefore, rfl, isPrepared, rfl⟩, by rw [hfields]; rfl,
        by rw [hfields]; rfl⟩
    · exact fun s' k hcommits => h s' k (hcommits.of_rely h₃)
  refine (wp_bind _ _ _ _).mpr ?_
  unfold Store.enterExecuting
  rw [if_pos rfl]
  refine wp_met ⟨isConfirmed, hunexpired⟩ ?_
  dsimp only
  split_ifs
  · exact executingGate_live hlive hanchor
      (fun s' hs' hrely => hallowed s' hs' (S.trans h₂ hrely))
      fun s₃ hs₃ h₃ => htail s₃ hs₃ (S.trans h₂ h₃)
  · exact htail s₂ hs₂ h₂

/-- `rotate_artifacts` commits. -/
theorem rotateArtifacts_live (hlive : S.Live store) (hsteady : S.Steady store c)
    (hs : Coherent store s) (hlatest : s.latest c.contractId = some c)
    {targetIdentity intent snapshot : ProtectedArtifact} (hversion : c.stateVersion + 1 < 2 ^ 63)
    (hunsent : Unsent call s) {post : Except Error RecoveryContract → World → Prop}
    (h : ∀ s' k, S.Commits store s s' k → k.before = some c →
      k.after.toContractFields = Store.rotated c targetIdentity intent snapshot →
      post (.ok k.after) s') :
    wp (S.context store) (store.rotateArtifacts call c.contractId c.stateVersion targetIdentity
      intent snapshot) post s := by
  refine (wp_bind _ _ _ _).mpr (load_live hlive.readable hsteady hs hlatest fun s₁ hs₁ h₁ hlatest₁ => ?_)
  refine wp_met rfl ?_
  have hchange : Change (originOf (s₁.history c.contractId)) c "artifacts_rotated" none
      (Store.rotated c targetIdentity intent snapshot) := .rotation
  have hprogress := hchange.progressValid c.progressValid.confirmationDigest
    c.progressValid.verifiedTargetFingerprint c.progressValid.confirmedAt
  refine construct_live hlive hsteady hs₁ hlatest₁ hchange hprogress hversion (by decide) ?_ ?_ ?_
  · intro s' _ _ hreserved hnot
    have hstate : (Store.rotated c targetIdentity intent snapshot).state = c.state := rfl
    rw [hstate, hnot] at hreserved
    cases hreserved
  · exact fun k hcall _ _ => (hunsent.of_rely h₁).justified hcall
  · exact fun s' k hcommits => h s' k (hcommits.of_rely h₁)

end Live

end Tier1
