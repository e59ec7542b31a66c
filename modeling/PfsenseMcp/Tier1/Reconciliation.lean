import Mathlib.Data.Int.Notation
import Mathlib.Data.Nat.Notation
import PfsenseMcp.Tier1.Fleet

/-!
# Resolving a reconciliation

A contract leaves `RECONCILIATION` by `resolve_reconciliation` only. Where its uncertainty came
from is not stored: the operation takes it from the previous state of the last audit event. That
event is the one by which the contract entered `RECONCILIATION`, unless its artifacts were rotated
since. A rotation is an event of its own, whose previous state is `RECONCILIATION`, and no outcome
is accepted after it.

## Main results

* `origin_of_lingers`, `enteredFrom_of_not_lingers`: what the last event names, with and without a
  rotation;
* `resolvable_iff_not_lingers`: a contract can be resolved exactly where none has taken place;
* `not_resolvable_sample`: a run that leaves a contract behind for good.
-/

namespace Tier1

open Python Concurrency Procedure RecoveryState

section Model

variable [Platform]

/-! ### Where the uncertainty came from -/

/-- The state from which a contract entered the state that it is in. -/
def enteredFrom (history : List Commit) : Option RecoveryState :=
  originOf (history.filter fun k => k.changes fun c => c.state)

/-- The commit finds a contract in `RECONCILIATION` and leaves it there. -/
def Commit.Lingers (k : Commit) : Prop :=
  k.before.map (fun c => c.state) = some reconciliation ∧ k.after.state = reconciliation

section History

variable {history : List Commit} {k : Commit} {c : RecoveryContract}

theorem Commit.lingers_iff (hbefore : k.before = some c) :
    k.Lingers ↔ c.state = reconciliation ∧ k.after.state = reconciliation := by
  rw [Commit.Lingers, hbefore, Option.map_some, Option.some.injEq]

theorem enteredFrom_append_of_ne (hbefore : k.before = some c) (hne : k.after.state ≠ c.state) :
    enteredFrom (history ++ [k]) = some c.state := by
  have hchanges : k.changes (fun c => c.state) = true := by
    simpa [Commit.changes, hbefore] using hne
  have hfilter : [k].filter (fun k => k.changes fun c => c.state) = [k] := by
    simp [hchanges]
  rw [enteredFrom, List.filter_append, hfilter]
  exact originOf_append _ hbefore

end History

/-- What finds a contract in `RECONCILIATION` is a resolution in line with the origin, or a
rotation. -/
theorem Change.of_reconciliation {origin : Option RecoveryState} {c : RecoveryContract}
    {eventType : String} {checkedAt : Option DateTime} {d : ContractFields}
    (h : Change origin c eventType checkedAt d) (hstate : c.state = reconciliation) :
    (d.state ≠ reconciliation ∧ (origin = some executing ∨ origin = some rollingBack)) ∨
      (d.state = reconciliation ∧ eventType = "artifacts_rotated") := by
  cases h with
  | transition legal =>
    exact absurd hstate (ne_reconciliation_of_requireTransition legal)
  | confirmation isPrepared =>
    rw [isPrepared] at hstate
    cases hstate
  | verification isExecuting =>
    rw [isExecuting] at hstate
    cases hstate
  | rollbackVerification isRollingBack =>
    rw [isRollingBack] at hstate
    cases hstate
  | @resolution evidence _ boundary =>
    refine .inl ⟨?_, boundary.imp And.left And.left⟩
    change evidence.outcome.targetState ≠ reconciliation
    cases evidence.outcome <;> exact nofun
  | rotation => exact .inr ⟨hstate, rfl⟩

section Origin

variable {commits : List Commit} (h : Lawful LawfulCommit commits) {contractId : String}
  {c : RecoveryContract} (hc : latestOf commits contractId = some c)

include h hc

/-- Whatever leaves a contract in `RECONCILIATION` is a rotation of its artifacts. -/
theorem eventType_of_lingers {k : Commit} (hk : k ∈ historyOf commits contractId)
    (hlingers : k.Lingers) : k.eventType = "artifacts_rotated" := by
  revert k
  refine history_induction h (P := fun history _ =>
    ∀ {k}, k ∈ history → k.Lingers → k.eventType = "artifacts_rotated") ?_ ?_ hc
  · intro k hbefore _ _ _ _ k' hk' hlingers
    rw [List.mem_singleton.mp hk', Commit.Lingers, hbefore] at hlingers
    cases hlingers.1
  · intro past k d _ hbefore _ hchange ih k' hk' hlingers
    rcases List.mem_append.mp hk' with hk' | hk'
    · exact ih hk' hlingers
    · rw [List.mem_singleton.mp hk'] at hlingers ⊢
      obtain ⟨hstate, hafter⟩ := (Commit.lingers_iff hbefore).mp hlingers
      rcases hchange.of_reconciliation hstate with ⟨hne, -⟩ | ⟨-, hevent⟩
      · exact absurd hafter hne
      · exact hevent

/-- Once a contract was left in `RECONCILIATION`, it stays there, and the last event names that
state. -/
theorem origin_of_lingers (hlingers : ∃ k ∈ historyOf commits contractId, k.Lingers) :
    c.state = reconciliation ∧
      originOf (historyOf commits contractId) = some reconciliation := by
  revert hlingers
  refine history_induction h (P := fun history c => (∃ k ∈ history, k.Lingers) →
    c.state = reconciliation ∧ originOf history = some reconciliation) ?_ ?_ hc
  · rintro k hbefore _ _ _ _ ⟨k', hk', hlingers⟩
    rw [List.mem_singleton.mp hk', Commit.Lingers, hbefore] at hlingers
    cases hlingers.1
  · rintro past k d _ hbefore _ hchange ih ⟨k', hk', hlingers⟩
    rw [originOf_append _ hbefore]
    rcases List.mem_append.mp hk' with hk' | hk'
    · -- the origin is no boundary any more, so that the next change is a rotation again
      obtain ⟨hstate, horigin⟩ := ih ⟨k', hk', hlingers⟩
      rcases hchange.of_reconciliation hstate with ⟨-, hboundary⟩ | ⟨hafter, -⟩
      · rw [horigin] at hboundary
        rcases hboundary with hboundary | hboundary <;> cases hboundary
      · exact ⟨hafter, congrArg some hstate⟩
    · rw [List.mem_singleton.mp hk'] at hlingers
      obtain ⟨hstate, hafter⟩ := (Commit.lingers_iff hbefore).mp hlingers
      exact ⟨hafter, congrArg some hstate⟩

/-- Otherwise the last event is the one by which the contract entered `RECONCILIATION`. -/
theorem enteredFrom_of_not_lingers (hstate : c.state = reconciliation)
    (hnever : ∀ k ∈ historyOf commits contractId, ¬k.Lingers) :
    enteredFrom (historyOf commits contractId) = originOf (historyOf commits contractId) ∧
      (originOf (historyOf commits contractId) = some executing ∨
        originOf (historyOf commits contractId) = some rollingBack) := by
  revert hstate hnever
  refine history_induction h (P := fun history c => c.state = reconciliation →
    (∀ k ∈ history, ¬k.Lingers) → enteredFrom history = originOf history ∧
      (originOf history = some executing ∨ originOf history = some rollingBack)) ?_ ?_ hc
  · intro k _ hpreparing _ _ _ hstate
    rw [hpreparing] at hstate
    cases hstate
  · intro past k d _ hbefore _ hchange _ hstate hnever
    have hne : d.state ≠ reconciliation := fun hd =>
      hnever k (List.mem_append_right _ (List.mem_singleton_self k))
        ((Commit.lingers_iff hbefore).mpr ⟨hd, hstate⟩)
    rw [enteredFrom_append_of_ne hbefore (by rw [hstate]; exact hne.symm),
      originOf_append _ hbefore]
    refine ⟨rfl, ?_⟩
    rcases hchange.updateOf.state with hsame | ⟨rule, hrule⟩
    · exact absurd (hsame.symm.trans hstate) hne
    · rw [hstate] at hrule
      cases hd : d.state <;> simp_all [legalTransitions]

end Origin

/-! ### What a resolution does -/

/-- An outcome is in line with the state that the uncertainty came from. -/
def Fits (origin : Option RecoveryState) (outcome : ReconciliationOutcome) : Prop :=
  origin = some executing ∧ outcome.isForward = true ∨
    origin = some rollingBack ∧ outcome.isRollback = true

section Resolve

variable {store : Store} {call : ℕ} {S : Setting call} {s : World} {c : RecoveryContract}
  {evidence : ReconciliationEvidence} {post : Except Error RecoveryContract → World → Prop}

omit [Platform] in
/-- The two checks of the boundary. -/
theorem fits_iff {origin : Option RecoveryState} {outcome : ReconciliationOutcome} :
    Fits origin outcome ↔
      ((origin = some executing → outcome.isForward = true) ∧
        (origin = some rollingBack → outcome.isRollback = true)) ∧
      (origin = some executing ∨ origin = some rollingBack) := by
  constructor
  · rintro (⟨rfl, houtcome⟩ | ⟨rfl, houtcome⟩)
    · exact ⟨⟨fun _ => houtcome, nofun⟩, .inl rfl⟩
    · exact ⟨⟨nofun, fun _ => houtcome⟩, .inr rfl⟩
  · rintro ⟨⟨hforward, hrollback⟩, horigin | horigin⟩
    · exact .inl ⟨horigin, hforward horigin⟩
    · exact .inr ⟨horigin, hrollback horigin⟩

/-- A version that SQLite cannot store is not written. -/
theorem replace_refused {updated : RecoveryContract} {eventType : String}
    {checkedAt : Option DateTime} (hversion : 2 ^ 63 ≤ updated.stateVersion)
    (h : ∀ s' e, post (.error e) s') :
    wp (S.context store) (store.replace call c updated eventType checkedAt) post s := by
  refine wp_atomic fun s' hs' hrely i _ => ?_
  split
  · exact ⟨hs', .inl (.refl s'), h _ _⟩
  · split
    · exact ⟨hs', .inl (.refl s'), h _ _⟩
    · rename_i hdone
      exfalso
      simp only [bind_eq_ok] at hdone
      obtain ⟨_, hblock, -⟩ := hdone
      unfold Store.replaceBlock conflictOnIntegrity at hblock
      split at hblock
      · rename_i hdone
        simp only [bind_eq_ok, Database.bindInteger, demand_eq_ok] at hdone
        obtain ⟨_, -, _, -, _, -, _, -, _, -, _, -, _, ⟨-, hsmall⟩, -⟩ := hdone
        omega
      · split at hblock <;> cases hblock

/-- What `resolve_reconciliation` has read when it checks the outcome: the contract, and an audit
trail whose last event names the origin. -/
theorem resolve_read (hlive : S.Live store) (hsteady : S.Steady store c)
    (hs : Coherent store s) (hlatest : s.latest c.contractId = some c)
    (isReconciliation : c.state = reconciliation)
    (hrefused : ∀ s' e, ¬Fits (originOf (s.history c.contractId)) evidence.outcome →
      post (.error e) s')
    (h : ∀ s', Coherent store s' → S.rely s s' → s'.latest c.contractId = some c →
      Fits (originOf (s'.history c.contractId)) evidence.outcome →
      wp (S.context store) (do
        Op.check (evidence.verifyBindings c.contractId c.operationId c.stateVersion
          c.lifecycleLocator)
        Store.verify store.hasReconciliationVerifier "No reconciliation verifier is configured."
          "Reconciliation verification failed." "Reconciliation evidence was refused."
        Op.check (requireTransition c.state evidence.outcome.targetState true)
        let updated ← Op.check (RecoveryContract.ofFields (Store.resolved c evidence))
        store.replace call c updated "reconciliation_resolved" none) post s') :
    wp (S.context store) (store.resolveReconciliation call c.contractId evidence) post s := by
  refine (wp_bind _ _ _ _).mpr (load_live hlive.readable hsteady hs hlatest
    fun s₁ hs₁ h₁ hlatest₁ => ?_)
  refine wp_met isReconciliation ?_
  refine (wp_bind _ _ _ _).mpr (auditEvents_live hlive hsteady hs₁ hlatest₁
    fun s₂ hs₂ h₂ hlatest₂ => ?_)
  have h₂ := S.trans h₁ h₂
  have hhistory : s₂.history c.contractId = s.history c.contractId :=
    history_eq_of_latest hs₂ (S.frame h₂) (recorded_of_latest hlatest) hlatest₂
  rw [andThen_ok]
  dsimp only
  rw [origin_events]
  simp only [text_value_inj]
  by_cases hfits : Fits (originOf (s₂.history c.contractId)) evidence.outcome
  · obtain ⟨hboundary, horigin⟩ := fits_iff.mp hfits
    exact wp_met hboundary (wp_met horigin (h s₂ hs₂ h₂ hlatest₂ hfits))
  · have hnot : ∀ e, post (.error e) s₂ := fun e => hrefused s₂ e (hhistory ▸ hfits)
    refine wp_demand hnot fun hboundary => wp_demand hnot fun horigin => ?_
    exact absurd (fits_iff.mpr ⟨hboundary, horigin⟩) hfits

/-- `resolve_reconciliation` raises on an outcome that does not fit, and on a version that SQLite
cannot count up. -/
theorem resolveReconciliation_refused (hlive : S.Live store) (hsteady : S.Steady store c)
    (hs : Coherent store s) (hlatest : s.latest c.contractId = some c)
    (isReconciliation : c.state = reconciliation)
    (hrefused : Fits (originOf (s.history c.contractId)) evidence.outcome →
      2 ^ 63 ≤ c.stateVersion + 1)
    (h : ∀ s' e, post (.error e) s') :
    wp (S.context store) (store.resolveReconciliation call c.contractId evidence) post s := by
  refine resolve_read hlive hsteady hs hlatest isReconciliation (fun s' e _ => h s' e) ?_
  intro s₁ hs₁ h₁ hlatest₁ hfits
  have hhistory : s₁.history c.contractId = s.history c.contractId :=
    history_eq_of_latest hs₁ (S.frame h₁) (recorded_of_latest hlatest) hlatest₁
  have hversion := hrefused (hhistory ▸ hfits)
  refine wp_check (fun e _ => h s₁ e) fun _ _ => ?_
  refine (wp_bind _ _ _ _).mpr (verify_spec (fun s₂ r hs₂ h₂ => ?_) hs₁)
  cases r with
  | error e => exact h s₂ e
  | ok _ =>
    refine wp_check (fun e _ => h s₂ e) fun _ _ => ?_
    refine wp_check (fun e _ => h s₂ e) fun updated hupdated => ?_
    have hfields := RecoveryContract.ofFields_eq_ok.mp hupdated
    refine replace_refused ?_ h
    rw [hfields]
    exact hversion

/-- `resolve_reconciliation` commits an outcome that fits. -/
theorem resolveReconciliation_live (hlive : S.Live store) (hsteady : S.Steady store c)
    (haccepts : Accepting S) (hverifier : store.hasReconciliationVerifier = true)
    (hs : Coherent store s) (hlatest : s.latest c.contractId = some c)
    (isReconciliation : c.state = reconciliation)
    (hfits : Fits (originOf (s.history c.contractId)) evidence.outcome)
    (hbindings : evidence.verifyBindings c.contractId c.operationId c.stateVersion
      c.lifecycleLocator = .ok ())
    (hversion : c.stateVersion + 1 < 2 ^ 63) (hunsent : Unsent call s)
    (h : ∀ s' k, S.Commits store s s' k → k.before = some c →
      k.after.toContractFields = Store.resolved c evidence → post (.ok k.after) s') :
    wp (S.context store) (store.resolveReconciliation call c.contractId evidence) post s := by
  refine resolve_read hlive hsteady hs hlatest isReconciliation
    (fun s' e hnot => absurd hfits hnot) ?_
  intro s₁ hs₁ h₁ hlatest₁ hfits₁
  refine wp_pass hbindings ?_
  rw [hverifier]
  refine (wp_bind _ _ _ _).mpr (verify_live haccepts fun s₂ hs₂ h₂ => ?_)
  have hlatest₂ := hsteady hs₁ hs₂ h₂ hlatest₁
  have hhistory : s₂.history c.contractId = s₁.history c.contractId :=
    history_eq_of_latest hs₂ (S.frame h₂) (recorded_of_latest hlatest₁) hlatest₂
  have h₂ := S.trans h₁ h₂
  have hchange : Change (originOf (s₂.history c.contractId)) c "reconciliation_resolved" none
      (Store.resolved c evidence) := .resolution isReconciliation (hhistory ▸ hfits₁)
  have hfingerprint : ∀ x ∈ (Store.resolved c evidence).verifiedTargetFingerprint,
      isHex64 x = true := by
    intro x hx
    unfold Store.resolved at hx
    dsimp only at hx
    split at hx
    · rename_i happlied
      obtain ⟨d, hd, hhex⟩ := evidence.fingerprint_of_applied happlied
      cases hd.symm.trans hx
      exact hhex
    · exact c.progressValid.verifiedTargetFingerprint x hx
  have hprogress := hchange.progressValid c.progressValid.confirmationDigest hfingerprint
    c.progressValid.confirmedAt
  have hlegal : requireTransition c.state evidence.outcome.targetState true = .ok () := by
    rw [isReconciliation]
    cases evidence.outcome <;> rfl
  refine wp_pass hlegal ?_
  refine construct_live hlive hsteady hs₂ hlatest₂ hchange hprogress hversion (by decide) ?_ ?_ ?_
  · intro _ _ _ _ hfree
    rw [isReconciliation] at hfree
    cases hfree
  · exact fun k hcall _ _ => (hunsent.of_rely h₂).justified hcall
  · exact fun s' k hcommits => h s' k (hcommits.of_rely h₂)

end Resolve

/-! ### Resolvable contracts -/

/-- Evidence of an outcome, about a contract as it is now. -/
structure ReconciliationEvidence.Describes (evidence : ReconciliationEvidence)
    (c : RecoveryContract) (outcome : ReconciliationOutcome) : Prop where
  outcome : evidence.outcome = outcome
  contractId : evidence.contractId = c.contractId
  operationId : evidence.operationId = c.operationId
  observedStateVersion : evidence.observedStateVersion = c.stateVersion
  verifiedLifecycleLocator : ∀ n ∈ evidence.verifiedLifecycleLocator, n = c.lifecycleLocator

namespace Store

/-- Evidence of an outcome resolves the contract, as the call with the given number. -/
def Accepts (store : Store) (inputs : ℕ → Answers) (call : ℕ) (s : World) (c : RecoveryContract)
    (outcome : ReconciliationOutcome) : Prop :=
  ∀ evidence : ReconciliationEvidence, evidence.Describes c outcome →
    ((store.resolveReconciliation call c.contractId evidence).run inputs s).result.isOk = true

/-- Some outcome resolves the contract: the forward outcomes where it was being executed, the
rollback outcomes where it was being rolled back. -/
structure Resolvable (store : Store) (inputs : ℕ → Answers) (call : ℕ) (s : World)
    (c : RecoveryContract) : Prop where
  exists_outcome : ∃ outcome, store.Accepts inputs call s c outcome
  forward : ∀ outcome : ReconciliationOutcome, outcome.isForward = true →
    (store.Accepts inputs call s c outcome ↔
      enteredFrom (s.history c.contractId) = some executing)
  rollback : ∀ outcome : ReconciliationOutcome, outcome.isRollback = true →
    (store.Accepts inputs call s c outcome ↔
      enteredFrom (s.history c.contractId) = some rollingBack)

end Store

theorem ReconciliationEvidence.Describes.bindings {evidence : ReconciliationEvidence}
    {c : RecoveryContract} {outcome : ReconciliationOutcome} (h : evidence.Describes c outcome) :
    evidence.verifyBindings c.contractId c.operationId c.stateVersion c.lifecycleLocator =
      .ok () :=
  demand_of ⟨h.contractId, h.operationId, h.observedStateVersion, h.verifiedLifecycleLocator⟩

/-- There is evidence of every outcome. -/
theorem exists_describes (c : RecoveryContract) (outcome : ReconciliationOutcome) :
    ∃ evidence : ReconciliationEvidence, evidence.Describes c outcome := by
  have hid := c.identityValid
  have hlocator : (some c.lifecycleLocator).any (fun n => 0 ≤ n ∧ n ≤ 2147483647) = true := by
    simpa using hid.lifecycleLocator
  have hfingerprint : (some c.targetFingerprint).any isHex64 = true := hid.targetFingerprint
  -- what the evidence carries depends on the outcome
  let fields : ReconciliationFields :=
    { authorityId := "owner"
      algorithm := "ed25519"
      contractId := c.contractId
      operationId := c.operationId
      observedStateVersion := c.stateVersion
      outcome := outcome
      issuedAt := c.createdAt
      proof := [0]
      verifiedTargetFingerprint :=
        if outcome = .confirmedApplied then some c.targetFingerprint else none
      verifiedLifecycleLocator :=
        if outcome = .confirmedApplied ∨ outcome = .confirmedRollbackApplied then
          some c.lifecycleLocator else none }
  have hvalid : fields.postInit = .ok () := by
    simp only [ReconciliationFields.postInit, bind_eq_ok, demand_eq_ok, fields]
    refine ⟨(), ⟨by decide, by decide, hid.contractId, hid.operationId⟩, (),
      c.progressValid.stateVersion, (), ⟨by decide, by decide⟩, (), ?_, ?_⟩
    · split
      · exact hfingerprint
      · rfl
    · split
      · exact hlocator
      · rfl
  refine ⟨⟨fields, hvalid⟩, rfl, rfl, rfl, rfl, fun n hn => ?_⟩
  change n ∈ (if outcome = .confirmedApplied ∨ outcome = .confirmedRollbackApplied then
    some c.lifecycleLocator else none) at hn
  split at hn
  · exact (Option.some.inj hn).symm
  · cases hn

section Reachable

variable {store : Store} {ops : ℕ → Operation store} {permit : Answers → World → World → Prop}
  {cfg : Config World Answers Error} {inputs : ℕ → Answers} {call : ℕ} {c : RecoveryContract}
  (h : (system store ops permit).Reachable cfg) (hfit : ∀ n, Fit store (inputs n))

include h hfit

/-- An outcome that is accepted fits the last event, and the version can be counted up. -/
theorem fits_of_accepts (hlatest : cfg.shared.latest c.contractId = some c)
    (hstate : c.state = reconciliation) {outcome : ReconciliationOutcome}
    (haccepts : store.Accepts inputs call cfg.shared c outcome) :
    Fits (originOf (cfg.shared.history c.contractId)) outcome ∧ c.stateVersion + 1 < 2 ^ 63 := by
  by_contra hnot
  obtain ⟨evidence, hdescribes⟩ := exists_describes c outcome
  have hlive : (alone call fun j _ _ => Fit store j).Live store := fun hi => hi
  have hwp : wp ((alone call fun j _ _ => Fit store j).context store)
      (store.resolveReconciliation call c.contractId evidence) (fun r _ => r.isOk = false)
      cfg.shared :=
    resolveReconciliation_refused hlive steady_alone (coherent_of_reachable h) hlatest hstate
      (fun hfits => Int.not_lt.mp fun hlt => hnot ⟨hdescribes.outcome ▸ hfits, hlt⟩)
      fun _ _ => rfl
  have hrefused := (run_of_wp (fun s => Quiet.refl s) inputs (fun n _ _ => hfit n)
    (coherent_of_reachable h) hwp).2
  rw [haccepts evidence hdescribes] at hrefused
  cases hrefused

/-- An outcome that fits the last event is accepted. -/
theorem accepts_of_fits (hverdict : ∀ n, (inputs n).verdict = some true)
    (hverifier : store.hasReconciliationVerifier = true) (hcall : cfg.next ≤ call)
    (hlatest : cfg.shared.latest c.contractId = some c) (hstate : c.state = reconciliation)
    (hversion : c.stateVersion + 1 < 2 ^ 63) {outcome : ReconciliationOutcome}
    (hfits : Fits (originOf (cfg.shared.history c.contractId)) outcome) :
    store.Accepts inputs call cfg.shared c outcome := by
  intro evidence hdescribes
  have hholds := (safety store ops permit).reachable h
  have hunsent := MutationExecutor.unsent_of_own (hholds.fresh call hcall).2
  let S := alone call fun j _ _ => Fit store j ∧ j.verdict = some true
  have hlive : S.Live store := fun hi => hi.1
  have haccepting : Accepting S := fun hi => hi.2
  have hwp : wp (S.context store) (store.resolveReconciliation call c.contractId evidence)
      (fun r _ => r.isOk = true) cfg.shared :=
    resolveReconciliation_live hlive steady_alone haccepting hverifier (coherent_of_reachable h)
      hlatest hstate (hdescribes.outcome ▸ hfits) hdescribes.bindings hversion hunsent
      fun _ _ _ _ _ => rfl
  have hpermit : ∀ n (s s' : World), S.permit (inputs n) s s' :=
    fun n _ _ => ⟨hfit n, hverdict n⟩
  exact (run_of_wp (fun s => Quiet.refl s) inputs (fun n => hpermit n) (coherent_of_reachable h)
    hwp).2

/-- A contract in `RECONCILIATION` can be resolved if and only if it was never left there by a
rotation of its artifacts, and its version can be counted up. -/
theorem resolvable_iff_not_lingers (hverdict : ∀ n, (inputs n).verdict = some true)
    (hverifier : store.hasReconciliationVerifier = true) (hcall : cfg.next ≤ call)
    (hlatest : cfg.shared.latest c.contractId = some c) (hstate : c.state = reconciliation) :
    store.Resolvable inputs call cfg.shared c ↔
      (∀ k ∈ cfg.shared.history c.contractId, ¬k.Lingers) ∧ c.stateVersion + 1 < 2 ^ 63 := by
  have hlaw := (coherent_of_reachable h).commits
  constructor
  · rintro ⟨⟨outcome, haccepts⟩, -, -⟩
    obtain ⟨hfits, hversion⟩ := fits_of_accepts h hfit hlatest hstate haccepts
    refine ⟨fun k hk hlingers => ?_, hversion⟩
    have horigin : originOf (cfg.shared.history c.contractId) = some reconciliation :=
      (origin_of_lingers hlaw hlatest ⟨k, hk, hlingers⟩).2
    rw [horigin] at hfits
    rcases hfits with ⟨hfits, -⟩ | ⟨hfits, -⟩ <;> cases hfits
  · rintro ⟨hnever, hversion⟩
    obtain ⟨hentered, horigin⟩ := enteredFrom_of_not_lingers hlaw hlatest hstate hnever
    have hentered : enteredFrom (cfg.shared.history c.contractId) =
        originOf (cfg.shared.history c.contractId) := hentered
    have haccepts : ∀ outcome, store.Accepts inputs call cfg.shared c outcome ↔
        Fits (originOf (cfg.shared.history c.contractId)) outcome := fun outcome =>
      ⟨fun haccepts => (fits_of_accepts h hfit hlatest hstate haccepts).1,
        accepts_of_fits h hfit hverdict hverifier hcall hlatest hstate hversion⟩
    refine ⟨?_, fun outcome houtcome => ?_, fun outcome houtcome => ?_⟩
    · rcases horigin with horigin | horigin
      · exact ⟨.confirmedApplied, (haccepts _).mpr (.inl ⟨horigin, rfl⟩)⟩
      · exact ⟨.confirmedRollbackApplied, (haccepts _).mpr (.inr ⟨horigin, rfl⟩)⟩
    · have hnot : outcome.isRollback = false := by cases outcome <;> simp_all [
        ReconciliationOutcome.isForward, ReconciliationOutcome.isRollback]
      rw [haccepts, hentered]
      simp [Fits, houtcome, hnot]
    · have hnot : outcome.isForward = false := by cases outcome <;> simp_all [
        ReconciliationOutcome.isForward, ReconciliationOutcome.isRollback]
      rw [haccepts, hentered]
      simp [Fits, houtcome, hnot]

end Reachable

end Model

/-! ### A sample -/

namespace Uncertain

open Sample

attribute [local instance] Sample.platform

/-- The sample contract is executed, its effect stays unknown, and then its artifacts are
rotated. -/
def calls : ℕ → Operation plain
  | 0 => .create contract
  | 1 => .transition "contract-1" preparing 0 prepared none "state_transition"
  | 2 => .confirm "contract-1" evidence 1
  | 3 => .transition "contract-1" prepared 2 executing (some ⟨.highAssuranceTier1⟩)
    "state_transition"
  | 4 => .transition "contract-1" executing 3 reconciliation none "state_transition"
  | _ => .rotateArtifacts "contract-1" 4 artifact artifact artifact

/-- An environment in which nothing fails. -/
def calm : Answers := answers (.response 200 "")

theorem fit_calm : Fit plain calm := fit (fun _ h => by cases h) false (.response 200 "")

theorem holding_of_single {s : World} {c : RecoveryContract} (h : Single plain s c) :
    Holding plain s [c] := by
  refine ⟨h.coherent, ?_⟩
  have hmem : c ∈ contractsOf (commitsOf s.trace) :=
    (mem_contractsOf h.coherent.commits).mpr h.latest
  have hdistinct := pairwise_contractsOf h.coherent.commits
  have hall : ∀ d ∈ contractsOf (commitsOf s.trace), d = c := fun d => h.eq_of_mem
  generalize contractsOf (commitsOf s.trace) = cs at *
  cases cs with
  | nil => cases hmem
  | cons d rest =>
    obtain rfl := hall d List.mem_cons_self
    cases rest with
    | nil => rfl
    | cons e rest =>
      have hne : d.contractId ≠ e.contractId :=
        List.rel_of_pairwise_cons hdistinct List.mem_cons_self
      exact absurd (congrArg (fun c => c.contractId) (hall e (by simp)).symm) hne

section Replaces

variable {cfg cfg' : Config World Answers Error} {c d : RecoveryContract}
  (h : Replaces plain calls (fun _ _ _ => True) [c] c d cfg cfg')

include h

theorem holding_of_replaces (hid : d.contractId = c.contractId) :
    Holding plain cfg'.shared [d] := by
  simpa [Store.replaced, hid] using h.holding

theorem origin_of_replaces :
    originOf (cfg'.shared.history d.contractId) = some c.state := by
  obtain ⟨k, hcommits, -, hbefore, rfl⟩ := h.commit
  have hhistory : cfg'.shared.history k.after.contractId =
      cfg.shared.history k.after.contractId ++ [k] := by
    rw [World.history, hcommits]
    exact View.history_append_self (V := commitView) _ _
  rw [hhistory, originOf_append _ hbefore]

end Replaces

/-- The run up to the point where the contract enters `RECONCILIATION`. -/
theorem reachable_uncertain : ∃ cfg c, (system plain calls fun _ _ _ => True).Reachable cfg ∧
    cfg.next = 5 ∧ Holding plain cfg.shared [c] ∧ c.contractId = "contract-1" ∧
    c.state = reconciliation ∧ c.stateVersion = 4 ∧
    originOf (cfg.shared.history c.contractId) = some executing := by
  obtain ⟨cfg, d, hreach, hnext, hsingle, hsame, hstate, hversion, hconfirmed, -⟩ :=
    @reachable_confirmed _ _ calls (fun _ _ _ => True) _ _ _ _
      (ready (fun _ h => by cases h) false (.response 200 "")) (fun _ _ => trivial) rfl rfl rfl
  have hclock : ∀ e : RecoveryContract, contract.SameIdentity e.toContractFields →
      ∀ t, calm.clock = some t → e.isExpired t = false := by
    rintro e he t ⟨⟩
    rw [RecoveryContract.isExpired, he.expiresAt]
    decide +kernel
  have hid : d.contractId = "contract-1" := hsame.contractId
  -- the fourth call starts the execution
  obtain ⟨cfg₁, e, hexecuted, he⟩ := exists_executing hreach (fun _ _ _ => trivial)
    (holding_of_single hsingle) fit_calm (List.mem_singleton_self d) (by rw [hversion]; decide)
    ⟨.highAssuranceTier1⟩ (by rw [hnext, hid, hversion]; rfl) rfl (fun _ _ _ => rfl) hstate
    hconfirmed (hclock d hsame) (by
      intro x hx hreserved
      rw [List.mem_singleton.mp hx, hstate] at hreserved
      cases hreserved)
  have heid : e.contractId = d.contractId := by rw [he]; rfl
  have heversion : e.stateVersion = 3 := by
    rw [he]
    change d.stateVersion + 1 = 3
    rw [hversion]
    rfl
  have hestate : e.state = executing := by rw [he]; rfl
  have hesame : contract.SameIdentity e.toContractFields := hsame.trans (by
    rw [he]
    constructor <;> rfl)
  have hholding : Holding plain cfg₁.shared [e] := holding_of_replaces hexecuted heid
  -- the fifth call gives its outcome up as unknown
  obtain ⟨cfg₂, c, hmoved, hc⟩ := exists_moved hexecuted.reachable (fun _ _ _ => trivial)
    hholding fit_calm (List.mem_singleton_self e) (by rw [heversion]; decide) reconciliation
    (by rw [hexecuted.next, hnext, heid, hid, heversion, hestate]; rfl) (by rw [hestate]; rfl)
    (by decide) (by decide) (by decide) (hclock e hesame) (by
      rw [hestate]
      exact fun _ h => by cases h)
  have hcid : c.contractId = e.contractId := by rw [hc]; rfl
  refine ⟨cfg₂, c, hmoved.reachable, by rw [hmoved.next, hexecuted.next, hnext],
    holding_of_replaces hmoved hcid, by rw [hcid, heid, hid], by rw [hc]; rfl, ?_, ?_⟩
  · rw [hc]
    change e.stateVersion + 1 = 4
    rw [heversion]
    rfl
  · rw [origin_of_replaces hmoved, hestate]

/-- The run up to the point where the artifacts have been rotated. -/
theorem reachable_rotated : ∃ cfg c, (system plain calls fun _ _ _ => True).Reachable cfg ∧
    Holding plain cfg.shared [c] ∧ c.state = reconciliation ∧ c.stateVersion = 5 ∧
    originOf (cfg.shared.history c.contractId) = some reconciliation := by
  obtain ⟨cfg, c, hreach, hnext, hholding, hid, hstate, hversion, -⟩ := reachable_uncertain
  obtain ⟨cfg₁, d, hrotated, hd⟩ := exists_rotated hreach (fun _ _ _ => trivial) hholding fit_calm
    (List.mem_singleton_self c) (by rw [hversion]; decide) artifact artifact artifact
    (by rw [hnext, hid, hversion]; rfl)
  have hdid : d.contractId = c.contractId := by rw [hd]; rfl
  refine ⟨cfg₁, d, hrotated.reachable, holding_of_replaces hrotated hdid,
    by rw [hd]; exact hstate, ?_, ?_⟩
  · rw [hd]
    change c.stateVersion + 1 = 5
    rw [hversion]
    rfl
  · rw [origin_of_replaces hrotated, hstate]

/-- Before the rotation of the sample run, the contract can be resolved. -/
theorem resolvable_sample : ∃ cfg c, (system plain calls fun _ _ _ => True).Reachable cfg ∧
    cfg.shared.latest c.contractId = some c ∧ c.state = reconciliation ∧
    plain.Resolvable (fun _ => calm) cfg.next cfg.shared c := by
  obtain ⟨cfg, c, hreach, -, hholding, -, hstate, hversion, horigin⟩ := reachable_uncertain
  have hlatest := hholding.latest (List.mem_singleton_self c)
  refine ⟨cfg, c, hreach, hlatest, hstate, ?_⟩
  refine (resolvable_iff_not_lingers hreach (fun _ => fit_calm) (fun _ => rfl) rfl (Nat.le_refl _)
    hlatest hstate).mpr ⟨fun k hk hlingers => ?_, by rw [hversion]; decide⟩
  have hlingered := (origin_of_lingers hholding.coherent.commits hlatest ⟨k, hk, hlingers⟩).2
  cases horigin.symm.trans hlingered

/-- After it, no outcome is accepted. -/
theorem not_resolvable_sample : ∃ cfg c,
    (system plain calls fun _ _ _ => True).Reachable cfg ∧
    cfg.shared.latest c.contractId = some c ∧ c.state = reconciliation ∧
    (∀ outcome, ¬plain.Accepts (fun _ => calm) cfg.next cfg.shared c outcome) ∧
    ¬plain.Resolvable (fun _ => calm) cfg.next cfg.shared c := by
  obtain ⟨cfg, c, hreach, hholding, hstate, -, horigin⟩ := reachable_rotated
  have hlatest := hholding.latest (List.mem_singleton_self c)
  have hrefused : ∀ outcome,
      ¬plain.Accepts (fun _ => calm) cfg.next cfg.shared c outcome := by
    intro outcome haccepts
    have hfits := (fits_of_accepts hreach (fun _ => fit_calm) hlatest hstate haccepts).1
    rw [horigin] at hfits
    rcases hfits with ⟨hfits, -⟩ | ⟨hfits, -⟩ <;> cases hfits
  exact ⟨cfg, c, hreach, hlatest, hstate, hrefused, fun h => h.exists_outcome.elim hrefused⟩

end Uncertain

end Tier1
