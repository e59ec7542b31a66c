import Mathlib.Data.Int.Notation
import Mathlib.Data.List.Nodup
import Mathlib.Data.List.Pairwise
import Mathlib.Data.Nat.Notation
import PfsenseMcp.Concurrency.Journal
import PfsenseMcp.Tier1.Store

/-!
# Lawful histories

What the store is for, stated over the trace alone. A commit creates a contract or replaces the
latest one of its identity, by one of six kinds of `Change`. A request is handed to the write
client only by a call whose one event so far is its own commit into the in-flight state.

The tables do not occur here. `Tier1.Representation` shows that they are determined by the
commits, and `Tier1.Operations` that every operation extends a lawful trace to a lawful one.

## Main results

* `Change.step`: what every change of a contract preserves;
* `countP_opens_le_one`: a contract enters each in-flight state from its ready state at most once;
* `fingerprint_iff_verified`: the verified fingerprint is set exactly once `VERIFIED` was reached.
-/

namespace Tier1

open Python Concurrency RecoveryState

variable [Platform]

/-! ### Commits as updates of contracts -/

/-- The commits of a trace. -/
def commitsOf (trace : List Event) : List Commit :=
  trace.filterMap fun
    | .committed commit => some commit
    | _ => none

/-- Commits as updates of contracts by their identifier. -/
def commitView : View Commit String RecoveryContract :=
  ⟨Commit.before, Commit.after, fun c => c.contractId⟩

/-- The commits about one contract. -/
def historyOf (commits : List Commit) (contractId : String) : List Commit :=
  commitView.history commits contractId

/-- The contract as of the latest commit about it. -/
def latestOf (commits : List Commit) (contractId : String) : Option RecoveryContract :=
  commitView.latest commits contractId

/-- All contracts, in the order of their creation. -/
def contractsOf (commits : List Commit) : List RecoveryContract := commitView.table commits

/-- The state that the latest commit of a history has left. -/
def originOf (history : List Commit) : Option RecoveryState :=
  (history.getLast?.bind Commit.before).map fun c => c.state

/-- The events of one call. -/
def own (call : ℕ) (trace : List Event) : List Event := trace.filter fun e => e.call = call

theorem commitsOf_append (trace rest : List Event) :
    commitsOf (trace ++ rest) = commitsOf trace ++ commitsOf rest := List.filterMap_append ..

@[simp]
theorem commitsOf_committed (k : Commit) : commitsOf [.committed k] = [k] := rfl

theorem mem_commitsOf {trace : List Event} {k : Commit} :
    k ∈ commitsOf trace ↔ .committed k ∈ trace := by
  rw [commitsOf, List.mem_filterMap]
  constructor
  · rintro ⟨e, he, hk⟩
    cases e with
    | committed commit =>
      cases hk
      exact he
    | handed => cases hk
    | judged => cases hk
  · exact fun h => ⟨_, h, rfl⟩

theorem mem_historyOf {commits : List Commit} {contractId : String} {k : Commit} :
    k ∈ historyOf commits contractId ↔ k ∈ commits ∧ k.after.contractId = contractId :=
  View.mem_history

theorem contractId_of_latestOf {commits : List Commit} {contractId : String}
    {c : RecoveryContract} (h : latestOf commits contractId = some c) :
    c.contractId = contractId := View.key_of_latest h

theorem exists_latestOf {commits : List Commit} {k : Commit} (h : k ∈ commits) :
    ∃ c, latestOf commits k.after.contractId = some c :=
  View.latest_isSome_of_mem (V := commitView) h

/-! ### Changes -/

/-- The contract after a confirmation. -/
def confirmed (c : RecoveryContract) (digest : String) (confirmedAt : DateTime) : ContractFields :=
  { c.toContractFields with
    confirmationDigest := some digest, confirmedAt := some confirmedAt,
    stateVersion := c.stateVersion + 1 }

/-- How a contract may change. `origin` is the state before the latest commit about it,
`eventType` the type of the audit event and `checkedAt` the store clock that the guards saw. The
last argument are the fields of the changed contract. -/
inductive Change (origin : Option RecoveryState) (c : RecoveryContract) :
    (eventType : String) → (checkedAt : Option DateTime) → ContractFields → Prop
  /-- `transition`. -/
  | transition {target : RecoveryState} {eventType : String} {instant : DateTime}
      (legal : requireTransition c.state target false = .ok ())
      (ne_verified : target ≠ verified) (ne_rolledBack : target ≠ rolledBack)
      (unexpired : c.state = preparing ∨ c.state = prepared → c.isExpired instant = true →
        target = expired)
      (confirmed : target = executing → c.isConfirmed = true ∧ c.isExpired instant = false)
      (named : eventType ≠ "") :
      Change origin c eventType (some instant) (Store.moved c target)
  /-- `confirm`. -/
  | confirmation {digest : String} {instant : DateTime} (isPrepared : c.state = prepared)
      (unconfirmed : c.isConfirmed = false) (unexpired : c.isExpired instant = false) :
      Change origin c "contract_confirmed" (some instant) (confirmed c digest instant)
  /-- `mark_execution_verified`. -/
  | verification {fingerprint : String} (isExecuting : c.state = executing) :
      Change origin c "state_transition" none (Store.sealed c fingerprint)
  /-- `mark_rollback_verified`. -/
  | rollbackVerification (isRollingBack : c.state = rollingBack) :
      Change origin c "state_transition" none (Store.moved c rolledBack)
  /-- `resolve_reconciliation`. -/
  | resolution {evidence : ReconciliationEvidence} (isReconciliation : c.state = reconciliation)
      (boundary : origin = some executing ∧ evidence.outcome.isForward = true ∨
        origin = some rollingBack ∧ evidence.outcome.isRollback = true) :
      Change origin c "reconciliation_resolved" none (Store.resolved c evidence)
  /-- `rotate_artifacts`. -/
  | rotation {targetIdentity intent snapshot : ProtectedArtifact} :
      Change origin c "artifacts_rotated" none (Store.rotated c targetIdentity intent snapshot)

/-- What every change of a contract preserves. -/
structure UpdateOf (c : RecoveryContract) (d : ContractFields) : Prop where
  sameIdentity : c.SameIdentity d
  stateVersion : d.stateVersion = c.stateVersion + 1
  state : d.state = c.state ∨ ∃ rule, legalTransitions c.state d.state = some rule
  confirmation : (d.confirmationDigest = c.confirmationDigest ∧ d.confirmedAt = c.confirmedAt) ∨
    c.confirmationDigest = none ∧ c.confirmedAt = none ∧ d.confirmationDigest ≠ none ∧
      d.confirmedAt ≠ none ∧ c.state = prepared ∧ d.state = prepared
  fingerprint : d.verifiedTargetFingerprint = c.verifiedTargetFingerprint ∨
    c.state ≠ d.state ∧ d.state = verified ∧ d.verifiedTargetFingerprint ≠ none

theorem confirmedAt_eq_none {c : RecoveryContract} (h : c.isConfirmed = false) :
    c.confirmationDigest = none ∧ c.confirmedAt = none := by
  have hdigest : c.confirmationDigest = none := by
    simpa [RecoveryContract.isConfirmed] using h
  exact ⟨hdigest, c.progressValid.confirmed.mp hdigest⟩

/-- A change keeps the identity, counts the version up and follows the listed transitions. -/
theorem Change.updateOf {origin : Option RecoveryState} {c : RecoveryContract}
    {eventType : String} {checkedAt : Option DateTime} {d : ContractFields}
    (h : Change origin c eventType checkedAt d) : UpdateOf c d := by
  cases h with
  | @transition target _ instant legal ne_verified ne_rolledBack unexpired hconfirmed named =>
    obtain ⟨rule, hrule, -⟩ := requireTransition_eq_ok.mp legal
    exact ⟨by constructor <;> rfl, rfl, .inr ⟨rule, hrule⟩, .inl ⟨rfl, rfl⟩, .inl rfl⟩
  | @confirmation digest instant isPrepared unconfirmed unexpired =>
    obtain ⟨h₁, h₂⟩ := confirmedAt_eq_none unconfirmed
    exact ⟨by constructor <;> rfl, rfl, .inl rfl,
      .inr ⟨h₁, h₂, nofun, nofun, isPrepared, isPrepared⟩, .inl rfl⟩
  | verification isExecuting =>
    refine ⟨by constructor <;> rfl, rfl, .inr ⟨{}, ?_⟩, .inl ⟨rfl, rfl⟩, .inr ⟨?_, rfl, nofun⟩⟩
    · rw [isExecuting]; rfl
    · rw [isExecuting]; exact nofun
  | rollbackVerification isRollingBack =>
    refine ⟨by constructor <;> rfl, rfl, .inr ⟨{}, ?_⟩, .inl ⟨rfl, rfl⟩, .inl rfl⟩
    rw [isRollingBack]; rfl
  | @resolution evidence isReconciliation boundary =>
    refine ⟨by constructor <;> rfl, rfl, .inr ⟨⟨true⟩, ?_⟩, .inl ⟨rfl, rfl⟩, ?_⟩
    · rw [isReconciliation]
      cases hout : evidence.outcome <;>
        simp [Store.resolved, hout, ReconciliationOutcome.targetState, legalTransitions]
    · by_cases hout : evidence.outcome = .confirmedApplied
      · obtain ⟨d, hd, -⟩ := evidence.fingerprint_of_applied hout
        refine .inr ⟨?_, ?_, ?_⟩
        · rw [isReconciliation]
          simp [Store.resolved, hout, ReconciliationOutcome.targetState]
        · simp [Store.resolved, hout, ReconciliationOutcome.targetState]
        · simp [Store.resolved, hout, hd]
      · exact .inl (by simp [Store.resolved, hout])
  | rotation => exact ⟨by constructor <;> rfl, rfl, .inl rfl, .inl ⟨rfl, rfl⟩, .inl rfl⟩

/-! ### Lawful commits -/

/-- What a commit has to satisfy in view of the commits before it. -/
inductive LawfulCommit (past : List Commit) : Commit → Prop
  /-- A new contract. -/
  | creation {call : ℕ} {c : RecoveryContract} {recordedAt instant : DateTime}
      (isPreparing : c.state = preparing) (isFirst : c.stateVersion = 0)
      (unconfirmed : c.isConfirmed = false)
      (fresh : latestOf past c.contractId = none)
      (unblocked : ∀ d ∈ contractsOf past, blocksFreshIdempotencyAttempt d.state = true →
        d.idempotencyKey ≠ c.idempotencyKey) :
      LawfulCommit past ⟨call, none, c, "contract_created", recordedAt, some instant⟩
  /-- A change of the latest contract of its identity. -/
  | change {call : ℕ} {c d : RecoveryContract} {eventType : String} {recordedAt : DateTime}
      {checkedAt : Option DateTime} (current : latestOf past c.contractId = some c)
      (h : Change (originOf (historyOf past c.contractId)) c eventType checkedAt
        d.toContractFields) :
      LawfulCommit past ⟨call, some c, d, eventType, recordedAt, checkedAt⟩

/-- A lawful commit replaces the latest contract of its identity. -/
theorem LawfulCommit.continues {past : List Commit} {k : Commit} (h : LawfulCommit past k) :
    commitView.Continues past k := by
  cases h with
  | creation _ _ _ fresh _ => exact fresh.symm
  | change current h =>
    rw [← h.updateOf.sameIdentity.contractId] at current
    exact current.symm

theorem lawful_continues {commits : List Commit} (h : Lawful LawfulCommit commits) :
    Lawful commitView.Continues commits :=
  h.mono fun _ _ hk => hk.continues

section Histories

variable {commits : List Commit} (h : Lawful LawfulCommit commits)

include h

theorem mem_contractsOf {c : RecoveryContract} :
    c ∈ contractsOf commits ↔ latestOf commits c.contractId = some c :=
  View.mem_table (lawful_continues h)

theorem pairwise_contractsOf :
    (contractsOf commits).Pairwise fun c d => c.contractId ≠ d.contractId :=
  View.pairwise_key_table (lawful_continues h)

theorem find?_contractsOf (contractId : String) :
    (contractsOf commits).find? (fun c => c.contractId = contractId) =
      latestOf commits contractId :=
  View.find?_table (lawful_continues h) contractId

/-- Induction along the history of one contract: from its creation, change by change. -/
theorem history_induction {P : List Commit → RecoveryContract → Prop}
    (creation : ∀ k, k.before = none → k.after.state = preparing →
      k.after.stateVersion = 0 → k.after.isConfirmed = false → k.eventType = "contract_created" →
      P [k] k.after)
    (change : ∀ past k c, Lawful LawfulCommit past → k.before = some c →
      latestOf past k.after.contractId = some c →
      Change (originOf (historyOf past k.after.contractId)) c k.eventType k.checkedAt
        k.after.toContractFields →
      P (historyOf past k.after.contractId) c →
      P (historyOf past k.after.contractId ++ [k]) k.after)
    {contractId : String} {c : RecoveryContract} (hc : latestOf commits contractId = some c) :
    P (historyOf commits contractId) c := by
  refine View.latest_induction (fun _ _ hk => hk.continues) ?_ ?_ h hc
  · intro past k hpast hk hbefore
    cases hk with
    | creation isPreparing isFirst unconfirmed fresh unblocked =>
      exact creation ⟨_, none, _, _, _, _⟩ rfl isPreparing isFirst unconfirmed rfl
    | change current hchange => cases hbefore
  · intro past k c hpast hk hbefore hlatest ih
    cases hk with
    | creation _ _ _ _ _ => cases hbefore
    | change current hchange =>
      cases hbefore
      have hid := hchange.updateOf.sameIdentity.contractId
      rw [← hid] at hchange
      exact change past ⟨_, some c, _, _, _, _⟩ c hpast rfl hlatest hchange ih

/-- The commits about a contract carry the versions `0, 1, …` up to its own. -/
theorem versions_historyOf {contractId : String} {c : RecoveryContract}
    (hc : latestOf commits contractId = some c) :
    (historyOf commits contractId).map (fun k => k.after.stateVersion) =
      (List.range (historyOf commits contractId).length).map Int.ofNat ∧
    ((historyOf commits contractId).length : ℤ) = c.stateVersion + 1 := by
  refine history_induction h (P := fun h c =>
    h.map (fun k => k.after.stateVersion) = (List.range h.length).map Int.ofNat ∧
      (h.length : ℤ) = c.stateVersion + 1) ?_ ?_ hc
  · intro k _ _ hversion _ _
    simp [hversion]
  · rintro past k c _ hbefore hlatest hchange ⟨hmap, hlength⟩
    have hversion := hchange.updateOf.stateVersion
    rw [List.map_append, List.length_append, List.length_singleton, List.range_succ,
      List.map_append, hmap, List.map_singleton, List.map_singleton, hversion, ← hlength]
    exact ⟨rfl, by push_cast; rfl⟩

/-- A commit is determined by its contract and its version. -/
theorem commit_ext {k k' : Commit} (hk : k ∈ commits) (hk' : k' ∈ commits)
    (hid : k.after.contractId = k'.after.contractId)
    (hversion : k.after.stateVersion = k'.after.stateVersion) : k = k' := by
  obtain ⟨c, hc⟩ := exists_latestOf hk
  obtain ⟨hmap, -⟩ := versions_historyOf h hc
  have hnodup : ((historyOf commits k.after.contractId).map
      fun k => k.after.stateVersion).Nodup := by
    rw [hmap]
    exact List.Nodup.map (fun a b hab => Int.ofNat.inj hab) List.nodup_range
  exact List.inj_on_of_nodup_map hnodup (mem_historyOf.mpr ⟨hk, rfl⟩)
    (mem_historyOf.mpr ⟨hk', hid.symm⟩) hversion

/-- If a contract that was committed some time ago is still the latest of its identity, nothing
was committed about it since. -/
theorem historyOf_eq_nil_of_latest {past rest : List Commit} (hcommits : commits = past ++ rest)
    {k : Commit} (hk : k ∈ past)
    (hlatest : latestOf commits k.after.contractId = some k.after) :
    historyOf rest k.after.contractId = [] := by
  obtain ⟨hmap, hlength⟩ := versions_historyOf h hlatest
  have hsplit : historyOf commits k.after.contractId =
      historyOf past k.after.contractId ++ historyOf rest k.after.contractId := by
    rw [hcommits]
    exact View.history_append _ _ _
  obtain ⟨j, hj, hjk⟩ := List.mem_iff_getElem.mp (mem_historyOf.mpr ⟨hk, rfl⟩ :
    k ∈ historyOf past k.after.contractId)
  -- the position of a commit is its version
  have hversion : k.after.stateVersion = j := by
    have hget := congrArg (fun l => l[j]?) hmap
    simp only [hsplit, List.getElem?_map, List.getElem?_append_left hj, List.length_append,
      List.getElem?_eq_getElem hj, hjk, Option.map_some] at hget
    rw [List.getElem?_range (Nat.lt_add_right _ hj)] at hget
    exact Option.some.inj hget
  rw [hsplit, List.length_append, hversion] at hlength
  exact List.eq_nil_of_length_eq_zero (by omega)

/-- Of two contracts with one idempotency key, at most one blocks a fresh attempt. -/
theorem pairwise_idempotencyKey :
    (contractsOf commits).Pairwise fun c d =>
      blocksFreshIdempotencyAttempt c.state = true →
      blocksFreshIdempotencyAttempt d.state = true → c.idempotencyKey ≠ d.idempotencyKey := by
  induction h with
  | nil => exact .nil
  | @append commits k hcommits hk ih =>
    cases hk with
    | creation isPreparing isFirst unconfirmed fresh unblocked =>
      rw [contractsOf, View.table_append_of_none rfl, List.pairwise_append]
      refine ⟨ih, List.pairwise_singleton _ _, fun c hc d hd hblocks _ => ?_⟩
      rw [List.mem_singleton] at hd
      subst hd
      exact unblocked c hc hblocks
    | @change call c d eventType recordedAt checkedAt current hchange =>
      rw [contractsOf, View.table_append_of_some (v := c) rfl, List.pairwise_map]
      have hupdate := hchange.updateOf
      -- every contract has kept its key, and blocks at most if it did before
      have hold : ∀ x ∈ contractsOf commits,
          (blocksFreshIdempotencyAttempt (if x.contractId = d.contractId then d else x).state =
            true → blocksFreshIdempotencyAttempt x.state = true) ∧
          (if x.contractId = d.contractId then d else x).idempotencyKey = x.idempotencyKey := by
        intro x hx
        split_ifs with hid
        · rw [mem_contractsOf hcommits, hid, hupdate.sameIdentity.contractId, current] at hx
          cases hx
          refine ⟨fun hd => ?_, hupdate.sameIdentity.idempotencyKey⟩
          rcases hupdate.state with hstate | ⟨rule, hrule⟩
          · rwa [← hstate]
          · exact blocks_of_legalTransitions hrule
        · exact ⟨id, rfl⟩
      refine List.Pairwise.imp_of_mem ?_ ih
      intro x y hx hy hne hbx hby
      have hxy := hne ((hold x hx).1 hbx) ((hold y hy).1 hby)
      rw [← (hold x hx).2, ← (hold y hy).2] at hxy
      exact hxy

/-- Two contracts with one idempotency key that both block a fresh attempt are the same. -/
theorem eq_of_idempotencyKey {c d : RecoveryContract} (hc : c ∈ contractsOf commits)
    (hd : d ∈ contractsOf commits) (hbc : blocksFreshIdempotencyAttempt c.state = true)
    (hbd : blocksFreshIdempotencyAttempt d.state = true)
    (hkey : c.idempotencyKey = d.idempotencyKey) : c = d := by
  by_contra hne
  have : Std.Symm fun c d : RecoveryContract => blocksFreshIdempotencyAttempt c.state = true →
      blocksFreshIdempotencyAttempt d.state = true → c.idempotencyKey ≠ d.idempotencyKey :=
    ⟨fun _ _ h hb ha heq => h ha hb heq.symm⟩
  exact (pairwise_idempotencyKey h).forall hc hd hne hbc hbd hkey

end Histories

/-- Whether a commit changes a field of its contract. -/
def Commit.changes {α : Type} [DecidableEq α] (k : Commit) (f : RecoveryContract → α) : Bool :=
  k.before.any fun c => f k.after ≠ f c

/-! ### In-flight states -/

/-- The state from which a mutation of a direction starts. -/
def Direction.readyState : Direction → RecoveryState
  | .forward => prepared
  | .rollback => verified

/-- The state of a mutation of a direction that is under way. -/
def Direction.inFlightState : Direction → RecoveryState
  | .forward => executing
  | .rollback => rollingBack

/-- The commit starts a mutation of the given direction. -/
def Commit.Opens (k : Commit) (direction : Direction) : Prop :=
  k.before.map (fun c => c.state) = some direction.readyState ∧
    k.after.state = direction.inFlightState

instance (k : Commit) (direction : Direction) : Decidable (k.Opens direction) :=
  inferInstanceAs (Decidable (_ ∧ _))

/-- The contract cannot start a mutation of the given direction any more. A contract that has
started a rollback may be in `RECONCILIATION`, but then not with an origin that leads back to
`VERIFIED`. -/
def Beyond (history : List Commit) (c : RecoveryContract) : Direction → Prop
  | .forward => c.state ≠ preparing ∧ c.state ≠ prepared
  | .rollback => c.state = rollingBack ∨ c.state = rolledBack ∨ c.state = rollbackFailed ∨
      c.state = reconciliation ∧
        (originOf history = some rollingBack ∨ originOf history = some reconciliation)

theorem originOf_append (history : List Commit) {k : Commit} {c : RecoveryContract}
    (hbefore : k.before = some c) : originOf (history ++ [k]) = some c.state := by
  simp [originOf, hbefore]

section InFlight

variable {history : List Commit} {k : Commit} {c : RecoveryContract}

/-- A commit that starts a mutation leaves a contract that cannot start it again. -/
theorem Commit.Opens.beyond {direction : Direction} (h : k.Opens direction) :
    Beyond (history ++ [k]) k.after direction := by
  cases direction with
  | forward =>
    have hstate : k.after.state = executing := h.2
    exact ⟨by rw [hstate]; exact nofun, by rw [hstate]; exact nofun⟩
  | rollback => exact .inl h.2

theorem Beyond.not_opens {direction : Direction} (h : Beyond history c direction)
    (hbefore : k.before = some c) : ¬k.Opens direction := by
  rintro ⟨hready, -⟩
  rw [hbefore, Option.map_some, Option.some.injEq] at hready
  cases direction with
  | forward => exact h.2 hready
  | rollback =>
    simp only [Beyond, hready, Direction.readyState] at h
    simp at h

/-- No change leads back to where a mutation can be started. -/
theorem Beyond.change {direction : Direction} (h : Beyond history c direction)
    (hbefore : k.before = some c)
    (hchange : Change (originOf history) c k.eventType k.checkedAt k.after.toContractFields) :
    Beyond (history ++ [k]) k.after direction := by
  have horigin := originOf_append history hbefore
  cases direction with
  | forward =>
    rcases hchange.updateOf.state with hstate | ⟨rule, hrule⟩
    · exact ⟨hstate ▸ h.1, hstate ▸ h.2⟩
    · have hne := h.1
      constructor <;> intro hafter <;> rw [hafter] at hrule <;>
        cases hc : c.state <;> simp_all [legalTransitions]
  | rollback =>
    simp only [Beyond, horigin]
    generalize k.eventType = eventType, k.checkedAt = checkedAt,
      k.after.toContractFields = d at hchange ⊢
    cases hchange with
    | @transition target _ _ legal ne_verified ne_rolledBack unexpired hconfirmed named =>
      obtain ⟨rule, hrule, -⟩ := requireTransition_eq_ok.mp legal
      simp only [Store.moved]
      rcases h with hc | hc | hc | ⟨hc, -⟩
      · rw [hc] at hrule ⊢
        cases target <;> simp_all [legalTransitions]
      · rw [hc] at hrule
        simp [legalTransitions] at hrule
      · rw [hc] at hrule
        simp [legalTransitions] at hrule
      · exact absurd hc (ne_reconciliation_of_requireTransition legal)
    | confirmation isPrepared =>
      simp [Beyond, isPrepared] at h
    | verification isExecuting =>
      simp [Beyond, isExecuting] at h
    | rollbackVerification isRollingBack =>
      exact .inr (.inl rfl)
    | @resolution evidence isReconciliation boundary =>
      simp only [Beyond, isReconciliation] at h
      have horigin : originOf history = some rollingBack ∧ evidence.outcome.isRollback = true := by
        rcases boundary with ⟨hb, -⟩ | hb
        · simp [hb] at h
        · exact hb
      simp only [Store.resolved]
      cases hout : evidence.outcome <;>
        simp_all [ReconciliationOutcome.isRollback, ReconciliationOutcome.targetState]
    | rotation =>
      simp only [Store.rotated]
      rcases h with hc | hc | hc | ⟨hc, -⟩ <;> simp [hc]

end InFlight

section Facts

variable {commits : List Commit} (h : Lawful LawfulCommit commits)

include h

/-- A contract starts a mutation of each direction at most once. -/
theorem countP_opens_le_one (direction : Direction) (contractId : String) :
    (historyOf commits contractId).countP (fun k => k.Opens direction) ≤ 1 := by
  cases hc : latestOf commits contractId with
  | none => simp [historyOf, View.history_eq_nil_of_latest hc]
  | some c =>
    -- either the mutation has not been started, or it cannot be started again
    have hP := history_induction h (P := fun h c =>
      h.countP (fun k => k.Opens direction) = 0 ∨
        h.countP (fun k => k.Opens direction) = 1 ∧ Beyond h c direction) ?_ ?_ hc
    · rcases hP with h₀ | ⟨h₁, -⟩ <;> omega
    · intro k hbefore _ _ _ _
      left
      simp [Commit.Opens, hbefore]
    · intro past k c _ hbefore _ hchange ih
      rw [List.countP_append, List.countP_singleton]
      rcases ih with h₀ | ⟨h₁, hbeyond⟩
      · by_cases hopen : k.Opens direction
        · right
          exact ⟨by simp [h₀, hopen], hopen.beyond⟩
        · left
          simp [h₀, hopen]
      · right
        have hnot := hbeyond.not_opens hbefore
        exact ⟨by simp [h₁, hnot], hbeyond.change hbefore hchange⟩

/-- Contracts with one identifier agree on their identity, whenever they were written. -/
theorem sameIdentity_of_mem {contractId : String} {c : RecoveryContract}
    (hc : latestOf commits contractId = some c) :
    ∀ k ∈ historyOf commits contractId,
      k.after.SameIdentity c.toContractFields ∧ k.after.stateVersion ≤ c.stateVersion := by
  refine history_induction h (P := fun h c => ∀ k ∈ h,
    k.after.SameIdentity c.toContractFields ∧ k.after.stateVersion ≤ c.stateVersion) ?_ ?_ hc
  · intro k _ _ _ _ _ k' hk'
    rw [List.mem_singleton.mp hk']
    exact ⟨.refl _, Int.le_refl _⟩
  · intro past k c _ hbefore hlatest hchange ih k' hk'
    have hupdate := hchange.updateOf
    rcases List.mem_append.mp hk' with hk' | hk'
    · obtain ⟨hsame, hle⟩ := ih k' hk'
      have hversion := hupdate.stateVersion
      exact ⟨hsame.trans hupdate.sameIdentity, by omega⟩
    · rw [List.mem_singleton.mp hk']
      exact ⟨.refl _, Int.le_refl _⟩

/-- An uncertain forward mutation has no verified fingerprint yet. -/
theorem fingerprint_eq_none_of_origin {contractId : String} {c : RecoveryContract}
    (hc : latestOf commits contractId = some c) (hstate : c.state = reconciliation)
    (horigin : originOf (historyOf commits contractId) = some executing) :
    c.verifiedTargetFingerprint = none := by
  refine history_induction h (P := fun h c => c.state = reconciliation →
    originOf h = some executing → c.verifiedTargetFingerprint = none) ?_ ?_ hc hstate horigin
  · intro k hbefore hstate _ _ _ hrec
    rw [hstate] at hrec
    cases hrec
  · intro past k c _ hbefore hlatest hchange _ hrec horigin
    rw [originOf_append _ hbefore, Option.some.injEq] at horigin
    -- the contract was `EXECUTING`, where a fingerprint is forbidden
    have hnone : c.verifiedTargetFingerprint = none :=
      c.progressValid.fingerprintConsistent.1 (by rw [horigin]; rfl)
    rcases hchange.updateOf.fingerprint with hfp | ⟨-, hverified, -⟩
    · rw [hfp, hnone]
    · rw [hrec] at hverified
      cases hverified

/-- The verified fingerprint is set exactly when `VERIFIED` has been reached. -/
theorem fingerprint_iff_verified {contractId : String} {c : RecoveryContract}
    (hc : latestOf commits contractId = some c) :
    c.verifiedTargetFingerprint = none ↔
      ∀ k ∈ historyOf commits contractId, k.after.state ≠ verified := by
  refine history_induction h (P := fun h c => c.verifiedTargetFingerprint = none ↔
    ∀ k ∈ h, k.after.state ≠ verified) ?_ ?_ hc
  · intro k _ hstate _ _ _
    have hnone : k.after.verifiedTargetFingerprint = none :=
      k.after.progressValid.fingerprintConsistent.1 (by rw [hstate]; rfl)
    simp [hnone, hstate]
  · intro past k c _ hbefore hlatest hchange ih
    simp only [List.mem_append, List.mem_singleton, or_imp, forall_and, forall_eq]
    rcases hchange.updateOf.fingerprint with hfp | ⟨-, hverified, hset⟩
    · rw [hfp, ih]
      refine (and_iff_left_of_imp fun hall hverified => ?_).symm
      have hrequired := k.after.progressValid.fingerprintConsistent.2
        (by rw [hverified]; rfl)
      exact hrequired (hfp.trans (ih.mpr hall))
    · exact ⟨fun hnone => absurd hnone hset, fun hall => absurd hverified hall.2⟩

/-- An optional field that changes can only set is set at most once. -/
theorem countP_changes_le_one {α : Type} [DecidableEq α] {f : RecoveryContract → Option α}
    (hset : ∀ (past : List Commit) (k : Commit) (c : RecoveryContract),
      Lawful LawfulCommit past → latestOf past k.after.contractId = some c →
      Change (originOf (historyOf past k.after.contractId)) c k.eventType k.checkedAt
        k.after.toContractFields →
      f k.after = f c ∨ f c = none ∧ f k.after ≠ none) (contractId : String) :
    (historyOf commits contractId).countP (fun k => k.changes f) ≤ 1 := by
  cases hc : latestOf commits contractId with
  | none => simp [historyOf, View.history_eq_nil_of_latest hc]
  | some c =>
    have hP := history_induction h (P := fun h c => h.countP (fun k => k.changes f) ≤ 1 ∧
      (f c = none → h.countP (fun k => k.changes f) = 0)) ?_ ?_ hc
    · exact hP.1
    · intro k hbefore _ _ _ _
      simp [Commit.changes, hbefore]
    · rintro past k c hpast hbefore hlatest hchange ⟨hle, hzero⟩
      rw [List.countP_append, List.countP_singleton]
      have hchanges : k.changes f = decide (f k.after ≠ f c) := by
        rw [Commit.changes, hbefore, Option.any_some]
      rw [hchanges]
      rcases hset past k c hpast hlatest hchange with hsame | ⟨hnone, hsome⟩
      · rw [hsame, decide_eq_false (not_not.mpr rfl)]
        exact ⟨hle, hzero⟩
      · rw [hzero hnone]
        refine ⟨by split <;> omega, fun h => absurd h hsome⟩

end Facts

section Changes

variable {past : List Commit} {k : Commit} {c : RecoveryContract}

/-- A change of the verified fingerprint sets one that was not set. -/
theorem fingerprint_change (hpast : Lawful LawfulCommit past)
    (hlatest : latestOf past k.after.contractId = some c)
    (hchange : Change (originOf (historyOf past k.after.contractId)) c k.eventType k.checkedAt
      k.after.toContractFields) :
    k.after.verifiedTargetFingerprint = c.verifiedTargetFingerprint ∨
      c.verifiedTargetFingerprint = none ∧ k.after.verifiedTargetFingerprint ≠ none := by
  have hupdate := hchange.updateOf
  rcases hupdate.fingerprint with hfp | ⟨hne, hverified, hset⟩
  · exact .inl hfp
  · refine .inr ⟨?_, hset⟩
    have hid : k.after.contractId = c.contractId := hupdate.sameIdentity.contractId
    rw [hid] at hlatest hchange
    generalize k.eventType = eventType, k.checkedAt = checkedAt,
      k.after.toContractFields = d at hchange hverified hne
    cases hchange with
    | transition _ ne_verified => exact absurd hverified ne_verified
    | confirmation => exact absurd rfl hne
    | verification isExecuting =>
      exact c.progressValid.fingerprintConsistent.1 (by rw [isExecuting]; rfl)
    | rollbackVerification => cases hverified
    | @resolution evidence isReconciliation boundary =>
      -- only an outcome of a forward mutation leads to `VERIFIED`
      rcases boundary with ⟨horigin, -⟩ | ⟨-, hrollback⟩
      · exact fingerprint_eq_none_of_origin hpast hlatest isReconciliation horigin
      · simp only [Store.resolved] at hverified
        cases hout : evidence.outcome <;>
          simp_all [ReconciliationOutcome.isRollback, ReconciliationOutcome.targetState]
    | rotation => exact absurd rfl hne

/-- A change of the confirmation sets one that was not set. -/
theorem UpdateOf.confirmation_sets {d : ContractFields} (h : UpdateOf c d) :
    (d.confirmationDigest = c.confirmationDigest ∨
      c.confirmationDigest = none ∧ d.confirmationDigest ≠ none) ∧
    (d.confirmedAt = c.confirmedAt ∨ c.confirmedAt = none ∧ d.confirmedAt ≠ none) := by
  rcases h.confirmation with ⟨h₁, h₂⟩ | ⟨h₁, h₂, h₃, h₄, -⟩
  · exact ⟨.inl h₁, .inl h₂⟩
  · exact ⟨.inr ⟨h₁, h₃⟩, .inr ⟨h₂, h₄⟩⟩

/-- A transition that the state machine allows fits the fingerprint rule, unless it is into
`VERIFIED`. -/
theorem fingerprintConsistent_moved {target : RecoveryState}
    (legal : requireTransition c.state target false = .ok ()) (ne_verified : target ≠ verified) :
    (Store.moved c target).FingerprintConsistent := by
  have hc := c.progressValid.fingerprintConsistent
  obtain ⟨rule, hrule, -⟩ := requireTransition_eq_ok.mp legal
  have hne := ne_reconciliation_of_requireTransition legal
  simp only [ContractFields.FingerprintConsistent, Store.moved] at hc ⊢
  cases hstate : c.state <;> cases target <;>
    simp_all [legalTransitions, forbidsVerifiedFingerprint, requiresVerifiedFingerprint]

/-- So does every resolution. -/
theorem fingerprintConsistent_resolved (c : RecoveryContract) (evidence : ReconciliationEvidence) :
    (Store.resolved c evidence).FingerprintConsistent := by
  by_cases hout : evidence.outcome = .confirmedApplied
  · obtain ⟨d, hd, -⟩ := evidence.fingerprint_of_applied hout
    simp [ContractFields.FingerprintConsistent, Store.resolved, hout, hd,
      ReconciliationOutcome.targetState, forbidsVerifiedFingerprint]
  · cases hcase : evidence.outcome <;>
      simp_all [ContractFields.FingerprintConsistent, Store.resolved,
        ReconciliationOutcome.targetState, forbidsVerifiedFingerprint,
        requiresVerifiedFingerprint]

/-- No change that passes its guards meets the state and fingerprint rule of the constructor. -/
theorem Change.fingerprintConsistent {origin : Option RecoveryState} {eventType : String}
    {checkedAt : Option DateTime} {d : ContractFields}
    (h : Change origin c eventType checkedAt d) : d.FingerprintConsistent := by
  have hc := c.progressValid.fingerprintConsistent
  cases h with
  | transition legal ne_verified => exact fingerprintConsistent_moved legal ne_verified
  | confirmation => exact hc
  | verification => exact ⟨nofun, fun _ => nofun⟩
  | rollbackVerification => exact ⟨nofun, nofun⟩
  | resolution => exact fingerprintConsistent_resolved c _
  | rotation => exact hc

end Changes

/-! ### Lawful traces -/

/-- The exchanges after which `execute` may close a contract as `FAILED`, in view of the events of
its call: the request was not handed on, nothing was sent, the appliance refused it, or the
appliance accepted it and the adapter did not find its effect. The code closes a contract as
`FAILED` after any other transport error, too. -/
def MayFail (events : List Event) (call : ℕ) (contractId : String) : Option Exchange → Prop
  | none => True
  | some (.connectError _) | some (.connectTimeout _) | some (.poolTimeout _) => True
  | some (.transportError _) => True
  | some (.response statusCode _) => 400 ≤ statusCode ∧ statusCode < 500 ∨
      200 ≤ statusCode ∧ statusCode < 300 ∧ .judged call contractId false ∈ events
  | some (.timeout _) | some (.otherError _ _ _) => False

theorem MayFail.mono {events events' : List Event} {call : ℕ} {contractId : String}
    {exchange : Option Exchange} (h : MayFail events call contractId exchange)
    (hsub : events ⊆ events') : MayFail events' call contractId exchange := by
  unfold MayFail at h ⊢
  split at h
  all_goals try exact h
  rcases h with h | ⟨h₁, h₂, h₃⟩
  · exact .inl h
  · exact .inr ⟨h₁, h₂, hsub h₃⟩

/-- A call that has handed on a request commits nothing but the end of that mutation, and closes
the contract as `FAILED` only when it may. -/
def Justified (events : List Event) (k : Commit) : Prop :=
  ∀ direction contractId exchange, .handed k.call direction contractId exchange ∈ events →
    (∃ c, k.before = some c ∧ c.contractId = contractId ∧ c.state = direction.inFlightState) ∧
    (direction = .forward → k.after.state = failed → MayFail events k.call contractId exchange)

/-- What an event has to satisfy in view of the events before it. -/
inductive LawfulEvent (past : List Event) : Event → Prop
  /-- A lawful commit. -/
  | committed {k : Commit} (h : LawfulCommit (commitsOf past) k)
      (justified : Justified (own k.call past) k) : LawfulEvent past (.committed k)
  /-- A request, handed on by a call that has done nothing but start the mutation. -/
  | handed {call : ℕ} {direction : Direction} {contractId : String} {exchange : Option Exchange}
      {k : Commit} (hown : own call past = [.committed k])
      (hid : k.after.contractId = contractId) (hopen : k.Opens direction) :
      LawfulEvent past (.handed call direction contractId exchange)
  /-- A verdict of an adapter. -/
  | judged {call : ℕ} {contractId : String} {verified : Bool} :
      LawfulEvent past (.judged call contractId verified)

/-- The commits of a lawful trace are lawful. -/
theorem lawful_commitsOf {trace : List Event} (h : Lawful LawfulEvent trace) :
    Lawful LawfulCommit (commitsOf trace) := by
  induction h with
  | nil => exact .nil
  | append _ he ih =>
    rw [commitsOf_append]
    cases he with
    | committed hk => exact .append ih hk
    | handed => simpa [commitsOf] using ih
    | judged => simpa [commitsOf] using ih

theorem mem_own {call : ℕ} {trace : List Event} {e : Event} :
    e ∈ own call trace ↔ e ∈ trace ∧ e.call = call := by
  simp [own]

theorem own_append (call : ℕ) (trace rest : List Event) :
    own call (trace ++ rest) = own call trace ++ own call rest := List.filter_append ..

end Tier1
