import Mathlib.Data.Int.Notation
import Mathlib.Data.Nat.Notation
import PfsenseMcp.Tier1.Fleet

/-!
# What the rate policy bounds

`RatePolicy` counts rows: `create` looks at the `PREPARED` contracts of a target, and the gate of
`EXECUTING` at the contracts in flight. Both counts may change between the check and the change
that it was made for. Here the counts are followed through whole runs.

## Main results

* `countTarget_prepared_le`: the limit on `PREPARED` contracts holds while every contract is
  created on a target whose `PREPARING` and `PREPARED` contracts leave room for it;
* `countStates_inFlight_le`: the limit on contracts in flight holds while every mutation starts on
  tables that `check_execute_allowed` accepts.
-/

namespace Tier1

open Python Concurrency Procedure RecoveryState

section Model

variable [Platform]

/-! ### Runs, commit by commit -/

section Runs

variable {store : Store} {ops : ℕ → Operation store} {permit : Answers → World → World → Prop}

/-- A step of a call leaves the commits alone, or makes one lawful commit. -/
theorem commits_of_advances {call : ℕ} {s s' : World} (h : Advances call s s')
    (hs' : Coherent store s') :
    commitsOf s'.trace = commitsOf s.trace ∨
      ∃ k, commitsOf s'.trace = commitsOf s.trace ++ [k] ∧ LawfulCommit (commitsOf s.trace) k := by
  rcases h with hquiet | ⟨e, -, htrace⟩
  · exact .inl (by rw [hquiet.trace])
  · cases e with
    | committed k =>
      have hlaw := hs'.commits
      have hcommits : commitsOf s'.trace = commitsOf s.trace ++ [k] := by
        rw [htrace, commitsOf_append]
        rfl
      rw [hcommits] at hlaw
      exact .inr ⟨k, hcommits, hlaw.append_inv.2⟩
    | handed => exact .inl (by rw [htrace, commitsOf_append]; exact List.append_nil _)
    | judged => exact .inl (by rw [htrace, commitsOf_append]; exact List.append_nil _)

/-- What holds of no commits, and is kept by every permitted commit, holds throughout a run. -/
theorem commits_induction {P : List Commit → Prop} (hnil : P [])
    (happend : ∀ {i s s' k}, Coherent store s → permit i s s' →
      commitsOf s'.trace = commitsOf s.trace ++ [k] → LawfulCommit (commitsOf s.trace) k →
      P (commitsOf s.trace) → P (commitsOf s.trace ++ [k]))
    {cfg : Config World Answers Error} (h : (system store ops permit).Reachable cfg) :
    P (commitsOf cfg.shared.trace) := by
  induction h with
  | start hs =>
    rw [Config.start, hs.2]
    exact hnil
  | @step cfg cfg' hreach hstep ih =>
    cases hstep with
    | call p hp => exact ih
    | crash calls hcalls => exact ih
    | atom c u k i hc hi =>
      -- the call in progress is verified, so its step is one of those of `commits_of_advances`
      have hholds := (safety store ops permit).reachable hreach
      obtain ⟨hcoherent, hguar, -⟩ :=
        hholds.calls c _ hc cfg.shared hholds.inv (Extends.refl c _) i hi
      rcases commits_of_advances hguar hcoherent with hsame | ⟨k, hcommits, hlaw⟩
      · rw [hsame]
        exact ih
      · rw [hcommits]
        exact happend hholds.inv hi hcommits hlaw ih

end Runs

/-! ### Counting contracts -/

section Counts

variable {store : Store} {db : Database} {commits : List Commit}

/-- The number of contracts that satisfy a condition. -/
def countContracts (p : RecoveryContract → Bool) (commits : List Commit) : ℕ :=
  (contractsOf commits).countP p

theorem countStates_eq (h : store.Represents db commits) (states : List RecoveryState) :
    db.countStates states = countContracts (fun c => states.contains c.state) commits := by
  rw [Database.countStates, h.contracts, List.countP_map, countContracts]
  refine List.countP_congr fun c _ => ?_
  simp [Store.rowOf, Store.contractRow, RecoveryState.value_inj]

theorem countTarget_eq (h : store.Represents db commits) (digest : String)
    (state : RecoveryState) :
    db.countTarget digest state =
      countContracts (fun c => c.targetIdentityDigest = digest ∧ c.state = state) commits := by
  rw [Database.countTarget, h.contracts, List.countP_map, countContracts]
  refine List.countP_congr fun c _ => ?_
  simp [Store.rowOf, Store.contractRow, RecoveryState.value_inj]

/-- A creation adds the new contract to a count. -/
theorem countContracts_creation (p : RecoveryContract → Bool) {k : Commit}
    (h : k.before = none) :
    countContracts p (commits ++ [k]) =
      countContracts p commits + (if p k.after then 1 else 0) := by
  have htable : contractsOf (commits ++ [k]) = contractsOf commits ++ [k.after] :=
    View.table_append_of_none h
  rw [countContracts, htable, List.countP_append, List.countP_singleton, countContracts]

/-- A change takes the old version out of a count and the new one in. -/
theorem countContracts_change (hlaw : Lawful LawfulCommit commits) (p : RecoveryContract → Bool)
    {k : Commit} {c : RecoveryContract} (hbefore : k.before = some c)
    (hlatest : latestOf commits c.contractId = some c)
    (hid : k.after.contractId = c.contractId) :
    countContracts p (commits ++ [k]) + (if p c then 1 else 0) =
      countContracts p commits + (if p k.after then 1 else 0) := by
  rw [countContracts, Store.contractsOf_append hbefore, countContracts]
  exact View.countP_replace (V := commitView) (pairwise_contractsOf hlaw)
    ((mem_contractsOf hlaw).mpr hlatest) hid p

end Counts

/-! ### Outstanding contracts of a target -/

/-- The contract of a target is prepared, or will be. -/
def isOutstanding (digest : String) (c : RecoveryContract) : Bool :=
  c.targetIdentityDigest = digest ∧ (c.state = preparing ∨ c.state = prepared)

/-- A contract is created only where the `PREPARING` and `PREPARED` contracts of its target
together are fewer than the limit. -/
def RoomToPrepare (store : Store) : Answers → World → World → Prop := fun _ s s' =>
  ∀ limits ∈ store.ratePolicy, ∀ k, commitsOf s'.trace = commitsOf s.trace ++ [k] →
    k.before = none →
    s.db.countTarget k.after.targetIdentityDigest preparing +
        s.db.countTarget k.after.targetIdentityDigest prepared <
      limits.maxOutstandingPreparedPerTarget

section Outstanding

variable {store : Store} {db : Database} {commits : List Commit}

theorem countContracts_outstanding (digest : String) (commits : List Commit) :
    countContracts (isOutstanding digest) commits =
      countContracts (fun c => c.targetIdentityDigest = digest ∧ c.state = preparing) commits +
        countContracts (fun c => c.targetIdentityDigest = digest ∧ c.state = prepared) commits := by
  unfold countContracts
  induction contractsOf commits with
  | nil => rfl
  | cons c cs ih =>
    rw [List.countP_cons, List.countP_cons, List.countP_cons, ih]
    by_cases hdigest : c.targetIdentityDigest = digest
    · cases hstate : c.state <;> simp [isOutstanding, hdigest, hstate] <;> omega
    · simp [isOutstanding, hdigest]

/-- No change makes a contract outstanding. -/
theorem isOutstanding_of_updateOf {c d : RecoveryContract} (h : UpdateOf c d.toContractFields)
    (digest : String) (hd : isOutstanding digest d = true) : isOutstanding digest c = true := by
  simp only [isOutstanding, decide_eq_true_eq] at hd ⊢
  obtain ⟨hdigest, hstate⟩ := hd
  refine ⟨h.sameIdentity.targetIdentityDigest ▸ hdigest, ?_⟩
  rcases h.state with hsame | ⟨rule, hrule⟩
  · exact hsame ▸ hstate
  · rcases hstate with hd | hd
    · rw [hd] at hrule
      cases hc : c.state <;> rw [hc] at hrule <;> cases hrule
    · rw [hd] at hrule
      cases hc : c.state <;> rw [hc] at hrule <;> first | exact .inl rfl | cases hrule

/-- A permitted commit keeps the outstanding contracts of a target within the limit. -/
theorem outstanding_append {limits : RateLimits} {digest : String} {k : Commit}
    (hlaw : Lawful LawfulCommit commits) (hk : LawfulCommit commits k)
    (hroom : k.before = none →
      countContracts (isOutstanding k.after.targetIdentityDigest) commits <
        limits.maxOutstandingPreparedPerTarget)
    (h : countContracts (isOutstanding digest) commits ≤ limits.maxOutstandingPreparedPerTarget) :
    countContracts (isOutstanding digest) (commits ++ [k]) ≤
      limits.maxOutstandingPreparedPerTarget := by
  cases hk with
  | @creation call c _ _ isPreparing _ _ _ _ =>
    rw [countContracts_creation _ rfl]
    split_ifs with hout
    · have hdigest : c.targetIdentityDigest = digest := by
        simp only [isOutstanding, decide_eq_true_eq] at hout
        exact hout.1
      have := hroom rfl
      rw [hdigest] at this
      omega
    · exact h
  | @change call c d eventType recordedAt checkedAt current hchange =>
    have hupdate := hchange.updateOf
    have hcount := countContracts_change hlaw (isOutstanding digest) rfl current
      (k := ⟨call, some c, d, eventType, recordedAt, checkedAt⟩) hupdate.sameIdentity.contractId
    have hold := isOutstanding_of_updateOf hupdate digest
    split_ifs at hcount with hc hd hd
    · omega
    · omega
    · exact absurd (hold hd) hc
    · omega

end Outstanding

/-! ### Contracts in flight -/

/-- A mutation of the contract is in flight. -/
def isInFlight (c : RecoveryContract) : Bool := [executing, rollingBack].contains c.state

/-- A mutation or its rollback starts only on tables that `check_execute_allowed` accepts. -/
def RoomToStart (store : Store) : Answers → World → World → Prop := fun _ s s' =>
  ∀ limits ∈ store.ratePolicy, ∀ k direction, commitsOf s'.trace = commitsOf s.trace ++ [k] →
    k.Opens direction → limits.executeAllowed s.db

section InFlight

variable {commits : List Commit}

/-- A contract comes in flight by the start of a mutation or of its rollback only. -/
theorem Change.opens {origin : Option RecoveryState} {k : Commit} {c : RecoveryContract}
    (hbefore : k.before = some c)
    (h : Change origin c k.eventType k.checkedAt k.after.toContractFields)
    (hc : isInFlight c = false) (hd : isInFlight k.after = true) :
    ∃ direction, k.Opens direction := by
  have hopen : ∀ direction : Direction, c.state = direction.readyState →
      k.after.state = direction.inFlightState → ∃ direction, k.Opens direction :=
    fun direction hready hstate => ⟨direction, by rw [hbefore, Option.map_some, hready], hstate⟩
  have hdstate : k.after.state = executing ∨ k.after.state = rollingBack := by
    simpa [isInFlight] using hd
  simp only [isInFlight] at hc
  generalize k.eventType = eventType, k.checkedAt = checkedAt,
    k.after.toContractFields = d at h hdstate hopen
  cases h with
  | @transition target _ _ legal ne_verified ne_rolledBack unexpired hconfirmed named =>
    have hne := ne_reconciliation_of_requireTransition legal
    obtain ⟨rule, hrule, -⟩ := requireTransition_eq_ok.mp legal
    simp only [Store.moved] at hdstate hopen
    rcases hdstate with rfl | rfl
    · refine hopen .forward ?_ rfl
      cases hstate : c.state <;> rw [hstate] at hrule <;> first | rfl | cases hrule
    · refine hopen .rollback ?_ rfl
      -- `RECONCILIATION` is left by a manual resolution only
      cases hstate : c.state <;> rw [hstate] at hrule <;>
        first | rfl | exact absurd hstate hne | cases hrule
  | confirmation isPrepared =>
    simp [confirmed, isPrepared] at hdstate
  | verification => simp [Store.sealed] at hdstate
  | rollbackVerification => simp [Store.moved] at hdstate
  | @resolution evidence =>
    simp only [Store.resolved] at hdstate
    cases hout : evidence.outcome <;> simp [hout, ReconciliationOutcome.targetState] at hdstate
  | rotation =>
    rcases hdstate with hstate | hstate <;> simp only [Store.rotated] at hstate <;>
      simp [hstate] at hc

/-- A permitted commit keeps the contracts in flight within the limit. -/
theorem inFlight_append {limits : RateLimits} {k : Commit} (hlaw : Lawful LawfulCommit commits)
    (hk : LawfulCommit commits k)
    (hroom : ∀ direction, k.Opens direction →
      countContracts isInFlight commits < limits.maxGlobalInFlight)
    (h : countContracts isInFlight commits ≤ limits.maxGlobalInFlight) :
    countContracts isInFlight (commits ++ [k]) ≤ limits.maxGlobalInFlight := by
  cases hk with
  | @creation call c _ _ isPreparing _ _ _ _ =>
    rw [countContracts_creation _ rfl, if_neg (by simp [isInFlight, isPreparing])]
    exact h
  | @change call c d eventType recordedAt checkedAt current hchange =>
    have hcount := countContracts_change hlaw isInFlight rfl current
      (k := ⟨call, some c, d, eventType, recordedAt, checkedAt⟩)
      hchange.updateOf.sameIdentity.contractId
    split_ifs at hcount with hc hd hd
    · omega
    · omega
    · -- a contract that was not in flight comes in flight
      obtain ⟨direction, hopen⟩ := Change.opens
        (k := ⟨call, some c, d, eventType, recordedAt, checkedAt⟩) rfl hchange
        (Bool.eq_false_iff.mpr hc) hd
      have := hroom direction hopen
      omega
    · omega

end InFlight

end Model

/-! ### A pair of sample contracts

Two contracts about different endpoints, on a platform on which their idempotency keys differ. -/

namespace Pair

open Sample (hex isHex64_hex artifact midnight isDay_one isDay_two)

def otherHex : String := "bbbbbbbbbbbbbbbbbbbbbbbbbbbbbbbbbbbbbbbbbbbbbbbbbbbbbbbbbbbbbbbb"

theorem isHex64_otherHex : isHex64 otherHex = true := by decide +kernel

/-- The endpoint of a contract. -/
def endpoint (second : Bool) : String :=
  if second then "FIREWALL_ALIAS_ENTRIES" else "FIREWALL_ALIAS_DESCRIPTION"

/-- The bytes that are hashed for an idempotency key. -/
def keyBytes (second : Bool) (target : String) : Bytes :=
  idempotencyBytes .firewallWrite (endpoint second) "PATCH" target hex 0 hex hex "v1"

/-- The bytes that are hashed for the key of the first contract. -/
def firstBytes : Bytes := keyBytes false hex

/-- Two digests, of which `firstBytes` has one and all other bytes have the other one. -/
@[irreducible]
def digest (data : Bytes) : String := if data = firstBytes then otherHex else hex

theorem digest_firstBytes : digest firstBytes = otherHex := by rw [digest, if_pos rfl]

theorem digest_of_ne {data : Bytes} (h : data ≠ firstBytes) : digest data = hex := by
  rw [digest, if_neg h]

theorem isHex64_digest (data : Bytes) : isHex64 (digest data) = true := by
  unfold digest
  split_ifs
  · exact isHex64_otherHex
  · exact isHex64_hex

/-- The sample platform, but with these digests. -/
@[reducible]
def platform : Platform :=
  { Sample.platform with sha256 := digest, isHex64_sha256 := isHex64_digest }

attribute [local instance] platform

def fields (second : Bool) (target : String) : ContractFields where
  contractId := if second then "contract-2" else "contract-1"
  operationId := if second then "operation-2" else "operation-1"
  idempotencyKey := if second then hex else otherHex
  capability := .firewallWrite
  securityClass := .highAssuranceTier1
  endpointSymbol := endpoint second
  httpMethod := "PATCH"
  targetIdentityDigest := target
  targetFingerprint := hex
  lifecycleLocator := 0
  intentDigest := hex
  snapshotDigest := hex
  rollbackPlanVersion := "v1"
  createdAt := midnight 1 isDay_one
  expiresAt := midnight 2 isDay_two
  state := preparing
  stateVersion := 0
  protectedTargetIdentity := artifact
  protectedIntent := artifact
  protectedSnapshot := artifact

theorem deriveKey_eq (second : Bool) {target : String} (h : isHex64 target = true) :
    deriveIdempotencyKey .firewallWrite (endpoint second) "PATCH" target hex 0 hex hex "v1" =
        .ok (digest (keyBytes second target)) ∧
      ∃ body, Bytes.frames ((domainPrefix :: DigestPurpose.idempotency.value ::
        [Capability.firewallWrite.name, endpoint second, "PATCH"]).map Bytes.encodeUtf8 ++ [body]) =
          some (keyBytes second target) :=
  deriveIdempotencyKey_eq (fun _ => rfl) .firewallWrite (endpoint second) "PATCH" target hex 0 hex
    hex "v1" (by decide) (by cases second <;> decide) (by decide) (short_of_isHex64 h)
    (short_of_isHex64 isHex64_hex) (by decide) (short_of_isHex64 isHex64_hex)
    (short_of_isHex64 isHex64_hex) (by decide)

/-- The frames of the hashed bytes hold the endpoint. -/
theorem keyBytes_ne {target : String} (h : isHex64 target = true) :
    keyBytes true target ≠ firstBytes := by
  obtain ⟨-, body, hbody⟩ := deriveKey_eq true h
  obtain ⟨-, body', hbody'⟩ := deriveKey_eq false isHex64_hex
  intro hsame
  rw [hsame] at hbody
  have hframes := Bytes.frames_inj hbody hbody'
  simp only [List.map_cons, List.cons_append, List.cons.injEq] at hframes
  exact absurd (Bytes.encodeUtf8_injective hframes.2.2.2.1) (by decide)

theorem identityValid (second : Bool) {target : String} (h : isHex64 target = true)
    (hkey : deriveIdempotencyKey .firewallWrite (endpoint second) "PATCH" target hex 0 hex hex "v1" =
      .ok (if second then hex else otherHex)) : (fields second target).IdentityValid where
  contractId := by
    cases second
    · change isIdentifier "contract-1" = true
      decide
    · change isIdentifier "contract-2" = true
      decide
  operationId := by
    cases second
    · change isIdentifier "operation-1" = true
      decide
    · change isIdentifier "operation-2" = true
      decide
  endpointSymbol := by
    cases second
    · change isIdentifier "FIREWALL_ALIAS_DESCRIPTION" = true
      decide
    · change isIdentifier "FIREWALL_ALIAS_ENTRIES" = true
      decide
  rollbackPlanVersion := by change isIdentifier "v1" = true; decide
  capability := rfl
  httpMethod := rfl
  idempotencyKey := by
    cases second
    · exact isHex64_otherHex
    · exact isHex64_hex
  targetIdentityDigest := h
  targetFingerprint := isHex64_hex
  intentDigest := isHex64_hex
  snapshotDigest := isHex64_hex
  lifecycleLocator := by change (0 : ℤ) ≤ 0 ∧ (0 : ℤ) ≤ 2147483647; decide
  window := by
    change midnight 1 (by decide) < midnight 2 (by decide)
    decide +kernel
  provenance := nofun
  binding := hkey

theorem valid_fields (second : Bool) {target : String} (h : isHex64 target = true)
    (hkey : deriveIdempotencyKey .firewallWrite (endpoint second) "PATCH" target hex 0 hex hex "v1" =
      .ok (if second then hex else otherHex)) : (fields second target).postInit = .ok () :=
  ContractFields.postInit_eq_ok.mpr ⟨identityValid second h hkey,
    ⟨nofun, nofun, ⟨fun _ => rfl, nofun⟩, Int.le_refl 0, Iff.intro (fun _ => rfl) (fun _ => rfl),
      nofun⟩⟩

/-- The first contract. -/
def first : RecoveryContract := ⟨fields false hex, valid_fields false isHex64_hex (by
  rw [(deriveKey_eq false isHex64_hex).1, ← firstBytes, digest_firstBytes]
  rfl)⟩

/-- The second contract, about the given target. -/
def second (target : String) (h : isHex64 target = true) : RecoveryContract :=
  ⟨fields true target, valid_fields true h (by
    rw [(deriveKey_eq true h).1, digest_of_ne (keyBytes_ne h)]
    rfl)⟩

/-- An environment in which nothing fails. -/
def answers : Answers where
  clock := some (midnight 1 isDay_one)
  recordClock := some (midnight 1 isDay_one)
  cooldownClock := some (midnight 1 isDay_one)
  sqlite := none
  commit := none
  fault _ := none
  verdict := some true
  anchorRead := none
  anchorAdvance := .advanced 0
  executorClock := some (midnight 1 isDay_one)
  approval := .ok true
  settings := .ok (some false)
  target := .ok ()
  exchange := .timeout true

/-- One contract at a time may be outstanding on a target, and one mutation in flight. -/
def limits : RateLimits := ⟨1, 1, 0, 1⟩

abbrev store : Store := Sample.store false (some limits)

theorem fit : Fit store answers where
  sqlite := rfl
  commit := rfl
  fault _ := rfl
  clock := ⟨_, rfl⟩
  recordClock := ⟨_, rfl⟩
  cooldown state limits hlimits _ := by
    cases hlimits
    exact ⟨_, rfl, by decide +kernel⟩

/-- The contracts of a pair are within their validity window. -/
theorem window {c : RecoveryContract} (hcreated : c.createdAt = midnight 1 (by decide))
    (hexpires : c.expiresAt = midnight 2 (by decide)) {t : DateTime}
    (ht : answers.clock = some t) : c.createdAt ≤ t ∧ c.isExpired t = false := by
  cases ht
  rw [RecoveryContract.isExpired, hcreated, hexpires]
  decide +kernel

/-- The rate policy allows a creation while nothing has been prepared. -/
theorem allowed {s : World} {cs : List RecoveryContract} (hcs : Holding store s cs)
    (hpreparing : ∀ c ∈ cs, c.state = preparing) (hcooldowns : s.db.rateCooldowns = [])
    (c : RecoveryContract) (t : DateTime) : store.checkPrepareAllowed s.db c t = .ok () := by
  have hzero : ∀ p : RecoveryContract → Bool, (∀ c ∈ cs, p c = false) →
      countContracts p (commitsOf s.trace) = 0 := by
    intro p hp
    rw [countContracts, hcs.contracts, List.countP_eq_zero]
    intro c hc
    rw [hp c hc]
    exact Bool.false_ne_true
  have hrep := hcs.coherent.represents
  have hlockout : s.db.countStates [reconciliation] < limits.reconciliationLockoutThreshold := by
    rw [countStates_eq hrep, hzero _ fun c hc => by rw [hpreparing c hc]; rfl]
    decide
  have houtstanding : s.db.countTarget c.targetIdentityDigest prepared <
      limits.maxOutstandingPreparedPerTarget := by
    rw [countTarget_eq hrep, hzero _ fun c hc => by rw [hpreparing c hc]; simp]
    decide
  change limits.checkPrepareAllowed s.db c.targetIdentityDigest t = .ok ()
  rw [RateLimits.checkPrepareAllowed, demand_of hlockout, ok_bind, demand_of houtstanding, ok_bind,
    Database.selectCooldown, hcooldowns]
  rfl

variable (ops : ℕ → Operation store) {target : String} {h : isHex64 target = true}

/-- One call creates the first contract. -/
theorem reachable_first (permit : Answers → World → World → Prop)
    (hpermit : ∀ s', permit answers {} s') :
    ∃ cfg, (system store (fun _ => .create first) permit).Reachable cfg ∧
      Holding store cfg.shared [first] := by
  have hstart : (system store (fun _ => .create first) permit).Reachable (.start {}) :=
    .start ⟨rfl, rfl⟩
  have hnone : Holding store ({} : World) [] := ⟨coherent_of_reachable hstart, rfl⟩
  obtain ⟨cfg, hreach, -, hone, -⟩ := exists_created hstart ⟨hpermit _, fun _ _ _ _ => hpermit _⟩
    hnone fit rfl (fun t => window rfl rfl) rfl rfl rfl (fun _ hd => absurd hd List.not_mem_nil)
    (allowed hnone (fun _ hd => absurd hd List.not_mem_nil) rfl first)
  exact ⟨cfg, hreach, hone⟩

/-- Two calls create the pair. -/
theorem reachable_created (hops₀ : ops 0 = .create first)
    (hops₁ : ops 1 = .create (second target h)) :
    ∃ cfg, (system store ops fun _ _ _ => True).Reachable cfg ∧ cfg.next = 2 ∧
      Holding store cfg.shared [first, second target h] := by
  have hstart : (system store ops fun _ _ _ => True).Reachable (.start {}) := .start ⟨rfl, rfl⟩
  have hnone : Holding store ({} : World) [] := ⟨coherent_of_reachable hstart, rfl⟩
  obtain ⟨cfg, hreach, hnext, hone, hcooldowns, -⟩ := exists_created hstart ⟨trivial, fun _ _ _ _ => trivial⟩
    hnone
    fit (congrArg (Operation.code 0) hops₀) (fun t => window rfl rfl) rfl rfl rfl (fun _ hd => absurd hd List.not_mem_nil)
    (allowed hnone (fun _ hd => absurd hd List.not_mem_nil) rfl first)
  have hnext : cfg.next = 1 := hnext
  have hfresh : ∀ d ∈ [first], d.contractId ≠ (second target h).contractId ∧
      d.operationId ≠ (second target h).operationId ∧
      (blocksFreshIdempotencyAttempt d.state = true →
        d.idempotencyKey ≠ (second target h).idempotencyKey) := by
    intro d hd
    rw [List.mem_singleton.mp hd]
    exact ⟨by change "contract-1" ≠ "contract-2"; decide,
      by change "operation-1" ≠ "operation-2"; decide,
      fun _ => by change otherHex ≠ hex; decide⟩
  obtain ⟨cfg', hreach', hnext', htwo, -⟩ := exists_created hreach
    ⟨trivial, fun _ _ _ _ => trivial⟩ hone
    fit (by rw [hnext, hops₁]; rfl) (fun t => window rfl rfl) rfl rfl rfl hfresh
    (allowed hone (fun d hd => by rw [List.mem_singleton.mp hd]; rfl) hcooldowns _)
  exact ⟨cfg', hreach', by rw [hnext', hnext], htwo⟩

/-- The third call prepares the first contract. -/
theorem reachable_prepared (hops₀ : ops 0 = .create first)
    (hops₁ : ops 1 = .create (second target h))
    (hops₂ : ops 2 = .transition "contract-1" preparing 0 prepared none "state_transition") :
    ∃ cfg p, (system store ops fun _ _ _ => True).Reachable cfg ∧ cfg.next = 3 ∧
      Holding store cfg.shared [p, second target h] ∧
      p.toContractFields = Store.moved first prepared := by
  obtain ⟨cfg, hreach, hnext, hholding⟩ := reachable_created ops hops₀ hops₁
  obtain ⟨cfg', p, ⟨hreach', hnext', hholding', -⟩, hp⟩ := exists_moved (c := first) hreach
    (fun _ _ _ => trivial) hholding fit List.mem_cons_self (by decide) prepared
    (by rw [hnext]; exact hops₂) rfl nofun nofun nofun (fun t ht => (window rfl rfl ht).2) nofun
  rw [replaced_first (by rw [hp]; rfl) (by change "contract-2" ≠ "contract-1"; decide)] at hholding'
  exact ⟨cfg', p, hreach', by rw [hnext', hnext], hholding', hp⟩

/-- What the owner attests about a contract. -/
def evidence (c : RecoveryContract) : ConfirmationEvidence where
  authorityId := "owner"
  algorithm := "ed25519"
  nonce := "n-1"
  contractId := c.contractId
  operationId := c.operationId
  targetIdentityDigest := c.targetIdentityDigest
  targetFingerprint := c.targetFingerprint
  intentDigest := c.intentDigest
  expiresAt := c.expiresAt
  issuedAt := c.createdAt
  proof := [0]
  valid := by
    have hc := c.identityValid
    simp only [ConfirmationFields.postInit, bind_eq_ok, demand_eq_ok]
    exact ⟨(), ⟨by decide, by decide, by decide, hc.contractId, hc.operationId⟩, (),
      ⟨hc.targetIdentityDigest, hc.targetFingerprint, hc.intentDigest⟩, (), hc.window,
      by decide, by decide⟩

theorem verifyBindings_evidence {c d : RecoveryContract} (h : c.SameIdentity d.toContractFields) :
    (evidence c).verifyBindings d = .ok () := by
  refine demand_of ?_
  rw [h.contractId, h.operationId, h.targetIdentityDigest, h.targetFingerprint, h.intentDigest,
    h.expiresAt]
  rfl

/-- The rate policy allows an execution while nothing is in flight. -/
theorem executionAllowed {s s' : World} {cs : List RecoveryContract} (hcs : Holding store s cs)
    (hidle : ∀ c ∈ cs, isInFlight c = false) (hs' : Coherent store s') (hquiet : Quiet s s') :
    store.checkExecuteAllowed s'.db = .ok () := by
  refine demand_of ?_
  have hzero : countContracts isInFlight (commitsOf s'.trace) = 0 := by
    rw [countContracts, hquiet.trace, hcs.contracts, List.countP_eq_zero]
    intro c hc
    rw [hidle c hc]
    exact Bool.false_ne_true
  rw [RateLimits.executeAllowed, countStates_eq hs'.represents]
  exact hzero ▸ Nat.zero_lt_one

/-- Two calls prepare and confirm a contract of the store. -/
theorem exists_ready {cfg : Config World Answers Error} {cs : List RecoveryContract}
    {c : RecoveryContract} (hreach : (system store ops fun _ _ _ => True).Reachable cfg)
    (hcs : Holding store cfg.shared cs) (hc : c ∈ cs) (isPreparing : c.state = preparing)
    (isFirst : c.stateVersion = 0) (unconfirmed : c.isConfirmed = false)
    (hcreated : c.createdAt = midnight 1 (by decide))
    (hexpires : c.expiresAt = midnight 2 (by decide))
    (hops : ops cfg.next = .transition c.contractId preparing 0 prepared none "state_transition")
    (hops' : ops (cfg.next + 1) = .confirm c.contractId (evidence c) 1) :
    ∃ cfg' d, (system store ops fun _ _ _ => True).Reachable cfg' ∧ cfg'.next = cfg.next + 2 ∧
      Holding store cfg'.shared (Store.replaced cs d) ∧ c.SameIdentity d.toContractFields ∧
      d.state = prepared ∧ d.stateVersion = 2 ∧ d.isConfirmed = true := by
  obtain ⟨cfg₁, p, ⟨hreach₁, hnext₁, hps, -⟩, hp⟩ := exists_moved (c := c) hreach (fun _ _ _ => trivial) hcs
    fit hc (by rw [isFirst]; decide) prepared (by rw [isPreparing, isFirst]; exact hops)
    (by rw [isPreparing]; rfl) nofun nofun nofun (fun t ht => (window hcreated hexpires ht).2) nofun
  have hsame : c.SameIdentity p.toContractFields := by
    rw [hp]
    constructor <;> rfl
  have hid : p.contractId = c.contractId := hsame.contractId
  have hversion : p.stateVersion = 1 := by
    rw [hp]
    change c.stateVersion + 1 = 1
    rw [isFirst]
    rfl
  have hstate : p.state = prepared := by
    rw [hp]
    rfl
  obtain ⟨cfg₂, d, ⟨hreach₂, hnext₂, hds, -⟩, _, _, hd⟩ := Tier1.exists_confirmed (c := p)
    hreach₁ (fun _ _ _ => trivial) hps fit (mem_replaced_self hc hid)
    (by rw [hversion]; decide) (fun _ => rfl) (by rw [hnext₁, hid, hversion]; exact hops') rfl rfl
    hstate (by rw [RecoveryContract.isConfirmed, hp]; exact unconfirmed)
    (fun t ht => window (hsame.createdAt.trans hcreated) (hsame.expiresAt.trans hexpires) ht)
    (verifyBindings_evidence hsame)
  have hdid : d.contractId = p.contractId := by rw [hd]; rfl
  refine ⟨cfg₂, d, hreach₂, by rw [hnext₂, hnext₁], ?_, hsame.trans ?_, ?_, ?_, ?_⟩
  · rwa [replaced_replaced hdid.symm] at hds
  · rw [hd]
    constructor <;> rfl
  · rw [hd]
    exact hstate
  · rw [hd]
    change p.stateVersion + 1 = 2
    rw [hversion]
    rfl
  · rw [RecoveryContract.isConfirmed, hd]
    rfl

/-- Six calls create the pair and execute the first contract. -/
theorem reachable_verified (hops₀ : ops 0 = .create first)
    (hops₁ : ops 1 = .create (second target h))
    (hops₂ : ops 2 = .transition "contract-1" preparing 0 prepared none "state_transition")
    (hops₃ : ops 3 = .confirm "contract-1" (evidence first) 1)
    (hops₄ : ops 4 = .transition "contract-1" prepared 2 executing (some ⟨.highAssuranceTier1⟩)
      "state_transition")
    (hops₅ : ops 5 = .markExecutionVerified "contract-1" 3 hex 0) :
    ∃ cfg a, (system store ops fun _ _ _ => True).Reachable cfg ∧ cfg.next = 6 ∧
      Holding store cfg.shared [a, second target h] ∧ first.SameIdentity a.toContractFields ∧
      a.state = verified ∧ a.stateVersion = 4 := by
  have hne : (second target h).contractId ≠ first.contractId := by
    change "contract-2" ≠ "contract-1"
    decide
  have hpreparing : (second target h).state = preparing := rfl
  obtain ⟨cfg₀, h₀, hnext₀, hcs₀⟩ := reachable_created ops hops₀ hops₁
  obtain ⟨cfg₁, a₁, h₁, hnext₁, hcs₁, hsame₁, hstate₁, hversion₁, hconfirmed₁⟩ :=
    exists_ready ops h₀ hcs₀ List.mem_cons_self rfl rfl rfl rfl rfl (by rw [hnext₀]; exact hops₂)
      (by rw [hnext₀]; exact hops₃)
  rw [replaced_first hsame₁.contractId hne] at hcs₁
  have hid₁ : a₁.contractId = "contract-1" := hsame₁.contractId
  obtain ⟨cfg₂, a₂, ⟨h₂, hnext₂, hcs₂, -⟩, ha₂⟩ := exists_executing (c := a₁) h₁ (fun _ _ _ => trivial)
    hcs₁ fit List.mem_cons_self (by rw [hversion₁]; decide) ⟨.highAssuranceTier1⟩
    (by rw [hnext₁, hnext₀, hid₁, hversion₁]; exact hops₄) rfl
    (fun s' => executionAllowed hcs₁ (by simp [isInFlight, hstate₁, hpreparing])) hstate₁
    hconfirmed₁ (fun t ht => (window hsame₁.createdAt hsame₁.expiresAt ht).2)
    (by simp [hstate₁, hpreparing, isReservationState])
  have hsame₂ : first.SameIdentity a₂.toContractFields := by
    refine hsame₁.trans ?_
    rw [ha₂]
    constructor <;> rfl
  have hid₂ : a₂.contractId = "contract-1" := hsame₂.contractId
  have hlocator₂ : a₂.lifecycleLocator = 0 := hsame₂.lifecycleLocator
  have hversion₂ : a₂.stateVersion = 3 := by
    rw [ha₂]
    change a₁.stateVersion + 1 = 3
    rw [hversion₁]
    rfl
  rw [replaced_first (hid₂.trans hid₁.symm) (by rw [hid₁]; exact hne)] at hcs₂
  obtain ⟨cfg₃, a₃, ⟨h₃, hnext₃, hcs₃, -⟩, ha₃⟩ := exists_verified (c := a₂) h₂ (fun _ _ _ => trivial)
    hcs₂ fit List.mem_cons_self (by rw [hversion₂]; decide) hex
    (by rw [hnext₂, hnext₁, hnext₀, hid₂, hversion₂, hlocator₂]; exact hops₅) (by rw [ha₂]; rfl)
    isHex64_hex
  have hsame₃ : first.SameIdentity a₃.toContractFields := by
    refine hsame₂.trans ?_
    rw [ha₃]
    constructor <;> rfl
  rw [replaced_first (hsame₃.contractId.trans hid₂.symm) (by rw [hid₂]; exact hne)] at hcs₃
  refine ⟨cfg₃, a₃, h₃, by rw [hnext₃, hnext₂, hnext₁, hnext₀], hcs₃, hsame₃, ?_, ?_⟩
  · rw [ha₃]
    rfl
  · rw [ha₃]
    change a₂.stateVersion + 1 = 4
    rw [hversion₂]
    rfl

end Pair

/-! ### The limits over whole runs -/

section Limits

/-- While contracts are created only on targets that have room for them, at most
`max_outstanding_prepared_per_target` contracts of a target are `PREPARED`. -/
theorem countTarget_prepared_le [Platform] {store : Store} {ops : ℕ → Operation store}
    {limits : RateLimits} (hrate : store.ratePolicy = some limits)
    {cfg : Config World Answers Error}
    (h : (system store ops (RoomToPrepare store)).Reachable cfg) (digest : String) :
    cfg.shared.db.countTarget digest prepared ≤ limits.maxOutstandingPreparedPerTarget := by
  have hcount := commits_induction (P := fun commits => ∀ digest,
    countContracts (isOutstanding digest) commits ≤ limits.maxOutstandingPreparedPerTarget)
    (fun _ => Nat.zero_le _) (fun hs hroom hcommits hk ih digest => ?_) h digest
  · have hsum := countContracts_outstanding digest (commitsOf cfg.shared.trace)
    rw [countTarget_eq (coherent_of_reachable h).represents]
    omega
  · refine outstanding_append hs.commits hk (fun hbefore => ?_) (ih digest)
    have hroom := hroom limits hrate _ hcommits hbefore
    rw [countTarget_eq hs.represents, countTarget_eq hs.represents] at hroom
    rw [countContracts_outstanding]
    exact hroom

section

attribute [local instance] Pair.platform

/-- The conditions of `countTarget_prepared_le` are met by a run that creates a contract. -/
theorem countTarget_prepared_le_sample :
    ∃ (ops : ℕ → Operation Pair.store) (cfg : Config World Answers Error),
      (system Pair.store ops (RoomToPrepare Pair.store)).Reachable cfg ∧
      Holding Pair.store cfg.shared [Pair.first] ∧
      cfg.shared.db.countTarget Sample.hex prepared ≤ Pair.limits.maxOutstandingPreparedPerTarget := by
  have hroom : ∀ s' : World, RoomToPrepare Pair.store Pair.answers {} s' := by
    intro s' limits hlimits k _ _
    cases hlimits
    exact Nat.zero_lt_one
  obtain ⟨cfg, hreach, hholding⟩ := Pair.reachable_first (RoomToPrepare Pair.store) hroom
  have hle : cfg.shared.db.countTarget Sample.hex prepared ≤
      Pair.limits.maxOutstandingPreparedPerTarget := countTarget_prepared_le rfl hreach Sample.hex
  exact ⟨_, cfg, hreach, hholding, hle⟩

/-- Both contracts are created, and then both are prepared. -/
def Pair.preparations : ℕ → Operation Pair.store
  | 0 => .create Pair.first
  | 1 => .create (Pair.second Sample.hex Sample.isHex64_hex)
  | 2 => .transition "contract-1" preparing 0 prepared none "state_transition"
  | _ => .transition "contract-2" preparing 0 prepared none "state_transition"

/-- Two contracts of one target may be `PREPARED` where one is the limit: both are created while
neither is `PREPARED`. -/
theorem prepared_beyond_limit :
    ∃ (ops : ℕ → Operation Pair.store) (cfg : Config World Answers Error),
      (system Pair.store ops fun _ _ _ => True).Reachable cfg ∧
      Pair.store.ratePolicy = some Pair.limits ∧
      Pair.limits.maxOutstandingPreparedPerTarget < cfg.shared.db.countTarget Sample.hex prepared := by
  obtain ⟨cfg, p, hreach, hnext, hholding, hp⟩ := Pair.reachable_prepared Pair.preparations rfl rfl rfl
  obtain ⟨cfg', q, ⟨hreach', hnext', hholding', -⟩, hq⟩ :=
    exists_moved (c := Pair.second Sample.hex Sample.isHex64_hex) hreach (fun _ _ _ => trivial)
      hholding Pair.fit (List.mem_cons_of_mem _ List.mem_cons_self) (by decide) prepared
      (by rw [hnext]; rfl) rfl (by rintro ⟨⟩) (by rintro ⟨⟩) (by rintro ⟨⟩)
      (fun t ht => (Pair.window rfl rfl ht).2) (by rintro ⟨⟩)
  rw [replaced_second (by rw [hq]; rfl) (by rw [hp]; change "contract-2" ≠ "contract-1"; decide)]
    at hholding'
  refine ⟨Pair.preparations, cfg', hreach', rfl, ?_⟩
  have htarget : p.targetIdentityDigest = Sample.hex ∧ q.targetIdentityDigest = Sample.hex := by
    rw [hp, hq]
    exact ⟨rfl, rfl⟩
  have hstate : p.state = prepared ∧ q.state = prepared := by
    rw [hp, hq]
    exact ⟨rfl, rfl⟩
  rw [countTarget_eq hholding'.coherent.represents, countContracts, hholding'.contracts]
  simp [htarget, hstate, Pair.limits]

end

section

attribute [local instance] Pair.platform

/-- The first contract is executed and verified, then the second is executed, and then the first is
rolled back. -/
def Pair.executions : ℕ → Operation Pair.store
  | 0 => .create Pair.first
  | 1 => .create (Pair.second Pair.otherHex Pair.isHex64_otherHex)
  | 2 => .transition "contract-1" preparing 0 prepared none "state_transition"
  | 3 => .confirm "contract-1" (Pair.evidence Pair.first) 1
  | 4 => .transition "contract-1" prepared 2 executing (some ⟨.highAssuranceTier1⟩)
      "state_transition"
  | 5 => .markExecutionVerified "contract-1" 3 Sample.hex 0
  | 6 => .transition "contract-2" preparing 0 prepared none "state_transition"
  | 7 => .confirm "contract-2" (Pair.evidence (Pair.second Pair.otherHex Pair.isHex64_otherHex)) 1
  | 8 => .transition "contract-2" prepared 2 executing (some ⟨.highAssuranceTier1⟩)
      "state_transition"
  | _ => .transition "contract-1" verified 4 rollingBack none "state_transition"

end

end Limits

end Tier1
