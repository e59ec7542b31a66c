import Mathlib.Data.Nat.Notation
import Mathlib.Order.Monotone.Basic
import PfsenseMcp.Python.Calendar
import PfsenseMcp.Tier1.OperationSteps
import PfsenseMcp.Tier1.RateLimiting

/-!
# Target cooldowns

`_replace` of `tier1/store.py` writes the cooldown of a target whenever it writes a contract in a
concluded state. Here the row of a target is followed through whole runs, and compared with the
changes of state that the commits record.

A run is considered with a clock that gives the reading for every commit that records a cooldown, by
the number of the commit.

## Main results

* `cooldown_iff`: while no artifacts of a concluded contract are rotated, a creation is refused by
  the cooldown check exactly if a contract of its target was concluded less than
  `target_cooldown_seconds` before;
* `refused_after_rotation`: a rotation of a contract that failed long ago starts a new cooldown.
-/

namespace Tier1

open Python Concurrency Procedure RecoveryState

section Model

variable [Platform]

/-! ### What a step does to the cooldowns -/

/-- What a step does to the commits and to the cooldowns, under the given limits. -/
inductive CooldownStep (limits : RateLimits) (i : Answers) (s s' : World) : Prop
  /-- It leaves both alone. -/
  | quiet (commits : commitsOf s'.trace = commitsOf s.trace)
      (rows : s'.db.rateCooldowns = s.db.rateCooldowns)
  /-- It commits a contract that is not concluded. -/
  | committed {k : Commit} (commits : commitsOf s'.trace = commitsOf s.trace ++ [k])
      (state : isCooldownState k.after.state = false)
      (rows : s'.db.rateCooldowns = s.db.rateCooldowns)
  /-- It commits a contract that is concluded, and writes the cooldown of its target. -/
  | cooled {k : Commit} {t until' : DateTime}
      (commits : commitsOf s'.trace = commitsOf s.trace ++ [k])
      (state : isCooldownState k.after.state = true) (clock : i.cooldownClock = some t)
      (ends : t.addSeconds limits.targetCooldownSeconds = some until')
      (rows : s'.db.rateCooldowns = (s.db.upsertCooldown
        ⟨k.after.targetIdentityDigest, until'.isoformat⟩).rateCooldowns)

open Op

namespace Store

variable {store : Store} {limits : RateLimits}

/-- A transaction whose effect on the cooldowns is that of the contract it commits. -/
theorem cools_transact {block : Answers → Database → Except Error (Database × DateTime)}
    {commit : DateTime → Commit}
    (h : ∀ i db db' t, block i db = .ok (db', t) →
      isCooldownState (commit t).after.state = false ∧ db'.rateCooldowns = db.rateCooldowns ∨
      isCooldownState (commit t).after.state = true ∧ ∃ now until', i.cooldownClock = some now ∧
        now.addSeconds limits.targetCooldownSeconds = some until' ∧
        db'.rateCooldowns = (db.upsertCooldown
          ⟨(commit t).after.targetIdentityDigest, until'.isoformat⟩).rateCooldowns) :
    (transact block commit).Does (CooldownStep limits) := by
  refine does_transact (fun _ _ => .quiet rfl rfl) fun i s db t hblock => ?_
  have hcommits : commitsOf (s.trace ++ [.committed (commit t)]) =
      commitsOf s.trace ++ [commit t] := commitsOf_append _ _
  rcases h i _ _ _ hblock with ⟨hstate, hrows⟩ | ⟨hstate, now, until', hclock, hends, hrows⟩
  · exact .committed hcommits hstate hrows
  · exact .cooled hcommits hstate hclock hends hrows

theorem rateCooldowns_of_moveReservation {db db' : Database} {current updated : RecoveryContract}
    (h : moveReservation db current updated = .ok db') : db'.rateCooldowns = db.rateCooldowns := by
  unfold moveReservation at h
  split_ifs at h
  · unfold Database.insertReservation Database.constraintFailed fail at h
    split_ifs at h
    cases h
    rfl
  · cases h
    rfl
  · cases h
    rfl

omit [Platform] in
theorem rateCooldowns_of_updateContract {db db' : Database} {contractId : String}
    {oldState state : RecoveryState} {oldVersion version : ℤ} {payload : Bytes} {code : String}
    {n : ℕ} (h : db.updateContract contractId oldState oldVersion state version payload code =
      .ok (db', n)) : db'.rateCooldowns = db.rateCooldowns := by
  unfold Database.updateContract Database.constraintFailed fail at h
  dsimp only at h
  split_ifs at h
  cases h
  rfl

/-- The cooldown that `_replace` writes. -/
theorem rateCooldowns_of_replaceBlock (hrate : store.ratePolicy = some limits)
    {current updated : RecoveryContract} {eventType : String} {i : Answers} {db db' : Database}
    {t : DateTime} (h : store.replaceBlock current updated eventType i db = .ok (db', t)) :
    isCooldownState updated.state = false ∧ db'.rateCooldowns = db.rateCooldowns ∨
    isCooldownState updated.state = true ∧ ∃ now until', i.cooldownClock = some now ∧
      now.addSeconds limits.targetCooldownSeconds = some until' ∧
      db'.rateCooldowns = (db.upsertCooldown
        ⟨updated.targetIdentityDigest, until'.isoformat⟩).rateCooldowns := by
  simp only [replaceBlock, conflictOnIntegrity_eq_ok, bind_eq_ok] at h
  obtain ⟨_, -, row, -, a, -, _, -, db₁, hmove, code, -, _, -, ⟨db₂, n⟩, hwrite, _, -, _, -, db₃,
    haudit, db₄, hcooldown, _, -, _, -, h⟩ := h
  cases h
  obtain ⟨tag, -, rfl⟩ := insertAudit_ok haudit
  have hrows : db₂.rateCooldowns = db.rateCooldowns :=
    (rateCooldowns_of_updateContract hwrite).trans (rateCooldowns_of_moveReservation hmove)
  unfold startCooldown at hcooldown
  rw [hrate] at hcooldown
  dsimp only at hcooldown
  by_cases hstate : isCooldownState updated.state = true
  · rw [if_pos hstate] at hcooldown
    simp only [bind_eq_ok, RateLimits.recordTerminal] at hcooldown
    obtain ⟨now, hnow, hcooldown⟩ := hcooldown
    split at hcooldown
    · cases hcooldown
    · rename_i until' hends
      cases hcooldown
      refine .inr ⟨hstate, now, until', ?_, hends, ?_⟩
      · unfold requireUtc at hnow
        split at hnow
        · rename_i now' hclock
          cases hnow
          exact hclock
        · cases hnow
      · simp only [Database.upsertCooldown, hrows]
  · rw [if_neg hstate] at hcooldown
    cases hcooldown
    exact .inl ⟨by simpa using hstate, hrows⟩

theorem cools_executingGate (policy : ExecutionSecurityPolicy) :
    (store.executingGate policy).Does (CooldownStep limits) := by
  refine does_atomic fun i s => ?_
  cases hsqlite : i.sqlite with
  | some e => exact .quiet rfl rfl
  | none =>
    dsimp only
    -- the anchor protocol writes `anchor_state` only
    have hmarked : ∀ marked anchor, (if store.hasAnchor ∧ policy.participatesInWitness then
        HighWaterMark.beforeExecutingTransition store.toStoreIdentity (anchorOf i) s.db s.anchor
        else (.ok s.db, s.anchor)) = (marked, anchor) →
        ∀ db, marked = .ok db → db.rateCooldowns = s.db.rateCooldowns := by
      rintro marked anchor heq db rfl
      split_ifs at heq
      · rw [beforeExecutingTransition_eq heq]
      · cases heq
        rfl
    generalize hpair : (if store.hasAnchor ∧ policy.participatesInWitness then
        HighWaterMark.beforeExecutingTransition store.toStoreIdentity (anchorOf i) s.db s.anchor
        else (.ok s.db, s.anchor)) = pair
    obtain ⟨marked, anchor⟩ := pair
    dsimp only
    split
    · exact .quiet rfl rfl
    · rename_i db hdb
      simp only [bind_eq_ok] at hdb
      obtain ⟨db', hdb', _, -, _, -, hdb⟩ := hdb
      cases hdb
      exact .quiet rfl (hmarked marked anchor hpair db hdb')

/-- Every kind of step moves the commits and the cooldowns together. -/
theorem cooldownLaws (hrate : store.ratePolicy = some limits) (call : ℕ) :
    StepLaws store call (CooldownStep limits) where
  refl _ _ := .quiet rfl rfl
  recorded i s e _ he := .quiet (by rw [commitsOf_append, he, List.append_nil]) rfl
  createBlock contract instant isPreparing :=
    -- a new contract is not concluded
    cools_transact fun i db db' t h => .inl ⟨by dsimp only; rw [isPreparing]; rfl,
      rateCooldowns_of_createBlock h⟩
  replace _ _ _ _ := cools_transact fun _ _ _ _ h => rateCooldowns_of_replaceBlock hrate h
  gate policy := cools_executingGate policy

theorem cools_provisionAnchorBaseline (hrate : store.ratePolicy = some limits) (call : ℕ)
    (value : ℤ) (handle : String) :
    (store.provisionAnchorBaseline value handle).Does (CooldownStep limits) := by
  refine (cooldownLaws hrate call).provisionAnchorBaseline ?_ fun t => ?_
  · exact does_execute (fun _ _ => .quiet rfl rfl) fun i s db h =>
      .quiet rfl (by rw [insertSeed_eq h])
  · exact does_execute (fun _ _ => .quiet rfl rfl) fun i s db h =>
      .quiet rfl (by rw [insertMarker_eq h])

end Store

/-- Every operation moves the commits and the cooldowns together. -/
theorem Operation.does_cooldown {store : Store} {limits : RateLimits}
    (hrate : store.ratePolicy = some limits) (op : Operation store) (call : ℕ) :
    (op.code call).Does (CooldownStep limits) :=
  op.does (Store.cooldownLaws hrate call) fun value handle _ =>
    Store.cools_provisionAnchorBaseline hrate call value handle

/-! ### The cooldown of a target -/

/-- A commit writes the cooldown of a target. -/
def Commit.Cools (k : Commit) (digest : String) : Prop :=
  isCooldownState k.after.state = true ∧ k.after.targetIdentityDigest = digest

/-- A commit changes the state of a contract of a target to `VERIFIED`, `FAILED`, `ROLLED_BACK` or
`ROLLBACK_FAILED`. -/
def Commit.Concludes (k : Commit) (digest : String) : Prop :=
  k.Cools digest ∧ k.before.map (fun c => c.state) ≠ some k.after.state

/-- When commit `n` records a cooldown, the store clock reads `clock n`. -/
def ReadsClock (clock : ℕ → DateTime) : Answers → World → World → Prop := fun i s s' =>
  ∀ k, commitsOf s'.trace = commitsOf s.trace ++ [k] → isCooldownState k.after.state = true →
    i.cooldownClock = some (clock (commitsOf s.trace).length)

/-- The step is no rotation of the artifacts of a concluded contract. -/
def SparesConcluded : Answers → World → World → Prop := fun _ s s' =>
  ∀ k c identity intent snapshot, commitsOf s'.trace = commitsOf s.trace ++ [k] →
    k.before = some c → k.after.toContractFields = Store.rotated c identity intent snapshot →
      isCooldownState c.state = false

/-- The cooldown of a target ends some time after the last commit that wrote it, and there is none
if no commit did. -/
def CooldownOf (limits : RateLimits) (clock : ℕ → DateTime) (commits : List Commit)
    (digest : String) : Option String → Prop
  | none => ∀ (n : ℕ) (k : Commit), commits[n]? = some k → ¬ k.Cools digest
  | some text => ∃ n k until', commits[n]? = some k ∧ k.Cools digest ∧
    (∀ m k', commits[m]? = some k' → k'.Cools digest → m ≤ n) ∧
    (clock n).addSeconds limits.targetCooldownSeconds = some until' ∧ text = until'.isoformat

section Rows

variable {db db' : Database} {limits : RateLimits} {clock : ℕ → DateTime} {commits : List Commit}
  {digest : String}

omit [Platform] in
theorem selectCooldown_upsertCooldown (db : Database) (row : CooldownRow) :
    (db.upsertCooldown row).selectCooldown row.targetIdentityDigest = some row.cooldownUntil := by
  have hnone : (db.rateCooldowns.filter fun r =>
      r.targetIdentityDigest ≠ row.targetIdentityDigest).find?
      (fun r => r.targetIdentityDigest = row.targetIdentityDigest) = none := by
    rw [List.find?_eq_none]
    intro r hr
    simpa using (List.mem_filter.1 hr).2
  rw [Database.selectCooldown, Database.upsertCooldown, List.find?_append, hnone, Option.none_or]
  simp

omit [Platform] in
theorem selectCooldown_upsertCooldown_of_ne (db : Database) {row : CooldownRow}
    (h : digest ≠ row.targetIdentityDigest) :
    (db.upsertCooldown row).selectCooldown digest = db.selectCooldown digest := by
  simp only [Database.selectCooldown, Database.upsertCooldown, List.find?_append,
    List.find?_filter]
  have hrow : ([row] : List CooldownRow).find? (fun r => r.targetIdentityDigest = digest) = none :=
    by simp [Ne.symm h]
  rw [hrow, Option.or_none]
  congr 2
  funext r
  by_cases hr : r.targetIdentityDigest = digest
  · simp [hr, h]
  · simp [hr]

omit [Platform] in
theorem selectCooldown_congr (h : db'.rateCooldowns = db.rateCooldowns) :
    db'.selectCooldown digest = db.selectCooldown digest := by
  rw [Database.selectCooldown, h, Database.selectCooldown]

/-- A commit that does not cool the target leaves its cooldown alone. -/
theorem CooldownOf.append {row : Option String} (h : CooldownOf limits clock commits digest row)
    {k : Commit} (hk : ¬ k.Cools digest) :
    CooldownOf limits clock (commits ++ [k]) digest row := by
  have hold : ∀ {n : ℕ} {k' : Commit}, (commits ++ [k])[n]? = some k' → k'.Cools digest →
      commits[n]? = some k' := by
    intro n k' hget hcools
    rw [List.getElem?_append] at hget
    split_ifs at hget with hn
    · exact hget
    · rw [List.getElem?_singleton] at hget
      split_ifs at hget
      cases hget
      exact absurd hcools hk
  cases row with
  | none => exact fun n k' hget hcools => h n k' (hold hget hcools) hcools
  | some text =>
    obtain ⟨n, k', until', hget, hcools, hlast, hends, htext⟩ := h
    have hn : n < commits.length := (List.getElem?_eq_some_iff.1 hget).1
    refine ⟨n, k', until', ?_, hcools, fun m k'' hm hcools' => ?_, hends, htext⟩
    · rw [List.getElem?_append_left hn]
      exact hget
    · exact hlast m k'' (hold hm hcools') hcools'

/-- A commit that cools the target is the last one to do so. -/
theorem cooldownOf_append_of_cools {k : Commit} {until' : DateTime} (hk : k.Cools digest)
    (hends : (clock commits.length).addSeconds limits.targetCooldownSeconds = some until') :
    CooldownOf limits clock (commits ++ [k]) digest (some until'.isoformat) := by
  refine ⟨commits.length, k, until', ?_, hk, fun m k' hm _ => ?_, hends, rfl⟩
  · rw [List.getElem?_append_right le_rfl, Nat.sub_self]
    rfl
  · have := (List.getElem?_eq_some_iff.1 hm).1
    rw [List.length_append, List.length_singleton] at this
    omega

end Rows

section Runs

variable {store : Store} {ops : ℕ → Operation store} {permit : Answers → World → World → Prop}
  {limits : RateLimits} {clock : ℕ → DateTime} {cfg : Config World Answers Error}

/-- The cooldowns of every run are those of its last commits. -/
theorem cooldownOf_of_reachable (hrate : store.ratePolicy = some limits)
    (hclock : ∀ i s s', permit i s s' → ReadsClock clock i s s')
    (h : (system store ops permit).Reachable cfg) (digest : String) :
    CooldownOf limits clock (commitsOf cfg.shared.trace) digest
      (cfg.shared.db.selectCooldown digest) := by
  have hprogram : ∀ c p, (system store ops permit).program c p →
      p.Does (CooldownStep limits) := by
    rintro c p rfl
    exact (ops c).does_cooldown hrate c
  refine System.steps_induction (P := fun s => CooldownOf limits clock (commitsOf s.trace) digest
    (s.db.selectCooldown digest)) hprogram (fun s hs => ?_)
    (fun {cfg cfg' i} _ _ hpermit hdoes ih => ?_) h
  · obtain ⟨hdb, htrace⟩ := hs
    rw [hdb, htrace]
    have hnone : CooldownOf limits clock [] digest none := fun n k hget => by cases hget
    exact hnone
  · cases hdoes with
    | quiet hcommits hrows =>
      rw [hcommits, selectCooldown_congr hrows]
      exact ih
    | @committed k hcommits hstate hrows =>
      rw [hcommits, selectCooldown_congr hrows]
      refine ih.append fun hcools => ?_
      rw [hcools.1] at hstate
      cases hstate
    | @cooled k t until' hcommits hstate hreading hends hrows =>
      have hnow := hclock i _ _ hpermit k hcommits hstate
      rw [hreading] at hnow
      rw [Option.some.inj hnow] at hends
      rw [hcommits, selectCooldown_congr hrows]
      by_cases hdigest : digest = k.after.targetIdentityDigest
      · rw [hdigest, selectCooldown_upsertCooldown]
        exact cooldownOf_append_of_cools ⟨hstate, rfl⟩ hends
      · rw [selectCooldown_upsertCooldown_of_ne _ hdigest]
        exact ih.append fun hcools => hdigest hcools.2.symm

/-- A step leaves the commits of a run as they are, or adds one. -/
theorem commits_prefix_of_step {cfg' : Config World Answers Error}
    (h : (system store ops permit).Reachable cfg)
    (hstep : (system store ops permit).Step cfg cfg') :
    commitsOf cfg.shared.trace <+: commitsOf cfg'.shared.trace := by
  cases hstep with
  | call => exact List.prefix_refl _
  | crash => exact List.prefix_refl _
  | atom c u k i hc hi =>
    have hholds := (safety store ops permit).reachable h
    obtain ⟨hcoherent, hguar, -⟩ :=
      hholds.calls c _ hc cfg.shared hholds.inv (Extends.refl c _) i hi
    rcases commits_of_advances hguar hcoherent with hsame | ⟨k, hcommits, -⟩
    · exact hsame ▸ List.prefix_refl _
    · exact hcommits ▸ List.prefix_append _ _

/-- A change into a concluded state is a change of state, or a rotation. -/
theorem Change.concludes {origin : Option RecoveryState} {c : RecoveryContract}
    {eventType : String} {checkedAt : Option DateTime} {d : ContractFields}
    (h : Change origin c eventType checkedAt d) (hd : isCooldownState d.state = true) :
    c.state ≠ d.state ∨
      ∃ identity intent snapshot, d = Store.rotated c identity intent snapshot := by
  cases h with
  | @transition target _ _ legal =>
    left
    rintro hsame
    obtain ⟨rule, hrule, -⟩ := requireTransition_eq_ok.1 legal
    -- no transition leads from a state to itself
    have hself : legalTransitions target target = some rule := by
      rw [← hrule, hsame]
      rfl
    cases target <;> cases hself
  | confirmation isPrepared =>
    rw [confirmed, isPrepared] at hd
    cases hd
  | verification isExecuting =>
    left
    rw [isExecuting]
    rintro ⟨⟩
  | rollbackVerification isRollingBack =>
    left
    rw [isRollingBack]
    rintro ⟨⟩
  | @resolution evidence isReconciliation =>
    left
    rw [isReconciliation]
    change reconciliation ≠ evidence.outcome.targetState
    cases evidence.outcome <;> rintro ⟨⟩
  | rotation => exact .inr ⟨_, _, _, rfl⟩

/-- Without rotations of concluded contracts, every commit that writes a cooldown is a change of
state. -/
theorem concludes_of_reachable
    (hspares : ∀ i s s', permit i s s' → SparesConcluded i s s')
    (h : (system store ops permit).Reachable cfg) {digest : String} :
    ∀ k ∈ commitsOf cfg.shared.trace, k.Cools digest → k.Concludes digest := by
  refine commits_induction (P := fun commits => ∀ k ∈ commits, k.Cools digest →
    k.Concludes digest) (fun _ hk => absurd hk List.not_mem_nil)
    (fun {i s s' k} _ hpermit hcommits hlaw ih k' hk' hcools => ?_) h
  rcases List.mem_append.1 hk' with hk' | hk'
  · exact ih k' hk' hcools
  · rw [List.mem_singleton.1 hk'] at hcools ⊢
    refine ⟨hcools, ?_⟩
    cases hlaw with
    | creation => simp
    | @change call c d eventType recordedAt checkedAt current hchange =>
      intro hsame
      have hsame : c.state = d.state := Option.some.inj hsame
      rcases hchange.concludes hcools.1 with hne | ⟨identity, intent, snapshot, hrotated⟩
      · exact hne hsame
      · have hstate := hspares i s s' hpermit _ c identity intent snapshot hcommits rfl hrotated
        have hcooled := hcools.1
        rw [← hsame, hstate] at hcooled
        cases hcooled

end Runs

end Model

/-! ### The check of a creation -/

/-- The refusal of a creation within the cooldown of its target. -/
def cooldownRefusal : Error :=
  ⟨.rateLimitExceeded, "Target is within its post-terminal cooldown window."⟩

/-- The check of the rate policy refuses with this error exactly if the counts are within their
limits and the row of the target lies in the future. -/
theorem checkPrepareAllowed_eq_cooldownRefusal {limits : RateLimits} {db : Database}
    {digest : String} {now : DateTime} :
    limits.checkPrepareAllowed db digest now = .error cooldownRefusal ↔
      db.countStates [reconciliation] < limits.reconciliationLockoutThreshold ∧
      db.countTarget digest prepared < limits.maxOutstandingPreparedPerTarget ∧
      ∃ text until', db.selectCooldown digest = some text ∧
        DateTime.fromisoformat text = some until' ∧ now < until' := by
  -- the other two checks refuse with other messages
  have hother : ∀ {message : String} {f : Unit → Except Error Unit},
      message ≠ cooldownRefusal.message →
        (fail .rateLimitExceeded message >>= f) ≠ .error cooldownRefusal :=
    fun hmessage h => hmessage (congrArg Error.message (Except.error.inj h))
  unfold RateLimits.checkPrepareAllowed demand
  by_cases hlockout : db.countStates [reconciliation] < limits.reconciliationLockoutThreshold
  · rw [if_pos hlockout, ok_bind]
    by_cases hprepared : db.countTarget digest prepared < limits.maxOutstandingPreparedPerTarget
    · rw [if_pos hprepared, ok_bind]
      cases hrow : db.selectCooldown digest with
      | none => exact ⟨nofun, fun ⟨_, _, text, _, htext, _⟩ => by cases htext⟩
      | some text =>
        dsimp only
        cases htext : DateTime.fromisoformat text with
        | none =>
          constructor
          · intro h
            have hcls : ErrorClass.valueError ≠ .rateLimitExceeded := by decide
            exact absurd (congrArg Error.cls (Except.error.inj h)) hcls
          · rintro ⟨-, -, text', until', ⟨⟩, huntil, -⟩
            rw [htext] at huntil
            cases huntil
        | some ends =>
          dsimp only
          constructor
          · intro h
            by_cases hends : ends ≤ now
            · rw [if_pos hends] at h
              cases h
            · exact ⟨hlockout, hprepared, text, ends, rfl, htext, Nat.not_le.1 hends⟩
          · rintro ⟨-, -, text', until', ⟨⟩, huntil, hnow⟩
            rw [htext] at huntil
            cases huntil
            have hends : ¬ ends ≤ now := fun hle => Nat.not_le.2 hnow hle
            rw [if_neg hends]
            rfl
    · rw [if_neg hprepared]
      exact ⟨fun h => absurd h (hother (by decide)), fun h => absurd h.2.1 hprepared⟩
  · rw [if_neg hlockout]
    exact ⟨fun h => absurd h (hother (by decide)), fun h => absurd h.1 hlockout⟩

/-! ### Runs of the sample contract -/

section Sample

attribute [local instance] Sample.platform

/-- The `n`-th call finds its commits made with this reading of the store clock. -/
def CallReads (clock : ℕ → DateTime) : Answers → World → World → Prop := fun i s s' =>
  ∀ k, commitsOf s'.trace = commitsOf s.trace ++ [k] → i.cooldownClock = some (clock k.call)

theorem callReads_of_advances {clock : ℕ → DateTime} {i : Answers} {call : ℕ} {s s' : World}
    (hi : i.cooldownClock = some (clock call)) (h : Advances call s s') :
    CallReads clock i s s' := by
  intro k hcommits
  rcases h with hquiet | ⟨e, he, htrace⟩
  · rw [hquiet.trace] at hcommits
    exact absurd hcommits (by simp)
  · rw [htrace, commitsOf_append] at hcommits
    have hevent : commitsOf [e] = [k] := List.append_cancel_left hcommits
    cases e with
    | committed k' =>
      cases hevent
      have hcall : k.call = call := he
      rw [hi, hcall]
    | handed => cases hevent
    | judged => cases hevent

namespace Cooling

open Sample (hex midnight isDay_one isDay_three)

/-- A cooldown of one day. -/
def limits : RateLimits := ⟨1, 1, 86400, 1⟩

abbrev store : Store := Sample.store false (some limits)

/-- The first two calls are made on one day, the later ones two days later. -/
def clock (n : ℕ) : DateTime := if n ≤ 1 then midnight 1 isDay_one else midnight 3 isDay_three

theorem clock_mono (m n : ℕ) (h : m ≤ n) : clock m ≤ clock n := by
  unfold clock
  split_ifs with hm hn
  · exact Nat.le_refl _
  · decide
  · omega
  · exact Nat.le_refl _

/-- The counts of the rate policy where there is one contract, which is not counted. -/
theorem countContracts_eq_zero {s : World} {d : RecoveryContract} (h : Holding store s [d])
    {p : RecoveryContract → Bool} (hp : p d = false) :
    countContracts p (commitsOf s.trace) = 0 := by
  simp [countContracts, h.contracts, hp]

/-- What a call finds at the given time. -/
def answers (now : DateTime) : Answers :=
  { Sample.answers (.timeout true) with
    clock := some now, recordClock := some now, cooldownClock := some now }

theorem fit {now until' : DateTime} (h : now.addSeconds 86400 = some until') :
    Fit store (answers now) where
  sqlite := rfl
  commit := rfl
  fault _ := rfl
  clock := ⟨_, rfl⟩
  recordClock := ⟨_, rfl⟩
  cooldown state limits hlimits _ := by
    cases hlimits
    refine ⟨_, rfl, ?_⟩
    change (now.addSeconds 86400).isSome = true
    rw [h]
    rfl

/-- The first call creates the contract, the second lets it fail. -/
def script (op : Operation store) : ℕ → Operation store
  | 0 => .create Sample.contract
  | 1 => .transition "contract-1" preparing 0 failed none "state_transition"
  | _ => op

/-- A run in which every commit is made by the call of its number reads the clock. -/
theorem reachable_of_callReads {op : Operation store} {cfg : Config World Answers Error}
    {permit : Answers → World → World → Prop}
    (h : (system store (script op) (CallReads clock)).Reachable cfg)
    (hcalls : ∀ (n : ℕ) (k : Commit), (commitsOf cfg.shared.trace)[n]? = some k → k.call = n)
    (hpermit : ∀ i s s', commitsOf s'.trace <+: commitsOf cfg.shared.trace →
      ReadsClock clock i s s' → permit i s s') :
    (system store (script op) permit).Reachable cfg := by
  refine @System.Reachable.restrict _ _ _ (system store (script op) (CallReads clock))
    (system store (script op) permit) (fun _ hs => hs) (fun _ _ hp => hp)
    (fun s s' => commitsOf s.trace <+: commitsOf s'.trace) (fun s => List.prefix_refl _)
    (fun h₁ h₂ => h₁.trans h₂) (fun hreach hstep => commits_prefix_of_step hreach hstep) _ h
    fun {i s s'} _ hbefore hi => hpermit i s s' hbefore fun k hcommits _ => ?_
  have hget : (commitsOf cfg.shared.trace)[(commitsOf s.trace).length]? = some k := by
    obtain ⟨rest, hrest⟩ := hbefore
    rw [← hrest, hcommits]
    simp
  rw [hi k hcommits, hcalls _ _ hget]

/-- Two calls let the contract fail on the first day. -/
theorem reachable_failed (op : Operation store) :
    ∃ cfg d, (system store (script op) (CallReads clock)).Reachable cfg ∧ cfg.next = 2 ∧
      Holding store cfg.shared [d] ∧ d.toContractFields = Store.moved Sample.contract failed ∧
      ∃ k k' : Commit, commitsOf cfg.shared.trace = [k, k'] ∧ (k.call = 0 ∧ k.before = none) ∧
        k'.call = 1 ∧ k'.before = some Sample.contract ∧ k'.after = d := by
  have hends : (midnight 1 (by decide)).addSeconds 86400 = some (midnight 2 (by decide)) := by
    decide
  have hfit : Fit store (answers (midnight 1 (by decide))) := fit hends
  have hstart : (system store (script op) (CallReads clock)).Reachable (.start {}) :=
    .start ⟨rfl, rfl⟩
  have hnone : Holding store ({} : World) [] := ⟨coherent_of_reachable hstart, rfl⟩
  have hwindow : ∀ t, (answers (midnight 1 (by decide))).clock = some t →
      Sample.contract.createdAt ≤ t ∧ Sample.contract.isExpired t = false := by
    rintro t ⟨⟩
    decide
  obtain ⟨cfg, hreach, hnext, hone, -, k, hcommits, hcall, hbefore, -⟩ :=
    exists_created (i := answers (midnight 1 (by decide))) (c := Sample.contract) hstart
    ⟨@callReads_of_advances _ _ 0 _ _ rfl (.inl (.refl _)), fun s' t t' htrace =>
      @callReads_of_advances _ _ 0 _ _ rfl (.inr ⟨_, rfl, htrace⟩)⟩ hnone hfit rfl hwindow rfl rfl
    rfl (fun _ hd => absurd hd List.not_mem_nil) (fun _ => rfl)
  have hnext : cfg.next = 1 := hnext
  obtain ⟨cfg', d, ⟨hreach', hnext', hholding, k', hcommits', hcall', hbefore', hafter⟩, hd⟩ :=
    exists_moved (i := answers (midnight 1 (by decide))) (c := Sample.contract) hreach
    (fun s s' => callReads_of_advances (by rw [hnext]; rfl)) hone hfit List.mem_cons_self (by decide)
    failed (by rw [hnext]; rfl) rfl nofun nofun nofun (fun t ht => (hwindow t ht).2) nofun
  have hid : Store.replaced [Sample.contract] d = [d] := by
    simp [Store.replaced, show d.contractId = Sample.contract.contractId by rw [hd]; rfl]
  rw [List.nil_append, hid] at hholding
  refine ⟨cfg', d, hreach', by rw [hnext', hnext], hholding, hd, k, k', ?_, ⟨hcall, hbefore⟩, ?_,
    hbefore', hafter⟩
  · rw [hcommits', hcommits]
    rfl
  · rw [hcall', hnext]

/-- Three calls let the contract fail on the first day, and rotate its artifacts on the third. -/
theorem reachable_rotated : ∃ cfg d,
    (system store (script (.rotateArtifacts "contract-1" 1 Sample.artifact Sample.artifact
      Sample.artifact)) (ReadsClock clock)).Reachable cfg ∧
    Holding store cfg.shared [d] ∧ d.state = failed ∧ d.targetIdentityDigest = hex ∧
      ∃ k₀ k₁ k₂ : Commit, commitsOf cfg.shared.trace = [k₀, k₁, k₂] ∧ k₂.Cools hex ∧
        ¬ k₂.Concludes hex := by
  obtain ⟨cfg, d, hreach, hnext, hone, hd, k₀, k₁, hcommits, ⟨hcall₀, hbefore₀⟩, hcall₁,
    hbefore₁, hafter₁⟩ := reachable_failed (.rotateArtifacts "contract-1" 1 Sample.artifact
      Sample.artifact Sample.artifact)
  have hends : (midnight 3 (by decide)).addSeconds 86400 = some (midnight 4 (by decide)) := by
    decide
  have hfit : Fit store (answers (midnight 3 (by decide))) := fit hends
  have hversion : d.stateVersion = 1 := by
    rw [hd]
    rfl
  have hid : d.contractId = "contract-1" := by
    rw [hd]
    rfl
  obtain ⟨cfg', d', ⟨hreach', -, hholding, k₂, hcommits', hcall₂, hbefore₂, hafter₂⟩, hd'⟩ :=
    exists_rotated (i := answers (midnight 3 (by decide))) (c := d) hreach
    (fun s s' => callReads_of_advances (by rw [hnext]; rfl)) hone hfit List.mem_cons_self
    (by rw [hversion]; decide) Sample.artifact Sample.artifact Sample.artifact
    (by rw [hnext, hversion, hid]; rfl)
  have hreplaced : Store.replaced [d] d' = [d'] := by
    have : d'.contractId = d.contractId := by
      rw [hd']
      rfl
    simp [Store.replaced, this]
  rw [hreplaced] at hholding
  have hall : commitsOf cfg'.shared.trace = [k₀, k₁, k₂] := by
    rw [hcommits', hcommits]
    rfl
  have hstate : d'.state = d.state := by
    rw [hd']
    rfl
  have hfailed : d.state = failed := by
    rw [hd]
    rfl
  have htarget : d'.targetIdentityDigest = hex := by
    rw [hd', Store.rotated, hd]
    rfl
  have hrun : (system store (script (.rotateArtifacts "contract-1" 1 Sample.artifact Sample.artifact
      Sample.artifact)) (ReadsClock clock)).Reachable cfg' := by
    refine reachable_of_callReads hreach' (fun n k hget => ?_) fun _ _ _ _ h => h
    rw [hall] at hget
    rcases n with _ | _ | _ | n
    · exact Option.some.inj hget ▸ hcall₀
    · exact Option.some.inj hget ▸ hcall₁
    · exact Option.some.inj hget ▸ hcall₂.trans hnext
    · cases hget
  refine ⟨cfg', d', hrun, hholding, hstate.trans hfailed, htarget, k₀, k₁, k₂, hall, ?_, ?_⟩
  · rw [Commit.Cools, hafter₂, hstate, hfailed, htarget]
    exact ⟨rfl, rfl⟩
  · rintro ⟨-, hne⟩
    rw [hbefore₂, hafter₂] at hne
    exact hne (congrArg some hstate.symm)

end Cooling

end Sample

/-! ### The check over whole runs -/

/-- With a clock that never goes back, and while no artifacts of a concluded contract are rotated,
the cooldown check refuses a creation exactly if a contract of its target changed its state to
`VERIFIED`, `FAILED`, `ROLLED_BACK` or `ROLLBACK_FAILED` less than `target_cooldown_seconds` before
the clock reading of the creation. -/
theorem cooldown_iff [Platform] {store : Store} {ops : ℕ → Operation store} {limits : RateLimits}
    (hrate : store.ratePolicy = some limits) {clock : ℕ → DateTime}
    (hclock : ∀ m n, m ≤ n → clock m ≤ clock n) {cfg : Config World Answers Error}
    (h : (system store ops fun i s s' =>
      ReadsClock clock i s s' ∧ SparesConcluded i s s').Reachable cfg)
    (contract : RecoveryContract) (now : DateTime) :
    store.checkPrepareAllowed cfg.shared.db contract now = .error cooldownRefusal ↔
      cfg.shared.db.countStates [reconciliation] < limits.reconciliationLockoutThreshold ∧
      cfg.shared.db.countTarget contract.targetIdentityDigest prepared <
        limits.maxOutstandingPreparedPerTarget ∧
      ∃ n k until', (commitsOf cfg.shared.trace)[n]? = some k ∧
        k.Concludes contract.targetIdentityDigest ∧
        (clock n).addSeconds limits.targetCooldownSeconds = some until' ∧ now < until' := by
  have hcooldown := cooldownOf_of_reachable hrate (fun _ _ _ hpermit => hpermit.1) h
    contract.targetIdentityDigest
  have hconcludes : ∀ k ∈ commitsOf cfg.shared.trace, k.Cools contract.targetIdentityDigest →
      k.Concludes contract.targetIdentityDigest :=
    concludes_of_reachable (fun _ _ _ hpermit => hpermit.2) h
  rw [Store.checkPrepareAllowed, hrate]
  dsimp only
  rw [checkPrepareAllowed_eq_cooldownRefusal]
  refine and_congr_right fun _ => and_congr_right fun _ => ?_
  cases hrow : cfg.shared.db.selectCooldown contract.targetIdentityDigest with
  | none =>
    rw [hrow] at hcooldown
    constructor
    · rintro ⟨text, until', htext, -⟩
      cases htext
    · rintro ⟨n, k, until', hget, hk, -⟩
      exact absurd hk.1 (hcooldown n k hget)
  | some text =>
    rw [hrow] at hcooldown
    obtain ⟨last, k, ends, hget, hcools, hlast, hends, rfl⟩ := hcooldown
    constructor
    · rintro ⟨text, until', htext, hiso, hnow⟩
      cases htext
      rw [DateTime.fromisoformat_isoformat] at hiso
      cases hiso
      exact ⟨last, k, ends, hget, hconcludes k (List.mem_of_getElem? hget) hcools, hends, hnow⟩
    · rintro ⟨n, k', until', hget', hk', hends', hnow⟩
      -- the last cooldown ends no earlier than any other one
      have hle := hclock n last (hlast n k' hget' hk'.1)
      exact ⟨_, ends, rfl, DateTime.fromisoformat_isoformat ends,
        DateTime.lt_of_lt_of_le hnow (DateTime.addSeconds_le hle hends' hends)⟩

section

attribute [local instance] Sample.platform

/-- The conditions of `cooldown_iff` are met by a run in which a contract fails; a creation on the
same day is refused. -/
theorem cooldown_iff_sample : ∃ (ops : ℕ → Operation Cooling.store)
    (cfg : Config World Answers Error),
    (system Cooling.store ops fun i s s' =>
      ReadsClock Cooling.clock i s s' ∧ SparesConcluded i s s').Reachable cfg ∧
    Cooling.store.checkPrepareAllowed cfg.shared.db Sample.contract (Sample.midnight 1 (by decide)) =
      .error cooldownRefusal := by
  obtain ⟨cfg, d, hreach, -, hholding, hd, k₀, k₁, hcommits, ⟨hcall₀, hbefore₀⟩, hcall₁, hbefore₁,
    hafter₁⟩ := Cooling.reachable_failed .allContracts
  have hstate : d.state = failed := by
    rw [hd]
    rfl
  have htarget : d.targetIdentityDigest = Sample.contract.targetIdentityDigest := by
    rw [hd]
    rfl
  have hrun : (system Cooling.store (Cooling.script .allContracts) fun i s s' =>
      ReadsClock Cooling.clock i s s' ∧ SparesConcluded i s s').Reachable cfg := by
    refine Cooling.reachable_of_callReads hreach (fun n k hget => ?_)
      fun i s s' hbefore hreads => ⟨hreads, fun k c _ _ _ hk hkbefore _ => ?_⟩
    · rw [hcommits] at hget
      match n, hget with
      | 0, hget => exact Option.some.inj hget ▸ hcall₀
      | 1, hget => exact Option.some.inj hget ▸ hcall₁
    · -- the only change is that of the new contract
      have hmem : k ∈ commitsOf cfg.shared.trace :=
        hbefore.subset (hk ▸ List.mem_append_right _ List.mem_cons_self)
      rw [hcommits] at hmem
      rcases List.mem_cons.1 hmem with rfl | hmem
      · rw [hbefore₀] at hkbefore
        cases hkbefore
      · rw [List.mem_singleton.1 hmem, hbefore₁] at hkbefore
        cases hkbefore
        rfl
  have hends : (Cooling.clock 1).addSeconds Cooling.limits.targetCooldownSeconds =
      some (Sample.midnight 2 (by decide)) := by
    decide
  refine ⟨_, cfg, hrun, (@cooldown_iff _ _ _ Cooling.limits rfl _ Cooling.clock_mono _ hrun
    Sample.contract (Sample.midnight 1 (by decide))).2 ⟨?_, ?_, 1, k₁, _, ?_, ?_, hends, ?_⟩⟩
  · rw [countStates_eq hholding.coherent.represents, Cooling.countContracts_eq_zero hholding (by rw [hstate]; rfl)]
    decide
  · rw [countTarget_eq hholding.coherent.represents, Cooling.countContracts_eq_zero hholding (by simp [hstate])]
    decide
  · rw [hcommits]
    rfl
  · rw [Commit.Concludes, Commit.Cools, hafter₁, hbefore₁, hstate, htarget]
    exact ⟨⟨rfl, rfl⟩, nofun⟩
  · decide

/-- A contract fails, which starts a cooldown of one day. Two days later its artifacts are rotated,
and a creation is refused by the cooldown check, although every conclusion is more than a day
ago. -/
theorem refused_after_rotation : ∃ (ops : ℕ → Operation Cooling.store)
    (cfg : Config World Answers Error) (now : DateTime),
    (∀ m n, m ≤ n → Cooling.clock m ≤ Cooling.clock n) ∧
    (system Cooling.store ops (ReadsClock Cooling.clock)).Reachable cfg ∧
    (∀ n, Cooling.clock n ≤ now) ∧
    Cooling.store.checkPrepareAllowed cfg.shared.db Sample.contract now = .error cooldownRefusal ∧
    ¬ ∃ n k until', (commitsOf cfg.shared.trace)[n]? = some k ∧
      k.Concludes Sample.contract.targetIdentityDigest ∧
      (Cooling.clock n).addSeconds Cooling.limits.targetCooldownSeconds = some until' ∧
      now < until' := by
  obtain ⟨cfg, d, hreach, hholding, hstate, htarget, k₀, k₁, k₂, hcommits, hcools, hkept⟩ :=
    Cooling.reachable_rotated
  refine ⟨_, cfg, Sample.midnight 3 (by decide), Cooling.clock_mono, hreach, fun n => ?_, ?_, ?_⟩
  · unfold Cooling.clock
    split_ifs
    · decide
    · exact Nat.le_refl _
  · -- the row is that of the rotation
    have hrow := @cooldownOf_of_reachable _ _ _ _ Cooling.limits _ _ rfl (fun _ _ _ h => h) hreach
      Sample.hex
    change Cooling.limits.checkPrepareAllowed cfg.shared.db Sample.hex _ = _
    rw [checkPrepareAllowed_eq_cooldownRefusal]
    refine ⟨?_, ?_, ?_⟩
    · rw [countStates_eq hholding.coherent.represents, Cooling.countContracts_eq_zero hholding (by rw [hstate]; rfl)]
      decide
    · rw [countTarget_eq hholding.coherent.represents, Cooling.countContracts_eq_zero hholding (by simp [hstate])]
      decide
    · cases htext : cfg.shared.db.selectCooldown Sample.hex with
      | none =>
        rw [htext, hcommits] at hrow
        exact absurd hcools (hrow 2 k₂ rfl)
      | some text =>
        rw [htext, hcommits] at hrow
        obtain ⟨n, k, until', hget, -, hlast, hends, rfl⟩ := hrow
        have hn : n = 2 := by
          have hle := hlast 2 k₂ rfl hcools
          have hlt := (List.getElem?_eq_some_iff.1 hget).1
          have hlength : [k₀, k₁, k₂].length = 3 := rfl
          omega
        rw [hn] at hends
        refine ⟨_, until', rfl, DateTime.fromisoformat_isoformat until', ?_⟩
        have hfourth : (Cooling.clock 2).addSeconds 86400 = some (Sample.midnight 4 (by decide)) := by
          decide
        rw [Option.some.inj (hends.symm.trans hfourth)]
        decide
  · rintro ⟨n, k, until', hget, hk, hends, hnow⟩
    rw [hcommits] at hget
    have hlt : n < 3 := (List.getElem?_eq_some_iff.1 hget).1
    by_cases hn : n = 2
    · rw [hn] at hget
      exact hkept (Option.some.inj hget ▸ hk)
    · -- the first two commits are made on the first day
      have hclock : Cooling.clock n = Sample.midnight 1 (by decide) := if_pos (by omega)
      have hsecond : (Sample.midnight 1 (by decide)).addSeconds 86400 =
          some (Sample.midnight 2 (by decide)) := by
        decide
      rw [hclock] at hends
      rw [Option.some.inj (hends.symm.trans hsecond)] at hnow
      exact absurd hnow (by decide)

end

end Tier1
