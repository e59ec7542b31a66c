import Mathlib.Data.Nat.Notation
import PfsenseMcp.Tier1.MarkSteps

/-!
# Mark and anchor in lockstep

The gate of `EXECUTING` is one local transaction. It advances the anchor, which lies outside, and
persists the new mark; the rate policy is only asked then. A refusal of the policy rolls the mark
back and leaves the anchor advanced, and from then on the store takes itself for restored.

## Main results

* `gate_lockstep`: a gate that is not refused after the advance moves mark and anchor together;
* `lockstep_of_allowed`: if the policy allows every execution for which the anchor is advanced, the
  mark equals the anchor in every reachable state;
* `not_lockstep_sample`: a run in which the policy refuses, and the next attempt is taken for an
  attack.
-/

namespace Tier1

open Python Concurrency Procedure RecoveryState Op

section Model

variable [Platform]

/-- The persisted mark equals the value of the anchor. -/
def Lockstep (store : Store) (s : World) : Prop :=
  HighWaterMark.read store.toStoreIdentity s.db = .ok s.anchor

/-- Where the anchor is advanced, the rest of the transaction succeeds: the rate policy allows the
execution, the new value is one that Python turns into a text, and SQLite commits. -/
def AdvancesOnlyAllowed (store : Store) (i : Answers) (s s' : World) : Prop :=
  s'.anchor ≠ s.anchor → store.checkExecuteAllowed s.db = .ok () ∧
    s.anchor + 1 < 10 ^ intMaxStrDigits ∧ i.commit = none

/-- The runs of the operations `ops` from a given world. -/
def systemFrom (store : Store) (ops : ℕ → Operation store)
    (permit : Answers → World → World → Prop) (s₀ : World) : System World Answers Error :=
  { system store ops permit with init := fun s => s = s₀ }

section Lockstep

variable {store : Store} {policy : ExecutionSecurityPolicy} {i : Answers} {s : World}

/-- What the gate does once the anchor has been advanced to a value. -/
def Store.afterAdvance (store : Store) (i : Answers) (value : ℕ) (db : Database) :
    Except Error Database := do
  let db ← HighWaterMark.persist store.toStoreIdentity value db
  store.checkExecuteAllowed db
  commitFailure i
  .ok db

/-- The gate of a call that needs the witness, from a mark that equals the anchor: the anchor is
advanced first. -/
theorem gate_of_lockstep (hlock : Lockstep store s) (hi : Reliable i) (hsqlite : i.sqlite = none)
    (hneeded : store.hasAnchor = true ∧ policy.participatesInWitness = true) :
    (∀ e, store.afterAdvance i (s.anchor + 1) s.db = .error e →
      store.gate policy i s = ({ s with anchor := s.anchor + 1 }, .error e)) ∧
    ∀ db, store.afterAdvance i (s.anchor + 1) s.db = .ok db →
      store.gate policy i s = ({ s with db := db, anchor := s.anchor + 1 }, .ok ()) := by
  unfold Store.gate Store.afterAdvance
  rw [hsqlite]
  dsimp only
  rw [if_pos hneeded, beforeExecutingTransition_reliable hi, beforeExecutingTransition_anchor hlock,
    if_pos rfl]
  dsimp only
  exact ⟨fun e he => by rw [he], fun db hdb => by rw [hdb]⟩

/-- A gate of a call that does not need the witness changes nothing. -/
theorem gate_of_not_needed
    (hneeded : ¬(store.hasAnchor = true ∧ policy.participatesInWitness = true)) :
    (store.gate policy i s).1 = s := by
  unfold Store.gate
  cases hsqlite : i.sqlite with
  | some e => rfl
  | none =>
    dsimp only
    rw [if_neg hneeded]
    dsimp only
    split
    · rfl
    · rename_i db hdb
      simp only [ok_bind, bind_eq_ok] at hdb
      obtain ⟨_, -, _, -, hdb⟩ := hdb
      cases hdb
      rfl

/-- A gate either changes nothing, or keeps mark and anchor in lockstep. -/
theorem gate_lockstep (hlock : Lockstep store s) (hi : Reliable i)
    (hallowed : AdvancesOnlyAllowed store i s (store.gate policy i s).1) :
    (store.gate policy i s).1 = s ∨ Lockstep store (store.gate policy i s).1 ∧
      HighWaterMark.isSeeded (store.gate policy i s).1.db = true := by
  by_cases hneeded : store.hasAnchor = true ∧ policy.participatesInWitness = true
  · cases hsqlite : i.sqlite with
    | some e =>
      left
      unfold Store.gate
      rw [hsqlite]
    | none =>
      obtain ⟨herr, hok⟩ := gate_of_lockstep hlock hi hsqlite hneeded
      -- whatever comes after the advance, the anchor is one further
      have hmoved : (store.gate policy i s).1.anchor = s.anchor + 1 := by
        cases hresult : store.afterAdvance i (s.anchor + 1) s.db with
        | error e => rw [herr e hresult]
        | ok db => rw [hok db hresult]
      obtain ⟨hpolicy, hdigits, hcommit⟩ := hallowed (by rw [hmoved]; exact Nat.succ_ne_self _)
      obtain ⟨row, hrow, -⟩ := HighWaterMark.exists_row store.toStoreIdentity hdigits
      have hpersist : HighWaterMark.persist store.toStoreIdentity (s.anchor + 1) s.db =
          .ok (s.db.upsertAnchor row) := by
        rw [HighWaterMark.persist, hrow]
        rfl
      -- the rate policy looks at the contracts only
      have hpolicy' : store.checkExecuteAllowed (s.db.upsertAnchor row) = .ok () := hpolicy
      have hresult : store.afterAdvance i (s.anchor + 1) s.db = .ok (s.db.upsertAnchor row) := by
        rw [Store.afterAdvance, hpersist, ok_bind, hpolicy', ok_bind, commitFailure, hcommit]
        rfl
      right
      rw [hok _ hresult]
      exact ⟨HighWaterMark.read_persist hpersist, isSeeded_of_persist hpersist⟩
  · exact .inl (gate_of_not_needed hneeded)

theorem state_discard {α : Type} (p : Op α) (inputs : ℕ → Answers) (s : World) :
    (p.discard.run inputs s).state = (p.run inputs s).state := by
  unfold Op.discard
  rw [run_bind]
  obtain ⟨result, state, rest⟩ := p.run inputs s
  cases result <;> rfl

/-- A transition whose gate refuses ends as the gate does. -/
theorem run_transition_refused (hanchor : store.hasAnchor = true) {call : ℕ}
    {contractId eventType : String} {version : ℤ} {seen : RecoveryContract × DateTime}
    {inputs : ℕ → Answers} {s' : World} {e : Error}
    (hbefore : ((store.beforeGate contractId version eventType).run inputs s).result = .ok seen)
    (hgate : ∀ n, store.gate policy (inputs n) s = (s', .error e)) :
    ((store.transition call contractId prepared version executing (some policy)
      eventType).discard.run inputs s).result = .error e ∧
    ((store.transition call contractId prepared version executing (some policy)
      eventType).discard.run inputs s).state = s' := by
  have hstate := (@observes_beforeGate _ store contractId eventType version).state inputs s
  obtain ⟨k, hrest⟩ := rest_run (store.beforeGate contractId version eventType) inputs s
  unfold Op.discard
  rw [transition_eq hanchor, run_bind, run_bind]
  generalize (store.beforeGate contractId version eventType).run inputs s = ending at *
  obtain ⟨result, state, rest⟩ := ending
  cases hbefore
  cases hstate
  cases hrest
  dsimp only
  rw [atomic, atom_bind, run_atom, hgate]
  exact ⟨rfl, rfl⟩

end Lockstep

section Runs

variable {store : Store} {ops : ℕ → Operation store} {permit : Answers → World → World → Prop}
  {s₀ : World} {cfg : Config World Answers Error}

/-- In a run from a store whose mark equals the anchor, they are equal in every reachable state, if
the anchor never fails, the rest of the transaction succeeds wherever the anchor is advanced, and
a baseline is provisioned in a store that has none only with the value of the anchor. -/
theorem lockstep_of_allowed (hlock : Lockstep store s₀)
    (hbaseline : ∀ n value handle, ops n = .provisionAnchorBaseline value handle →
      HighWaterMark.isSeeded s₀.db = true ∨ value = s₀.anchor)
    (hpermit : ∀ {i s s'}, permit i s s' → Reliable i ∧ AdvancesOnlyAllowed store i s s')
    (h : (systemFrom store ops permit s₀).Reachable cfg) : Lockstep store cfg.shared := by
  let baselines : ℕ → Prop := fun value => HighWaterMark.isSeeded s₀.db = true ∨ value = s₀.anchor
  -- while there is no mark, there was none at the start, and the anchor has not moved
  have hall : Lockstep store cfg.shared ∧ (HighWaterMark.isSeeded cfg.shared.db = true ∨
      HighWaterMark.isSeeded s₀.db = false ∧ cfg.shared.anchor = s₀.anchor) := by
    refine System.steps_induction (S := systemFrom store ops permit s₀)
      (R := MarkStep store baselines) (P := fun s => Lockstep store s ∧
        (HighWaterMark.isSeeded s.db = true ∨
          HighWaterMark.isSeeded s₀.db = false ∧ s.anchor = s₀.anchor)) ?_ ?_ ?_ h
    · rintro c p rfl
      refine (ops c).does_mark fun value handle hop => ?_
      rcases hbaseline c value handle hop with hseeded | hvalue
      · exact .inl hseeded
      · exact .inr (by rw [hvalue]; rfl)
    · rintro s rfl
      refine ⟨hlock, ?_⟩
      cases hseeded : HighWaterMark.isSeeded s.db with
      | true => exact .inl rfl
      | false => exact .inr ⟨rfl, rfl⟩
    · rintro cfg cfg' i - - hi hstep ⟨hlock, hbase⟩
      obtain ⟨hreliable, hallowed⟩ := hpermit hi
      cases hstep with
      | quiet mark anchor =>
        rw [Lockstep, read_congr mark, isSeeded_congr mark, anchor]
        exact ⟨hlock, hbase⟩
      | gate policy hgate =>
        rw [hgate] at hallowed ⊢
        rcases gate_lockstep hlock hreliable hallowed with hsame | ⟨hlock', hseeded⟩
        · rw [hsame]
          exact ⟨hlock, hbase⟩
        · exact ⟨hlock', .inl hseeded⟩
      | seeded value allowed inserted anchor =>
        obtain ⟨hunseeded, hseeded, hread⟩ := insertSeed_ok inserted
        rcases hbase with hbase | ⟨hnone, hbase⟩
        · rw [hunseeded] at hbase
          cases hbase
        · rcases allowed with hsome | hvalue
          · rw [hnone] at hsome
            cases hsome
          · exact ⟨by rw [Lockstep, hread, anchor, hbase, hvalue], .inl hseeded⟩
  exact hall.1

theorem anchor_le_of_step {cfg' : Config World Answers Error}
    (h : (systemFrom store ops permit s₀).Reachable cfg)
    (hstep : (systemFrom store ops permit s₀).Step cfg cfg') :
    cfg.shared.anchor ≤ cfg'.shared.anchor := by
  cases hstep with
  | call p hp => exact Nat.le_refl _
  | atom c u k i hc hi =>
    have hdoes := h.does (R := MarkStep store fun _ => True) (by
      rintro c p rfl
      exact (ops c).does_mark fun _ _ _ => trivial) c _ hc
    exact (hdoes i cfg.shared).1.anchor_le
  | crash calls hcalls => exact Nat.le_refl _

/-- Only the anchors up to the last one matter. -/
theorem reachable_of_anchor_le {permit' : Answers → World → World → Prop}
    (h : (systemFrom store ops permit s₀).Reachable cfg)
    (hpermit : ∀ {i s s'}, s.anchor ≤ cfg.shared.anchor → permit i s s' → permit' i s s') :
    (systemFrom store ops permit' s₀).Reachable cfg := by
  refine @System.Reachable.restrict _ _ _ (systemFrom store ops permit s₀)
    (systemFrom store ops permit' s₀) (fun _ hs => hs) (fun _ _ hp => hp)
    (fun s s' => s.anchor ≤ s'.anchor) (fun _ => Nat.le_refl _) Nat.le_trans anchor_le_of_step _ h
    ?_
  intro i s s' hle hlast hi
  exact hpermit (hle.trans hlast) hi

end Runs

end Model

/-! ### Two sample runs -/

namespace Sample

attribute [local instance] platform

/-- Every call tries to execute the sample contract. -/
def attempts (ratePolicy : Option RateLimits) : ℕ → Operation (store true ratePolicy) :=
  fun _ => .transition "contract-1" prepared 2 executing (some ⟨.highAssuranceTier1⟩)
    "state_transition"

/-- An environment in which nothing fails. -/
def calmly : Answers := answers (.timeout true)

theorem reliable_calmly : Reliable calmly := ⟨rfl, rfl⟩

/-- A store that is at its anchor and can execute the sample contract, but for its rate policy. -/
structure Executable (store : Store) (s : World) (c : RecoveryContract) : Prop where
  coherent : Coherent store s
  latest : s.latest c.contractId = some c
  contractId : c.contractId = "contract-1"
  isPrepared : c.state = prepared
  isConfirmed : c.isConfirmed = true
  stateVersion : c.stateVersion = 2
  unexpired : ∀ t, calmly.clock = some t → c.isExpired t = false
  free : ∀ d ∈ contractsOf (commitsOf s.trace), isReservationState d.state = true →
    d.targetIdentityDigest ≠ c.targetIdentityDigest
  unused : own 3 s.trace = []
  lockstep : Lockstep store s
  seeded : HighWaterMark.isSeeded s.db = true
  anchor : s.anchor = 0

theorem exists_executable {ratePolicy : Option RateLimits} (hrate : ∀ limits ∈ ratePolicy,
    limits.targetCooldownSeconds = 0 ∧ 0 < limits.reconciliationLockoutThreshold ∧
      0 < limits.maxOutstandingPreparedPerTarget) :
    ∃ s c, Executable (store true ratePolicy) s c := by
  obtain ⟨cfg, c, hreach, hnext, hsingle, hsame, hstate, hversion, hconfirmed, -⟩ :=
    @reachable_sample true _ hrate (.load "contract-1") (fun _ _ _ => True) (.timeout true)
      fun _ _ => trivial
  have hzero : 0 < 10 ^ intMaxStrDigits := Nat.pow_pos (by decide)
  obtain ⟨row, hrow, -⟩ := HighWaterMark.exists_row (store true ratePolicy).toStoreIdentity hzero
  have hpersist : HighWaterMark.persist (store true ratePolicy).toStoreIdentity 0 cfg.shared.db =
      .ok (cfg.shared.db.upsertAnchor row) := by
    rw [HighWaterMark.persist, hrow]
    rfl
  let s : World := { cfg.shared with db := cfg.shared.db.upsertAnchor row, anchor := 0 }
  have hquiet : Quiet cfg.shared s := ⟨rfl, rfl, rfl, rfl, rfl⟩
  refine ⟨s, c, hquiet.coherent hsingle.coherent, hsingle.latest, hsame.contractId, hstate,
    hconfirmed, hversion, ?_, hsingle.free (by rw [hstate]; rfl) (hquiet.coherent hsingle.coherent)
    hquiet, ?_, HighWaterMark.read_persist hpersist, isSeeded_of_persist hpersist, rfl⟩
  · rintro t ⟨⟩
    rw [RecoveryContract.isExpired, hsame.expiresAt]
    decide +kernel
  · exact (((safety (store true ratePolicy) _ _).reachable hreach).fresh 3 hnext.le).2

/-- A rate policy that allows no execution. -/
def exhausted : RateLimits := ⟨1, 0, 0, 1⟩

/-- Its refusal. -/
def limitReached : Error := ⟨.rateLimitExceeded, "Global in-flight mutation limit reached."⟩

/-- The theorem applies to a run in which the anchor is advanced. -/
theorem lockstep_of_allowed_sample : ∃ s₀ cfg, s₀.anchor = 0 ∧
    (systemFrom (store true none) (attempts none) (fun i s s' =>
      Reliable i ∧ AdvancesOnlyAllowed (store true none) i s s') s₀).Reachable cfg ∧
    cfg.shared.anchor = 1 ∧ Lockstep (store true none) cfg.shared := by
  obtain ⟨s₀, c, h⟩ := @exists_executable none fun _ h => by cases h
  -- three calls start and make no step, and the fourth one is completed
  let S := systemFrom (store true none) (attempts none) (fun i _ _ => i = calmly) s₀
  have hthree : ∃ cfg, S.Reachable cfg ∧ cfg.shared = s₀ ∧ cfg.next = 3 :=
    ⟨_, ((((System.Reachable.start (S := S) rfl).step (.call _ _ rfl)).step
      (.call _ _ rfl)).step (.call _ _ rfl)), rfl, rfl⟩
  obtain ⟨cfg, hreach, hshared, hnext⟩ := hthree
  have hcompletes : Attempt.Completes ⟨3, c.contractId, c.stateVersion, ⟨.highAssuranceTier1⟩,
      "state_transition"⟩ (store true none) (fun _ => calmly) s₀ :=
    completes_of_latest rfl rfl (fit (fun _ h => by cases h) true (.timeout true)) reliable_calmly
      rfl h.coherent h.latest h.isPrepared h.isConfirmed h.unexpired
      (by rw [h.stateVersion]; decide) h.free h.unused h.lockstep
      (by rw [h.anchor]; exact Nat.one_lt_pow (by decide) (by decide))
  have hadvanced := (run_transition_of_eq (a := ⟨3, c.contractId, c.stateVersion,
    ⟨.highAssuranceTier1⟩, "state_transition"⟩) rfl rfl (fun _ => reliable_calmly) hcompletes
    h.lockstep rfl).2.1
  obtain ⟨cfg', hreach', hshared', -, -⟩ := System.reachable_call (fun _ => calmly) hreach
    (permitted_of_forall _ _ (fun _ _ _ => rfl) _) rfl
  have hanchor : cfg'.shared.anchor = 1 := by
    have hadvanced : ((Attempt.code ⟨3, "contract-1", 2, ⟨.highAssuranceTier1⟩,
        "state_transition"⟩ (store true none)).run (fun _ => calmly) s₀).state.anchor = 1 := by
      rw [h.contractId, h.stateVersion, h.anchor] at hadvanced
      exact hadvanced
    rw [hshared', hshared, hnext]
    exact (congrArg World.anchor (state_discard _ _ _)).trans hadvanced
  have hrun : (systemFrom (store true none) (attempts none) (fun i s s' =>
      Reliable i ∧ AdvancesOnlyAllowed (store true none) i s s') s₀).Reachable cfg' := by
    refine reachable_of_anchor_le hreach' ?_
    rintro i s s' hle rfl
    refine ⟨reliable_calmly, fun _ => ⟨rfl, ?_, rfl⟩⟩
    have hsmall : s.anchor + 1 < 10 := by omega
    exact hsmall.trans_le (Nat.le_self_pow (by decide) 10)
  exact ⟨s₀, cfg', h.anchor, hrun, hanchor, lockstep_of_allowed h.lockstep
    (fun n _ _ (hop : attempts none n = _) => by cases hop) (fun hpermit => hpermit) hrun⟩

/-- The gate of a store that allows no execution: it advances the anchor, and refuses. -/
theorem gate_exhausted {s : World} {c : RecoveryContract}
    (h : Executable (store true (some exhausted)) s c) :
    (store true (some exhausted)).gate ⟨.highAssuranceTier1⟩ calmly s =
      ({ s with anchor := 1 }, .error limitReached) := by
  obtain ⟨row, hrow, -⟩ := HighWaterMark.exists_row (store true (some exhausted)).toStoreIdentity
    (Nat.one_lt_pow (by decide) (by decide) : 1 < 10 ^ intMaxStrDigits)
  have hafter : (store true (some exhausted)).afterAdvance calmly (s.anchor + 1) s.db =
      .error limitReached := by
    rw [Store.afterAdvance, HighWaterMark.persist, h.anchor, hrow]
    rfl
  have hgate : (store true (some exhausted)).gate ⟨.highAssuranceTier1⟩ calmly s =
      ({ s with anchor := s.anchor + 1 }, .error limitReached) :=
    (gate_of_lockstep h.lockstep reliable_calmly rfl ⟨rfl, rfl⟩).1 _ hafter
  rw [hgate, h.anchor]

/-- The rate policy refuses an execution, and the next one is taken for an attack. -/
theorem not_lockstep_sample : ∃ s₀ cfg cfg',
    Lockstep (store true (some exhausted)) s₀ ∧ HighWaterMark.isSeeded s₀.db = true ∧
    (systemFrom (store true (some exhausted)) (attempts (some exhausted))
      (fun i _ _ => Reliable i) s₀).Reachable cfg ∧
    cfg.calls 0 = some (.raise limitReached) ∧ ¬Lockstep (store true (some exhausted)) cfg.shared ∧
    (systemFrom (store true (some exhausted)) (attempts (some exhausted))
      (fun i _ _ => Reliable i) s₀).Reachable cfg' ∧
    cfg'.calls 1 = some (.raise rollbackDetected) := by
  obtain ⟨s₀, c, h⟩ := @exists_executable (some exhausted) <| by
    rintro limits ⟨⟩
    exact ⟨rfl, Nat.one_pos, Nat.one_pos⟩
  let S := systemFrom (store true (some exhausted)) (attempts (some exhausted))
    (fun i _ _ => Reliable i) s₀
  have hfit : Fit (store true (some exhausted)) calmly :=
    fit (by rintro limits ⟨⟩; rfl) true (.timeout true)
  have hbefore := beforeGate_live hfit h.coherent h.latest h.isPrepared h.isConfirmed h.unexpired
  rw [h.contractId, h.stateVersion] at hbefore
  obtain ⟨t, hbefore, -⟩ := hbefore
  -- the first call advances the anchor, and is refused by the rate policy
  have hfirst : (((attempts (some exhausted) 0).code 0).run (fun _ => calmly) s₀).result =
        .error limitReached ∧
      (((attempts (some exhausted) 0).code 0).run (fun _ => calmly) s₀).state =
        { s₀ with anchor := 1 } :=
    run_transition_refused rfl hbefore fun _ => gate_exhausted h
  obtain ⟨cfg, hreach, hshared, hnext, hcall⟩ := System.reachable_call (S := S) (fun _ => calmly)
    (.start rfl) (permitted_of_forall _ _ (fun _ _ _ => reliable_calmly) _) rfl
  have hshared : cfg.shared = { s₀ with anchor := 1 } := hshared.trans hfirst.2
  have hcall : cfg.calls 0 = some (.raise limitReached) :=
    hcall.trans (congrArg (fun r => some (ofExcept r)) hfirst.1)
  -- the mark is still zero, and the second call is refused by the gate
  have hread : HighWaterMark.read (store true (some exhausted)).toStoreIdentity s₀.db = .ok 0 :=
    h.lockstep.trans (congrArg _ h.anchor)
  have hbefore₁ : (((store true (some exhausted)).beforeGate "contract-1" 2
      "state_transition").run (fun _ => calmly) { s₀ with anchor := 1 }).result = .ok (c, t) := by
    rw [observes_beforeGate]
    exact hbefore
  have hrefused : (store true (some exhausted)).gate ⟨.highAssuranceTier1⟩ calmly
      { s₀ with anchor := 1 } = ({ s₀ with anchor := 1 }, .error rollbackDetected) :=
    gate_of_ne rfl rfl reliable_calmly hread rfl Nat.one_ne_zero
  have hsecond : (((attempts (some exhausted) 1).code 1).run (fun _ => calmly)
      { s₀ with anchor := 1 }).result = .error rollbackDetected :=
    (run_transition_refused rfl hbefore₁ fun _ => hrefused).1
  obtain ⟨cfg', hreach', -, -, hcall'⟩ := System.reachable_call (fun _ => calmly) hreach
    (permitted_of_forall _ _ (fun _ _ _ => reliable_calmly) _) rfl
  have hnext : cfg.next = 1 := hnext
  rw [hnext, hshared] at hcall'
  refine ⟨s₀, cfg, cfg', h.lockstep, h.seeded, hreach, hcall, ?_, hreach',
    hcall'.trans (congrArg (fun r => some (ofExcept r)) hsecond)⟩
  rw [hshared]
  intro hlock
  cases hread.symm.trans hlock

end Sample

end Tier1
