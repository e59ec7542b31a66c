import Mathlib.Data.Int.Notation
import Mathlib.Data.Nat.Notation
import PfsenseMcp.Tier1.Lifecycle

/-!
# Runs over several contracts

`Tier1.Lifecycle` follows one contract from call to call. Here a store holds a list of contracts,
and each call that is made alone creates one more of them or changes one.

## Main results

* `exists_created`, `exists_moved`, `exists_confirmed`, `exists_executing`, `exists_verified`,
  `exists_rotated`: what one call, made alone, does to the list.
-/

namespace Tier1

open Python Concurrency Procedure RecoveryState

section Model

variable [Platform]

/-- The store holds the given contracts, in the order of their creation. -/
structure Holding (store : Store) (s : World) (cs : List RecoveryContract) : Prop where
  coherent : Coherent store s
  contracts : contractsOf (commitsOf s.trace) = cs

section Holding

variable {store : Store} {s s' : World} {cs : List RecoveryContract} {c : RecoveryContract}
  {k : Commit} {call : ℕ} {permit : Answers → World → World → Prop}

theorem Holding.latest (h : Holding store s cs) (hc : c ∈ cs) :
    s.latest c.contractId = some c := by
  rw [← h.contracts] at hc
  exact (mem_contractsOf h.coherent.commits).mp hc

/-- A change of a contract replaces it in the list. -/
theorem Holding.of_commits (h : Holding store s cs)
    (hcommits : (alone call permit).Commits store s s' k) (hbefore : k.before = some c) :
    Holding store s' (Store.replaced cs k.after) := by
  obtain ⟨⟨s₁, hquiet, -, htrace⟩, hcoherent, -⟩ := hcommits
  refine ⟨hcoherent, ?_⟩
  have hcommits : commitsOf s'.trace = commitsOf s.trace ++ [k] := by
    rw [htrace, commitsOf_append, hquiet.trace]
    rfl
  rw [hcommits, Store.contractsOf_append hbefore, h.contracts]

theorem replaced_first {a b d : RecoveryContract} (hd : d.contractId = a.contractId)
    (hne : b.contractId ≠ a.contractId) : Store.replaced [a, b] d = [d, b] := by
  simp [Store.replaced, hd, hne]

theorem replaced_second {a b d : RecoveryContract} (hd : d.contractId = b.contractId)
    (hne : b.contractId ≠ a.contractId) : Store.replaced [a, b] d = [a, d] := by
  simp [Store.replaced, hd, hne.symm]

/-- Of two changes of a contract, the later one counts. -/
theorem replaced_replaced {d e : RecoveryContract} (h : d.contractId = e.contractId) :
    Store.replaced (Store.replaced cs d) e = Store.replaced cs e := by
  unfold Store.replaced
  rw [List.map_map]
  refine List.map_congr_left fun c _ => ?_
  by_cases hc : c.contractId = e.contractId <;> simp [h, hc]

theorem mem_replaced_self {d : RecoveryContract} (hc : c ∈ cs) (h : d.contractId = c.contractId) :
    d ∈ Store.replaced cs d := by
  unfold Store.replaced
  exact List.mem_map.mpr ⟨c, hc, if_pos h.symm⟩

/-- A target is free if no contract of the list reserves it. -/
theorem Holding.free (h : Holding store s cs) {digest : String}
    (hfree : ∀ d ∈ cs, isReservationState d.state = true → d.targetIdentityDigest ≠ digest)
    (hquiet : Quiet s s') :
    ∀ d ∈ contractsOf (commitsOf s'.trace), isReservationState d.state = true →
      d.targetIdentityDigest ≠ digest := by
  rw [hquiet.trace, h.contracts]
  exact hfree

end Holding

/-! ### Runs of single steps -/

section Steps

variable {α β : Type} {inputs : ℕ → Answers} {s s' : World}

theorem run_check {x : Except Error β} {b : β} {f : β → Op α} (h : x = .ok b) :
    (Op.check x >>= f).run inputs s = (f b).run inputs s := by
  rw [h]
  rfl

theorem permitted_check {x : Except Error β} {b : β} {f : β → Op α}
    {permit : Answers → World → World → Prop} (h : x = .ok b) :
    (Op.check x >>= f).Permitted permit inputs s ↔ (f b).Permitted permit inputs s := by
  rw [h]
  rfl

theorem permitted_atomic {g : Answers → World → World × Except Error β} {b : β} {f : β → Op α}
    {permit : Answers → World → World → Prop} (h : g (inputs 0) s = (s', .ok b)) :
    (Op.atomic g >>= f).Permitted permit inputs s ↔
      permit (inputs 0) s s' ∧ (f b).Permitted permit (fun n => inputs (n + 1)) s' := by
  rw [Op.atomic, atom_bind, Permitted, h]
  rfl

theorem run_atomic {g : Answers → World → World × Except Error β} {b : β} {f : β → Op α}
    (h : g (inputs 0) s = (s', .ok b)) :
    (Op.atomic g >>= f).run inputs s = (f b).run (fun n => inputs (n + 1)) s' := by
  rw [Op.atomic, atom_bind, run_atom, h]
  rfl

section Transactions

variable {block : Answers → Database → Except Error (Database × DateTime)}
  {commit : DateTime → Commit} {db : Database} {t : DateTime} {f : RecoveryContract → Op α}

/-- A transaction in which nothing fails commits. -/
theorem run_transact (hi : Store.Untroubled (inputs 0)) (h : block (inputs 0) s.db = .ok (db, t)) :
    (Store.transact block commit >>= f).run inputs s =
      (f (commit t).after).run (fun n => inputs (n + 1))
        { s with db := db, trace := s.trace ++ [.committed (commit t)] } := by
  refine run_atomic ?_
  simp only [hi.sqlite, h, ok_bind, hi.commitFailure, hi.invokeFault]

theorem permitted_transact {permit : Answers → World → World → Prop}
    (hi : Store.Untroubled (inputs 0)) (h : block (inputs 0) s.db = .ok (db, t)) :
    (Store.transact block commit >>= f).Permitted permit inputs s ↔
      permit (inputs 0) s { s with db := db, trace := s.trace ++ [.committed (commit t)] } ∧
        (f (commit t).after).Permitted permit (fun n => inputs (n + 1))
          { s with db := db, trace := s.trace ++ [.committed (commit t)] } := by
  refine permitted_atomic ?_
  simp only [hi.sqlite, h, ok_bind, hi.commitFailure, hi.invokeFault]

end Transactions

end Steps

/-! ### One call at a time -/

section Calls

variable {store : Store} {ops : ℕ → Operation store} {permit : Answers → World → World → Prop}
  {cfg : Config World Answers Error} {i : Answers} {cs : List RecoveryContract}
  {c : RecoveryContract}

/-- A creation starts no cooldown. -/
theorem Store.rateCooldowns_of_createBlock {now t : DateTime} {db db' : Database}
    (h : store.createBlock c now i db = .ok (db', t)) : db'.rateCooldowns = db.rateCooldowns := by
  simp only [createBlock, conflictOnIntegrity_eq_ok, bind_eq_ok] at h
  obtain ⟨_, -, _, -, code, -, db₁, hinsert, _, -, db₂, haudit, _, -, _, -, h⟩ := h
  cases h
  obtain ⟨-, -, rfl⟩ := insertContract_ok hinsert
  obtain ⟨tag, -, rfl⟩ := insertAudit_ok haudit
  rfl

/-- The run of a creation that passes its guards. -/
theorem run_create (hfit : Fit store i) (hclock : ∀ t, i.clock = some t →
      c.createdAt ≤ t ∧ c.isExpired t = false)
    (isPreparing : c.state = preparing) (isFirst : c.stateVersion = 0)
    (unconfirmed : c.isConfirmed = false) {s : World} (hs : Coherent store s)
    (hfresh : ∀ d ∈ contractsOf (commitsOf s.trace), d.contractId ≠ c.contractId ∧
      d.operationId ≠ c.operationId ∧ (blocksFreshIdempotencyAttempt d.state = true →
        d.idempotencyKey ≠ c.idempotencyKey))
    (hallowed : ∀ t, store.checkPrepareAllowed s.db c t = .ok ()) {call : ℕ}
    (hpermit : permit i s s ∧ ∀ s' t t', s'.trace = s.trace ++
      [.committed ⟨call, none, c, "contract_created", t, some t'⟩] → permit i s s') :
    ∃ db t t', db.rateCooldowns = s.db.rateCooldowns ∧
      ((store.create call c).run (fun _ => i) s).state =
        { s with
          db := db
          trace := s.trace ++
            [.committed ⟨call, none, c, "contract_created", t, some t'⟩] } ∧
      (store.create call c).Permitted permit (fun _ => i) s := by
  obtain ⟨t', ht'⟩ := hfit.clock
  obtain ⟨t, ht⟩ := hfit.recordClock
  obtain ⟨db, hblock⟩ := Store.exists_createBlock hs.commits hs.represents isFirst hfresh
    hfit.toUntroubled ht (hallowed t')
  refine ⟨db, t, t', Store.rateCooldowns_of_createBlock hblock, ?_⟩
  -- the two atoms of the call: reading the clock, and the transaction
  have hnow : (fun i s => (s, requireUtc i.clock)) i s = (s, Except.ok t') := by
    simp only [ht', requireUtc]
  have hguard := And.intro isPreparing (And.intro isFirst unconfirmed)
  unfold Store.create Store.now Op.consult
  constructor
  · rw [run_check (demand_of hguard), run_atomic hnow, run_check (demand_of (hclock t' ht')),
      run_transact hfit.toUntroubled hblock]
    rfl
  · rw [permitted_check (demand_of hguard), permitted_atomic hnow,
      permitted_check (demand_of (hclock t' ht')), permitted_transact hfit.toUntroubled hblock]
    exact ⟨hpermit.1, hpermit.2 _ t t' rfl, trivial⟩

/-- A creation adds a contract. -/
theorem exists_created (h : (system store ops permit).Reachable cfg)
    (hpermit : permit i cfg.shared cfg.shared ∧ ∀ s' t t', s'.trace = cfg.shared.trace ++
      [.committed ⟨cfg.next, none, c, "contract_created", t, some t'⟩] → permit i cfg.shared s')
    (hcs : Holding store cfg.shared cs) (hfit : Fit store i)
    (hops : (ops cfg.next).code cfg.next = store.create cfg.next c)
    (hclock : ∀ t, i.clock = some t → c.createdAt ≤ t ∧ c.isExpired t = false)
    (isPreparing : c.state = preparing) (isFirst : c.stateVersion = 0)
    (unconfirmed : c.isConfirmed = false)
    (hfresh : ∀ d ∈ cs, d.contractId ≠ c.contractId ∧ d.operationId ≠ c.operationId ∧
      (blocksFreshIdempotencyAttempt d.state = true → d.idempotencyKey ≠ c.idempotencyKey))
    (hallowed : ∀ t, store.checkPrepareAllowed cfg.shared.db c t = .ok ()) :
    ∃ cfg', (system store ops permit).Reachable cfg' ∧ cfg'.next = cfg.next + 1 ∧
      Holding store cfg'.shared (cs ++ [c]) ∧
      cfg'.shared.db.rateCooldowns = cfg.shared.db.rateCooldowns ∧
      ∃ k, commitsOf cfg'.shared.trace = commitsOf cfg.shared.trace ++ [k] ∧
        k.call = cfg.next ∧ k.before = none ∧ k.after = c := by
  obtain ⟨db, t, t', hcooldowns, hrun, hpermitted⟩ := run_create hfit hclock isPreparing isFirst
    unconfirmed hcs.coherent (hcs.contracts.symm ▸ hfresh) hallowed hpermit
  obtain ⟨cfg', hreach, hshared, hnext, -⟩ := System.reachable_call (S := system store ops permit)
    (p := (ops cfg.next).code cfg.next) (fun _ => i) h (by rw [hops]; exact hpermitted) rfl
  rw [hops, hrun] at hshared
  have hcommits : commitsOf cfg'.shared.trace = commitsOf cfg.shared.trace ++
      [⟨cfg.next, none, c, "contract_created", t, some t'⟩] := by
    rw [hshared, commitsOf_append]
    rfl
  refine ⟨cfg', hreach, hnext, ⟨coherent_of_reachable hreach, ?_⟩, by rw [hshared, hcooldowns],
    _, hcommits, rfl, rfl, rfl⟩
  have htable : contractsOf (commitsOf cfg.shared.trace ++
      [⟨cfg.next, none, c, "contract_created", t, some t'⟩]) =
        contractsOf (commitsOf cfg.shared.trace) ++ [c] := View.table_append_of_none rfl
  rw [hcommits, ← hcs.contracts]
  exact htable

/-- The next call of a run has replaced a contract of the list, and ended. -/
structure Replaces (store : Store) (ops : ℕ → Operation store)
    (permit : Answers → World → World → Prop) (cs : List RecoveryContract)
    (c d : RecoveryContract) (cfg cfg' : Config World Answers Error) : Prop where
  reachable : (system store ops permit).Reachable cfg'
  next : cfg'.next = cfg.next + 1
  holding : Holding store cfg'.shared (Store.replaced cs d)
  commit : ∃ k, commitsOf cfg'.shared.trace = commitsOf cfg.shared.trace ++ [k] ∧
    k.call = cfg.next ∧ k.before = some c ∧ k.after = d

/-- A change that a call makes alone, given what the call commits. -/
theorem exists_replaced (fields : RecoveryContract → Prop)
    (h : (system store ops permit).Reachable cfg)
    (hpermit : ∀ s s', Advances cfg.next s s' → permit i s s')
    (hcs : Holding store cfg.shared cs)
    (hwp : own cfg.next cfg.shared.trace = [] → ∀ post : Except Error Unit → World → Prop,
      (∀ r s' k, (alone cfg.next fun j _ _ => j = i).Commits store cfg.shared s' k →
        k.before = some c → fields k.after → post r s') →
      wp ((alone cfg.next fun j _ _ => j = i).context store) ((ops cfg.next).code cfg.next) post
        cfg.shared) :
    ∃ cfg' d, Replaces store ops permit cs c d cfg cfg' ∧ fields d := by
  have hcall := exists_call h hpermit fun _ s => ∃ d, fields d ∧
    Holding store s (Store.replaced cs d) ∧ ∃ k, commitsOf s.trace =
      commitsOf cfg.shared.trace ++ [k] ∧ k.call = cfg.next ∧ k.before = some c ∧ k.after = d
  refine (hcall fun hown => hwp hown _ fun _ s' k hcommits hbefore hfields =>
    ⟨k.after, hfields, hcs.of_commits hcommits hbefore, k, ?_, hcommits.call, hbefore, rfl⟩).elim ?_
  · obtain ⟨s₁, hquiet, -, htrace⟩ := hcommits.before
    rw [htrace, commitsOf_append, hquiet.trace]
    rfl
  · rintro cfg' ⟨_, hreach, hnext, -, d, hfields, hholding, hcommit⟩
    exact ⟨cfg', d, ⟨hreach, hnext, hholding, hcommit⟩, hfields⟩

variable (h : (system store ops permit).Reachable cfg)
  (hpermit : ∀ s s', Advances cfg.next s s' → permit i s s')
  (hcs : Holding store cfg.shared cs) (hfit : Fit store i) (hc : c ∈ cs)
  (hversion : c.stateVersion + 1 < 2 ^ 63)

include h hpermit hcs hfit hc hversion

/-- A transition into a state other than `EXECUTING`. -/
theorem exists_moved (target : RecoveryState)
    (hops : ops cfg.next = .transition c.contractId c.state c.stateVersion target none
      "state_transition")
    (legal : requireTransition c.state target false = .ok ()) (ne_verified : target ≠ verified)
    (ne_rolledBack : target ≠ rolledBack) (ne_executing : target ≠ executing)
    (hclock : ∀ t, i.clock = some t → c.isExpired t = false)
    (hfree : isReservationState target = true → isReservationState c.state = false →
      ∀ d ∈ cs, isReservationState d.state = true →
        d.targetIdentityDigest ≠ c.targetIdentityDigest) :
    ∃ cfg' d, Replaces store ops permit cs c d cfg cfg' ∧
      d.toContractFields = Store.moved c target := by
  refine exists_replaced (c := c) (fun d => d.toContractFields = Store.moved c target) h hpermit
    hcs fun hown post hpost => ?_
  rw [hops]
  refine wp_discard (transition_live (live_alone hfit) steady_alone hcs.coherent (hcs.latest hc)
    (by decide) (by decide) legal ne_verified ne_rolledBack ne_executing ?_ hversion ?_ ?_ ?_)
  · rintro _ _ _ t rfl hclock' _ hexpired
    rw [hclock t hclock'] at hexpired
    cases hexpired
  · exact fun s' _ hquiet htarget hstate => hcs.free (hfree htarget hstate) hquiet
  · exact fun k hcall _ => (MutationExecutor.unsent_of_own hown).justified hcall
  · exact fun s' k hcommits hbefore hfields r _ => hpost r s' k hcommits hbefore hfields

/-- A confirmation, on a platform that leaves texts as they are. -/
theorem exists_confirmed (hnfc : ∀ s, Platform.nfc s = s) {evidence : ConfirmationEvidence}
    (hops : ops cfg.next = .confirm c.contractId evidence c.stateVersion)
    (hverifier : store.hasConfirmationVerifier = true) (hverdict : i.verdict = some true)
    (isPrepared : c.state = prepared) (unconfirmed : c.isConfirmed = false)
    (hclock : ∀ t, i.clock = some t → c.createdAt ≤ t ∧ c.isExpired t = false)
    (hbindings : evidence.verifyBindings c = .ok ()) :
    ∃ cfg' d, Replaces store ops permit cs c d cfg cfg' ∧
      ∃ code t, d.toContractFields = confirmed c code t := by
  refine exists_replaced (c := c) (fun d => ∃ code t, d.toContractFields = confirmed c code t) h
    hpermit hcs fun hown post hpost => ?_
  have hauthority : isIdentifier evidence.authorityId = true := by
    obtain ⟨_, hids, -⟩ : ∃ _ : Unit, _ ∧ _ := by
      simpa only [ConfirmationFields.postInit, bind_eq_ok, demand_eq_ok] using evidence.valid
    exact hids.1
  obtain ⟨_, hdigest⟩ := evidenceDigest_eq hnfc evidence
  obtain ⟨_, hcode⟩ := withConfirmation_eq hnfc isPrepared unconfirmed _ _
    hauthority (Platform.isHex64_sha256 _)
  rw [hops]
  refine wp_discard (confirm_live (live_alone hfit) steady_alone ?_ hverifier hcs.coherent
    (hcs.latest hc) isPrepared unconfirmed ?_ hbindings hdigest hcode (Platform.isHex64_sha256 _)
    hversion (MutationExecutor.unsent_of_own hown) ?_)
  · rintro _ _ _ rfl
    exact hverdict
  · rintro _ _ _ t rfl
    exact hclock t
  · exact fun s' k t hcommits hbefore hfields r _ => hpost r s' k hcommits hbefore ⟨_, t, hfields⟩

/-- A transition into `EXECUTING`. -/
theorem exists_executing (policy : ExecutionSecurityPolicy)
    (hops : ops cfg.next = .transition c.contractId prepared c.stateVersion executing (some policy)
      "state_transition")
    (hanchor : store.hasAnchor = false)
    (hallowed : ∀ s', Coherent store s' → Quiet cfg.shared s' →
      store.checkExecuteAllowed s'.db = .ok ())
    (isPrepared : c.state = prepared) (isConfirmed : c.isConfirmed = true)
    (hclock : ∀ t, i.clock = some t → c.isExpired t = false)
    (hfree : ∀ d ∈ cs, isReservationState d.state = true →
      d.targetIdentityDigest ≠ c.targetIdentityDigest) :
    ∃ cfg' d, Replaces store ops permit cs c d cfg cfg' ∧
      d.toContractFields = Store.moved c executing := by
  refine exists_replaced (c := c) (fun d => d.toContractFields = Store.moved c executing) h hpermit
    hcs fun hown post hpost => ?_
  rw [hops]
  refine wp_discard (transition_executing_live (live_alone hfit) steady_alone hanchor hallowed
    hcs.coherent (hcs.latest hc) isPrepared isConfirmed ?_ (by decide) (by decide) hversion ?_ ?_ ?_)
  · rintro _ _ _ t rfl
    exact hclock t
  · exact fun s' _ hquiet => hcs.free hfree hquiet
  · exact fun k hcall _ => (MutationExecutor.unsent_of_own hown).justified hcall
  · exact fun s' k hcommits hbefore hfields r _ => hpost r s' k hcommits hbefore hfields

/-- The end of an execution that was verified. -/
theorem exists_verified (fingerprint : String)
    (hops : ops cfg.next = .markExecutionVerified c.contractId c.stateVersion fingerprint
      c.lifecycleLocator)
    (isExecuting : c.state = executing) (hfingerprint : isHex64 fingerprint = true) :
    ∃ cfg' d, Replaces store ops permit cs c d cfg cfg' ∧
      d.toContractFields = Store.sealed c fingerprint := by
  refine exists_replaced (c := c) (fun d => d.toContractFields = Store.sealed c fingerprint) h
    hpermit hcs fun hown post hpost => ?_
  rw [hops]
  refine wp_discard (markExecutionVerified_live (live_alone hfit) steady_alone hcs.coherent
    (hcs.latest hc) isExecuting hfingerprint hversion ?_ ?_)
  · exact fun k hcall _ => (MutationExecutor.unsent_of_own hown).justified hcall
  · exact fun s' k hcommits hbefore hfields r _ => hpost r s' k hcommits hbefore hfields

/-- A rotation of the artifacts. -/
theorem exists_rotated (identity intent snapshot : ProtectedArtifact)
    (hops : ops cfg.next = .rotateArtifacts c.contractId c.stateVersion identity intent snapshot) :
    ∃ cfg' d, Replaces store ops permit cs c d cfg cfg' ∧
      d.toContractFields = Store.rotated c identity intent snapshot := by
  refine exists_replaced (c := c)
    (fun d => d.toContractFields = Store.rotated c identity intent snapshot) h hpermit hcs
    fun hown post hpost => ?_
  rw [hops]
  refine wp_discard (rotateArtifacts_live (live_alone hfit) steady_alone hcs.coherent
    (hcs.latest hc) hversion (MutationExecutor.unsent_of_own hown) ?_)
  exact fun s' k hcommits hbefore hfields r _ => hpost r s' k hcommits hbefore hfields

end Calls

end Model

end Tier1
