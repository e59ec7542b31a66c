import Mathlib.Data.List.Chain
import PfsenseMcp.Tier1.Lifecycle

/-!
# What every run guarantees

The results of this module hold in every configuration that a run of the public operations can
reach, with any number of calls interleaved and crashes at any point.

## Main results

* `storeInvariant_of_reachable`: the tables are consistent with each other, and `load` never
  finds them damaged;
* `evolves_of_reachable`: what a contract keeps for ever, and what it may gain once.
-/

namespace Tier1

open Python Concurrency Procedure RecoveryState

section Support

variable [Platform]

/-! ### Chains of commits -/

section Chains

variable {commits : List Commit} (h : Lawful LawfulCommit commits)

include h

/-- A contract was created by the first commit about it, and every further commit continues the
one before it. -/
theorem isChain_historyOf {contractId : String} {c : RecoveryContract}
    (hc : latestOf commits contractId = some c) :
    (∃ k rest, historyOf commits contractId = k :: rest ∧ k.before = none ∧
      k.after.state = preparing ∧ k.eventType = "contract_created") ∧
    (historyOf commits contractId).IsChain
      (fun k k' => k'.before = some k.after ∧ UpdateOf k.after k'.after.toContractFields) ∧
    (historyOf commits contractId).getLast?.map Commit.after = some c := by
  refine history_induction h (P := fun l c => (∃ k rest, l = k :: rest ∧ k.before = none ∧
      k.after.state = preparing ∧ k.eventType = "contract_created") ∧
    l.IsChain (fun k k' => k'.before = some k.after ∧
      UpdateOf k.after k'.after.toContractFields) ∧
    l.getLast?.map Commit.after = some c) ?_ ?_ hc
  · intro k hbefore hstate _ _ hevent
    exact ⟨⟨k, [], rfl, hbefore, hstate, hevent⟩, List.isChain_singleton k, rfl⟩
  · rintro past k c _ hbefore _ hchange ⟨⟨k₀, rest, hfirst, hk₀⟩, hchain, hlast⟩
    refine ⟨⟨k₀, rest ++ [k], by rw [hfirst]; rfl, hk₀⟩, ?_, by simp⟩
    rw [List.isChain_append]
    refine ⟨hchain, List.isChain_singleton k, fun k₁ hk₁ k₂ hk₂ => ?_⟩
    cases hk₂
    rw [Option.mem_def] at hk₁
    rw [hk₁, Option.map_some, Option.some.injEq] at hlast
    rw [hlast]
    exact ⟨hbefore, hchange.updateOf⟩

end Chains

/-! ### The tables -/

/-- A contract is stored: one of the rows decodes to it. -/
def Stored (store : Store) (db : Database) (c : RecoveryContract) : Prop :=
  ∃ row ∈ db.contracts, store.decodeRow row = .ok c

/-- The audit rows of a contract tell how it came to its state. -/
structure AuditChain (c : RecoveryContract) (rows : List AuditRow) : Prop where
  /-- They carry exactly the versions from zero to that of the contract. -/
  versions : rows.map AuditRow.stateVersion =
    (List.range (c.stateVersion.toNat + 1)).map fun n => .integer n
  origin : ∃ row rest, rows = row :: rest ∧ row.eventType = .text "contract_created" ∧
    row.previousState = none
  /-- Each continues the one before it, in the same state or by a listed transition. -/
  chain : rows.IsChain fun row row' => row'.previousState = some row.currentState ∧
    ∃ s t : RecoveryState, row.currentState = .text s.value ∧ row'.currentState = .text t.value ∧
      (t = s ∨ ∃ rule, legalTransitions s t = some rule)
  last : rows.getLast?.map AuditRow.currentState = some (.text c.state.value)

/-- The representation invariant of a store. -/
structure StoreInvariant (store : Store) (db : Database) : Prop where
  decodes : ∀ row ∈ db.contracts, ∃ c, store.decodeRow row = .ok c ∧
    row.contractId = .text c.contractId
  audit : ∀ c, Stored store db c → AuditChain c (db.selectAudit c.contractId)
  reservation : ∀ c, Stored store db c → ∀ digest,
    (⟨digest, .text c.contractId⟩ : ReservationRow) ∈ db.targetReservations ↔
      isReservationState c.state = true ∧ digest = .text c.targetIdentityDigest
  targets : ∀ c d, Stored store db c → Stored store db d → isReservationState c.state = true →
    isReservationState d.state = true → c.targetIdentityDigest = d.targetIdentityDigest → c = d
  idempotency : ∀ c d, Stored store db c → Stored store db d →
    blocksFreshIdempotencyAttempt c.state = true → blocksFreshIdempotencyAttempt d.state = true →
    c.idempotencyKey = d.idempotencyKey → c = d

section Tables

variable {store : Store} {s : World}

theorem stored_iff (h : Coherent store s) {c : RecoveryContract} :
    Stored store s.db c ↔ s.latest c.contractId = some c := by
  rw [World.latest, ← mem_contractsOf h.commits, Stored, h.represents.contracts]
  constructor
  · rintro ⟨row, hrow, hdecode⟩
    obtain ⟨d, hd, rfl⟩ := List.mem_map.mp hrow
    rw [Store.decodeRow_rowOf (h.represents.codes d hd)] at hdecode
    cases hdecode
    exact hd
  · exact fun hc =>
      ⟨_, List.mem_map_of_mem hc, Store.decodeRow_rowOf (h.represents.codes c hc)⟩

theorem auditChain_selectAudit (h : Coherent store s) {c : RecoveryContract}
    (hc : s.latest c.contractId = some c) : AuditChain c (s.db.selectAudit c.contractId) := by
  obtain ⟨⟨k, rest, hfirst, hbefore, -, hevent⟩, hchain, hlast⟩ := isChain_historyOf h.commits hc
  obtain ⟨hversions, hlength⟩ := versions_historyOf h.commits hc
  rw [Store.selectAudit_eq h.commits h.represents]
  refine ⟨?_, ?_, ?_, ?_⟩
  · have hn : c.stateVersion.toNat + 1 =
        (historyOf (commitsOf s.trace) c.contractId).length := by
      have := c.progressValid.stateVersion
      omega
    rw [hn, List.map_map]
    have hcell : AuditRow.stateVersion ∘ store.auditRowOf =
        Cell.integer ∘ fun k => k.after.stateVersion := rfl
    rw [hcell, ← List.map_map, hversions, List.map_map]
    rfl
  · rw [hfirst, List.map_cons]
    refine ⟨_, _, rfl, ?_, ?_⟩
    · exact congrArg TextCell.text hevent
    · simp [Store.auditRowOf, Store.auditRow, hbefore]
  · rw [List.isChain_map]
    refine hchain.imp fun k k' hk => ?_
    obtain ⟨hbefore', hupdate⟩ := hk
    refine ⟨by simp [Store.auditRowOf, Store.auditRow, hbefore'], k.after.state, k'.after.state,
      rfl, rfl, hupdate.state⟩
  · cases hl : (historyOf (commitsOf s.trace) c.contractId).getLast? with
    | none => rw [hl] at hlast; cases hlast
    | some k =>
      rw [hl, Option.map_some, Option.some.injEq] at hlast
      rw [List.getLast?_map, hl, ← hlast]
      rfl

/-- A coherent world satisfies the representation invariant. -/
theorem Coherent.storeInvariant (h : Coherent store s) : StoreInvariant store s.db where
  decodes row hrow := by
    rw [h.represents.contracts] at hrow
    obtain ⟨c, hc, rfl⟩ := List.mem_map.mp hrow
    exact ⟨c, Store.decodeRow_rowOf (h.represents.codes c hc), rfl⟩
  audit c hc := auditChain_selectAudit h ((stored_iff h).mp hc)
  reservation c hc digest := by
    have hmem := (mem_contractsOf h.commits).mpr ((stored_iff h).mp hc)
    rw [h.represents.reservations]
    constructor
    · rintro ⟨d, hd, hstate, hrow⟩
      obtain ⟨hdigest, hid⟩ := ReservationRow.mk.inj hrow
      have hid : c.contractId = d.contractId := TextCell.text.inj hid
      have hdc : d = c := Store.eq_of_mem_contractsOf h.commits
        ((stored_iff h).mp hc) hd hid.symm
      rw [hdc] at hstate hdigest
      exact ⟨hstate, hdigest⟩
    · rintro ⟨hstate, rfl⟩
      exact ⟨c, hmem, hstate, rfl⟩
  targets c d hc hd hcs hds hdigest := by
    have hcmem := (mem_contractsOf h.commits).mpr ((stored_iff h).mp hc)
    have hdmem := (mem_contractsOf h.commits).mpr ((stored_iff h).mp hd)
    have hcrow := (h.represents.reservations (Store.reservationOf c)).mpr ⟨c, hcmem, hcs, rfl⟩
    have hdrow := (h.represents.reservations (Store.reservationOf d)).mpr ⟨d, hdmem, hds, rfl⟩
    have hrow : Store.reservationOf c = Store.reservationOf d := by
      by_contra hne
      have : Std.Symm fun a b : ReservationRow =>
          a.targetIdentityDigest ≠ b.targetIdentityDigest := ⟨fun _ _ h => h.symm⟩
      exact h.represents.targets.forall hcrow hdrow hne (congrArg TextCell.text hdigest)
    have hid : c.contractId = d.contractId :=
      TextCell.text.inj (congrArg ReservationRow.contractId hrow)
    exact Store.eq_of_mem_contractsOf h.commits ((stored_iff h).mp hd) hcmem hid
  idempotency c d hc hd := eq_of_idempotencyKey h.commits
    ((mem_contractsOf h.commits).mpr ((stored_iff h).mp hc))
    ((mem_contractsOf h.commits).mpr ((stored_iff h).mp hd))

end Tables

/-! ### Loading -/

/-- An error that the database layer raises is no `ContractIntegrityError`. -/
def Sqlite (i : Answers) : Prop := ∀ e, i.sqlite = some e → e.cls ≠ .contractIntegrity

section Loading

variable {store : Store} {s : World} {call : ℕ}

/-- A statement that reads what is there. -/
theorem wp_query_alone {α : Type} {S : Setting call} {f : Database → Except Error α}
    {post : Except Error α → World → Prop}
    (herr : ∀ s' i e, S.permit i s' s' → i.sqlite = some e → post (.error e) s')
    (hok : ∀ s', Coherent store s' → S.rely s s' → post (f s'.db) s') :
    wp (S.context store) (Op.query f) post s := by
  refine wp_atomic fun s' hs' hrely i hi => ⟨hs', .inl (.refl s'), ?_⟩
  dsimp only
  split
  · rename_i e he
    exact herr s' i e hi he
  · exact hok s' hs' hrely

/-- Run alone, `load` does not find a coherent store damaged. -/
theorem load_alone {permit : Answers → World → World → Prop}
    (hpermit : ∀ {i s s'}, permit i s s' → Sqlite i) (contractId : String) :
    wp ((alone call permit).context store) (store.load contractId)
      (fun r _ => ∀ e, r = .error e → e.cls ≠ .contractIntegrity) s := by
  have herr : ∀ (s' : World) i e, permit i s' s' → i.sqlite = some e →
      ∀ e', (Except.error e : Except Error RecoveryContract) = .error e' →
        e'.cls ≠ .contractIntegrity := by
    rintro s' i e hi he e' ⟨⟩
    exact hpermit hi e he
  refine (wp_bind _ _ _ _).mpr (wp_query_alone herr fun s₁ hs₁ h₁ => ?_)
  cases hlatest : s₁.latest contractId with
  | none =>
    have hrow : s₁.db.selectContract contractId = none := by
      rw [Store.selectContract_eq hs₁.commits hs₁.represents]
      rw [World.latest] at hlatest
      rw [hlatest]
      rfl
    rw [hrow]
    rintro e ⟨⟩ ⟨⟩
  | some c =>
    have hid := contractId_of_latestOf hlatest
    subst hid
    obtain ⟨row, hrow, hdecode⟩ := hs₁.exists_row hlatest
    rw [hrow]
    refine wp_pass hdecode (wp_met rfl ?_)
    refine (wp_bind _ _ _ _).mpr ((wp_bind _ _ _ _).mpr
      (wp_query_alone herr fun s₂ hs₂ h₂ => ?_))
    have hlatest₂ := (h₂.latest c.contractId).trans hlatest
    refine wp_pass (Store.verifyReservation_ok hs₂.commits hs₂.represents hlatest₂) ?_
    refine (wp_bind _ _ _ _).mpr (wp_query_alone herr fun s₃ hs₃ h₃ => ?_)
    have hlatest₃ := (h₃.latest c.contractId).trans hlatest₂
    refine wp_pass (Store.verifiedAuditRows_ok hs₃.commits hs₃.represents hlatest₃) ?_
    rintro _ ⟨⟩

end Loading

/-! ### Evolution of a contract -/

/-- What a committed change of a contract leaves alone, and what it may set. -/
structure Evolves (c d : RecoveryContract) : Prop where
  identity : c.SameIdentity d.toContractFields
  stateVersion : c.stateVersion < d.stateVersion
  confirmation : (d.confirmationDigest = c.confirmationDigest ∧ d.confirmedAt = c.confirmedAt) ∨
    c.confirmationDigest = none ∧ c.confirmedAt = none ∧ d.confirmationDigest ≠ none ∧
      d.confirmedAt ≠ none ∧ c.state = prepared
  verifiedTargetFingerprint : d.verifiedTargetFingerprint = c.verifiedTargetFingerprint ∨
    c.verifiedTargetFingerprint = none ∧ d.verifiedTargetFingerprint ≠ none

/-- The refusal of the state and fingerprint rule of the constructor. -/
def fingerprintRefusal : Error := ⟨.contractValidation, ContractFields.fingerprintMessage⟩

section Evolution

variable {store : Store} {s : World}

/-- The committed versions of a contract evolve from one to the next. -/
theorem isChain_evolves (h : Coherent store s) (contractId : String) :
    (s.history contractId).IsChain fun k k' => k'.before = some k.after ∧
      Evolves k.after k'.after := by
  have hpast : ∀ commits, Lawful LawfulCommit commits →
      (historyOf commits contractId).IsChain fun k k' => k'.before = some k.after ∧
        Evolves k.after k'.after := by
    intro commits hcommits
    cases hc : latestOf commits contractId with
    | none =>
      rw [historyOf, View.history_eq_nil_of_latest hc]
      exact List.isChain_nil
    | some c =>
      refine history_induction hcommits (P := fun l c => l.IsChain (fun k k' =>
        k'.before = some k.after ∧ Evolves k.after k'.after)) ?_ ?_ hc
      · exact fun k _ _ _ _ _ => List.isChain_singleton k
      · intro past k c hlaw hbefore hlatest hchange ih
        rw [List.isChain_append]
        refine ⟨ih, List.isChain_singleton k, fun k₁ hk₁ k₂ hk₂ => ?_⟩
        cases hk₂
        have hlast := (isChain_historyOf hlaw hlatest).2.2
        rw [Option.mem_def] at hk₁
        rw [hk₁, Option.map_some, Option.some.injEq] at hlast
        have hupdate := hchange.updateOf
        rw [hlast]
        refine ⟨hbefore, hupdate.sameIdentity, by have := hupdate.stateVersion; omega, ?_,
          fingerprint_change hlaw hlatest hchange⟩
        rcases hupdate.confirmation with hsame | ⟨h₁, h₂, h₃, h₄, h₅, -⟩
        · exact .inl hsame
        · exact .inr ⟨h₁, h₂, h₃, h₄, h₅⟩
  exact hpast _ h.commits

omit [Platform] in
theorem demand_bind_eq_error {α : Type} {condition : Prop} [Decidable condition]
    {cls : ErrorClass} {message : String} {f : Unit → Except Error α} {e : Error}
    (h : (demand condition cls message >>= f) = .error e) : e = ⟨cls, message⟩ ∨ f () = .error e := by
  unfold demand at h
  split_ifs at h
  · exact .inr h
  · cases h
    exact .inl rfl

/-- Fields with the identity of a contract and a fingerprint that fits the state are not refused
for that rule. -/
theorem ofFields_ne_fingerprintRefusal {c : RecoveryContract} {f : ContractFields}
    (hsame : c.SameIdentity f) (h : f.FingerprintConsistent) :
    RecoveryContract.ofFields f ≠ .error fingerprintRefusal := by
  intro herr
  have hpost := RecoveryContract.ofFields_eq_error herr
  have hvalid := c.identityValid.of_sameIdentity hsame
  unfold ContractFields.postInit at hpost
  have hne : ∀ message, message ≠ ContractFields.fingerprintMessage →
      fingerprintRefusal ≠ ⟨.contractValidation, message⟩ := by
    intro message hmessage heq
    exact hmessage (congrArg Error.message heq).symm
  -- the checks before the rule, the rule itself, the checks after it, and the binding
  iterate 7
    rcases demand_bind_eq_error hpost with heq | hpost
    · exact hne _ (by decide) heq
  rw [demand_of h, ok_bind] at hpost
  iterate 5
    rcases demand_bind_eq_error hpost with heq | hpost
    · exact hne _ (by decide) heq
  rw [hvalid.binding, ok_bind, demand_of rfl] at hpost
  cases hpost

end Evolution

end Support

/-! ### The guarantees -/

section Guarantees

attribute [local instance] Sample.platform

/-- At most one forward request and at most one rollback request is ever handed to the write
client for a contract. A forward request is handed on after a commit of the same call that took
the contract from `PREPARED` to `EXECUTING`, when it was confirmed and not expired at the store
clock. -/
theorem request_at_most_once [Platform] {store : Store} {ops : ℕ → Operation store}
    {cfg : Config World Answers Error}
    (h : (system store ops fun _ _ _ => True).Reachable cfg) (contractId : String) :
    (∀ direction,
      cfg.shared.trace.countP (fun e => e.isRequest direction contractId) ≤ 1) ∧
    ∀ past rest call exchange,
      cfg.shared.trace = past ++ .handed call .forward contractId exchange :: rest →
      ∃ k c instant, .committed k ∈ past ∧ k.call = call ∧ k.before = some c ∧
        c.contractId = contractId ∧ k.after.contractId = contractId ∧ c.state = prepared ∧
        k.after.state = executing ∧ k.checkedAt = some instant ∧ c.isConfirmed = true ∧
        c.isExpired instant = false := by
  have hlawful := (coherent_of_reachable h).lawful
  refine ⟨fun direction => countP_isRequest_le_one hlawful direction contractId, ?_⟩
  intro past rest call exchange htrace
  obtain ⟨k, -, hcall, hopen, hk⟩ := opening_of_handed (hlawful.rule_of_eq htrace)
  have hpast : Lawful LawfulEvent past := by
    rw [htrace] at hlawful
    exact hlawful.of_append
  obtain ⟨hmem, hid⟩ := mem_historyOf.mp hk
  obtain ⟨c, instant, hbefore, hcid, hready, hstate, hchecked, hconfirmed, hunexpired⟩ :=
    executable_of_opens (lawful_commitsOf hpast) hmem hopen
  exact ⟨k, c, instant, mem_commitsOf.mp hmem, hcall, hbefore, hcid.trans hid, hid, hready, hstate,
    hchecked, hconfirmed, hunexpired⟩

/-- In a run of the sample contract, one forward request is handed on. -/
theorem request_at_most_once_sample :
    ∃ (ops : ℕ → Operation Sample.plain) (cfg : Config World Answers Error),
      (system Sample.plain ops fun _ _ _ => True).Reachable cfg ∧
      cfg.shared.trace.countP (fun e => e.isRequest .forward "contract-1") = 1 := by
  obtain ⟨cfg, _, k, hreach, -, -, hhanded, -⟩ := Sample.reachable_failed
  refine ⟨_, cfg, hreach, Nat.le_antisymm ((request_at_most_once hreach "contract-1").1 .forward) ?_⟩
  exact List.countP_pos_iff.mpr ⟨_, hhanded, Event.isRequest_iff.mpr ⟨_, _, rfl⟩⟩

/-- An execution that has handed on a request leaves the contract in `FAILED` only if the client
refused the request, the connection could not be established, the appliance refused it with a 4xx
answer, or the appliance accepted it and the adapter did not find its effect in what it read back;
exchanges that end in another transport error are left aside. -/
theorem failed_mayFail [Platform] {store : Store} {ops : ℕ → Operation store}
    {cfg : Config World Answers Error}
    (h : (system store ops fun _ _ _ => True).Reachable cfg) {k : Commit}
    (hk : .committed k ∈ cfg.shared.trace) (hfailed : k.after.state = failed)
    {contractId : String} {exchange : Option Exchange}
    (hhanded : .handed k.call .forward contractId exchange ∈ cfg.shared.trace) :
    (∃ c, k.before = some c ∧ c.state = executing ∧ c.contractId = contractId) ∧
      MayFail cfg.shared.trace k.call contractId exchange := by
  have hlawful := (coherent_of_reachable h).lawful
  obtain ⟨past, rest, htrace⟩ := List.append_of_mem hk
  have hrule := hlawful.rule_of_eq htrace
  rw [htrace, List.mem_append, List.mem_cons] at hhanded
  rcases hhanded with hhanded | hhanded | hhanded
  · cases hrule with
    | committed _ justified =>
      obtain ⟨⟨c, hbefore, hid, hstate⟩, hmay⟩ :=
        justified .forward contractId exchange (mem_own.mpr ⟨hhanded, rfl⟩)
      refine ⟨⟨c, hbefore, hstate, hid⟩, (hmay rfl hfailed).mono fun e he => ?_⟩
      rw [htrace]
      exact List.mem_append_left _ (mem_own.mp he).1
  · cases hhanded
  · -- a request is handed on by a call that has done nothing but start
    exfalso
    obtain ⟨past', rest', hrest⟩ := List.append_of_mem hhanded
    have htrace' : cfg.shared.trace = (past ++ .committed k :: past') ++
        .handed k.call .forward contractId exchange :: rest' := by
      rw [htrace, hrest, List.append_assoc, List.cons_append]
    obtain ⟨k', hown, -, hopen, -⟩ := opening_of_handed (hlawful.rule_of_eq htrace')
    have hmem : Event.committed k ∈ own k.call (past ++ .committed k :: past') :=
      mem_own.mpr ⟨List.mem_append_right _ List.mem_cons_self, rfl⟩
    rw [hown, List.mem_singleton] at hmem
    cases hmem
    have hexecuting : k.after.state = executing := hopen.2
    rw [hfailed] at hexecuting
    cases hexecuting

/-- The condition of `failed_mayFail` is met by a run of the sample contract. -/
theorem failed_mayFail_sample :
    ∃ (ops : ℕ → Operation Sample.plain) (cfg : Config World Answers Error) (k : Commit),
      (system Sample.plain ops fun _ _ _ => True).Reachable cfg ∧
      .committed k ∈ cfg.shared.trace ∧ k.after.state = failed ∧
      MayFail cfg.shared.trace k.call "contract-1" (some (.response 200 "")) := by
  obtain ⟨cfg, _, k, hreach, -, hk, hhanded, -, -, -, hfailed, -⟩ := Sample.reachable_failed
  exact ⟨_, cfg, k, hreach, hk, hfailed, (failed_mayFail hreach hk hfailed hhanded).2⟩

/-- An exchange that cannot have changed the appliance: no byte of the request was sent, or the
appliance refused it with a 4xx answer. -/
def Exchange.NoEffect (exchange : Exchange) : Prop :=
  exchange.maySend = false ∨
    ∃ statusCode text, exchange = .response statusCode text ∧ 400 ≤ statusCode ∧ statusCode < 500

/-- A contract may be left in `FAILED` by a call whose request was answered with 200. -/
theorem failed_with_effect :
    ∃ (ops : ℕ → Operation Sample.plain) (cfg : Config World Answers Error) (k : Commit)
      (exchange : Exchange),
      (system Sample.plain ops fun _ _ _ => True).Reachable cfg ∧
      .committed k ∈ cfg.shared.trace ∧ k.after.state = failed ∧
      cfg.shared.latest "contract-1" = some k.after ∧
      .handed k.call .forward "contract-1" (some exchange) ∈ cfg.shared.trace ∧
      exchange = .response 200 "" ∧ ¬ exchange.NoEffect := by
  obtain ⟨cfg, _, k, hreach, -, hk, hhanded, -, -, -, hfailed, hlatest, hid⟩ :=
    Sample.reachable_failed
  rw [hid] at hlatest
  refine ⟨_, cfg, k, _, hreach, hk, hfailed, hlatest, hhanded, rfl, ?_⟩
  rintro (hsend | ⟨_, _, hresponse, hlow, -⟩)
  · cases hsend
  · cases hresponse
    exact absurd hlow (by decide)

/-- The tables of every reachable store satisfy the representation invariant, and `load` finds
them intact. -/
theorem storeInvariant_of_reachable [Platform] {store : Store} {ops : ℕ → Operation store}
    {cfg : Config World Answers Error}
    (h : (system store ops fun _ _ _ => True).Reachable cfg) :
    StoreInvariant store cfg.shared.db ∧
      ∀ contractId inputs, (∀ n, Sqlite (inputs n)) → ∀ e,
        ((store.load contractId).run inputs cfg.shared).result = .error e →
          e.cls ≠ .contractIntegrity := by
  have hcoherent := coherent_of_reachable h
  refine ⟨hcoherent.storeInvariant, fun contractId inputs hinputs e he => ?_⟩
  have hrun := run_of_wp (C := (alone 0 fun i _ _ => Sqlite i).context store)
    (fun s => Quiet.refl s) inputs (fun n _ _ => hinputs n) hcoherent
    (load_alone (fun hi => hi) contractId)
  exact hrun.2 e he

/-- A run after which the sample contract is stored, and its tables are consistent. -/
theorem storeInvariant_of_reachable_sample :
    ∃ (ops : ℕ → Operation Sample.plain) (cfg : Config World Answers Error) (c : RecoveryContract),
      (system Sample.plain ops fun _ _ _ => True).Reachable cfg ∧
      Stored Sample.plain cfg.shared.db c ∧ StoreInvariant Sample.plain cfg.shared.db := by
  obtain ⟨cfg, _, k, hreach, -, -, -, -, -, -, -, hlatest, -⟩ := Sample.reachable_failed
  exact ⟨_, cfg, k.after, hreach, (stored_iff (coherent_of_reachable hreach)).mpr hlatest,
    (storeInvariant_of_reachable hreach).1⟩

/-- The committed versions of a contract agree on its identity and count up; its confirmation and
its verified fingerprint are set at most once, the first while it is `PREPARED`, the second
exactly when its audit history reaches `VERIFIED`. No update that passes the guards of its
operation is refused for the rule on state and fingerprint. -/
theorem evolves_of_reachable [Platform] {store : Store} {ops : ℕ → Operation store}
    {cfg : Config World Answers Error}
    (h : (system store ops fun _ _ _ => True).Reachable cfg) (contractId : String) :
    (∀ k ∈ cfg.shared.history contractId, ∀ k' ∈ cfg.shared.history contractId,
      k.after.SameIdentity k'.after.toContractFields) ∧
    (cfg.shared.history contractId).IsChain (fun k k' => k'.before = some k.after ∧
      Evolves k.after k'.after) ∧
    (cfg.shared.history contractId).countP
      (fun k => k.changes fun c => c.confirmationDigest) ≤ 1 ∧
    (cfg.shared.history contractId).countP (fun k => k.changes fun c => c.confirmedAt) ≤ 1 ∧
    (cfg.shared.history contractId).countP
      (fun k => k.changes fun c => c.verifiedTargetFingerprint) ≤ 1 ∧
    (∀ c, Stored store cfg.shared.db c → c.contractId = contractId →
      (c.verifiedTargetFingerprint ≠ none ↔
        ∃ row ∈ cfg.shared.db.selectAudit contractId, row.currentState = .text verified.value)) ∧
    ∀ c : RecoveryContract,
      (∀ target, requireTransition c.state target false = .ok () → target ≠ verified →
        target ≠ rolledBack →
        RecoveryContract.ofFields (Store.moved c target) ≠ .error fingerprintRefusal) ∧
      (∀ digest instant, c.state = prepared → c.isConfirmed = false →
        RecoveryContract.ofFields (confirmed c digest instant) ≠ .error fingerprintRefusal) ∧
      (∀ fingerprint, c.state = executing →
        RecoveryContract.ofFields (Store.sealed c fingerprint) ≠ .error fingerprintRefusal) ∧
      (c.state = rollingBack →
        RecoveryContract.ofFields (Store.moved c rolledBack) ≠ .error fingerprintRefusal) ∧
      (∀ evidence : ReconciliationEvidence, c.state = reconciliation →
        RecoveryContract.ofFields (Store.resolved c evidence) ≠ .error fingerprintRefusal) ∧
      (∀ targetIdentity intent snapshot,
        RecoveryContract.ofFields (Store.rotated c targetIdentity intent snapshot) ≠
          .error fingerprintRefusal) := by
  have hcoherent := coherent_of_reachable h
  have hcommits := hcoherent.commits
  have hconfirmation : ∀ (past : List Commit) (k : Commit) (c : RecoveryContract),
      Lawful LawfulCommit past → latestOf past k.after.contractId = some c →
      Change (originOf (historyOf past k.after.contractId)) c k.eventType k.checkedAt
        k.after.toContractFields → _ := fun _ _ _ _ _ hchange => hchange.updateOf.confirmation_sets
  refine ⟨?_, isChain_evolves hcoherent contractId, ?_, ?_, ?_, ?_, fun c => ⟨?_, ?_, ?_, ?_, ?_, ?_⟩⟩
  · intro k hk k' hk'
    obtain ⟨c, hc⟩ := exists_latestOf (mem_historyOf.mp hk).1
    rw [(mem_historyOf.mp hk).2] at hc
    exact (sameIdentity_of_mem hcommits hc k hk).1.trans
      (sameIdentity_of_mem hcommits hc k' hk').1.symm
  · exact countP_changes_le_one hcommits
      (fun past k c hpast hlatest hchange => (hconfirmation past k c hpast hlatest hchange).1) _
  · exact countP_changes_le_one hcommits
      (fun past k c hpast hlatest hchange => (hconfirmation past k c hpast hlatest hchange).2) _
  · exact countP_changes_le_one hcommits
      (fun past k c hpast hlatest hchange => fingerprint_change hpast hlatest hchange) _
  · rintro c hc rfl
    have hlatest := (stored_iff hcoherent).mp hc
    rw [Ne, fingerprint_iff_verified hcommits hlatest,
      Store.selectAudit_eq hcommits hcoherent.represents]
    simp [Store.auditRowOf, Store.auditRow, RecoveryState.value_inj]
  · exact fun target legal ne_verified _ => ofFields_ne_fingerprintRefusal (by constructor <;> rfl)
      (fingerprintConsistent_moved legal ne_verified)
  · exact fun _ _ _ _ => ofFields_ne_fingerprintRefusal (c := c) (by constructor <;> rfl)
      c.progressValid.fingerprintConsistent
  · refine fun _ _ => ofFields_ne_fingerprintRefusal (c := c) (by constructor <;> rfl) ⟨?_, ?_⟩
    · rintro ⟨⟩
    · rintro _ ⟨⟩
  · refine fun _ => ofFields_ne_fingerprintRefusal (c := c) (by constructor <;> rfl) ⟨?_, ?_⟩
    · rintro ⟨⟩
    · rintro ⟨⟩
  · exact fun evidence _ => ofFields_ne_fingerprintRefusal (c := c) (by constructor <;> rfl)
      (fingerprintConsistent_resolved c evidence)
  · exact fun _ _ _ => ofFields_ne_fingerprintRefusal (c := c) (by constructor <;> rfl)
      c.progressValid.fingerprintConsistent

/-- A run that has committed more than one version of the sample contract. -/
theorem evolves_of_reachable_sample :
    ∃ (ops : ℕ → Operation Sample.plain) (cfg : Config World Answers Error) (k k' : Commit),
      (system Sample.plain ops fun _ _ _ => True).Reachable cfg ∧
      k ∈ cfg.shared.history "contract-1" ∧ k' ∈ cfg.shared.history "contract-1" ∧
      k.after.state ≠ k'.after.state ∧ k.after.SameIdentity k'.after.toContractFields := by
  obtain ⟨cfg, k, k', hreach, hk, hk', -, hkid, hexecuting, -, hfailed, -, hkid'⟩ :=
    Sample.reachable_failed
  have hmem : k ∈ cfg.shared.history "contract-1" :=
    mem_historyOf.mpr ⟨mem_commitsOf.mpr hk, hkid⟩
  have hmem' : k' ∈ cfg.shared.history "contract-1" :=
    mem_historyOf.mpr ⟨mem_commitsOf.mpr hk', hkid'⟩
  refine ⟨_, cfg, k, k', hreach, hmem, hmem', ?_,
    (evolves_of_reachable hreach "contract-1").1 k hmem k' hmem'⟩
  rw [hexecuting, hfailed]
  decide

end Guarantees

end Tier1
