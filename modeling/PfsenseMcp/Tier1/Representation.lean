import Mathlib.Data.Nat.Notation
import PfsenseMcp.Tier1.History

/-!
# The tables represent the history

The tables of a store are determined by the commits: one row for the latest contract of each
identity, one audit row for each commit, and a reservation for each contract in a reservation
state. `Represents` says so; it is the invariant that the transactions of the store keep, and
under which its own checks succeed.

## Main results

* `verifiedContract_rowOf`: what the store has written passes what the store checks;
* `createBlock_ok`, `replaceBlock_ok`: a transaction that succeeds extends the history by one
  commit, and `replaceBlock_ok` that the contract it replaces is the latest;
* `exists_replaceBlock`: an update of the latest contract succeeds unless its environment fails,
  its target is reserved, or a number does not fit.
-/

namespace Tier1

open Python Concurrency RecoveryState

variable [Platform]

namespace Store

/-! ### The rows of a history -/

/-- The tag of a contract. -/
def code (store : Store) (c : RecoveryContract) : String :=
  (store.mac [contractPayload c.toContractFields]).toOption.getD ""

/-- The row of a contract. -/
def rowOf (store : Store) (c : RecoveryContract) : ContractRow := contractRow c (store.code c)

/-- `_audit_mac` of the event of a commit. -/
def auditTag (store : Store) (k : Commit) : Except Error String :=
  store.auditMac k.after.contractId k.eventType
    ((k.before.map fun c => c.state).map RecoveryState.value) k.after.state.value
    k.after.stateVersion k.recordedAt.isoformat

/-- The audit row of a commit. -/
def auditRowOf (store : Store) (k : Commit) : AuditRow :=
  auditRow k.after k.eventType (k.before.map fun c => c.state) k.recordedAt
    ((store.auditTag k).toOption.getD "")

/-- The reservation of a contract. -/
def reservationOf (c : RecoveryContract) : ReservationRow :=
  ⟨.text c.targetIdentityDigest, .text c.contractId⟩

/-- The tables hold what the commits have left. -/
structure Represents (store : Store) (db : Database) (commits : List Commit) : Prop where
  contracts : db.contracts = (contractsOf commits).map store.rowOf
  codes : ∀ c ∈ contractsOf commits,
    store.mac [contractPayload c.toContractFields] = .ok (store.code c)
  auditEvents : db.auditEvents = commits.map store.auditRowOf
  auditTags : ∀ k ∈ commits, ∃ tag, store.auditTag k = .ok tag
  reservations : ∀ row, row ∈ db.targetReservations ↔
    ∃ c ∈ contractsOf commits, isReservationState c.state = true ∧ row = reservationOf c
  targets : db.targetReservations.Pairwise fun a b =>
    a.targetIdentityDigest ≠ b.targetIdentityDigest

theorem isHex64_of_mac {store : Store} {components : List Bytes} {code : String}
    (h : store.mac components = .ok code) : isHex64 code = true := isHex64_of_authenticate h

theorem code_of_mac {store : Store} {c : RecoveryContract} {code : String}
    (h : store.mac [contractPayload c.toContractFields] = .ok code) : store.code c = code := by
  rw [Store.code, h]
  rfl

/-- The row of a contract decodes to the contract. -/
theorem decodeRow_rowOf {store : Store} {c : RecoveryContract}
    (h : store.mac [contractPayload c.toContractFields] = .ok (store.code c)) :
    store.decodeRow (store.rowOf c) = .ok c := by
  have hhex := isHex64_of_mac h
  simp only [decodeRow, rowOf, contractRow, TextCell.str, h, ok_bind,
    compareDigest_of_isHex64 hhex hhex, beq_self_eq_true, contractFromPayload_contractPayload,
    demand_of]

/-! ### Reading the tables -/

section Reading

variable {store : Store} {db : Database} {commits : List Commit}

theorem selectContract_eq (hlaw : Lawful LawfulCommit commits)
    (hrep : store.Represents db commits) (contractId : String) :
    db.selectContract contractId = (latestOf commits contractId).map store.rowOf := by
  rw [← find?_contractsOf hlaw, Database.selectContract, hrep.contracts, List.find?_map]
  congr 2
  funext c
  simp [rowOf, contractRow]

theorem selectReservation_eq (hlaw : Lawful LawfulCommit commits)
    (hrep : store.Represents db commits) {contractId : String} {c : RecoveryContract}
    (hc : latestOf commits contractId = some c) :
    db.selectReservation contractId =
      if isReservationState c.state then some (.text c.targetIdentityDigest) else none := by
  have hid := contractId_of_latestOf hc
  have hmem : c ∈ contractsOf commits := (mem_contractsOf hlaw).mpr (by rw [hid, hc])
  -- a reservation that names the contract is the one of the contract
  have honly : ∀ row ∈ db.targetReservations, row.contractId = .text contractId →
      isReservationState c.state = true ∧ row = reservationOf c := by
    intro row hrow hname
    obtain ⟨d, hd, hstate, rfl⟩ := (hrep.reservations row).mp hrow
    have hdc : d.contractId = contractId := by simpa [reservationOf] using hname
    rw [mem_contractsOf hlaw, hdc, hc, Option.some.injEq] at hd
    subst hd
    exact ⟨hstate, rfl⟩
  rw [Database.selectReservation]
  cases hfind : db.targetReservations.find? fun row => row.contractId = .text contractId with
  | none =>
    rw [List.find?_eq_none] at hfind
    have hstate : isReservationState c.state ≠ true := by
      intro hstate
      have hrow := (hrep.reservations (reservationOf c)).mpr ⟨c, hmem, hstate, rfl⟩
      exact hfind _ hrow (by simp [reservationOf, hid])
    rw [if_neg hstate, Option.map_none]
  | some row =>
    obtain ⟨hstate, rfl⟩ := honly row (List.mem_of_find?_eq_some hfind)
      (by simpa using List.find?_some hfind)
    rw [if_pos hstate, Option.map_some]
    rfl

theorem verifyReservation_ok (hlaw : Lawful LawfulCommit commits)
    (hrep : store.Represents db commits) {contractId : String} {c : RecoveryContract}
    (hc : latestOf commits contractId = some c) :
    verifyReservation (db.selectReservation contractId) c = .ok () := by
  rw [verifyReservation, selectReservation_eq hlaw hrep hc]
  refine demand_of ?_
  split <;> rfl

/-- The audit rows of a contract are those of its commits, in their order. -/
theorem selectAudit_eq (hlaw : Lawful LawfulCommit commits)
    (hrep : store.Represents db commits) (contractId : String) :
    db.selectAudit contractId = (historyOf commits contractId).map store.auditRowOf := by
  have hfilter : (db.auditEvents.filter fun row => row.contractId = .text contractId) =
      (historyOf commits contractId).map store.auditRowOf := by
    rw [hrep.auditEvents, List.filter_map, historyOf, View.history]
    congr 2
    funext k
    exact decide_eq_decide.mpr (by simp [auditRowOf, auditRow, commitView])
  rw [Database.selectAudit, hfilter]
  refine List.mergeSort_of_pairwise ?_
  cases hc : latestOf commits contractId with
  | none => simp [historyOf, View.history_eq_nil_of_latest hc]
  | some c =>
    -- the versions are consecutive, so the rows are sorted already
    obtain ⟨hmap, -⟩ := versions_historyOf hlaw hc
    have hsorted : ((historyOf commits contractId).map fun k => k.after.stateVersion).Pairwise
        (· ≤ ·) := by
      rw [hmap, List.pairwise_map]
      exact List.pairwise_le_range.imp fun h => Int.ofNat_le.mpr h
    rw [List.pairwise_map] at hsorted ⊢
    exact hsorted.imp fun h => by simpa [auditRowOf, auditRow, Cell.le] using h

/-- One more row of an audit chain is checked after the rows before it. -/
theorem verifyAuditChain_append (contract : RecoveryContract) (n : ℕ) (previous : Option String)
    (rows : List AuditRow) (row : AuditRow) :
    store.verifyAuditChain contract n previous (rows ++ [row]) = (do
      let last ← store.verifyAuditChain contract n previous rows
      let current ← store.verifyAuditRow contract (n + rows.length) last row
      .ok (some current)) := by
  induction rows generalizing n previous with
  | nil => rfl
  | cons r rows ih =>
    rw [List.cons_append, verifyAuditChain, verifyAuditChain]
    cases hr : store.verifyAuditRow contract n previous r with
    | error e => rfl
    | ok current =>
      rw [ok_bind, ok_bind, ih, List.length_cons, Nat.add_assoc, Nat.add_comm 1]

/-- The audit row of a commit passes its checks after the row of the commit before. -/
theorem verifyAuditRow_auditRowOf {k : Commit} {tag : String} (htag : store.auditTag k = .ok tag)
    {contract : RecoveryContract} (hid : contract.contractId = k.after.contractId) {n : ℕ}
    (hn : k.after.stateVersion = n) {previous : Option String}
    (hfirst : n = 0 → k.eventType = "contract_created" ∧ k.before = none)
    (hnext : n ≠ 0 → previous = k.before.map fun c => c.state.value) :
    store.verifyAuditRow contract n previous (store.auditRowOf k) =
      .ok k.after.state.value := by
  have hhex := isHex64_of_mac htag
  have hrow : (store.auditRowOf k).mac = .text tag := by
    rw [auditRowOf, htag]
    rfl
  have horder : (store.auditRowOf k).contractId = .text contract.contractId ∧
      (store.auditRowOf k).stateVersion = .integer n := by
    rw [hid, ← hn]
    exact ⟨rfl, rfl⟩
  have hlink : verifyAuditLink n previous (store.auditRowOf k) = .ok () := by
    unfold verifyAuditLink
    split_ifs with h0
    · obtain ⟨h₁, h₂⟩ := hfirst h0
      exact demand_of ⟨by rw [← h₁]; rfl, by simp [auditRowOf, auditRow, h₂]⟩
    · refine demand_of ?_
      rw [hnext h0]
      cases hb : k.before <;> simp [auditRowOf, auditRow, hb]
  have htime : (DateTime.fromisoformat (store.auditRowOf k).recordedAt.str).isSome = true := by
    simp [auditRowOf, auditRow, TextCell.str, DateTime.fromisoformat_isoformat]
  have hexpected : store.auditMac (store.auditRowOf k).contractId.str
      (store.auditRowOf k).eventType.str ((store.auditRowOf k).previousState.map TextCell.str)
      (store.auditRowOf k).currentState.str n (store.auditRowOf k).recordedAt.str = .ok tag := by
    rw [← htag, auditTag, ← hn]
    simp only [auditRowOf, auditRow, TextCell.str, Option.map_map]
    rfl
  rw [verifyAuditRow, demand_of horder, ok_bind, hlink, ok_bind, demand_of htime, ok_bind,
    hexpected, ok_bind, hrow, TextCell.str, compareDigest_of_isHex64 hhex hhex, ok_bind,
    beq_self_eq_true, demand_of rfl]
  rfl

/-- The audit rows of a contract pass their checks. -/
theorem verifyAuditChain_historyOf (hlaw : Lawful LawfulCommit commits)
    (htags : ∀ k ∈ commits, ∃ tag, store.auditTag k = .ok tag) {contractId : String}
    {c : RecoveryContract} (hc : latestOf commits contractId = some c) :
    store.verifyAuditChain c 0 none ((historyOf commits contractId).map store.auditRowOf) =
      .ok (some c.state.value) := by
  have htags' : ∀ k ∈ historyOf commits contractId, ∃ tag, store.auditTag k = .ok tag :=
    fun k hk => htags k (mem_historyOf.mp hk).1
  refine history_induction hlaw (P := fun h d => (∀ k ∈ h, ∃ tag, store.auditTag k = .ok tag) →
    d.contractId = c.contractId → store.verifyAuditChain c 0 none (h.map store.auditRowOf) =
      .ok (some d.state.value)) ?_ ?_ hc htags' rfl
  · intro k hbefore _ hversion _ hevent htags hid
    obtain ⟨tag, htag⟩ := htags k (List.mem_singleton_self k)
    rw [List.map_singleton, verifyAuditChain, verifyAuditRow_auditRowOf htag hid.symm hversion
      (fun _ => ⟨hevent, hbefore⟩) fun h => absurd rfl h]
    rfl
  · intro past k d hpast hbefore hlatest hchange ih htags hid
    have hupdate := hchange.updateOf
    obtain ⟨tag, htag⟩ := htags k (List.mem_append_right _ (List.mem_singleton_self k))
    have hprev := ih (fun k' hk' => htags k' (List.mem_append_left _ hk'))
      (hupdate.sameIdentity.contractId.symm.trans hid)
    obtain ⟨-, hlength⟩ := versions_historyOf hpast hlatest
    have hversion : k.after.stateVersion =
        ((historyOf past k.after.contractId).length : ℕ) := by
      rw [hupdate.stateVersion, hlength]
    have hpos : (historyOf past k.after.contractId).length ≠ 0 := by
      have := d.progressValid.stateVersion
      omega
    rw [List.map_append, List.map_singleton, verifyAuditChain_append, hprev, ok_bind,
      List.length_map, Nat.zero_add, verifyAuditRow_auditRowOf htag hid.symm hversion
        (fun h => absurd h hpos) fun _ => by rw [hbefore]; rfl]
    rfl

/-- The audit history of a contract passes `_verified_audit_rows`. -/
theorem verifiedAuditRows_ok (hlaw : Lawful LawfulCommit commits)
    (hrep : store.Represents db commits) {contractId : String} {c : RecoveryContract}
    (hc : latestOf commits contractId = some c) :
    store.verifiedAuditRows (db.selectAudit contractId) c =
      .ok ((historyOf commits contractId).map store.auditRowOf) := by
  rw [selectAudit_eq hlaw hrep, verifiedAuditRows, List.length_map,
    demand_of (versions_historyOf hlaw hc).2, ok_bind,
    verifyAuditChain_historyOf hlaw hrep.auditTags hc, ok_bind, demand_of rfl]
  rfl

/-- What the store has written passes what the store checks. -/
theorem verifiedContract_rowOf (hlaw : Lawful LawfulCommit commits)
    (hrep : store.Represents db commits) {contractId : String} {c : RecoveryContract}
    (hc : latestOf commits contractId = some c) :
    store.verifiedContract db (store.rowOf c) = .ok c := by
  have hid := contractId_of_latestOf hc
  have hmem : c ∈ contractsOf commits := (mem_contractsOf hlaw).mpr (by rw [hid, hc])
  rw [verifiedContract, decodeRow_rowOf (hrep.codes c hmem), ok_bind, hid,
    verifyReservation_ok hlaw hrep hc, ok_bind, verifiedAuditRows_ok hlaw hrep hc]
  rfl

end Reading

/-! ### Statements -/

section Statements

variable {store : Store} {db db' : Database}

omit [Platform] in
@[simp]
theorem conflictOnIntegrity_eq_ok {α : Type} {message : String} {x : Except Error α} {a : α} :
    conflictOnIntegrity message x = .ok a ↔ x = .ok a := by
  cases x with
  | ok b => rfl
  | error e =>
    change (if e.cls = .sqliteIntegrity then _ else _) = _ ↔ _
    unfold fail
    split_ifs <;> simp

omit [Platform] in
theorem insertContract_ok {row : ContractRow} (h : db.insertContract row = .ok db') :
    (∀ r ∈ db.contracts, r.contractId ≠ row.contractId) ∧
      (∀ r ∈ db.contracts, Database.collides row r = false) ∧
      db' = { db with contracts := db.contracts ++ [row] } := by
  unfold Database.insertContract Database.constraintFailed fail at h
  split_ifs at h with h₁ h₂ h₃
  cases h
  refine ⟨fun r hr hid => h₁ ?_, fun r hr => ?_, rfl⟩
  · rw [List.any_eq_true]
    exact ⟨r, hr, by simpa using hid⟩
  · simpa using fun hc => h₃ (List.any_eq_true.mpr ⟨r, hr, hc⟩)

theorem insertAudit_ok {c : RecoveryContract} {eventType : String}
    {previousState : Option RecoveryState} {recordedAt : DateTime}
    (h : store.insertAudit db c eventType previousState recordedAt = .ok db') :
    ∃ tag, store.auditMac c.contractId eventType (previousState.map RecoveryState.value)
        c.state.value c.stateVersion recordedAt.isoformat = .ok tag ∧
      db' = { db with
        auditEvents := db.auditEvents ++ [auditRow c eventType previousState recordedAt tag] } := by
  simp only [insertAudit, bind_eq_ok] at h
  obtain ⟨tag, htag, h⟩ := h
  unfold Database.insertAuditEvent Database.constraintFailed fail at h
  split_ifs at h
  cases h
  exact ⟨tag, htag, rfl⟩

/-- The audit row of a commit, once its tag is known. -/
theorem auditRow_eq_auditRowOf {k : Commit} {tag : String} (h : store.auditTag k = .ok tag) :
    auditRow k.after k.eventType (k.before.map fun c => c.state) k.recordedAt tag =
      store.auditRowOf k := by
  rw [auditRowOf, h]
  rfl

omit [Platform] in
theorem isActive_of_state {row : ContractRow} {state : RecoveryState}
    (h : row.state = .text state.value) :
    Database.isActive row = blocksFreshIdempotencyAttempt state := by
  unfold Database.isActive
  rw [h]
  cases state <;> decide

theorem collides_rowOf (c d : RecoveryContract) {code : String} :
    Database.collides (contractRow c code) (store.rowOf d) = true ↔
      blocksFreshIdempotencyAttempt c.state = true ∧ blocksFreshIdempotencyAttempt d.state = true ∧
        c.idempotencyKey = d.idempotencyKey := by
  have hc : Database.isActive (contractRow c code) = blocksFreshIdempotencyAttempt c.state :=
    isActive_of_state rfl
  have hd : Database.isActive (store.rowOf d) = blocksFreshIdempotencyAttempt d.state :=
    isActive_of_state rfl
  rw [Database.collides, hc, hd]
  simp [rowOf, contractRow, and_assoc]

/-- The transaction of `create` extends the history by the creation of a contract whose identity
is new and whose key blocks nobody. -/
theorem createBlock_ok {commits : List Commit} {c : RecoveryContract} {now t : DateTime}
    {i : Answers} (hlaw : Lawful LawfulCommit commits) (hrep : store.Represents db commits)
    (hstate : c.state = preparing) (h : store.createBlock c now i db = .ok (db', t))
    (call : ℕ) (checkedAt : Option DateTime) :
    latestOf commits c.contractId = none ∧
      (∀ d ∈ contractsOf commits, blocksFreshIdempotencyAttempt d.state = true →
        d.idempotencyKey ≠ c.idempotencyKey) ∧
      store.Represents db'
        (commits ++ [⟨call, none, c, "contract_created", t, checkedAt⟩]) := by
  simp only [createBlock, conflictOnIntegrity_eq_ok, bind_eq_ok] at h
  obtain ⟨_, -, _, -, code, hcode, db₁, hinsert, _, -, db₂, haudit, _, -, _, -, h⟩ := h
  cases h
  obtain ⟨hfresh, hfree, rfl⟩ := insertContract_ok hinsert
  obtain ⟨tag, htag, rfl⟩ := insertAudit_ok haudit
  rw [hrep.contracts] at hfresh hfree
  have hrow : contractRow c code = store.rowOf c := by rw [rowOf, code_of_mac hcode]
  have hnone : latestOf commits c.contractId = none := by
    cases hl : latestOf commits c.contractId with
    | none => rfl
    | some d =>
      have hid := contractId_of_latestOf hl
      have hd : d ∈ contractsOf commits := (mem_contractsOf hlaw).mpr (by rw [hid, hl])
      exact absurd (congrArg TextCell.text hid) (hfresh _ (List.mem_map_of_mem hd))
  have hblocks : blocksFreshIdempotencyAttempt c.state = true := by rw [hstate]; rfl
  have htag' : store.auditTag ⟨call, none, c, "contract_created", t, checkedAt⟩ = .ok tag := htag
  have htable : contractsOf (commits ++ [⟨call, none, c, "contract_created", t, checkedAt⟩]) =
      contractsOf commits ++ [c] := View.table_append_of_none rfl
  refine ⟨hnone, fun d hd hd' hkey => ?_, ?_⟩
  · have hcollides := hfree _ (List.mem_map_of_mem hd)
    rw [(collides_rowOf c d).mpr ⟨hblocks, hd', hkey.symm⟩] at hcollides
    cases hcollides
  · constructor
    · rw [htable, List.map_append, ← hrep.contracts, hrow]
      rfl
    · intro d hd
      rcases List.mem_append.mp (htable ▸ hd) with hd | hd
      · exact hrep.codes d hd
      · rw [List.mem_singleton.mp hd, hcode, code_of_mac hcode]
    · rw [List.map_append, ← hrep.auditEvents, List.map_singleton,
        ← auditRow_eq_auditRowOf htag']
      rfl
    · intro k hk
      rcases List.mem_append.mp hk with hk | hk
      · exact hrep.auditTags k hk
      · rw [List.mem_singleton.mp hk]
        exact ⟨tag, htag'⟩
    · intro row
      rw [htable]
      simp only [List.mem_append, List.mem_singleton, or_and_right, exists_or, exists_eq_left,
        hstate]
      rw [← hrep.reservations row]
      simp [isReservationState]
    · exact hrep.targets

end Statements

/-! ### Updates -/

section Updates

variable {store : Store} {db db' : Database} {commits : List Commit}
  {current updated : RecoveryContract}

/-- The contracts after an update. -/
def replaced (contracts : List RecoveryContract) (updated : RecoveryContract) :
    List RecoveryContract :=
  contracts.map fun c => if c.contractId = updated.contractId then updated else c

theorem contractsOf_append {k : Commit} {c : RecoveryContract} (h : k.before = some c) :
    contractsOf (commits ++ [k]) = replaced (contractsOf commits) k.after :=
  View.table_append_of_some h

variable (hlaw : Lawful LawfulCommit commits)
  (hlatest : latestOf commits current.contractId = some current)
  (hid : updated.contractId = current.contractId)

include hlaw hlatest

theorem mem_contractsOf_of_latest : current ∈ contractsOf commits :=
  (mem_contractsOf hlaw).mpr hlatest

theorem eq_of_mem_contractsOf {c : RecoveryContract} (hc : c ∈ contractsOf commits)
    (hname : c.contractId = current.contractId) : c = current := by
  rw [mem_contractsOf hlaw, hname, hlatest] at hc
  exact (Option.some.inj hc).symm

include hid

theorem mem_replaced {c : RecoveryContract} :
    c ∈ replaced (contractsOf commits) updated ↔
      c = updated ∨ c ∈ contractsOf commits ∧ c.contractId ≠ current.contractId := by
  rw [replaced, List.mem_map]
  constructor
  · rintro ⟨d, hd, hc⟩
    split_ifs at hc with hname
    · exact .inl hc.symm
    · rw [hid] at hname
      exact .inr ⟨hc ▸ hd, hc ▸ hname⟩
  · rintro (rfl | ⟨hc, hname⟩)
    · exact ⟨current, mem_contractsOf_of_latest hlaw hlatest, if_pos hid.symm⟩
    · exact ⟨c, hc, if_neg (by rwa [hid])⟩

/-- `moveReservation` keeps exactly the reservations of the contracts. -/
theorem moveReservation_ok (hrep : store.Represents db commits)
    (htarget : updated.targetIdentityDigest = current.targetIdentityDigest)
    (h : moveReservation db current updated = .ok db') :
    (∀ row, row ∈ db'.targetReservations ↔ ∃ c ∈ replaced (contractsOf commits) updated,
        isReservationState c.state = true ∧ row = reservationOf c) ∧
      (db'.targetReservations.Pairwise fun a b =>
        a.targetIdentityDigest ≠ b.targetIdentityDigest) ∧
      db' = { db with targetReservations := db'.targetReservations } := by
  have hsame : reservationOf updated = reservationOf current := by
    rw [reservationOf, reservationOf, htarget, hid]
  -- the reservations of the other contracts stay as they are
  have hold : ∀ row, row ∈ db.targetReservations ↔
      isReservationState current.state = true ∧ row = reservationOf current ∨
      ∃ c, (c ∈ contractsOf commits ∧ c.contractId ≠ current.contractId) ∧
        isReservationState c.state = true ∧ row = reservationOf c := by
    intro row
    rw [hrep.reservations row]
    constructor
    · rintro ⟨c, hc, hstate, hrow⟩
      by_cases hname : c.contractId = current.contractId
      · cases eq_of_mem_contractsOf hlaw hlatest hc hname
        exact .inl ⟨hstate, hrow⟩
      · exact .inr ⟨c, ⟨hc, hname⟩, hstate, hrow⟩
    · rintro (⟨hstate, hrow⟩ | ⟨c, ⟨hc, -⟩, hstate, hrow⟩)
      · exact ⟨current, mem_contractsOf_of_latest hlaw hlatest, hstate, hrow⟩
      · exact ⟨c, hc, hstate, hrow⟩
  simp only [mem_replaced hlaw hlatest hid, or_and_right, exists_or, exists_eq_left, hsame]
  unfold moveReservation at h
  split_ifs at h with htake hgive
  · -- the contract takes a reservation
    unfold Database.insertReservation Database.constraintFailed fail at h
    split_ifs at h with h₁ h₂ h₃
    cases h
    refine ⟨fun row => ?_, ?_, rfl⟩
    · rw [List.mem_append, List.mem_singleton, hold]
      have hrow : (⟨.text updated.targetIdentityDigest, .text updated.contractId⟩ :
          ReservationRow) = reservationOf current := hsame
      rw [hrow, htake.1, htake.2]
      simp [or_comm]
    · rw [List.pairwise_append]
      refine ⟨hrep.targets, List.pairwise_singleton _ _, fun a ha b hb htext => h₁ ?_⟩
      rw [List.mem_singleton.mp hb] at htext
      exact List.any_eq_true.mpr ⟨a, ha, by simpa using htext⟩
  · -- the contract gives its reservation up
    cases h
    refine ⟨fun row => ?_, hrep.targets.filter _, rfl⟩
    rw [Database.deleteReservation, List.mem_filter, hold, hgive.1, hgive.2]
    simp only [true_and, Bool.false_eq_true, false_and, false_or, ne_eq, decide_not,
      Bool.not_eq_true', decide_eq_false_iff_not]
    constructor
    · rintro ⟨rfl | hrow, hname⟩
      · exact absurd (congrArg TextCell.text hid.symm) hname
      · exact hrow
    · rintro ⟨c, ⟨hc, hname⟩, hstate, rfl⟩
      exact ⟨.inr ⟨c, ⟨hc, hname⟩, hstate, rfl⟩, fun h => hname (by simpa [reservationOf, hid] using h)⟩
  · -- the contract keeps what it has
    cases h
    refine ⟨fun row => ?_, hrep.targets, rfl⟩
    have hstate : isReservationState updated.state = isReservationState current.state := by
      cases hu : isReservationState updated.state <;>
        cases hc : isReservationState current.state <;> simp_all
    rw [hold, hstate]

/-- The compare-and-set `UPDATE` finds the row of the current contract and writes the row of the
updated one. -/
theorem updateContract_eq (hrep : store.Represents db commits)
    (hupdate : UpdateOf current updated.toContractFields)
    (hdb : db'.contracts = db.contracts) :
    db'.updateContract updated.contractId current.state current.stateVersion updated.state
        updated.stateVersion (contractPayload updated.toContractFields) (store.code updated) =
      .ok ({ db' with contracts := (replaced (contractsOf commits) updated).map store.rowOf }, 1) := by
  have hsame := hupdate.sameIdentity
  have hcurrent := mem_contractsOf_of_latest hlaw hlatest
  have hhit : ∀ c ∈ contractsOf commits, Database.updateMatches updated.contractId current.state
      current.stateVersion (store.rowOf c) = decide (c.contractId = current.contractId) := by
    intro c hc
    rw [Database.updateMatches, decide_eq_decide, hid]
    constructor
    · exact fun h => by simpa [rowOf, contractRow] using h.1
    · intro hname
      rw [eq_of_mem_contractsOf hlaw hlatest hc hname]
      exact ⟨rfl, rfl, rfl⟩
  have hwrite : Database.updatedRow updated.state updated.stateVersion
      (contractPayload updated.toContractFields) (store.code updated) (store.rowOf current) =
      store.rowOf updated := by
    simp only [Database.updatedRow, rowOf, contractRow, hsame.contractId, hsame.operationId,
      hsame.idempotencyKey, hsame.targetIdentityDigest]
  rw [Database.updateContract, hdb, hrep.contracts]
  rw [if_neg]
  · -- the rows after the update, and how many were hit
    have hrows : ((contractsOf commits).map store.rowOf).map (fun row =>
        if Database.updateMatches updated.contractId current.state current.stateVersion row = true
        then Database.updatedRow updated.state updated.stateVersion
          (contractPayload updated.toContractFields) (store.code updated) row
        else row) = (replaced (contractsOf commits) updated).map store.rowOf := by
      rw [replaced, List.map_map, List.map_map]
      refine List.map_congr_left fun c hc => ?_
      simp only [Function.comp_apply, hhit c hc, decide_eq_true_eq]
      rw [hid]
      split_ifs with hname
      · rw [eq_of_mem_contractsOf hlaw hlatest hc hname, hwrite]
      · rfl
    have hcount : ((contractsOf commits).map store.rowOf).countP
        (Database.updateMatches updated.contractId current.state current.stateVersion) = 1 := by
      rw [List.countP_map, List.countP_congr (q := fun c => decide (c.contractId =
        current.contractId)) fun c hc => by rw [Function.comp_apply, hhit c hc]]
      exact View.countP_key_eq_one (V := commitView) (pairwise_contractsOf hlaw) hcurrent
    rw [hrows, hcount]
  · -- no other contract with the same key blocks a fresh attempt
    intro hany
    obtain ⟨row, hrow, hrow'⟩ := List.any_eq_true.mp hany
    obtain ⟨hmem, hmatch⟩ := List.mem_filter.mp hrow
    obtain ⟨c, hc, rfl⟩ := List.mem_map.mp hmem
    rw [hhit c hc, decide_eq_true_eq] at hmatch
    cases eq_of_mem_contractsOf hlaw hlatest hc hmatch
    obtain ⟨other, hother, hboth⟩ := List.any_eq_true.mp hrow'
    obtain ⟨d, hd, rfl⟩ := List.mem_map.mp hother
    rw [Bool.and_eq_true, decide_eq_true_eq, hwrite] at hboth
    obtain ⟨hne, hcollides⟩ := hboth
    obtain ⟨hu, hdb, hkey⟩ := (collides_rowOf updated d).mp hcollides
    have hblocks : blocksFreshIdempotencyAttempt current.state = true := by
      rcases hupdate.state with hstate | ⟨rule, hrule⟩
      · rwa [← hstate]
      · exact blocks_of_legalTransitions hrule
    have hsameKey : current.idempotencyKey = d.idempotencyKey := by
      rw [← hkey, hsame.idempotencyKey]
    cases eq_of_idempotencyKey hlaw hcurrent hd hblocks hdb hsameKey
    exact hne rfl

end Updates

section Transactions

variable {store : Store} {db db' : Database} {commits : List Commit}
  {current updated : RecoveryContract}

/-- The tables after an update was written and audited. -/
theorem represents_update (hlaw : Lawful LawfulCommit commits)
    (hrep : store.Represents db commits) {k : Commit} (hbefore : k.before = some current)
    (hcode : store.mac [contractPayload k.after.toContractFields] = .ok (store.code k.after))
    {tag : String} (htag : store.auditTag k = .ok tag)
    (hcontracts : db'.contracts = (replaced (contractsOf commits) k.after).map store.rowOf)
    (haudit : db'.auditEvents = db.auditEvents ++ [store.auditRowOf k])
    (hreservations : ∀ row, row ∈ db'.targetReservations ↔
      ∃ c ∈ replaced (contractsOf commits) k.after,
        isReservationState c.state = true ∧ row = reservationOf c)
    (htargets : db'.targetReservations.Pairwise fun a b =>
      a.targetIdentityDigest ≠ b.targetIdentityDigest)
    (hlatest : latestOf commits current.contractId = some current)
    (hid : k.after.contractId = current.contractId) :
    store.Represents db' (commits ++ [k]) := by
  have htable : contractsOf (commits ++ [k]) = replaced (contractsOf commits) k.after :=
    contractsOf_append hbefore
  constructor
  · rw [htable, hcontracts]
  · intro c hc
    rw [htable, mem_replaced hlaw hlatest hid] at hc
    rcases hc with rfl | ⟨hc, -⟩
    · exact hcode
    · exact hrep.codes c hc
  · rw [haudit, hrep.auditEvents, List.map_append, List.map_singleton]
  · intro k' hk'
    rcases List.mem_append.mp hk' with hk' | hk'
    · exact hrep.auditTags k' hk'
    · rw [List.mem_singleton.mp hk']
      exact ⟨tag, htag⟩
  · intro row
    rw [htable]
    exact hreservations row
  · exact htargets

theorem startCooldown_ok {i : Answers} (h : store.startCooldown db updated i = .ok db') :
    db' = { db with rateCooldowns := db'.rateCooldowns } := by
  unfold startCooldown at h
  cases hpolicy : store.ratePolicy with
  | none =>
    rw [hpolicy] at h
    cases h
    rfl
  | some limits =>
    rw [hpolicy] at h
    dsimp only at h
    split_ifs at h
    · simp only [bind_eq_ok, RateLimits.recordTerminal] at h
      obtain ⟨t, -, h⟩ := h
      split at h
      · cases h
      · cases h
        rfl
    · cases h
      rfl

/-- A contract that was committed once and agrees with the latest in its version is the latest. -/
theorem eq_latest (hlaw : Lawful LawfulCommit commits) {a : RecoveryContract}
    (ha : latestOf commits current.contractId = some a)
    (hwas : ∃ k ∈ commits, k.after = current) (hversion : a.stateVersion = current.stateVersion) :
    a = current := by
  obtain ⟨k, hk, rfl⟩ := hwas
  obtain ⟨k', hk', rfl⟩ := View.exists_of_latest ha
  obtain ⟨hk', hid⟩ := mem_historyOf.mp hk'
  exact congrArg Commit.after (commit_ext hlaw hk' hk hid hversion)

/-- The transaction of `_replace` replaces the latest contract, and extends the history by that
change. -/
theorem replaceBlock_ok (hlaw : Lawful LawfulCommit commits) (hrep : store.Represents db commits)
    (hwas : ∃ k ∈ commits, k.after = current)
    (hupdate : UpdateOf current updated.toContractFields) {eventType : String} {i : Answers}
    {t : DateTime} (h : store.replaceBlock current updated eventType i db = .ok (db', t))
    (call : ℕ) (checkedAt : Option DateTime) :
    latestOf commits current.contractId = some current ∧
      store.Represents db'
        (commits ++ [⟨call, some current, updated, eventType, t, checkedAt⟩]) := by
  have hid : updated.contractId = current.contractId := hupdate.sameIdentity.contractId
  simp only [replaceBlock, conflictOnIntegrity_eq_ok, bind_eq_ok] at h
  obtain ⟨_, -, row, hrow, a, ha, _, hguard, db₁, hmove, code, hcode, _, -, ⟨db₂, n⟩, hwrite, _, -,
    _, -, db₃, haudit, db₄, hcooldown, _, -, _, -, h⟩ := h
  cases h
  -- the row that was read is the latest contract, and its version is the one expected
  rw [selectContract_eq hlaw hrep] at hrow
  obtain ⟨b, hb, rfl⟩ : ∃ b, latestOf commits current.contractId = some b ∧ row = store.rowOf b := by
    cases hl : latestOf commits current.contractId with
    | none => simp [hl, requireRow, fail] at hrow
    | some b =>
      rw [hl] at hrow
      exact ⟨b, rfl, (Except.ok.inj hrow).symm⟩
  rw [verifiedContract_rowOf hlaw hrep hb] at ha
  cases ha
  rw [demand_eq_ok] at hguard
  cases eq_latest hlaw hb hwas hguard.2
  refine ⟨hb, ?_⟩
  obtain rfl := code_of_mac hcode
  obtain ⟨hreservations, htargets, hdb₁⟩ := moveReservation_ok hlaw hb hid hrep
    hupdate.sameIdentity.targetIdentityDigest hmove
  rw [updateContract_eq hlaw hb hid hrep hupdate (by rw [hdb₁])] at hwrite
  cases hwrite
  obtain ⟨tag, htag, rfl⟩ := insertAudit_ok haudit
  have htag' : store.auditTag ⟨call, some current, updated, eventType, t, checkedAt⟩ = .ok tag :=
    htag
  rw [startCooldown_ok hcooldown]
  refine represents_update hlaw hrep rfl hcode htag' rfl ?_ hreservations htargets hb hid
  rw [← auditRow_eq_auditRowOf htag', hdb₁]
  rfl

end Transactions

/-! ### Transactions succeed -/

section Success

omit [Platform] in
/-- The fields of an audit payload, in the order of their keys. -/
theorem sortKeys_audit (contractId eventType : String) (previousState : Option String)
    (currentState : String) (stateVersion : ℤ) (recordedAt : String) :
    Json.sortKeys (.obj [("contract_id", .str contractId), ("current_state", .str currentState),
      ("event_type", .str eventType), ("previous_state", optionalStr previousState),
      ("recorded_at", .str recordedAt), ("state_version", .int stateVersion)]) =
      .obj [("contract_id", .str contractId), ("current_state", .str currentState),
        ("event_type", .str eventType), ("previous_state", optionalStr previousState),
        ("recorded_at", .str recordedAt), ("state_version", .int stateVersion)] := by
  simp [Json.sortKeys, Json.sortFields, Json.insertField, Json.keyLt, sortKeys_optionalStr]

omit [Platform] in
theorem length_value_le (state : RecoveryState) : state.value.toList.length ≤ 15 := by
  cases state <;> simp [RecoveryState.value]

omit [Platform] in
/-- An audit payload is short enough to be framed. -/
theorem length_auditPayload_lt {contractId eventType : String} {previousState : Option RecoveryState}
    {currentState : RecoveryState} {stateVersion : ℤ} {recordedAt : DateTime}
    (hid : isIdentifier contractId = true) (hevent : eventType.toList.length ≤ 1000)
    (hnonneg : 0 ≤ stateVersion) (hversion : stateVersion < 2 ^ 63) :
    (auditPayload contractId eventType (previousState.map RecoveryState.value) currentState.value
      stateVersion recordedAt.isoformat).length < 2 ^ 32 := by
  have h₁ := length_le_of_isIdentifier hid
  have h₂ := length_value_le currentState
  have h₃ := recordedAt.length_isoformat_le
  have h₄ : Json.weight (optionalStr (previousState.map RecoveryState.value)) ≤ 12 * 15 + 4 := by
    refine weight_optionalStr_le fun t ht => ?_
    obtain ⟨state, -, rfl⟩ := Option.map_eq_some_iff.mp ht
    exact length_value_le state
  have h₅ : Json.weight (.int stateVersion) ≤ 19 :=
    Json.weight_int_le (by decide) hnonneg (by omega)
  rw [auditPayload, sortKeys_audit]
  generalize hfields : ([("contract_id", .str contractId), ("current_state", .str _),
    ("event_type", .str eventType), ("previous_state", optionalStr _),
    ("recorded_at", .str _), ("state_version", .int stateVersion)] :
      List (String × Json)) = fields
  have htext := Json.length_dumpValue_le true (.obj fields)
  have hbytes := Bytes.length_encodeUtf8_le (Json.dumps true (.obj fields))
  simp only [Json.weight] at htext
  simp only [Json.dumps, String.toList_ofList] at hbytes
  have hweight : Json.weightFields fields ≤ 20000 := by
    subst hfields
    simp only [Json.weightFields]
    generalize Json.weight (optionalStr _) = w₄ at h₄ ⊢
    generalize Json.weight (.int stateVersion) = w₅ at h₅ ⊢
    simp [Json.weight]
    omega
  simp only [Json.dumps]
  omega

/-- The row of a contract can be authenticated. -/
theorem exists_code (store : Store) {c : RecoveryContract} (hversion : c.stateVersion < 2 ^ 63) :
    store.mac [contractPayload c.toContractFields] = .ok (store.code c) := by
  have hlength : ∀ b ∈ [contractPayload c.toContractFields], b.length < 2 ^ 32 := by
    intro b hb
    rw [List.mem_singleton.mp hb]
    exact length_contractPayload_lt c hversion
  obtain ⟨m, hm⟩ := exists_authenticatedMessage store.isIdentifier_storeId hlength
  have hmac : store.mac [contractPayload c.toContractFields] =
      .ok (Platform.hmacSha256 store.integrityKey m) := authenticate_eq_ok.mpr ⟨m, hm, rfl⟩
  rw [code_of_mac hmac, hmac]

/-- The event of a commit can be authenticated. -/
theorem exists_auditTag (store : Store) {k : Commit} (hversion : k.after.stateVersion < 2 ^ 63)
    (hevent : k.eventType.toList.length ≤ 1000) : ∃ tag, store.auditTag k = .ok tag := by
  have hlength : ∀ b ∈ [Bytes.encodeUtf8 "audit-event", auditPayload k.after.contractId
      k.eventType ((k.before.map fun c => c.state).map RecoveryState.value) k.after.state.value
      k.after.stateVersion k.recordedAt.isoformat], b.length < 2 ^ 32 := by
    intro b hb
    simp only [List.mem_cons, List.not_mem_nil, or_false] at hb
    rcases hb with rfl | rfl
    · have : (Bytes.encodeUtf8 "audit-event").length ≤ 4 * 11 := Bytes.length_encodeUtf8_le _
      omega
    · exact length_auditPayload_lt k.after.identityValid.contractId hevent
        k.after.progressValid.stateVersion hversion
  obtain ⟨m, hm⟩ := exists_authenticatedMessage store.isIdentifier_storeId hlength
  exact ⟨_, authenticate_eq_ok.mpr ⟨m, hm, rfl⟩⟩

/-- Neither the process nor SQLite fails during a step. -/
structure Untroubled (i : Answers) : Prop where
  sqlite : i.sqlite = none
  commit : i.commit = none
  fault : ∀ point, i.fault point = none

theorem Untroubled.invokeFault {i : Answers} (h : Untroubled i) (point : FaultPoint) :
    invokeFault i point = .ok () := by
  rw [Tier1.invokeFault, h.fault]

theorem Untroubled.commitFailure {i : Answers} (h : Untroubled i) :
    commitFailure i = .ok () := by
  rw [Tier1.commitFailure, h.commit]

/-- The cooldown that entering a state starts can be recorded. -/
def CooldownFits (store : Store) (state : RecoveryState) (i : Answers) : Prop :=
  ∀ limits, store.ratePolicy = some limits → isCooldownState state = true →
    ∃ now, i.cooldownClock = some now ∧ (now.addSeconds limits.targetCooldownSeconds).isSome = true

variable {store : Store} {db : Database} {commits : List Commit}
  {current updated : RecoveryContract}

theorem exists_startCooldown {i : Answers} (h : store.CooldownFits updated.state i)
    (db : Database) : ∃ db', store.startCooldown db updated i = .ok db' := by
  unfold startCooldown
  cases hpolicy : store.ratePolicy with
  | none => exact ⟨db, rfl⟩
  | some limits =>
    dsimp only
    split_ifs with hstate
    · obtain ⟨now, hnow, huntil⟩ := h limits hpolicy hstate
      obtain ⟨u, hu⟩ := Option.isSome_iff_exists.mp huntil
      refine ⟨db.upsertCooldown ⟨updated.targetIdentityDigest, u.isoformat⟩, ?_⟩
      rw [hnow, requireUtc, ok_bind, RateLimits.recordTerminal, hu]
    · exact ⟨db, rfl⟩

/-- A contract takes a reservation unless another one holds it. -/
theorem exists_moveReservation (hlaw : Lawful LawfulCommit commits)
    (hrep : store.Represents db commits)
    (hlatest : latestOf commits current.contractId = some current)
    (hid : updated.contractId = current.contractId)
    (hfree : isReservationState updated.state = true → isReservationState current.state = false →
      ∀ d ∈ contractsOf commits, isReservationState d.state = true →
        d.targetIdentityDigest ≠ updated.targetIdentityDigest) :
    ∃ db', moveReservation db current updated = .ok db' := by
  unfold moveReservation
  split_ifs with htake hgive
  · have h₁ : (db.targetReservations.any fun row =>
        row.targetIdentityDigest = .text updated.targetIdentityDigest) = false := by
      rw [List.any_eq_false]
      intro row hrow
      obtain ⟨d, hd, hstate, rfl⟩ := (hrep.reservations row).mp hrow
      simpa [reservationOf] using hfree htake.1 htake.2 d hd hstate
    have h₂ : (db.targetReservations.any fun row => row.contractId = .text updated.contractId) =
        false := by
      rw [List.any_eq_false]
      intro row hrow
      obtain ⟨d, hd, hstate, rfl⟩ := (hrep.reservations row).mp hrow
      intro hname
      have hname : d.contractId = current.contractId := by
        simpa [reservationOf, hid] using hname
      rw [eq_of_mem_contractsOf hlaw hlatest hd hname, htake.2] at hstate
      cases hstate
    have h₃ : db.hasContract (.text updated.contractId) = true := by
      rw [Database.hasContract, hrep.contracts, List.any_map, List.any_eq_true]
      exact ⟨current, mem_contractsOf_of_latest hlaw hlatest, by simp [rowOf, contractRow, hid]⟩
    exact ⟨_, by rw [Database.insertReservation, h₁, h₂, h₃]; rfl⟩
  · exact ⟨_, rfl⟩
  · exact ⟨_, rfl⟩

omit [Platform] in
theorem insertAuditEvent_of {row : AuditRow}
    (hnew : ∀ r ∈ db.auditEvents, ¬(r.contractId = row.contractId ∧ r.stateVersion = row.stateVersion))
    (hcontract : ∃ r ∈ db.contracts, r.contractId = row.contractId) :
    db.insertAuditEvent row = .ok { db with auditEvents := db.auditEvents ++ [row] } := by
  have h₁ : (db.auditEvents.any fun r =>
      r.contractId = row.contractId ∧ r.stateVersion = row.stateVersion) = false := by
    rw [List.any_eq_false]
    intro r hr
    simpa using hnew r hr
  have h₂ : db.hasContract row.contractId = true := by
    obtain ⟨r, hr, hid⟩ := hcontract
    exact List.any_eq_true.mpr ⟨r, hr, by simpa using hid⟩
  rw [Database.insertAuditEvent, h₁, h₂]
  rfl

/-- An update of the latest contract succeeds when nothing fails, its target is not reserved by
another contract, and the numbers it writes fit. -/
theorem exists_replaceBlock (hlaw : Lawful LawfulCommit commits)
    (hrep : store.Represents db commits)
    (hlatest : latestOf commits current.contractId = some current)
    (hupdate : UpdateOf current updated.toContractFields) {eventType : String} {i : Answers}
    {t : DateTime} (hi : Untroubled i) (hclock : i.recordClock = some t)
    (hcooldown : store.CooldownFits updated.state i) (hversion : updated.stateVersion < 2 ^ 63)
    (hevent : eventType.toList.length ≤ 1000)
    (hfree : isReservationState updated.state = true → isReservationState current.state = false →
      ∀ d ∈ contractsOf commits, isReservationState d.state = true →
        d.targetIdentityDigest ≠ updated.targetIdentityDigest) :
    ∃ db', store.replaceBlock current updated eventType i db = .ok (db', t) := by
  have hid : updated.contractId = current.contractId := hupdate.sameIdentity.contractId
  have hcode := store.exists_code hversion
  obtain ⟨tag, htag⟩ := store.exists_auditTag
    (k := ⟨0, some current, updated, eventType, t, none⟩) hversion hevent
  obtain ⟨db₁, hmove⟩ := exists_moveReservation hlaw hrep hlatest hid hfree
  obtain ⟨-, -, hdb₁⟩ := moveReservation_ok hlaw hlatest hid hrep
    hupdate.sameIdentity.targetIdentityDigest hmove
  have hcontracts : db₁.contracts = db.contracts := by rw [hdb₁]
  have hwrite := updateContract_eq hlaw hlatest hid hrep hupdate hcontracts
  have hbind : Database.bindInteger updated.stateVersion = .ok () :=
    demand_of ⟨by have := updated.progressValid.stateVersion; omega, hversion⟩
  -- no audit row has the new version yet
  have haudit : store.insertAudit { db₁ with
      contracts := (replaced (contractsOf commits) updated).map store.rowOf } updated eventType
      (some current.state) t = .ok { db₁ with
        contracts := (replaced (contractsOf commits) updated).map store.rowOf,
        auditEvents := db₁.auditEvents ++ [auditRow updated eventType (some current.state) t tag] } := by
    rw [insertAudit]
    have htag' : store.auditMac updated.contractId eventType
        ((some current.state).map RecoveryState.value) updated.state.value updated.stateVersion
        t.isoformat = .ok tag := htag
    rw [htag', ok_bind]
    refine insertAuditEvent_of ?_ ?_
    · rintro r hr ⟨hname, hsame⟩
      rw [hdb₁] at hr
      change r ∈ db.auditEvents at hr
      rw [hrep.auditEvents, List.mem_map] at hr
      obtain ⟨k, hk, rfl⟩ := hr
      have hkid : k.after.contractId = current.contractId := by
        rw [← hid]
        simpa [auditRowOf, auditRow] using hname
      have hkv : k.after.stateVersion = updated.stateVersion := by
        simpa [auditRowOf, auditRow] using hsame
      have hle := (sameIdentity_of_mem hlaw hlatest k (mem_historyOf.mpr ⟨hk, hkid⟩)).2
      have := hupdate.stateVersion
      omega
    · refine ⟨store.rowOf updated, List.mem_map_of_mem ?_, rfl⟩
      exact (mem_replaced hlaw hlatest hid).mpr (.inl rfl)
  obtain ⟨db₄, hdb₄⟩ := exists_startCooldown hcooldown { db₁ with
    contracts := (replaced (contractsOf commits) updated).map store.rowOf,
    auditEvents := db₁.auditEvents ++ [auditRow updated eventType (some current.state) t tag] }
  refine ⟨db₄, ?_⟩
  simp only [replaceBlock, conflictOnIntegrity_eq_ok, bind_eq_ok]
  refine ⟨(), hi.invokeFault _, store.rowOf current, ?_, current,
    verifiedContract_rowOf hlaw hrep hlatest, (), demand_of ⟨rfl, rfl⟩, db₁, hmove, _, hcode, (),
    hbind, (_, 1), hwrite, (), demand_of rfl, t, ?_, _, haudit, db₄, hdb₄, (), hi.invokeFault _,
    (), hi.invokeFault _, rfl⟩
  · rw [selectContract_eq hlaw hrep, hlatest]
    rfl
  · rw [hclock]
    rfl

/-- The creation of a contract with new identifiers and an idempotency key that is not in use
succeeds when nothing fails and the rate policy allows it. -/
theorem exists_createBlock {c : RecoveryContract} (hlaw : Lawful LawfulCommit commits)
    (hrep : store.Represents db commits) (hfirst : c.stateVersion = 0)
    (hfresh : ∀ d ∈ contractsOf commits, d.contractId ≠ c.contractId ∧
      d.operationId ≠ c.operationId ∧ (blocksFreshIdempotencyAttempt d.state = true →
        d.idempotencyKey ≠ c.idempotencyKey))
    {now t : DateTime} {i : Answers} (hi : Untroubled i) (hclock : i.recordClock = some t)
    (hallowed : store.checkPrepareAllowed db c now = .ok ()) :
    ∃ db', store.createBlock c now i db = .ok (db', t) := by
  have hversion : c.stateVersion < 2 ^ 63 := by omega
  have hevent : "contract_created".toList.length ≤ 1000 := by decide
  have hcode := store.exists_code hversion
  obtain ⟨tag, htag⟩ := store.exists_auditTag
    (k := ⟨0, none, c, "contract_created", t, none⟩) hversion hevent
  have hinsert : db.insertContract (contractRow c (store.code c)) =
      .ok { db with contracts := db.contracts ++ [contractRow c (store.code c)] } := by
    unfold Database.insertContract
    have hnot : ∀ p : ContractRow → Bool, (∀ d ∈ contractsOf commits, p (store.rowOf d) = false) →
        db.contracts.any p = false := by
      intro p hp
      rw [hrep.contracts, List.any_eq_false]
      intro row hrow
      obtain ⟨d, hd, rfl⟩ := List.mem_map.mp hrow
      rw [hp d hd]
      exact Bool.false_ne_true
    rw [hnot _ fun d hd => by simpa [rowOf, contractRow] using (hfresh d hd).1,
      hnot _ fun d hd => by simpa [rowOf, contractRow] using (hfresh d hd).2.1,
      hnot _ fun d hd => ?_]
    · rfl
    · rw [Bool.eq_false_iff]
      intro hcollides
      obtain ⟨-, hblocks, hkey⟩ := (collides_rowOf c d).mp hcollides
      exact (hfresh d hd).2.2 hblocks hkey.symm
  have htag' : store.auditMac c.contractId "contract_created"
      ((none : Option RecoveryState).map RecoveryState.value) c.state.value c.stateVersion
      t.isoformat = .ok tag := htag
  have haudit : store.insertAudit { db with contracts := db.contracts ++
      [contractRow c (store.code c)] } c "contract_created" none t = .ok { db with
        contracts := db.contracts ++ [contractRow c (store.code c)],
        auditEvents := db.auditEvents ++ [auditRow c "contract_created" none t tag] } := by
    rw [insertAudit, htag', ok_bind]
    refine insertAuditEvent_of ?_ ⟨contractRow c (store.code c), by simp, rfl⟩
    rintro r hr ⟨hname, -⟩
    change r ∈ db.auditEvents at hr
    rw [hrep.auditEvents, List.mem_map] at hr
    obtain ⟨k, hk, rfl⟩ := hr
    have hid : k.after.contractId = c.contractId := by
      simpa [auditRowOf, auditRow] using hname
    obtain ⟨d, hd⟩ := exists_latestOf hk
    have hdid := contractId_of_latestOf hd
    refine (hfresh d ((mem_contractsOf hlaw).mpr (by rw [hdid, hd]))).1 ?_
    rw [hdid, hid]
  refine ⟨{ db with
    contracts := db.contracts ++ [contractRow c (store.code c)],
    auditEvents := db.auditEvents ++ [auditRow c "contract_created" none t tag] }, ?_⟩
  simp only [createBlock, conflictOnIntegrity_eq_ok, bind_eq_ok]
  exact ⟨(), hi.invokeFault _, (), hallowed, _, hcode, _, hinsert, t, by rw [hclock]; rfl, _,
    haudit, (), hi.invokeFault _, (), hi.invokeFault _, rfl⟩

end Success

end Store

end Tier1
