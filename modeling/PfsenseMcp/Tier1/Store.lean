import Mathlib.Data.Nat.Notation
import PfsenseMcp.Tier1.Evidence
import PfsenseMcp.Tier1.Payload
import PfsenseMcp.Tier1.RatePolicy
import PfsenseMcp.Tier1.World

/-!
# The recovery contract store

`SqliteRecoveryContractStore` of `tier1/store.py` and `rotate_key` of `tier1/key_lifecycle.py`.
The first part is what the store computes from rows it has read; the second part are its public
operations, each a procedure over the shared world. An operation that changes a contract takes
the number `call` of the call it is part of, for the trace.

Opening an existing file, creating and migrating the schema are not modelled: a run starts from
the tables that a new store has.
-/

namespace Tier1

open Python Concurrency RecoveryState

/-- Membership in `_RESERVATION_STATES`. -/
def isReservationState : RecoveryState → Bool
  | executing | reconciliation | rollingBack | rollbackFailed => true
  | _ => false

/-- Membership in `_INTERRUPTED_STATES`. -/
def isInterruptedState : RecoveryState → Bool
  | executing | rollingBack => true
  | _ => false

/-- `SqliteRecoveryContractStore`, by what it was constructed with. -/
structure Store extends StoreIdentity where
  /-- Whether a `confirmation_verifier` is configured. -/
  hasConfirmationVerifier : Bool
  /-- Whether a `reconciliation_verifier` is configured. -/
  hasReconciliationVerifier : Bool
  /-- Whether an `anti_rollback_anchor` is configured. -/
  hasAnchor : Bool
  /-- The limits of the `rate_policy`, if one is configured. -/
  ratePolicy : Option RateLimits

/-- One entry of what `audit_events` returns. -/
structure AuditEvent where
  eventType : TextCell
  previousState : Option TextCell
  currentState : TextCell
  stateVersion : Cell
  recordedAt : TextCell
deriving DecidableEq

/-- The entry of a row. -/
def AuditRow.event (row : AuditRow) : AuditEvent :=
  ⟨row.eventType, row.previousState, row.currentState, row.stateVersion, row.recordedAt⟩

/-- The JSON payload that `_audit_mac` authenticates. -/
def auditPayload (contractId eventType : String) (previousState : Option String)
    (currentState : String) (stateVersion : ℤ) (recordedAt : String) : Bytes :=
  Bytes.encodeUtf8 (Json.dumps true (Json.sortKeys (.obj [("contract_id", .str contractId),
    ("current_state", .str currentState), ("event_type", .str eventType),
    ("previous_state", optionalStr previousState), ("recorded_at", .str recordedAt),
    ("state_version", .int stateVersion)])))

/-- A clock reading that has to be in UTC. -/
def requireUtc (instant : Option DateTime) : Except Error DateTime :=
  match instant with
  | some t => .ok t
  | none => fail .contractValidation "Recovery store clock must return UTC."

/-- What the fault hook raises at a point. -/
def invokeFault [Platform] (i : Answers) (point : FaultPoint) : Except Error Unit :=
  match i.fault point with
  | some e => .error e
  | none => .ok ()

/-- The failure of a commit. -/
def commitFailure [Platform] (i : Answers) : Except Error Unit :=
  match i.commit with
  | some e => .error e
  | none => .ok ()

/-- `except sqlite3.IntegrityError: raise ContractConflictError(message)`. -/
def conflictOnIntegrity {α : Type} (message : String) : Except Error α → Except Error α
  | .ok a => .ok a
  | .error e => if e.cls = .sqliteIntegrity then fail .contractConflict message else .error e

variable [Platform]

namespace Store

/-! ### Rows -/

/-- `_mac`. -/
def mac (store : Store) (components : List Bytes) : Except Error String :=
  authenticate store.integrityKey store.storeId components

/-- `_audit_mac`. -/
def auditMac (store : Store) (contractId eventType : String) (previousState : Option String)
    (currentState : String) (stateVersion : ℤ) (recordedAt : String) : Except Error String :=
  store.mac [Bytes.encodeUtf8 "audit-event",
    auditPayload contractId eventType previousState currentState stateVersion recordedAt]

/-- `_decode_row`. -/
def decodeRow (store : Store) (row : ContractRow) : Except Error RecoveryContract :=
  match row.payload with
  | .blob payload => do
    let expected ← store.mac [payload]
    let equal ← compareDigest row.mac.str expected
    demand (equal = true) .contractIntegrity
      "Stored Recovery Contract failed integrity verification."
    let contract ← contractFromPayload payload
    demand ((row.contractId.str, row.operationId.str, row.idempotencyKey.str,
        row.targetIdentityDigest.str, row.state.str, row.stateVersion) =
        (contract.contractId, contract.operationId, contract.idempotencyKey,
          contract.targetIdentityDigest, contract.state.value, .integer contract.stateVersion))
      .contractIntegrity
      "Stored Recovery Contract index does not match its protected record."
    .ok contract
  | _ => fail .contractIntegrity "Stored Recovery Contract payload is invalid."

/-- `_verify_reservation`, on the row it has read. -/
def verifyReservation (reservation : Option TextCell) (contract : RecoveryContract) :
    Except Error Unit :=
  demand (reservation.map TextCell.str =
      if isReservationState contract.state then some contract.targetIdentityDigest else none)
    .contractIntegrity "Recovery Contract target reservation is inconsistent."

/-- The checks of `_verified_audit_rows` on how a row continues the rows before it. -/
def verifyAuditLink (expectedVersion : ℕ) (previousCurrent : Option String) (row : AuditRow) :
    Except Error Unit :=
  if expectedVersion = 0 then
    demand (row.eventType = .text "contract_created" ∧ row.previousState = none)
      .contractIntegrity "Recovery Contract audit origin is invalid."
  else
    demand (row.previousState = previousCurrent.map .text) .contractIntegrity
      "Recovery Contract audit state chain is invalid."

/-- The checks of `_verified_audit_rows` on one row; the state it leads to. -/
def verifyAuditRow (store : Store) (contract : RecoveryContract) (expectedVersion : ℕ)
    (previousCurrent : Option String) (row : AuditRow) : Except Error String := do
  demand (row.contractId = .text contract.contractId ∧
      row.stateVersion = .integer expectedVersion) .contractIntegrity
    "Recovery Contract audit history ordering is invalid."
  verifyAuditLink expectedVersion previousCurrent row
  demand ((DateTime.fromisoformat row.recordedAt.str).isSome = true) .contractIntegrity
    "Recovery Contract audit timestamp is invalid."
  let expected ← store.auditMac row.contractId.str row.eventType.str
    (row.previousState.map TextCell.str) row.currentState.str expectedVersion row.recordedAt.str
  let equal ← compareDigest row.mac.str expected
  demand (equal = true) .contractIntegrity
    "Recovery Contract audit event failed integrity verification."
  .ok row.currentState.str

/-- The loop of `_verified_audit_rows`; the state of the last row. -/
def verifyAuditChain (store : Store) (contract : RecoveryContract) :
    ℕ → Option String → List AuditRow → Except Error (Option String)
  | _, previousCurrent, [] => .ok previousCurrent
  | expectedVersion, previousCurrent, row :: rows => do
    let current ← store.verifyAuditRow contract expectedVersion previousCurrent row
    store.verifyAuditChain contract (expectedVersion + 1) (some current) rows

/-- `_verified_audit_rows`, on the rows it has read. -/
def verifiedAuditRows (store : Store) (rows : List AuditRow) (contract : RecoveryContract) :
    Except Error (List AuditRow) := do
  demand ((rows.length : ℤ) = contract.stateVersion + 1) .contractIntegrity
    "Recovery Contract audit history is incomplete."
  let last ← store.verifyAuditChain contract 0 none rows
  demand (last = some contract.state.value) .contractIntegrity
    "Recovery Contract audit state does not match the authoritative record."
  .ok rows

/-- `_decode_row` followed by `_verify_related_state`, on the tables of one transaction. -/
def verifiedContract (store : Store) (db : Database) (row : ContractRow) :
    Except Error RecoveryContract := do
  let contract ← store.decodeRow row
  verifyReservation (db.selectReservation contract.contractId) contract
  let _ ← store.verifiedAuditRows (db.selectAudit contract.contractId) contract
  .ok contract

/-! ### Transactions -/

/-- The row of a new contract. -/
def contractRow (contract : RecoveryContract) (code : String) : ContractRow :=
  { contractId := .text contract.contractId
    operationId := .text contract.operationId
    idempotencyKey := .text contract.idempotencyKey
    targetIdentityDigest := .text contract.targetIdentityDigest
    state := .text contract.state.value
    stateVersion := .integer contract.stateVersion
    payload := .blob (contractPayload contract.toContractFields)
    mac := .text code }

/-- The row of an audit event. -/
def auditRow (contract : RecoveryContract) (eventType : String)
    (previousState : Option RecoveryState) (recordedAt : DateTime) (code : String) : AuditRow :=
  { contractId := .text contract.contractId
    eventType := .text eventType
    previousState := previousState.map fun s => .text s.value
    currentState := .text contract.state.value
    stateVersion := .integer contract.stateVersion
    recordedAt := .text recordedAt.isoformat
    mac := .text code }

/-- `_insert_audit`. -/
def insertAudit (store : Store) (db : Database) (contract : RecoveryContract) (eventType : String)
    (previousState : Option RecoveryState) (recordedAt : DateTime) : Except Error Database := do
  let code ← store.auditMac contract.contractId eventType (previousState.map RecoveryState.value)
    contract.state.value contract.stateVersion recordedAt.isoformat
  db.insertAuditEvent (auditRow contract eventType previousState recordedAt code)

/-- The check of the rate policy in `create`. -/
def checkPrepareAllowed (store : Store) (db : Database) (contract : RecoveryContract)
    (now : DateTime) : Except Error Unit :=
  match store.ratePolicy with
  | some limits => limits.checkPrepareAllowed db contract.targetIdentityDigest now
  | none => .ok ()

/-- The check of the rate policy in `transition`. -/
def checkExecuteAllowed (store : Store) (db : Database) : Except Error Unit :=
  match store.ratePolicy with
  | some limits => limits.checkExecuteAllowed db
  | none => .ok ()

/-- The transaction of `create`. -/
def createBlock (store : Store) (contract : RecoveryContract) (now : DateTime) (i : Answers)
    (db : Database) : Except Error (Database × DateTime) :=
  conflictOnIntegrity "Recovery Contract identity or idempotency key already exists." do
    invokeFault i .beforeTransaction
    store.checkPrepareAllowed db contract now
    let code ← store.mac [contractPayload contract.toContractFields]
    let db ← db.insertContract (contractRow contract code)
    let recordedAt ← requireUtc i.recordClock
    let db ← store.insertAudit db contract "contract_created" none recordedAt
    invokeFault i .afterRecordWrite
    invokeFault i .beforeCommit
    .ok (db, recordedAt)

/-- The reservation that a change of state takes or gives up. -/
def moveReservation (db : Database) (current updated : RecoveryContract) :
    Except Error Database :=
  if isReservationState updated.state = true ∧ isReservationState current.state = false then
    db.insertReservation updated.targetIdentityDigest updated.contractId
  else if isReservationState updated.state = false ∧ isReservationState current.state = true then
    .ok (db.deleteReservation updated.contractId)
  else .ok db

/-- The cooldown that a concluded mutation starts. -/
def startCooldown (store : Store) (db : Database) (updated : RecoveryContract) (i : Answers) :
    Except Error Database :=
  match store.ratePolicy with
  | some limits =>
    if isCooldownState updated.state then do
      let now ← requireUtc i.cooldownClock
      limits.recordTerminal db updated.targetIdentityDigest now
    else .ok db
  | none => .ok db

/-- The row of a contract that has to exist. -/
def requireRow (row : Option ContractRow) : Except Error ContractRow :=
  match row with
  | some row => .ok row
  | none => fail .contractNotFound "Authoritative Recovery Contract was not found."

/-- The transaction of `_replace`. -/
def replaceBlock (store : Store) (current updated : RecoveryContract) (eventType : String)
    (i : Answers) (db : Database) : Except Error (Database × DateTime) :=
  conflictOnIntegrity "Canonical target is already reserved by another operation." do
    invokeFault i .beforeTransaction
    let row ← requireRow (db.selectContract current.contractId)
    let authoritative ← store.verifiedContract db row
    demand (authoritative.state = current.state ∧
        authoritative.stateVersion = current.stateVersion) .contractConflict
      "Recovery Contract compare-and-set failed."
    let db ← moveReservation db current updated
    let code ← store.mac [contractPayload updated.toContractFields]
    Database.bindInteger updated.stateVersion
    let (db, rowcount) ← db.updateContract updated.contractId current.state current.stateVersion
      updated.state updated.stateVersion (contractPayload updated.toContractFields) code
    demand (rowcount = 1) .contractConflict "Recovery Contract compare-and-set failed."
    let recordedAt ← requireUtc i.recordClock
    let db ← store.insertAudit db updated eventType (some current.state) recordedAt
    let db ← store.startCooldown db updated i
    invokeFault i .afterRecordWrite
    invokeFault i .beforeCommit
    .ok (db, recordedAt)

/-- Run a transaction that changes a contract. When it commits, the change is recorded in the
trace; the fault hook is then invoked once more. -/
def transact (block : Answers → Database → Except Error (Database × DateTime))
    (commit : DateTime → Commit) : Op RecoveryContract :=
  Op.atomic fun i s =>
    match i.sqlite with
    | some e => (s, .error e)
    | none =>
      match (do
        let result ← block i s.db
        commitFailure i
        .ok result) with
      | .error e => (s, .error e)
      | .ok (db, recordedAt) =>
        ({ s with db := db, trace := s.trace ++ [.committed (commit recordedAt)] },
          match invokeFault i .afterCommit with
          | .error e => .error e
          | .ok () => .ok (commit recordedAt).after)

/-- `_replace`. -/
def replace (store : Store) (call : ℕ) (current updated : RecoveryContract) (eventType : String)
    (checkedAt : Option DateTime) : Op RecoveryContract :=
  transact (store.replaceBlock current updated eventType)
    fun recordedAt => ⟨call, some current, updated, eventType, recordedAt, checkedAt⟩

/-- The transaction before an `EXECUTING` transition: the anchor protocol and the rate policy.
What the anchor did stays done when the transaction is rolled back. -/
def executingGate (store : Store) (policy : ExecutionSecurityPolicy) : Op Unit :=
  Op.atomic fun i s =>
    match i.sqlite with
    | some e => (s, .error e)
    | none =>
      let (marked, anchor) :=
        if store.hasAnchor ∧ policy.participatesInWitness then
          HighWaterMark.beforeExecutingTransition store.toStoreIdentity (anchorOf i) s.db s.anchor
        else (.ok s.db, s.anchor)
      match (do
        let db ← marked
        store.checkExecuteAllowed db
        commitFailure i
        .ok db) with
      | .error e => ({ s with anchor := anchor }, .error e)
      | .ok db => ({ s with db := db, anchor := anchor }, .ok ())

/-! ### Reading operations -/

/-- `_now`. -/
def now : Op DateTime := Op.consult fun i => requireUtc i.clock

/-- `_verify_related_state`. -/
def verifyRelatedState (store : Store) (contract : RecoveryContract) : Op Unit := do
  let reservation ← Op.query fun db => .ok (db.selectReservation contract.contractId)
  Op.check (verifyReservation reservation contract)
  let rows ← Op.query fun db => .ok (db.selectAudit contract.contractId)
  let _ ← Op.check (store.verifiedAuditRows rows contract)

/-- The row of a contract. -/
def selectContract (contractId : String) : Op ContractRow :=
  Op.query fun db => requireRow (db.selectContract contractId)

/-- `load`. -/
def load (store : Store) (contractId : String) : Op RecoveryContract := do
  let row ← selectContract contractId
  let contract ← Op.check (store.decodeRow row)
  Op.check (demand (contract.contractId = contractId) .contractIntegrity
    "Stored Recovery Contract identity does not match its index.")
  store.verifyRelatedState contract
  return contract

/-- `audit_events`. -/
def auditEvents (store : Store) (contractId : String) : Op (List AuditEvent) := do
  let row ← selectContract contractId
  let contract ← Op.check (store.decodeRow row)
  let reservation ← Op.query fun db => .ok (db.selectReservation contract.contractId)
  Op.check (verifyReservation reservation contract)
  let rows ← Op.query fun db => .ok (db.selectAudit contract.contractId)
  let rows ← Op.check (store.verifiedAuditRows rows contract)
  return rows.map AuditRow.event

/-- Decode rows in their order. -/
def decodeRows (store : Store) : List ContractRow → Except Error (List RecoveryContract)
  | [] => .ok []
  | row :: rows => do
    let contract ← store.decodeRow row
    let contracts ← store.decodeRows rows
    .ok (contract :: contracts)

/-- Verify contracts in their order. -/
def verifyContracts (store : Store) : List RecoveryContract → Op Unit
  | [] => return ()
  | contract :: contracts => do
    store.verifyRelatedState contract
    store.verifyContracts contracts

/-- `all_contracts`. -/
def allContracts (store : Store) : Op (List RecoveryContract) := do
  let rows ← Op.query fun db => .ok db.selectAllContracts
  let contracts ← Op.check (store.decodeRows rows)
  store.verifyContracts contracts
  return contracts

/-- `interrupted`. -/
def interrupted (store : Store) : Op (List RecoveryContract) := do
  let contracts ← store.allContracts
  return contracts.filter fun contract => isInterruptedState contract.state

/-- `find_by_idempotency_key`. -/
def findByIdempotencyKey (store : Store) (idempotencyKey : String) :
    Op (Option RecoveryContract) := do
  let row ← Op.query fun db => .ok (db.contracts.find? fun row =>
    decide (row.idempotencyKey = .text idempotencyKey) && Database.isActive row)
  match row with
  | none => return none
  | some row => do
    let contract ← Op.check (store.decodeRow row)
    Op.check (demand (contract.idempotencyKey = idempotencyKey) .contractIntegrity
      "Stored Recovery Contract identity does not match its index.")
    Op.check (demand (blocksFreshIdempotencyAttempt contract.state = true) .contractIntegrity
      "Recovery store active-idempotency query returned a non-blocking row.")
    store.verifyRelatedState contract
    return some contract

/-- The loop of `find_historical_by_idempotency_key`. -/
def verifyHistorical (store : Store) (idempotencyKey : String) :
    List ContractRow → Op (List RecoveryContract)
  | [] => return []
  | row :: rows => do
    let contract ← Op.check (store.decodeRow row)
    Op.check (demand (contract.idempotencyKey = idempotencyKey) .contractIntegrity
      "Stored Recovery Contract identity does not match its index.")
    store.verifyRelatedState contract
    let contracts ← store.verifyHistorical idempotencyKey rows
    return contract :: contracts

/-- `find_historical_by_idempotency_key`. -/
def findHistoricalByIdempotencyKey (store : Store) (idempotencyKey : String) :
    Op (List RecoveryContract) := do
  let rows ← Op.query fun db => .ok ((db.contracts.filter fun row =>
    row.idempotencyKey = .text idempotencyKey).mergeSort fun a b => a.contractId.le b.contractId)
  store.verifyHistorical idempotencyKey rows

/-! ### Changing operations -/

/-- `create`. -/
def create (store : Store) (call : ℕ) (contract : RecoveryContract) : Op Unit := do
  Op.check (demand (contract.state = preparing ∧ contract.stateVersion = 0 ∧
      contract.isConfirmed = false) .contractValidation
    "New Recovery Contract must start unconfirmed at PREPARING version zero.")
  let instant ← now
  Op.check (demand (contract.createdAt ≤ instant ∧ contract.isExpired instant = false)
    .contractValidation
    "New Recovery Contract validity window does not include the store clock.")
  let _ ← transact (store.createBlock contract instant) fun recordedAt =>
    ⟨call, none, contract, "contract_created", recordedAt, some instant⟩

/-- `create_authorized`. -/
def createAuthorized (store : Store) (call : ℕ) (contract : RecoveryContract) : Op Unit := do
  Op.check (demand (contract.authorizationProvenance.isSome = true) .contractValidation
    "Authorized Recovery Contract provenance is required.")
  store.create call contract

/-- The contract after a change of its state. -/
def moved (current : RecoveryContract) (targetState : RecoveryState) : ContractFields :=
  { current.toContractFields with
    state := targetState, stateVersion := current.stateVersion + 1 }

/-- What `transition` requires and does before a contract enters `EXECUTING`. -/
def enterExecuting (store : Store) (current : RecoveryContract) (targetState : RecoveryState)
    (instant : DateTime) (executionPolicy : Option ExecutionSecurityPolicy) : Op Unit :=
  if targetState = executing then do
    Op.check (demand (current.isConfirmed = true ∧ current.isExpired instant = false)
      .contractConflict "Recovery Contract is unconfirmed or expired.")
    match executionPolicy with
    | none =>
      Op.check (fail .contractValidation
        "EXECUTING transition requires an explicit execution security policy.")
    | some policy =>
      if store.hasAnchor = true ∨ store.ratePolicy.isSome = true then store.executingGate policy
      else pure ()
  else pure ()

/-- `transition`. -/
def transition (store : Store) (call : ℕ) (contractId : String) (expectedState : RecoveryState)
    (expectedVersion : ℤ) (targetState : RecoveryState)
    (executionPolicy : Option ExecutionSecurityPolicy) (eventType : String) :
    Op RecoveryContract := do
  Op.check (demand (eventType ≠ "") .contractValidation
    "Recovery Contract transition event type is invalid.")
  Op.check (requireTransition expectedState targetState false)
  Op.check (demand (targetState ≠ verified) .contractConflict
    "VERIFIED requires an atomically sealed post-forward fingerprint.")
  Op.check (demand (targetState ≠ rolledBack) .contractConflict
    "ROLLED_BACK requires atomically verified lifecycle continuity.")
  let current ← store.load contractId
  Op.check (demand (current.state = expectedState ∧ current.stateVersion = expectedVersion)
    .contractConflict "Recovery Contract state changed before atomic transition.")
  let instant ← now
  Op.check (demand ((current.state = preparing ∨ current.state = prepared) →
      current.isExpired instant = true → targetState = expired) .contractConflict
    "Expired Recovery Contract may only transition to EXPIRED.")
  store.enterExecuting current targetState instant executionPolicy
  let updated ← Op.check (RecoveryContract.ofFields (moved current targetState))
  store.replace call current updated eventType (some instant)

/-- `expire_prepared`; `now` is `none` when the caller's instant is not in UTC. -/
def expirePrepared (store : Store) (call : ℕ) (contractId : String) (expectedVersion : ℤ)
    (now : Option DateTime) : Op RecoveryContract := do
  let contract ← store.load contractId
  Op.check (demand (contract.state = prepared) .contractConflict
    "Recovery Contract is not PREPARED; expire_prepared() refuses.")
  Op.check (demand (contract.isConfirmed = false) .contractConflict
    ("Recovery Contract already carries confirmation evidence; expire_prepared() refuses " ++
      "-- this requires manual reconciliation, not administrative close-out."))
  let instant ← Op.check (match now with
    | some t => .ok t
    | none => fail .contractValidation "Recovery Contract comparison time must be UTC.")
  Op.check (demand (contract.isExpired instant = true) .contractConflict
    "Recovery Contract has not yet expired; expire_prepared() refuses.")
  Op.check (demand (contract.stateVersion = expectedVersion) .contractConflict
    "Recovery Contract state changed before expire_prepared() could act.")
  store.transition call contractId prepared expectedVersion expired none "state_transition"

/-- The answer of a configured verifier, or the exception of a missing or failing one. -/
def verify (configured : Bool) (missing failing refused : String) : Op Unit := do
  Op.check (demand (configured = true) .confirmation missing)
  Op.consult fun i =>
    match i.verdict with
    | none => fail .confirmation failing
    | some verdict => demand (verdict = true) .confirmation refused

/-- `confirm`. -/
def confirm (store : Store) (call : ℕ) (contractId : String) (evidence : ConfirmationEvidence)
    (expectedVersion : ℤ) : Op RecoveryContract := do
  let current ← store.load contractId
  Op.check (demand (current.stateVersion = expectedVersion) .contractConflict
    "Recovery Contract version changed before confirmation.")
  let confirmedAt ← now
  Op.check (demand (current.isExpired confirmedAt = false) .contractConflict
    "Recovery Contract expired before confirmation.")
  Op.check (evidence.verifyBindings current)
  verify store.hasConfirmationVerifier "No owner confirmation verifier is configured."
    "Owner confirmation verification failed." "Owner confirmation evidence was refused."
  let digest ← Op.check evidence.evidenceDigest
  let confirmed ← Op.check (current.withConfirmation evidence.authorityId digest confirmedAt)
  store.replace call current confirmed "contract_confirmed" (some confirmedAt)

/-- The contract after a resolution. -/
def resolved (current : RecoveryContract) (evidence : ReconciliationEvidence) : ContractFields :=
  { current.toContractFields with
    state := evidence.outcome.targetState
    stateVersion := current.stateVersion + 1
    verifiedTargetFingerprint :=
      if evidence.outcome = .confirmedApplied then evidence.verifiedTargetFingerprint
      else current.verifiedTargetFingerprint }

/-- `resolve_reconciliation`. -/
def resolveReconciliation (store : Store) (call : ℕ) (contractId : String)
    (evidence : ReconciliationEvidence) : Op RecoveryContract := do
  let current ← store.load contractId
  Op.check (demand (current.state = reconciliation) .contractConflict
    "Recovery Contract is not in RECONCILIATION.")
  let events ← store.auditEvents contractId
  let origin : Option TextCell := events.getLast?.bind AuditEvent.previousState
  Op.check (demand ((origin = some (.text executing.value) → evidence.outcome.isForward = true) ∧
      (origin = some (.text rollingBack.value) → evidence.outcome.isRollback = true))
    .confirmation "Reconciliation outcome does not match the persisted uncertainty boundary.")
  Op.check (demand (origin = some (.text executing.value) ∨
      origin = some (.text rollingBack.value)) .confirmation
    "Reconciliation uncertainty boundary is invalid.")
  Op.check (evidence.verifyBindings current.contractId current.operationId current.stateVersion
    current.lifecycleLocator)
  verify store.hasReconciliationVerifier "No reconciliation verifier is configured."
    "Reconciliation verification failed." "Reconciliation evidence was refused."
  Op.check (requireTransition current.state evidence.outcome.targetState true)
  let updated ← Op.check (RecoveryContract.ofFields (resolved current evidence))
  store.replace call current updated "reconciliation_resolved" none

/-- The contract after a rotation. -/
def rotated (current : RecoveryContract)
    (targetIdentity intent snapshot : ProtectedArtifact) : ContractFields :=
  { current.toContractFields with
    protectedTargetIdentity := targetIdentity
    protectedIntent := intent
    protectedSnapshot := snapshot
    stateVersion := current.stateVersion + 1 }

/-- `rotate_artifacts`. -/
def rotateArtifacts (store : Store) (call : ℕ) (contractId : String) (expectedVersion : ℤ)
    (targetIdentity intent snapshot : ProtectedArtifact) : Op RecoveryContract := do
  let current ← store.load contractId
  Op.check (demand (current.stateVersion = expectedVersion) .contractConflict
    "Recovery Contract version changed before artifact rotation.")
  let updated ← Op.check (RecoveryContract.ofFields (rotated current targetIdentity intent snapshot))
  store.replace call current updated "artifacts_rotated" none

/-- The contract after a verified execution. -/
def sealed (current : RecoveryContract) (fingerprint : String) : ContractFields :=
  { current.toContractFields with
    state := verified
    stateVersion := current.stateVersion + 1
    verifiedTargetFingerprint := some fingerprint }

/-- `mark_execution_verified`. -/
def markExecutionVerified (store : Store) (call : ℕ) (contractId : String) (expectedVersion : ℤ)
    (verifiedTargetFingerprint : String) (verifiedLifecycleLocator : ℤ) : Op RecoveryContract := do
  let current ← store.load contractId
  Op.check (demand (current.state = executing ∧ current.stateVersion = expectedVersion)
    .contractConflict "Recovery Contract state changed before verified transition.")
  Op.check (demand (verifiedLifecycleLocator = current.lifecycleLocator) .contractConflict
    "Target incarnation continuity is unproven at verified transition.")
  let updated ← Op.check (RecoveryContract.ofFields (sealed current verifiedTargetFingerprint))
  store.replace call current updated "state_transition" none

/-- `mark_rollback_verified`. -/
def markRollbackVerified (store : Store) (call : ℕ) (contractId : String) (expectedVersion : ℤ)
    (verifiedLifecycleLocator : ℤ) : Op RecoveryContract := do
  let current ← store.load contractId
  Op.check (demand (current.state = rollingBack ∧ current.stateVersion = expectedVersion)
    .contractConflict "Recovery Contract state changed before rollback verification.")
  Op.check (demand (verifiedLifecycleLocator = current.lifecycleLocator) .contractConflict
    "Target incarnation continuity is unproven at rollback verification.")
  let updated ← Op.check (RecoveryContract.ofFields (moved current rolledBack))
  store.replace call current updated "state_transition" none

/-- The loop of `reconcile_interrupted`. -/
def reconcileEach (store : Store) (call : ℕ) : List RecoveryContract → Op (List RecoveryContract)
  | [] => return []
  | current :: rest => do
    let reconciled ← store.transition call current.contractId current.state current.stateVersion
      reconciliation none "state_transition"
    let others ← store.reconcileEach call rest
    return reconciled :: others

/-- `reconcile_interrupted`. -/
def reconcileInterrupted (store : Store) (call : ℕ) : Op (List RecoveryContract) := do
  let contracts ← store.interrupted
  store.reconcileEach call contracts

/-- The loop of `rotate_key`. `reencrypt n contract` is what the callbacks `decrypt` and `encrypt`
make of the artifacts of the `n`-th contract. -/
def rotateEach (store : Store) (call : ℕ) (newKeyId : String)
    (reencrypt : ℕ → RecoveryContract →
      Except Error (ProtectedArtifact × ProtectedArtifact × ProtectedArtifact)) :
    ℕ → List RecoveryContract → Op Unit
  | _, [] => return ()
  | n, contract :: rest =>
    if contract.protectedIntent.keyId = newKeyId then
      store.rotateEach call newKeyId reencrypt (n + 1) rest
    else do
      let artifacts ← Op.check (reencrypt n contract)
      let _ ← store.rotateArtifacts call contract.contractId contract.stateVersion artifacts.1
        artifacts.2.1 artifacts.2.2
      store.rotateEach call newKeyId reencrypt (n + 1) rest

/-- `rotate_key`. -/
def rotateKey (store : Store) (call : ℕ) (newKeyId : String)
    (reencrypt : ℕ → RecoveryContract →
      Except Error (ProtectedArtifact × ProtectedArtifact × ProtectedArtifact)) : Op Unit := do
  let contracts ← store.allContracts
  store.rotateEach call newKeyId reencrypt 0 contracts

/-- What `provision_anchor_baseline` does after the seed: it reads the value back, and
`ProvisioningRecord.mark_complete` checks the order of provisioning and inserts the marker. -/
def completeProvisioning (store : Store) (value : ℤ) (handle : String) (provisionedAt : DateTime) :
    Op Unit := do
  let reread ← Op.query (HighWaterMark.read store.toStoreIdentity)
  Op.check (demand (reread = value) .contractIntegrity
    "Anchor baseline verification failed immediately after seeding.")
  let seeded ← Op.query fun db => .ok (HighWaterMark.isSeeded db)
  Op.check (demand (seeded = true) .contractValidation
    ("Cannot mark anchor provisioning complete: " ++
      "no high-water-mark baseline has been seeded yet."))
  let current ← Op.query (HighWaterMark.read store.toStoreIdentity)
  Op.check (demand (current = value) .contractValidation
    ("Cannot mark anchor provisioning complete: " ++
      "recorded baseline does not match the verified value."))
  let complete ← Op.query (ProvisioningRecord.isComplete store.toStoreIdentity)
  Op.check (demand (complete = false) .anchorAlreadyProvisioned
    "Anchor provisioning was already marked complete for this store; refusing to overwrite.")
  Op.execute (ProvisioningRecord.insertMarker store.toStoreIdentity handle value.toNat provisionedAt)

/-- `provision_anchor_baseline`. The connection is in autocommit mode and no transaction is
opened, so every statement is a step of its own. -/
def provisionAnchorBaseline (store : Store) (value : ℤ) (handle : String) : Op Unit := do
  Op.check (demand (handle ≠ "") .contractValidation "Anchor handle must be a non-empty string.")
  let provisionedAt ← now
  -- `HighWaterMark.seed`
  Op.check (demand (0 ≤ value) .contractValidation
    "Anchor baseline value must be a non-negative integer.")
  let seeded ← Op.query fun db => .ok (HighWaterMark.isSeeded db)
  Op.check (demand (seeded = false) .anchorAlreadyProvisioned
    "A high-water-mark baseline is already recorded for this store; refusing to overwrite.")
  Op.execute (HighWaterMark.insertSeed store.toStoreIdentity value.toNat)
  store.completeProvisioning value handle provisionedAt

/-- `AnchorProvisioningStatus`. The handle and the time are as they stand in the marker, before
they are turned into texts. -/
structure AnchorProvisioningStatus where
  seeded : Bool
  baseline : Option ℕ
  complete : Bool
  handle : Option Json
  provisionedAt : Option Json

/-- `anchor_provisioning_status`. -/
def anchorProvisioningStatus (store : Store) : Op AnchorProvisioningStatus := do
  let seeded ← Op.query fun db => .ok (HighWaterMark.isSeeded db)
  let baseline ← Op.query fun db => match seeded with
    | true => some <$> HighWaterMark.read store.toStoreIdentity db
    | false => .ok none
  let marker ← Op.query (ProvisioningRecord.read store.toStoreIdentity)
  return ⟨seeded, baseline, marker.isSome, marker.map Prod.fst, marker.map Prod.snd⟩

end Store

end Tier1
