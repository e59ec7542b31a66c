import Mathlib.Data.Int.Notation
import Mathlib.Data.Nat.Notation
import PfsenseMcp.Tier1.Store

/-!
# The sealed mutation executor

`MutationExecutor` of `tier1/executor.py`, with the decryption of `tier1/crypto.py` and the
policy of `tier1/policy.py`. An adapter is a record of functions that may raise; the one that
reads the appliance is a question to the environment.

The parameter `call` is the number of the call in the trace, as for the store.
-/

namespace Tier1

open Python Concurrency RecoveryState

/-! ### Policy -/

/-- `MutationRule`. -/
structure MutationRule where
  capability : Capability
  endpointSymbol : String
  httpMethod : String
deriving DecidableEq

/-- A text matched by `[A-Z][A-Z0-9_]{0,127}`. -/
def isEndpointSymbol (text : String) : Bool :=
  match text.toList with
  | [] => false
  | c :: cs =>
    c.isUpper && decide (cs.length ≤ 127) && cs.all fun c => c.isUpper ∨ c.isDigit ∨ c = '_'

/-- `MutationPolicy.authorize`. -/
def authorize (rules : List MutationRule) (rule : MutationRule) : Except Error Unit := do
  demand (rule.capability.isWrite = true) .mutationPolicy
    "Tier 1 policy rule requires a WRITE capability."
  demand (isEndpointSymbol rule.endpointSymbol = true) .mutationPolicy
    "Tier 1 policy endpoint symbol is invalid."
  demand (isMutatingMethod rule.httpMethod = true) .mutationPolicy
    "Tier 1 policy HTTP method is not mutating."
  demand (rule ∈ rules) .mutationPolicy
    "Mutation is not authorized by the exact Tier 1 policy."

/-! ### Adapters -/

/-- `ResolvedTransportTarget`; the locator it carries is the protected one. -/
structure ResolvedTransportTarget where
  numericLocator : ℤ
  targetIdentityDigest : String

/-- A `pydantic.BaseModel` request, by the outcome of `model_dump_json()`. -/
structure Request where
  modelDumpJson : Except Error String

variable [Platform]

/-- `CapabilityAdapter`. `build_request` and `build_rollback_request` may return an object that is
no `BaseModel` (`none`). The outcome of `parse_response` is used by its `repr` only. -/
structure CapabilityAdapter where
  endpointSymbol : String
  httpMethod : String
  capability : Capability
  naturalIdentity : Platform.Obj → Except Error Json
  fingerprint : Platform.Obj → Except Error Json
  transportLocator : Platform.Obj → Except Error ℤ
  buildRequest : Json → ResolvedTransportTarget → Except Error (Option Request)
  parseResponse : TransportResponse → Except Error (Except Error String)
  isSemanticallyVerified : (pre post : Platform.Obj) → (intent : Json) → Except Error Bool
  buildRollbackRequest : Json → ResolvedTransportTarget → Except Error (Option Request)
  isRollbackVerified : (pre : Json) → (postRollback : Platform.Obj) → Except Error Bool

/-- `ExecutionOutcome` and `RollbackOutcome`. -/
structure Outcome where
  contractId : String
  state : RecoveryState
  detail : String
deriving DecidableEq

/-- `AuthoritativeReconciliationObservation`. -/
structure AuthoritativeReconciliationObservation where
  contractId : String
  operationId : String
  stateVersion : ℤ
  uncertaintyOrigin : RecoveryState
  targetFingerprint : String
  lifecycleLocator : ℤ
deriving DecidableEq

/-- `MutationExecutor`, by what it was constructed with. -/
structure MutationExecutor where
  store : Store
  writeClient : WriteApiClient
  policy : List MutationRule
  encryptionKey : Bytes
  capabilitySecurityClasses : Capability → Option WriteSecurityClass

/-- `ArtifactRole`. -/
inductive ArtifactRole where
  | targetIdentity
  | intent
  | snapshot
deriving DecidableEq

/-- The wire value of a role. -/
def ArtifactRole.value : ArtifactRole → String
  | targetIdentity => "target-identity"
  | intent => "intent"
  | snapshot => "snapshot"

/-- `decrypt_artifact`. -/
def decryptArtifact (key : Bytes) (artifact : ProtectedArtifact) (contractId : String)
    (role : ArtifactRole) : Except Error Bytes := do
  demand (key.length = 32) .artifactDecryption "Decryption key must be exactly 32 bytes."
  demand (artifact.algorithm = "aes-256-gcm-v1") .artifactDecryption
    "Protected artifact algorithm is not recognized."
  demand (12 < artifact.ciphertext.length) .artifactDecryption
    "Protected artifact ciphertext is too short."
  let associatedData ← frameContext ["pfSense-MCP/Tier1/ArtifactAEAD/v1", contractId, role.value]
  match Platform.aesGcmDecrypt key (artifact.ciphertext.take 12) (artifact.ciphertext.drop 12)
      associatedData with
  | some plaintext => .ok plaintext
  | none =>
    fail .artifactDecryption "Protected artifact failed authenticated decryption."

/-- `_decrypt`. -/
def decrypt (key : Bytes) (contract : RecoveryContract) (artifact : ProtectedArtifact)
    (role : ArtifactRole) : Except Error Json := do
  let plaintext ← decryptArtifact key artifact contract.contractId role
  match Bytes.decodeUtf8 plaintext >>= Json.parse with
  | some value => validateCanonicalValue value
  | none => fail .valueError "Protected artifact is not valid JSON."

/-- `_fingerprint_digest`. -/
def fingerprintDigest (contract : RecoveryContract) (rawFingerprint : Json) :
    Except Error String :=
  digestValue .targetFingerprint rawFingerprint
    [contract.capability.name, contract.endpointSymbol, contract.httpMethod]

/-- `_resolve_transport_target`. -/
def resolveTransportTarget (contract : RecoveryContract) (adapter : CapabilityAdapter)
    (rawTarget : Platform.Obj) : Except Error ResolvedTransportTarget := do
  let identity ← adapter.naturalIdentity rawTarget
  let identityDigest ← digestValue .targetIdentity identity [contract.capability.name]
  demand (identityDigest = contract.targetIdentityDigest) .contractValidation
    "Resolved transport target does not match the protected semantic target."
  let locator ← adapter.transportLocator rawTarget
  demand (locator = contract.lifecycleLocator) .contractValidation
    "Target incarnation continuity cannot be proven."
  .ok ⟨locator, identityDigest⟩

/-- The fingerprint that `execute` and `rollback` compare before a send. -/
def readFingerprint (contract : RecoveryContract) (adapter : CapabilityAdapter)
    (rawTarget : Platform.Obj) : Except Error String := do
  let fingerprint ← adapter.fingerprint rawTarget
  fingerprintDigest contract fingerprint

/-- How `_send` classifies what came back from the write client. -/
def classifySend (result : Except Error TransportResponse) :
    MutationBoundary × EffectKnowledge × Option TransportResponse :=
  match result with
  | .error e =>
    if e.cls = .writeNotAllowed then (.beforeSend, .provenNone, none)
    else if e.cls = .transportConnection ∨ e.cls = .transportRequestNotSent then
      (.beforeSend, .provenNone, none)
    else (.afterSend, .ambiguous, none)
  | .ok response =>
    if 200 ≤ response.statusCode ∧ response.statusCode < 300 then
      (.afterSend, .verifiedSuccess, some response)
    else if 400 ≤ response.statusCode ∧ response.statusCode < 500 then
      (.afterSend, .verifiedFailure, some response)
    else (.afterSend, .ambiguous, some response)

namespace MutationExecutor

/-- `adapter.read_target(self._read_client, …)`. -/
def readTarget : Op Platform.Obj := Op.consult fun i => i.target

/-- `_now`. -/
def now : Op DateTime := Op.consult fun i =>
  match i.executorClock with
  | some t => .ok t
  | none => fail .contractValidation "Mutation executor clock must return UTC."

/-- `_require_pfrest_writable`. -/
def requirePfrestWritable : Op Unit := Op.consult fun i =>
  match i.settings with
  | .error _ => fail .globalReadOnlyBlocked
      "pfREST global Read Only status could not be verified before execution (fail closed)."
  | .ok readOnly =>
    demand (readOnly = some false) .globalReadOnlyBlocked
      "WRITE blocked: owner must disable pfREST Read Only in WebConfigurator."

/-- What happened on the network when a request was handed to the write client; `none` when the
client refused it. -/
def exchangeOf (executor : MutationExecutor) (context : Option AcceptanceExecutionContext)
    (contract : RecoveryContract) (exchange : Exchange) : Option Exchange :=
  match executor.writeClient.path context contract.endpointSymbol contract.httpMethod with
  | .ok _ => some exchange
  | .error _ => none

/-- `_send`. Serialising the request may raise; handing it to the write client does not. -/
def send (executor : MutationExecutor) (call : ℕ) (direction : Direction)
    (contract : RecoveryContract) (request : Request)
    (context : Option AcceptanceExecutionContext) :
    Op (MutationBoundary × EffectKnowledge × Option TransportResponse) := do
  let _ ← Op.check request.modelDumpJson
  Op.atomic fun i s =>
    ({ s with trace := s.trace ++ [.handed call direction contract.contractId
        (executor.exchangeOf context contract i.exchange)] },
      .ok (classifySend (executor.writeClient.send context contract.endpointSymbol
        contract.httpMethod i.exchange)))

/-- `_finish_execute`. -/
def finishExecute (executor : MutationExecutor) (call : ℕ) (contract : RecoveryContract)
    (targetState : RecoveryState) (detail : String) : Op Outcome := do
  let updated ← executor.store.transition call contract.contractId executing
    contract.stateVersion targetState none "state_transition"
  return ⟨contract.contractId, updated.state, detail⟩

/-- `_finish_rollback`. -/
def finishRollback (executor : MutationExecutor) (call : ℕ) (contract : RecoveryContract)
    (targetState : RecoveryState) (detail : String) : Op Outcome := do
  let updated ← executor.store.transition call contract.contractId rollingBack
    contract.stateVersion targetState none "state_transition"
  return ⟨contract.contractId, updated.state, detail⟩

/-! ### Execution -/

/-- What `execute` does after a send that was answered with success. -/
def verifyExecution (executor : MutationExecutor) (call : ℕ) (adapter : CapabilityAdapter)
    (contract : RecoveryContract) (pre : Platform.Obj) (intent : Json)
    (response : TransportResponse) : Op Outcome := do
  let post ← readTarget.attempt
  let observed : Except Error (ResolvedTransportTarget × Except Error String × Option String) := do
    let post ← post
    let target ← resolveTransportTarget contract adapter post
    let outcome ← adapter.parseResponse response
    let verified ← adapter.isSemanticallyVerified pre post intent
    if verified then do
      let fingerprint ← readFingerprint contract adapter post
      .ok (target, outcome, some fingerprint)
    else .ok (target, outcome, none)
  match observed with
  | .error e =>
    executor.finishExecute call contract reconciliation
      s!"post-send verification failed ({e.cls.name})"
  | .ok (target, outcome, some fingerprint) => do
    Op.record (.judged call contract.contractId true)
    let updated ← executor.store.markExecutionVerified call contract.contractId
      contract.stateVersion fingerprint target.numericLocator
    let text ← Op.check outcome
    return ⟨contract.contractId, updated.state, "parsed response: " ++ text⟩
  | .ok (_, _, none) => do
    Op.record (.judged call contract.contractId false)
    executor.finishExecute call contract
      (classifyFault .afterSend .verifiedFailure).targetState
      "response received but not semantically verified"

/-- What `execute` does once the request is built. -/
def sendExecution (executor : MutationExecutor) (call : ℕ) (adapter : CapabilityAdapter)
    (context : Option AcceptanceExecutionContext) (contract : RecoveryContract)
    (pre : Platform.Obj) (intent : Json) (request : Request) : Op Outcome := do
  let sent ← executor.send call .forward contract request context
  match sent with
  | (_, .verifiedSuccess, some response) =>
    executor.verifyExecution call adapter contract pre intent response
  | (boundary, knowledge, _) =>
    executor.finishExecute call contract (classifyFault boundary knowledge).targetState
      (if knowledge = .ambiguous then "ambiguous outcome during send"
      else "mutation refused before any effect")

/-- What `execute` does once the contract is `EXECUTING`. -/
def runExecution (executor : MutationExecutor) (call : ℕ) (adapter : CapabilityAdapter)
    (context : Option AcceptanceExecutionContext) (contract : RecoveryContract) : Op Outcome := do
  let pre ← readTarget.attempt
  match pre with
  | .error e =>
    executor.finishExecute call contract failed s!"pre-send target read failed ({e.cls.name})"
  | .ok pre =>
    match readFingerprint contract adapter pre with
    | .error _ =>
      executor.finishExecute call contract failed "pre-send target validation failed"
    | .ok fingerprint =>
      if fingerprint ≠ contract.targetFingerprint then
        executor.finishExecute call contract failed "target fingerprint drift before send"
      else
        match resolveTransportTarget contract adapter pre with
        | .error _ =>
          executor.finishExecute call contract failed
            "target incarnation continuity unproven before send"
        | .ok target =>
          match (do
            let intent ← decrypt executor.encryptionKey contract contract.protectedIntent .intent
            let request ← adapter.buildRequest intent target
            (.ok (intent, request) : Except Error (Json × Option Request))) with
          | .error e =>
            executor.finishExecute call contract failed
              s!"request construction failed ({e.cls.name})"
          | .ok (_, none) =>
            executor.finishExecute call contract failed "adapter did not return a typed request"
          | .ok (intent, some request) =>
            executor.sendExecution call adapter context contract pre intent request

/-- What `execute` refuses a contract with that is not `EXECUTING` yet. -/
def refuseExecution (executor : MutationExecutor) (call : ℕ) (contract : RecoveryContract)
    (eventType detail : String) : Op Outcome := do
  let failed ← executor.store.transition call contract.contractId prepared contract.stateVersion
    RecoveryState.failed none eventType
  return ⟨failed.contractId, failed.state, detail⟩

/-- The approval that `execute` requires of a `STANDARD_SEALED_WRITE` contract. -/
def approved (registryClass : WriteSecurityClass) : Op Bool :=
  if registryClass = .standardSealedWrite then Op.consult fun i => i.approval else pure true

/-- What `execute` does with a contract of the right security class. -/
def authorizeExecution (executor : MutationExecutor) (call : ℕ) (adapter : CapabilityAdapter)
    (hint : Platform.Obj) (intent : Json) (context : Option AcceptanceExecutionContext)
    (contract : RecoveryContract) (registryClass : WriteSecurityClass) : Op Outcome := do
  Op.check (authorize executor.policy ⟨adapter.capability, adapter.endpointSymbol,
    adapter.httpMethod⟩)
  let targetIdentity ← Op.check (adapter.naturalIdentity hint)
  let targetPrecondition ← Op.check (adapter.fingerprint hint)
  Op.check (contract.verifyBindings adapter.capability adapter.endpointSymbol adapter.httpMethod
    targetIdentity targetPrecondition intent)
  requirePfrestWritable
  let contract ← executor.store.transition call contract.contractId prepared
    contract.stateVersion executing (some (executionPolicies registryClass)) "state_transition"
  executor.runExecution call adapter context contract

/-- `execute`. `hint` is `intent["raw_target_hint"]` and `intent` the whole intent. -/
def execute (executor : MutationExecutor) (call : ℕ) (contractId : String)
    (adapter : CapabilityAdapter) (hint : Platform.Obj) (intent : Json)
    (context : Option AcceptanceExecutionContext) : Op Outcome := do
  let contract ← executor.store.load contractId
  Op.check (demand (contract.state = prepared) .contractConflict
    "Recovery Contract is not PREPARED.")
  Op.check (demand (contract.isConfirmed = true) .contractConflict
    "Recovery Contract is unconfirmed or expired.")
  let instant ← now
  Op.check (demand (contract.isExpired instant = false) .contractConflict
    "Recovery Contract is unconfirmed or expired.")
  match executor.capabilitySecurityClasses contract.capability with
  | none => executor.refuseExecution call contract "security_class_mismatch" classMismatch
  | some registryClass =>
    if registryClass ≠ contract.securityClass then
      executor.refuseExecution call contract "security_class_mismatch" classMismatch
    else do
      let approval ← approved registryClass
      if approval = false then
        executor.refuseExecution call contract "sealed_write_approval_rejected" approvalRejected
      else
        executor.authorizeExecution call adapter hint intent context contract registryClass
where
  /-- The detail of a refused security class. -/
  classMismatch : String :=
    "Recovery Contract refused before execution: persisted security_class does not match " ++
      "the authoritative capability registry. No transport call, witness contact, or " ++
      "EXECUTING transition occurred."
  /-- The detail of a missing approval. -/
  approvalRejected : String :=
    "Recovery Contract refused before execution: no valid STANDARD_SEALED_WRITE owner " ++
      "approval was present. No transport call, witness contact, or EXECUTING transition " ++
      "occurred."

/-! ### Rollback -/

/-- What `rollback` does after a send that was answered with success. -/
def verifyRollback (executor : MutationExecutor) (call : ℕ) (adapter : CapabilityAdapter)
    (contract : RecoveryContract) (snapshot : Json) : Op Outcome := do
  let post ← readTarget.attempt
  let observed : Except Error (ResolvedTransportTarget × Bool) := do
    let post ← post
    let target ← resolveTransportTarget contract adapter post
    let verified ← adapter.isRollbackVerified snapshot post
    .ok (target, verified)
  match observed with
  | .error e =>
    executor.finishRollback call contract reconciliation
      s!"post-rollback verification failed ({e.cls.name})"
  | .ok (target, true) => do
    let updated ← executor.store.markRollbackVerified call contract.contractId
      contract.stateVersion target.numericLocator
    return ⟨contract.contractId, updated.state, "rollback verified"⟩
  | .ok (_, false) =>
    executor.finishRollback call contract
      (classifyFault .duringRollback .verifiedFailure).targetState
      "rollback response received but not semantically verified"

/-- What `rollback` does once the request is built. -/
def sendRollback (executor : MutationExecutor) (call : ℕ) (adapter : CapabilityAdapter)
    (contract : RecoveryContract) (snapshot : Json) (request : Request) : Op Outcome := do
  let sent ← executor.send call .rollback contract request none
  if sent.2.1 = .verifiedSuccess then
    executor.verifyRollback call adapter contract snapshot
  else
    executor.finishRollback call contract
      (classifyFault .duringRollback sent.2.1).targetState
      (if sent.2.1 = .ambiguous then "ambiguous outcome during rollback send"
      else "rollback refused before any effect")

/-- What `rollback` does once the contract is `ROLLING_BACK`. -/
def runRollback (executor : MutationExecutor) (call : ℕ) (adapter : CapabilityAdapter)
    (contract : RecoveryContract) : Op Outcome := do
  let pre ← (do
    let _ ← Op.check (decrypt executor.encryptionKey contract contract.protectedTargetIdentity
      .targetIdentity)
    readTarget : Op Platform.Obj).attempt
  match pre with
  | .error e =>
    executor.finishRollback call contract rollbackFailed
      s!"pre-rollback target read failed ({e.cls.name})"
  | .ok pre =>
    match readFingerprint contract adapter pre with
    | .error _ =>
      executor.finishRollback call contract rollbackFailed "pre-rollback target validation failed"
    | .ok fingerprint =>
      if some fingerprint ≠ contract.verifiedTargetFingerprint then
        executor.finishRollback call contract rollbackFailed "unrelated change detected"
      else
        match resolveTransportTarget contract adapter pre with
        | .error _ =>
          executor.finishRollback call contract rollbackFailed
            "target incarnation continuity unproven before rollback"
        | .ok target =>
          match (do
            let snapshot ← decrypt executor.encryptionKey contract contract.protectedSnapshot
              .snapshot
            let request ← adapter.buildRollbackRequest snapshot target
            (.ok (snapshot, request) : Except Error (Json × Option Request))) with
          | .error e =>
            executor.finishRollback call contract rollbackFailed
              s!"rollback request construction failed ({e.cls.name})"
          | .ok (_, none) =>
            executor.finishRollback call contract rollbackFailed
              "adapter did not return a typed rollback request"
          | .ok (snapshot, some request) =>
            executor.sendRollback call adapter contract snapshot request

/-- `rollback`. -/
def rollback (executor : MutationExecutor) (call : ℕ) (contractId : String)
    (adapter : CapabilityAdapter) : Op Outcome := do
  let contract ← executor.store.load contractId
  Op.check (demand (contract.state = verified) .contractConflict
    "Recovery Contract is not VERIFIED.")
  Op.check (demand (contract.verifiedTargetFingerprint ≠ none) .contractConflict
    "Recovery Contract has no verified post-forward fingerprint.")
  let contract ← executor.store.transition call contractId verified contract.stateVersion
    rollingBack none "state_transition"
  executor.runRollback call adapter contract

/-! ### Observation -/

/-- The origin of the uncertainty that the latest audit event names. -/
def uncertaintyOrigin (latest : AuditEvent) : Except Error RecoveryState :=
  match latest.previousState with
  | some (.text value) =>
    match RecoveryState.ofValue value with
    | some origin => .ok origin
    | none => fail .contractValidation "Reconciliation history is malformed."
  | _ => fail .contractValidation "Reconciliation history is malformed."

/-- `observe_reconciliation_target`. -/
def observeReconciliationTarget (executor : MutationExecutor) (contractId : String)
    (adapter : CapabilityAdapter) : Op AuthoritativeReconciliationObservation := do
  let contract ← executor.store.load contractId
  Op.check (demand (contract.state = reconciliation) .contractConflict
    "Recovery Contract is not in RECONCILIATION.")
  Op.check (demand (adapter.capability = contract.capability ∧
      adapter.endpointSymbol = contract.endpointSymbol ∧
      adapter.httpMethod = contract.httpMethod) .contractValidation
    "Reconciliation adapter does not match the protected contract.")
  let events ← executor.store.auditEvents contract.contractId
  let latest ← Op.check (match events.getLast? with
    | some latest => .ok latest
    | none => fail .contractValidation "Reconciliation history is missing.")
  let origin ← Op.check (uncertaintyOrigin latest)
  Op.check (demand (latest.currentState = .text reconciliation.value ∧
      latest.stateVersion = .integer contract.stateVersion ∧
      (origin = executing ∨ origin = rollingBack)) .contractValidation
    "Reconciliation history does not match the protected contract.")
  let observed ← (do
    let _ ← Op.check (decrypt executor.encryptionKey contract contract.protectedTargetIdentity
      .targetIdentity)
    let rawTarget ← readTarget
    let target ← Op.check (resolveTransportTarget contract adapter rawTarget)
    let fingerprint ← Op.check (readFingerprint contract adapter rawTarget)
    return (target, fingerprint) : Op (ResolvedTransportTarget × String)).attempt
  match observed with
  | .error _ =>
    Op.check (fail .contractValidation "Authoritative reconciliation target observation failed.")
  | .ok (target, fingerprint) =>
    return ⟨contract.contractId, contract.operationId, contract.stateVersion, origin, fingerprint,
      target.numericLocator⟩

end MutationExecutor

end Tier1
