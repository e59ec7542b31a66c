import Mathlib.Data.Nat.Notation
import PfsenseMcp.Tier1.Executor
import PfsenseMcp.Tier1.NonceCounter

/-!
# What the execution cores write

The encrypting half of `tier1/crypto.py`, and the contract that `WriteExecutionCoreV1` of
`tier1/write_execution_core.py` makes of a prepared write.

Authenticated encryption is a parameter, `aesGcmEncrypt`. `Platform` has its inverse.
-/

namespace Tier1

open Python RecoveryState

/-! ### Encryption -/

/-- `KeyRecord`, for encryption. -/
structure KeyRecord where
  keyId : String
  epoch : ℕ
  material : Bytes
  isIdentifier_keyId : isIdentifier keyId = true
  material_length : material.length = 32

/-- `_associated_data`. -/
def associatedData (contractId : String) (role : ArtifactRole) : Except Error Bytes :=
  frameContext ["pfSense-MCP/Tier1/ArtifactAEAD/v1", contractId, role.value]

variable [Platform]

section Encryption

variable (aesGcmEncrypt : (key nonce data associatedData : Bytes) → Bytes)

/-- `encrypt_artifact`. -/
def encryptArtifact (key : Bytes) (keyId contractId : String) (role : ArtifactRole)
    (plaintext nonce : Bytes) : Except Error ProtectedArtifact := do
  demand (key.length = 32) .artifactDecryption "Encryption key must be exactly 32 bytes."
  demand (nonce.length = 12) .artifactDecryption "Nonce must be exactly 12 bytes."
  let data ← associatedData contractId role
  ProtectedArtifact.new keyId "aes-256-gcm-v1" (nonce ++ aesGcmEncrypt key nonce plaintext data)

/-- The `_encrypt` of a core; `counter` is what its nonce counter issues. -/
def KeyRecord.encrypt (key : KeyRecord) (counter : ℕ) (contractId : String) (role : ArtifactRole)
    (value : Json) : Except Error ProtectedArtifact := do
  let nonce ← buildNonce key.epoch counter
  let plaintext ← canonicalJson value
  encryptArtifact aesGcmEncrypt key.material key.keyId contractId role plaintext nonce

end Encryption

/-! ### Contracts -/

/-- `PreparedWriteExecutionV1`, by what the core reads of it: the fields of its intent, the state
of the target as `raw_target_fn` returns it, and its `numeric_locator`. -/
structure PreparedWrite where
  capability : Capability
  endpointSymbol : String
  httpMethod : String
  rollbackPlanVersion : String
  resourceTarget : Json
  targetPrecondition : Json
  normalizedMutationIntent : List (String × Json)
  rollbackSnapshot : Json
  rawTarget : Json
  numericLocator : ℤ

namespace PreparedWrite

/-- The `executor_intent` of a prepared write. -/
def executorIntent (prepared : PreparedWrite) : Json :=
  .obj (Json.setField ("raw_target_hint", prepared.rawTarget) prepared.normalizedMutationIntent)

/-- `_IdempotencyDerivation`. -/
structure IdempotencyDerivation where
  targetIdentityDigest : String
  targetFingerprintDigest : String
  intentDigest : String
  snapshotDigest : String
  idempotencyKey : String

/-- `_derive_idempotency`. -/
def deriveIdempotency (prepared : PreparedWrite) : Except Error IdempotencyDerivation := do
  let context := [prepared.capability.name, prepared.endpointSymbol, prepared.httpMethod]
  let target ← digestValue .targetIdentity prepared.resourceTarget [prepared.capability.name]
  let fingerprint ← digestValue .targetFingerprint prepared.targetPrecondition context
  let intent ← digestValue .intent prepared.executorIntent context
  let snapshot ← digestValue .snapshot prepared.rollbackSnapshot context
  let key ← deriveIdempotencyKey prepared.capability prepared.endpointSymbol prepared.httpMethod
    target fingerprint prepared.numericLocator intent snapshot prepared.rollbackPlanVersion
  .ok ⟨target, fingerprint, intent, snapshot, key⟩

end PreparedWrite

/-- `WriteExecutionCoreV1`, by what the making of a contract reads of it. -/
structure WriteExecutionCore where
  contractIdPrefix : String
  securityClass : WriteSecurityClass
  encryptionKey : KeyRecord

/-- The `hex` of a `uuid4()`. -/
def isUuidHex (text : String) : Bool :=
  text.toList.length == 32 &&
    text.toList.all fun c => ('0' ≤ c ∧ c ≤ '9') ∨ ('a' ≤ c ∧ c ≤ 'f')

/-- `_create_contract`. The identifiers that `uuid4` returns and the last value of the nonce
counter are arguments. -/
def WriteExecutionCore.createContract
    (aesGcmEncrypt : (key nonce data associatedData : Bytes) → Bytes) (core : WriteExecutionCore)
    (prepared : PreparedWrite) (createdAt expiresAt : DateTime)
    (provenance : AuthorizationProvenance) (uuid operationUuid : String) (counter : ℕ) :
    Except Error RecoveryContract := do
  let contractId := core.contractIdPrefix ++ "-" ++ uuid
  let operationId := core.contractIdPrefix ++ "-op-" ++ operationUuid
  let derived ← prepared.deriveIdempotency
  let encrypt := core.encryptionKey.encrypt aesGcmEncrypt
  let identity ← encrypt (counter + 1) contractId .targetIdentity prepared.resourceTarget
  let intent ← encrypt (counter + 2) contractId .intent (.obj prepared.normalizedMutationIntent)
  let snapshot ← encrypt (counter + 3) contractId .snapshot prepared.rollbackSnapshot
  RecoveryContract.ofFields
    { contractId := contractId
      operationId := operationId
      idempotencyKey := derived.idempotencyKey
      capability := prepared.capability
      securityClass := core.securityClass
      endpointSymbol := prepared.endpointSymbol
      httpMethod := prepared.httpMethod
      targetIdentityDigest := derived.targetIdentityDigest
      targetFingerprint := derived.targetFingerprintDigest
      lifecycleLocator := prepared.numericLocator
      intentDigest := derived.intentDigest
      snapshotDigest := derived.snapshotDigest
      rollbackPlanVersion := prepared.rollbackPlanVersion
      createdAt := createdAt
      expiresAt := expiresAt
      state := preparing
      stateVersion := 0
      protectedTargetIdentity := identity
      protectedIntent := intent
      protectedSnapshot := snapshot
      authorizationProvenance := some provenance }

end Tier1
