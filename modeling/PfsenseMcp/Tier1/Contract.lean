import Mathlib.Data.Int.Notation
import Mathlib.Data.Nat.Notation
import Mathlib.Tactic.SplitIfs
import PfsenseMcp.Python.DateTime
import PfsenseMcp.Tier1.Canonical
import PfsenseMcp.Tier1.StateMachine

/-!
# The recovery contract

`tier1/contract.py`. Each record is a structure that carries the outcome of its own
`__post_init__`, so that a contract, an artifact or a provenance that the code would refuse to
build is not a value here. `RecoveryContract.ofFields` is the constructor, and
`dataclasses.replace` is the same constructor applied to updated fields.

The `isinstance` checks of the source on fields that have a type here are left out.

## Main results

* `ofFields_eq_ok`: what the constructor returns has the fields it was given;
* `postInit_eq_ok`: the checks of the constructor, in two groups;
* `exists_ofFields`: an update that keeps the identity of a contract is accepted when its new
  progress fields pass their checks.
-/

namespace Tier1

open Python RecoveryState

/-- `pfsense_mcp.capabilities.Capability`: its write members, and its read members by name. -/
inductive Capability where
  | firewallWrite
  | aliasWrite
  | serviceWrite
  | ntpTimeServerPreferWrite
  | ntpSettingsObservabilityWrite
  | logDisplayPreferencesWrite
  | logRetentionSettingsWrite
  | systemTimezoneWrite
  /-- A member whose name is `stem ++ "_READ"`. -/
  | read (stem : String)
deriving DecidableEq, Repr

namespace Capability

/-- `capability.name`. -/
def name : Capability → String
  | firewallWrite => "FIREWALL_WRITE"
  | aliasWrite => "ALIAS_WRITE"
  | serviceWrite => "SERVICE_WRITE"
  | ntpTimeServerPreferWrite => "NTP_TIME_SERVER_PREFER_WRITE"
  | ntpSettingsObservabilityWrite => "NTP_SETTINGS_OBSERVABILITY_WRITE"
  | logDisplayPreferencesWrite => "LOG_DISPLAY_PREFERENCES_WRITE"
  | logRetentionSettingsWrite => "LOG_RETENTION_SETTINGS_WRITE"
  | systemTimezoneWrite => "SYSTEM_TIMEZONE_WRITE"
  | read stem => stem ++ "_READ"

/-- The write members. -/
def writes : List Capability :=
  [firewallWrite, aliasWrite, serviceWrite, ntpTimeServerPreferWrite,
    ntpSettingsObservabilityWrite, logDisplayPreferencesWrite, logRetentionSettingsWrite,
    systemTimezoneWrite]

/-- `capability.name.endswith("_WRITE")`. -/
def isWrite : Capability → Bool
  | read _ => false
  | _ => true

/-- `Capability[name]`, as far as the write members go: `none` is a `KeyError`. -/
def ofName (name : String) : Option Capability := writes.find? fun c => c.name = name

theorem ofName_name {c : Capability} (h : c.isWrite = true) : ofName c.name = some c := by
  cases c with
  | read stem => exact absurd h (by simp [isWrite])
  | _ => decide

end Capability

/-! ### Protected artifacts and provenance -/

/-- `MAX_PROTECTED_ARTIFACT_BYTES`. -/
def maxProtectedArtifactBytes : ℕ := 1048576

/-- `ProtectedArtifact.__post_init__`. -/
def ProtectedArtifact.postInit (keyId algorithm : String) (ciphertext : Bytes) :
    Except Error Unit := do
  demand (isIdentifier keyId = true ∧ isIdentifier algorithm = true) .contractValidation
    "Protected artifact metadata is invalid."
  demand (ciphertext ≠ []) .contractValidation
    "Protected artifact ciphertext must be non-empty bytes."
  demand (ciphertext.length ≤ maxProtectedArtifactBytes) .contractValidation
    "Protected artifact ciphertext exceeds the safety limit."

/-- `ProtectedArtifact`. -/
structure ProtectedArtifact where
  keyId : String
  algorithm : String
  ciphertext : Bytes
  valid : ProtectedArtifact.postInit keyId algorithm ciphertext = .ok ()
deriving DecidableEq

/-- The constructor of `ProtectedArtifact`. -/
def ProtectedArtifact.new (keyId algorithm : String) (ciphertext : Bytes) :
    Except Error ProtectedArtifact :=
  match h : ProtectedArtifact.postInit keyId algorithm ciphertext with
  | .ok () => .ok ⟨keyId, algorithm, ciphertext, h⟩
  | .error e => .error e

/-- The constructor accepts the fields of an artifact. -/
theorem ProtectedArtifact.new_self (a : ProtectedArtifact) :
    ProtectedArtifact.new a.keyId a.algorithm a.ciphertext = .ok a := by
  unfold ProtectedArtifact.new
  split
  · rfl
  · rename_i e h
    exact absurd (a.valid.symm.trans h) (by simp)

/-- The fields of `AuthorizationProvenance`. -/
structure ProvenanceFields where
  schemaVersion : ℤ
  authorizationId : String
  authorityId : String
  planAuthorizationSchemaVersion : ℤ
  planDigest : String
  stepId : String
  executionIntentDigest : String
  authorizationIssuedAt : DateTime
  authorizationExpiresAt : DateTime
  applianceTargetDigest : String
deriving DecidableEq

/-- `AuthorizationProvenance.__post_init__`. -/
def ProvenanceFields.postInit (p : ProvenanceFields) : Except Error Unit := do
  demand (p.schemaVersion = 2) .contractValidation
    "Authorization provenance schema version is unsupported."
  demand (p.planAuthorizationSchemaVersion = 2) .contractValidation
    "Authorization provenance requires PlanAuthorizationV2."
  demand (isIdentifier p.authorizationId = true ∧ isIdentifier p.authorityId = true ∧
      isIdentifier p.stepId = true) .contractValidation
    "Authorization provenance identifier is invalid."
  demand (isHex64 p.planDigest = true ∧ isHex64 p.executionIntentDigest = true ∧
      isHex64 p.applianceTargetDigest = true) .contractValidation
    "Authorization provenance digest is invalid."
  demand (p.authorizationIssuedAt < p.authorizationExpiresAt) .contractValidation
    "Authorization provenance validity window is invalid."

/-- `AuthorizationProvenance`. -/
structure AuthorizationProvenance extends ProvenanceFields where
  valid : toProvenanceFields.postInit = .ok ()
deriving DecidableEq

/-- The constructor of `AuthorizationProvenance`. -/
def AuthorizationProvenance.ofFields (p : ProvenanceFields) :
    Except Error AuthorizationProvenance :=
  match h : p.postInit with
  | .ok () => .ok ⟨p, h⟩
  | .error e => .error e

/-- The constructor accepts the fields of a provenance. -/
theorem AuthorizationProvenance.ofFields_self (p : AuthorizationProvenance) :
    AuthorizationProvenance.ofFields p.toProvenanceFields = .ok p := by
  unfold AuthorizationProvenance.ofFields
  split
  · rfl
  · rename_i e h
    exact absurd (p.valid.symm.trans h) (by simp)

/-! ### Contracts -/

variable [Platform]

/-- `derive_idempotency_key`. -/
def deriveIdempotencyKey (capability : Capability) (endpointSymbol httpMethod
    targetIdentityDigest targetFingerprint : String) (lifecycleLocator : ℤ)
    (intentDigest snapshotDigest rollbackPlanVersion : String) : Except Error String :=
  digestValue .idempotency
    (.obj [("intent_digest", .str intentDigest), ("lifecycle_locator", .int lifecycleLocator),
      ("rollback_plan_version", .str rollbackPlanVersion), ("snapshot_digest", .str snapshotDigest),
      ("target_fingerprint", .str targetFingerprint),
      ("target_identity_digest", .str targetIdentityDigest)])
    [capability.name, endpointSymbol, httpMethod]

/-- The fields of `RecoveryContract`. -/
structure ContractFields where
  contractId : String
  operationId : String
  idempotencyKey : String
  capability : Capability
  securityClass : WriteSecurityClass
  endpointSymbol : String
  httpMethod : String
  targetIdentityDigest : String
  targetFingerprint : String
  lifecycleLocator : ℤ
  intentDigest : String
  snapshotDigest : String
  rollbackPlanVersion : String
  createdAt : DateTime
  expiresAt : DateTime
  state : RecoveryState
  stateVersion : ℤ
  protectedTargetIdentity : ProtectedArtifact
  protectedIntent : ProtectedArtifact
  protectedSnapshot : ProtectedArtifact
  authorizationProvenance : Option AuthorizationProvenance := none
  confirmationDigest : Option String := none
  confirmedAt : Option DateTime := none
  verifiedTargetFingerprint : Option String := none
deriving DecidableEq

omit [Platform] in
/-- The methods of `_MUTATING_METHODS`. -/
def isMutatingMethod (method : String) : Bool :=
  ["POST", "PUT", "PATCH", "DELETE"].contains method

omit [Platform] in
/-- The states in which a verified fingerprint is forbidden. -/
def forbidsVerifiedFingerprint : RecoveryState → Bool
  | preparing | prepared | executing => true
  | _ => false

omit [Platform] in
/-- The states in which a verified fingerprint is required. -/
def requiresVerifiedFingerprint : RecoveryState → Bool
  | verified | rollingBack => true
  | _ => false

namespace ContractFields

omit [Platform] in
/-- The rule of `__post_init__` on the state and the verified fingerprint. -/
def FingerprintConsistent (c : ContractFields) : Prop :=
  (forbidsVerifiedFingerprint c.state = true → c.verifiedTargetFingerprint = none) ∧
    (requiresVerifiedFingerprint c.state = true → c.verifiedTargetFingerprint ≠ none)

omit [Platform] in
instance (c : ContractFields) : Decidable c.FingerprintConsistent :=
  inferInstanceAs (Decidable (_ ∧ _))

omit [Platform] in
/-- The message of the state and fingerprint rule. -/
def fingerprintMessage : String :=
  "Recovery Contract state and verified target fingerprint are inconsistent."

/-- `RecoveryContract.__post_init__`. -/
def postInit (c : ContractFields) : Except Error Unit := do
  demand (isIdentifier c.contractId = true ∧ isIdentifier c.operationId = true ∧
      isIdentifier c.endpointSymbol = true ∧ isIdentifier c.rollbackPlanVersion = true)
    .contractValidation "Recovery Contract identifier is invalid."
  demand (c.capability.isWrite = true) .contractValidation
    "Recovery Contract capability must be a WRITE capability."
  demand (isMutatingMethod c.httpMethod = true) .contractValidation
    "Recovery Contract HTTP method is not mutating and allow-listed."
  demand (isHex64 c.idempotencyKey = true ∧ isHex64 c.targetIdentityDigest = true ∧
      isHex64 c.targetFingerprint = true ∧ isHex64 c.intentDigest = true ∧
      isHex64 c.snapshotDigest = true) .contractValidation "Recovery Contract digest is invalid."
  demand (0 ≤ c.lifecycleLocator ∧ c.lifecycleLocator ≤ 2147483647) .contractValidation
    "Recovery Contract lifecycle locator is invalid."
  demand (∀ d ∈ c.confirmationDigest, isHex64 d = true) .contractValidation
    "Recovery Contract confirmation digest is invalid."
  demand (∀ d ∈ c.verifiedTargetFingerprint, isHex64 d = true) .contractValidation
    "Verified target fingerprint is invalid."
  demand c.FingerprintConsistent .contractValidation fingerprintMessage
  demand (c.createdAt < c.expiresAt) .contractValidation
    "Recovery Contract expiry must follow creation."
  demand (0 ≤ c.stateVersion) .contractValidation "Recovery Contract state version is invalid."
  demand (c.confirmationDigest = none ↔ c.confirmedAt = none) .contractValidation
    "Confirmation digest and timestamp must be set together."
  demand (∀ t ∈ c.confirmedAt, c.createdAt ≤ t ∧ t < c.expiresAt) .contractValidation
    "Recovery Contract confirmation timestamp is outside its validity window."
  demand (∀ p ∈ c.authorizationProvenance, c.expiresAt ≤ p.authorizationExpiresAt)
    .contractValidation "Recovery Contract outlives its source authorization."
  let expected ← deriveIdempotencyKey c.capability c.endpointSymbol c.httpMethod
    c.targetIdentityDigest c.targetFingerprint c.lifecycleLocator c.intentDigest c.snapshotDigest
    c.rollbackPlanVersion
  demand (c.idempotencyKey = expected) .contractValidation
    "Recovery Contract idempotency binding is invalid."

end ContractFields

/-- `RecoveryContract`. -/
structure RecoveryContract extends ContractFields where
  valid : toContractFields.postInit = .ok ()
deriving DecidableEq

namespace RecoveryContract

/-- The constructor of `RecoveryContract`, and `dataclasses.replace` on updated fields. -/
def ofFields (c : ContractFields) : Except Error RecoveryContract :=
  match h : c.postInit with
  | .ok () => .ok ⟨c, h⟩
  | .error e => .error e

theorem ext_fields {c d : RecoveryContract} (h : c.toContractFields = d.toContractFields) :
    c = d := by
  cases c
  cases d
  cases h
  rfl

/-- What the constructor returns has the fields it was given. -/
theorem ofFields_eq_ok {f : ContractFields} {c : RecoveryContract} :
    ofFields f = .ok c ↔ c.toContractFields = f := by
  unfold ofFields
  split
  · rename_i h
    rw [Except.ok.injEq]
    exact ⟨fun hc => by rw [← hc], fun hc => ext_fields hc.symm⟩
  · rename_i e h
    refine ⟨nofun, fun hc => ?_⟩
    rw [← hc] at h
    exact absurd (c.valid.symm.trans h) (by simp)

theorem ofFields_eq_error {f : ContractFields} {e : Error} (h : ofFields f = .error e) :
    f.postInit = .error e := by
  unfold ofFields at h
  split at h
  · cases h
  · rename_i e' h'
    cases h
    exact h'

/-- `is_confirmed`. -/
def isConfirmed (c : RecoveryContract) : Bool := c.confirmationDigest.isSome

/-- `is_expired(now=now)`. -/
def isExpired (c : RecoveryContract) (now : DateTime) : Bool := c.expiresAt ≤ now

/-- `with_confirmation`. -/
def withConfirmation (c : RecoveryContract) (authorityId evidenceDigest : String)
    (confirmedAt : DateTime) : Except Error RecoveryContract := do
  demand (c.state = prepared ∧ c.isConfirmed = false) .contractBinding
    "Recovery Contract cannot accept this confirmation."
  demand (isIdentifier authorityId = true) .contractValidation
    "Confirmation authority identifier is invalid."
  demand (isHex64 evidenceDigest = true) .contractValidation
    "Confirmation evidence digest is invalid."
  let digest ← digestValue .confirmation
    (.obj [("authority_id", .str authorityId), ("contract_id", .str c.contractId),
      ("evidence_digest", .str evidenceDigest), ("expires_at", .str c.expiresAt.isoformat),
      ("intent_digest", .str c.intentDigest), ("operation_id", .str c.operationId),
      ("target_fingerprint", .str c.targetFingerprint),
      ("target_identity_digest", .str c.targetIdentityDigest)]) []
  ofFields { c.toContractFields with
    confirmationDigest := some digest, confirmedAt := some confirmedAt,
    stateVersion := c.stateVersion + 1 }

/-- `verify_bindings`. -/
def verifyBindings (c : RecoveryContract) (capability : Capability)
    (endpointSymbol httpMethod : String) (targetIdentity targetPrecondition normalizedIntent : Json) :
    Except Error Unit := do
  let context := [c.capability.name, c.endpointSymbol, c.httpMethod]
  let identity ← digestValue .targetIdentity targetIdentity [c.capability.name]
  let fingerprint ← digestValue .targetFingerprint targetPrecondition context
  let intent ← digestValue .intent normalizedIntent context
  demand ((capability, endpointSymbol, httpMethod, identity, fingerprint, intent) =
      (c.capability, c.endpointSymbol, c.httpMethod, c.targetIdentityDigest, c.targetFingerprint,
        c.intentDigest)) .contractBinding
    "Execution request does not match the authoritative Recovery Contract."

/-! ### What every contract satisfies -/

end RecoveryContract

namespace ContractFields

omit [Platform] in
/-- The fields that no update of a contract touches. -/
structure SameIdentity (c d : ContractFields) : Prop where
  contractId : d.contractId = c.contractId
  operationId : d.operationId = c.operationId
  idempotencyKey : d.idempotencyKey = c.idempotencyKey
  capability : d.capability = c.capability
  securityClass : d.securityClass = c.securityClass
  endpointSymbol : d.endpointSymbol = c.endpointSymbol
  httpMethod : d.httpMethod = c.httpMethod
  targetIdentityDigest : d.targetIdentityDigest = c.targetIdentityDigest
  targetFingerprint : d.targetFingerprint = c.targetFingerprint
  lifecycleLocator : d.lifecycleLocator = c.lifecycleLocator
  intentDigest : d.intentDigest = c.intentDigest
  snapshotDigest : d.snapshotDigest = c.snapshotDigest
  rollbackPlanVersion : d.rollbackPlanVersion = c.rollbackPlanVersion
  createdAt : d.createdAt = c.createdAt
  expiresAt : d.expiresAt = c.expiresAt
  authorizationProvenance : d.authorizationProvenance = c.authorizationProvenance

omit [Platform] in
theorem SameIdentity.refl (c : ContractFields) : c.SameIdentity c := by
  constructor <;> rfl

omit [Platform] in
theorem SameIdentity.symm {c d : ContractFields} (h : c.SameIdentity d) : d.SameIdentity c := by
  constructor
  · exact h.contractId.symm
  · exact h.operationId.symm
  · exact h.idempotencyKey.symm
  · exact h.capability.symm
  · exact h.securityClass.symm
  · exact h.endpointSymbol.symm
  · exact h.httpMethod.symm
  · exact h.targetIdentityDigest.symm
  · exact h.targetFingerprint.symm
  · exact h.lifecycleLocator.symm
  · exact h.intentDigest.symm
  · exact h.snapshotDigest.symm
  · exact h.rollbackPlanVersion.symm
  · exact h.createdAt.symm
  · exact h.expiresAt.symm
  · exact h.authorizationProvenance.symm

omit [Platform] in
theorem SameIdentity.trans {c d e : ContractFields} (h₁ : c.SameIdentity d)
    (h₂ : d.SameIdentity e) : c.SameIdentity e := by
  constructor
  · exact h₂.contractId.trans h₁.contractId
  · exact h₂.operationId.trans h₁.operationId
  · exact h₂.idempotencyKey.trans h₁.idempotencyKey
  · exact h₂.capability.trans h₁.capability
  · exact h₂.securityClass.trans h₁.securityClass
  · exact h₂.endpointSymbol.trans h₁.endpointSymbol
  · exact h₂.httpMethod.trans h₁.httpMethod
  · exact h₂.targetIdentityDigest.trans h₁.targetIdentityDigest
  · exact h₂.targetFingerprint.trans h₁.targetFingerprint
  · exact h₂.lifecycleLocator.trans h₁.lifecycleLocator
  · exact h₂.intentDigest.trans h₁.intentDigest
  · exact h₂.snapshotDigest.trans h₁.snapshotDigest
  · exact h₂.rollbackPlanVersion.trans h₁.rollbackPlanVersion
  · exact h₂.createdAt.trans h₁.createdAt
  · exact h₂.expiresAt.trans h₁.expiresAt
  · exact h₂.authorizationProvenance.trans h₁.authorizationProvenance

/-- The checks of `__post_init__` on the fields that no update touches. -/
structure IdentityValid (c : ContractFields) : Prop where
  contractId : isIdentifier c.contractId = true
  operationId : isIdentifier c.operationId = true
  endpointSymbol : isIdentifier c.endpointSymbol = true
  rollbackPlanVersion : isIdentifier c.rollbackPlanVersion = true
  capability : c.capability.isWrite = true
  httpMethod : isMutatingMethod c.httpMethod = true
  idempotencyKey : isHex64 c.idempotencyKey = true
  targetIdentityDigest : isHex64 c.targetIdentityDigest = true
  targetFingerprint : isHex64 c.targetFingerprint = true
  intentDigest : isHex64 c.intentDigest = true
  snapshotDigest : isHex64 c.snapshotDigest = true
  lifecycleLocator : 0 ≤ c.lifecycleLocator ∧ c.lifecycleLocator ≤ 2147483647
  window : c.createdAt < c.expiresAt
  provenance : ∀ p ∈ c.authorizationProvenance, c.expiresAt ≤ p.authorizationExpiresAt
  binding : deriveIdempotencyKey c.capability c.endpointSymbol c.httpMethod
    c.targetIdentityDigest c.targetFingerprint c.lifecycleLocator c.intentDigest c.snapshotDigest
    c.rollbackPlanVersion = .ok c.idempotencyKey

/-- The checks of `__post_init__` on the fields that updates change. -/
structure ProgressValid (c : ContractFields) : Prop where
  confirmationDigest : ∀ d ∈ c.confirmationDigest, isHex64 d = true
  verifiedTargetFingerprint : ∀ d ∈ c.verifiedTargetFingerprint, isHex64 d = true
  fingerprintConsistent : c.FingerprintConsistent
  stateVersion : 0 ≤ c.stateVersion
  confirmed : c.confirmationDigest = none ↔ c.confirmedAt = none
  confirmedAt : ∀ t ∈ c.confirmedAt, c.createdAt ≤ t ∧ t < c.expiresAt

/-- `__post_init__` accepts exactly the fields that pass both groups of checks. -/
theorem postInit_eq_ok {c : ContractFields} :
    c.postInit = .ok () ↔ c.IdentityValid ∧ c.ProgressValid := by
  simp only [postInit, bind_eq_ok, demand_eq_ok]
  constructor
  · rintro ⟨_, ⟨h₁, h₂, h₃, h₄⟩, _, h₅, _, h₆, _, ⟨h₇, h₈, h₉, h₁₀, h₁₁⟩, _, h₁₂, _, h₁₃, _, h₁₄, _,
      h₁₅, _, h₁₆, _, h₁₇, _, h₁₈, _, h₁₉, _, h₂₀, key, hkey, hbind⟩
    rw [← hbind] at hkey
    exact ⟨⟨h₁, h₂, h₃, h₄, h₅, h₆, h₇, h₈, h₉, h₁₀, h₁₁, h₁₂, h₁₆, h₂₀, hkey⟩,
      ⟨h₁₃, h₁₄, h₁₅, h₁₇, h₁₈, h₁₉⟩⟩
  · rintro ⟨i, p⟩
    exact ⟨(), ⟨i.contractId, i.operationId, i.endpointSymbol, i.rollbackPlanVersion⟩, (),
      i.capability, (), i.httpMethod, (), ⟨i.idempotencyKey, i.targetIdentityDigest,
        i.targetFingerprint, i.intentDigest, i.snapshotDigest⟩, (), i.lifecycleLocator, (),
      p.confirmationDigest, (), p.verifiedTargetFingerprint, (), p.fingerprintConsistent, (),
      i.window, (), p.stateVersion, (), p.confirmed, (), p.confirmedAt, (), i.provenance, _,
      i.binding, rfl⟩

theorem IdentityValid.of_sameIdentity {c d : ContractFields} (h : c.IdentityValid)
    (hsame : c.SameIdentity d) : d.IdentityValid := by
  constructor
  · rw [hsame.contractId]; exact h.contractId
  · rw [hsame.operationId]; exact h.operationId
  · rw [hsame.endpointSymbol]; exact h.endpointSymbol
  · rw [hsame.rollbackPlanVersion]; exact h.rollbackPlanVersion
  · rw [hsame.capability]; exact h.capability
  · rw [hsame.httpMethod]; exact h.httpMethod
  · rw [hsame.idempotencyKey]; exact h.idempotencyKey
  · rw [hsame.targetIdentityDigest]; exact h.targetIdentityDigest
  · rw [hsame.targetFingerprint]; exact h.targetFingerprint
  · rw [hsame.intentDigest]; exact h.intentDigest
  · rw [hsame.snapshotDigest]; exact h.snapshotDigest
  · rw [hsame.lifecycleLocator]; exact h.lifecycleLocator
  · rw [hsame.createdAt, hsame.expiresAt]; exact h.window
  · rw [hsame.authorizationProvenance, hsame.expiresAt]; exact h.provenance
  · rw [hsame.capability, hsame.endpointSymbol, hsame.httpMethod, hsame.targetIdentityDigest,
      hsame.targetFingerprint, hsame.lifecycleLocator, hsame.intentDigest, hsame.snapshotDigest,
      hsame.rollbackPlanVersion, hsame.idempotencyKey]
    exact h.binding

end ContractFields

namespace RecoveryContract

theorem identityValid (c : RecoveryContract) : c.IdentityValid :=
  (ContractFields.postInit_eq_ok.mp c.valid).1

theorem progressValid (c : RecoveryContract) : c.ProgressValid :=
  (ContractFields.postInit_eq_ok.mp c.valid).2

/-- An update that keeps the identity of a contract is accepted exactly when its new progress
fields are. -/
theorem exists_ofFields {c : RecoveryContract} {f : ContractFields}
    (hsame : c.SameIdentity f) (hprogress : f.ProgressValid) :
    ∃ d, ofFields f = .ok d ∧ d.toContractFields = f := by
  have hvalid := ContractFields.postInit_eq_ok.mpr
    ⟨c.identityValid.of_sameIdentity hsame, hprogress⟩
  exact ⟨⟨f, hvalid⟩, ofFields_eq_ok.mpr rfl, rfl⟩

end RecoveryContract

end Tier1
