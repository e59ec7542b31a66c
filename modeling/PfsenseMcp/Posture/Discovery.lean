import Mathlib.Data.Int.Notation
import Mathlib.Data.Nat.Notation
import PfsenseMcp.Posture.Types
import PfsenseMcp.Tier1.AntiRollback

/-!
# Discovery of the anchor assurance

`discover_anchor_assurance` of `security_discovery.py`, which reads the store, and
`discover_anchor_assurance_from_export` of `security_discovery_export.py`, which reads a signed
export instead, with the export of `tier1/anchor_evidence_export.py`. Both ask the live witness.
The `evidence` of a discovery is prose, and is left out.

## Main results

* `discoverAnchorAssuranceFromExport_eq`: an accepted export of a status that the store reports
  leads to the same discovery.
-/

namespace Posture

open Python Tier1

/-! ### What is discovered -/

/-- `AnchorEvidenceState`. -/
inductive AnchorEvidenceState where
  | unconfigured
  | configurationInvalid
  | configuredNotCreated
  | storeError
  | configuredUnprovisioned
  | provisionedUnverified
  | provisionedUnreachable
  | provisionedVerified
  | provisionedMismatch
deriving DecidableEq, Repr

/-- The wire value. -/
def AnchorEvidenceState.value : AnchorEvidenceState → String
  | unconfigured => "unconfigured"
  | configurationInvalid => "configuration_invalid"
  | configuredNotCreated => "configured_not_created"
  | storeError => "store_error"
  | configuredUnprovisioned => "configured_unprovisioned"
  | provisionedUnverified => "provisioned_unverified"
  | provisionedUnreachable => "provisioned_unreachable"
  | provisionedVerified => "provisioned_verified"
  | provisionedMismatch => "provisioned_mismatch"

/-- `AnchorAssuranceDiscovery`. -/
structure AnchorAssuranceDiscovery where
  value : AnchorAssurance
  evidenceState : AnchorEvidenceState
  storeConfigured : Bool
  storeExists : Option Bool
  seeded : Option Bool
  complete : Option Bool
  handle : Option String
  baseline : Option ℤ
  provisionedAt : Option String
  witnessConfigured : Bool
  witnessReachable : Option Bool
  witnessValue : Option ℤ
  witnessMatchesBaseline : Option Bool
deriving DecidableEq

/-- `AnchorProvisioningStatus`. -/
structure AnchorProvisioningStatus where
  seeded : Bool
  baseline : Option ℤ
  complete : Bool
  handle : Option String
  provisionedAt : Option String
deriving DecidableEq

/-! ### The environment -/

/-- What a `ProductionStoreConfig` leads to. -/
structure ProductionStore where
  /-- `store_path.exists()`. -/
  pathExists : Bool
  /-- The integrity key that `load_key_material` returns, with the store id. -/
  identity : Except Error StoreIdentity
  /-- The tables behind the read-only connection; an `sqlite3.Error` is an integrity error. -/
  connection : Except Error Database

/-- What building the witness client and reading the counter lead to. -/
inductive WitnessAnswer where
  | value (counter : ℤ)
  /-- `OSError`, `ssl.SSLError`, `AnchorUnavailableError` or another `Tier1Error`. -/
  | unreadable
  /-- Any other exception. -/
  | escapes (e : Error)

/-- `_WitnessClientConfig`. -/
structure WitnessClientConfig where
  baseUrl : Text
  clientCertFile : Text
  clientKeyFile : Text
  serverCaFile : Text

/-- What discovery finds in its environment. -/
structure DiscoveryEnvironment where
  /-- `discover_capability_posture(env).value`. -/
  capabilityPosture : Except Error CapabilityPosture
  /-- `load_production_store_config`. -/
  storeConfig : Except Error (Option ProductionStore)
  /-- `PFSENSE_TIER1_WITNESS_BASE_URL`. -/
  witnessBaseUrl : Option Text
  /-- `PFSENSE_TIER1_WITNESS_CLIENT_CERT_FILE`. -/
  witnessClientCert : Option Text
  /-- `PFSENSE_TIER1_WITNESS_CLIENT_KEY_FILE`. -/
  witnessClientKey : Option Text
  /-- `PFSENSE_TIER1_WITNESS_SERVER_CA_FILE`. -/
  witnessServerCa : Option Text
  /-- The witness that a configuration reaches. -/
  witness : WitnessClientConfig → WitnessAnswer

/-- The names of `Tier1Error` and its subclasses. -/
def tier1ErrorNames : List String :=
  ["Tier1Error", "CanonicalizationError", "ContractValidationError", "ContractNotFoundError",
    "ContractIntegrityError", "ContractConflictError", "IllegalTransitionError",
    "MutationPolicyError", "ContractBindingError", "ConfirmationError", "KeyMaterialError",
    "KeyExhaustedError", "ArtifactDecryptionError", "AnchorUnavailableError",
    "AnchorConflictError", "AnchorAlreadyProvisionedError", "WholeStoreRollbackDetected",
    "Tier1ConfigurationError", "RateLimitExceededError", "AuthorizationConsumptionError",
    "PreparedExecutionIntentError", "BoundExecutionError", "ArtifactExchangeError",
    "AcceptanceError", "GlobalReadOnlyBlockedError", "AnchorEvidenceExportError"]

/-- The exception is a `Tier1Error`. -/
def isTier1Error (e : Error) : Bool := e.cls.name ∈ tier1ErrorNames

/-- A variable that is set to something. -/
def setTo (entry : Option Text) : Option Text := entry.filter fun t => t ≠ []

/-- `_load_witness_client_config`, of which both modules have a copy. -/
def loadWitnessClientConfig (env : DiscoveryEnvironment) :
    Except Error (Option WitnessClientConfig) :=
  match setTo env.witnessBaseUrl, setTo env.witnessClientCert, setTo env.witnessClientKey,
    setTo env.witnessServerCa with
  | none, none, none, none => .ok none
  | some baseUrl, some clientCert, some clientKey, some serverCa =>
    if (Text.ofString "https://").isPrefixOf baseUrl then
      .ok (some ⟨baseUrl, clientCert, clientKey, serverCa⟩)
    else fail (.other "Tier1Error") "PFSENSE_TIER1_WITNESS_BASE_URL must use https."
  | baseUrl, clientCert, clientKey, serverCa =>
    fail (.other "Tier1Error") ("Witness client configuration is partial; missing: " ++
      ", ".intercalate ([("PFSENSE_TIER1_WITNESS_BASE_URL", baseUrl),
        ("PFSENSE_TIER1_WITNESS_CLIENT_CERT_FILE", clientCert),
        ("PFSENSE_TIER1_WITNESS_CLIENT_KEY_FILE", clientKey),
        ("PFSENSE_TIER1_WITNESS_SERVER_CA_FILE", serverCa)].filterMap fun entry =>
          if entry.2.isNone then some entry.1 else none))

/-! ### From the store -/

section Store

variable [Platform]

/-- `read_only_anchor_provisioning_status`; `str` is the function of Python's standard library. -/
def readOnlyAnchorProvisioningStatus (str : Json → String) (config : ProductionStore) :
    Except Error AnchorProvisioningStatus := do
  let identity ← config.identity
  let db ← config.connection
  let seeded := HighWaterMark.isSeeded db
  let baseline : Option ℤ ← if seeded then do
      let mark ← HighWaterMark.read identity db
      .ok (some (mark : ℤ))
    else .ok none
  let marker ← ProvisioningRecord.read identity db
  .ok ⟨seeded, baseline, marker.isSome, marker.map fun m => str m.1, marker.map fun m => str m.2⟩

omit [Platform] in
/-- `_anchor_result`, of a store that has been read. -/
def anchorResult (value : AnchorAssurance) (evidenceState : AnchorEvidenceState)
    (status : AnchorProvisioningStatus) (witnessConfigured : Bool)
    (witnessReachable : Option Bool) (witnessValue : Option ℤ)
    (witnessMatchesBaseline : Option Bool) : AnchorAssuranceDiscovery where
  value := value
  evidenceState := evidenceState
  storeConfigured := true
  storeExists := some true
  seeded := some status.seeded
  complete := some status.complete
  handle := status.handle
  baseline := status.baseline
  provisionedAt := status.provisionedAt
  witnessConfigured := witnessConfigured
  witnessReachable := witnessReachable
  witnessValue := witnessValue
  witnessMatchesBaseline := witnessMatchesBaseline

omit [Platform] in
/-- `_anchor_result`, without a status. -/
def unreadResult (value : AnchorAssurance) (evidenceState : AnchorEvidenceState)
    (storeConfigured : Bool) (storeExists : Option Bool) : AnchorAssuranceDiscovery where
  value := value
  evidenceState := evidenceState
  storeConfigured := storeConfigured
  storeExists := storeExists
  seeded := none
  complete := none
  handle := none
  baseline := none
  provisionedAt := none
  witnessConfigured := false
  witnessReachable := none
  witnessValue := none
  witnessMatchesBaseline := none

omit [Platform] in
/-- What `discover_anchor_assurance` does with the status of a provisioned store. -/
def verifyLive (env : DiscoveryEnvironment) (status : AnchorProvisioningStatus) :
    Except Error AnchorAssuranceDiscovery :=
  match loadWitnessClientConfig env with
  | .error _ | .ok none =>
    .ok (anchorResult .hardwareWitness .provisionedUnverified status false none none none)
  | .ok (some config) =>
    match env.witness config with
    | .unreadable =>
      .ok (anchorResult .hardwareWitness .provisionedUnreachable status true (some false) none none)
    | .escapes e => .error e
    | .value current =>
      let matched : Bool := some current = status.baseline
      .ok (anchorResult .hardwareWitness
        (if matched then .provisionedVerified else .provisionedMismatch) status true (some true)
        (some current) (some matched))

/-- `discover_anchor_assurance`. -/
def discoverAnchorAssurance (str : Json → String) (env : DiscoveryEnvironment) :
    Except Error AnchorAssuranceDiscovery :=
  match env.storeConfig with
  | .error e =>
    if e.cls.name = "Tier1ConfigurationError" then
      .ok (unreadResult .unknown .configurationInvalid true none)
    else .error e
  | .ok none => .ok (unreadResult .none .unconfigured false none)
  | .ok (some config) =>
    if config.pathExists then
      match readOnlyAnchorProvisioningStatus str config with
      | .error e =>
        if isTier1Error e then .ok (unreadResult .unknown .storeError true none) else .error e
      | .ok status =>
        if status.seeded ∧ status.complete then verifyLive env status
        else .ok (anchorResult .none .configuredUnprovisioned status false none none none)
    else .ok (unreadResult .none .configuredNotCreated true (some false))

end Store

/-! ### From an export -/

/-- A text matched by `0x[0-9a-fA-F]{8}`. -/
def isHandle (text : String) : Bool :=
  match text.toList with
  | '0' :: 'x' :: digits => digits.length == 8 && digits.all fun c =>
    c.isDigit || ('a' ≤ c && c ≤ 'f') || ('A' ≤ c && c ≤ 'F')
  | _ => false

/-- `AnchorEvidenceExportError`. -/
def anchorEvidenceExportError : ErrorClass := .other "AnchorEvidenceExportError"

/-- The fields of an `AnchorEvidenceExportPayload`; its instants are in UTC. -/
structure ExportPayloadFields where
  schemaVersion : ℤ
  storeId : String
  handle : String
  baseline : ℤ
  provisionedAt : String
  issuedAt : DateTime
  expiresAt : DateTime
deriving DecidableEq

/-- `AnchorEvidenceExportPayload.__post_init__`. -/
def ExportPayloadFields.postInit (p : ExportPayloadFields) : Except Error Unit := do
  demand (p.schemaVersion = 1) anchorEvidenceExportError
    "AnchorEvidenceExport payload schema_version is unsupported."
  demand (isIdentifier p.storeId = true) anchorEvidenceExportError
    "AnchorEvidenceExport payload store_id is invalid."
  demand (isHandle p.handle = true) anchorEvidenceExportError
    "AnchorEvidenceExport payload handle is invalid."
  demand (0 ≤ p.baseline) anchorEvidenceExportError
    "AnchorEvidenceExport payload baseline must be a non-negative integer."
  demand (p.provisionedAt ≠ "") anchorEvidenceExportError
    "AnchorEvidenceExport payload provisioned_at is invalid."
  demand (¬p.expiresAt ≤ p.issuedAt) anchorEvidenceExportError
    "AnchorEvidenceExport payload validity window is invalid."

/-- The fields of an `AnchorEvidenceExport`. -/
structure ExportFields extends ExportPayloadFields where
  authorityId : String
  proof : Bytes
deriving DecidableEq

/-- `AnchorEvidenceExport.__post_init__`. -/
def ExportFields.postInit (e : ExportFields) : Except Error Unit := do
  e.toExportPayloadFields.postInit
  demand (isIdentifier e.authorityId = true) anchorEvidenceExportError
    "AnchorEvidenceExport authority_id is invalid."
  demand (e.proof.length = 64) anchorEvidenceExportError
    "AnchorEvidenceExport proof must be a 64-byte Ed25519 signature."

/-- `AnchorEvidenceExport`: fields that its constructor accepts. -/
structure AnchorEvidenceExport extends ExportFields where
  accepted : toExportFields.postInit = .ok ()

/-- `PinnedAuthoritySet.verify_signature`, by the authority, the message and the signature. -/
abbrev VerifySignature := String → Bytes → Bytes → Bool

section Export

variable [Platform]

/-- `anchor_evidence_export_signing_payload`. -/
def anchorEvidenceExportSigningPayload (p : ExportPayloadFields) : Except Error Bytes :=
  canonicalJson (.obj [("digest_purpose", .str "pfsense-mcp-anchor-evidence-export-v1"),
    ("schema_version", .int p.schemaVersion), ("store_id", .str p.storeId),
    ("handle", .str p.handle), ("baseline", .int p.baseline),
    ("provisioned_at", .str p.provisionedAt), ("issued_at", .str p.issuedAt.isoformat),
    ("expires_at", .str p.expiresAt.isoformat)])

/-- `verify_anchor_evidence_export_signature`. -/
def verifyAnchorEvidenceExportSignature (e : AnchorEvidenceExport) (verify : VerifySignature) :
    Except Error Bool := do
  let message ← anchorEvidenceExportSigningPayload e.toExportPayloadFields
  .ok (verify e.authorityId message e.proof)

omit [Platform] in
/-- `_result`, of an export. -/
def exportResult (value : AnchorAssurance) (evidenceState : AnchorEvidenceState)
    (e : Option AnchorEvidenceExport) (witnessConfigured : Bool) (witnessReachable : Option Bool)
    (witnessValue : Option ℤ) (witnessMatchesBaseline : Option Bool) :
    AnchorAssuranceDiscovery where
  value := value
  evidenceState := evidenceState
  storeConfigured := true
  storeExists := some true
  seeded := e.map fun _ => true
  complete := e.map fun _ => true
  handle := e.map fun e => e.handle
  baseline := e.map fun e => e.baseline
  provisionedAt := e.map fun e => e.provisionedAt
  witnessConfigured := witnessConfigured
  witnessReachable := witnessReachable
  witnessValue := witnessValue
  witnessMatchesBaseline := witnessMatchesBaseline

/-- `discover_anchor_assurance_from_export`. -/
def discoverAnchorAssuranceFromExport (e : AnchorEvidenceExport) (authorities : VerifySignature)
    (expectedStoreId : String) (now : DateTime) (env : DiscoveryEnvironment) :
    Except Error AnchorAssuranceDiscovery := do
  let verified ← verifyAnchorEvidenceExportSignature e authorities
  if verified = false then
    .ok (exportResult .unknown .storeError none false none none none)
  else if e.storeId ≠ expectedStoreId then
    .ok (exportResult .unknown .configurationInvalid none false none none none)
  else if ¬e.issuedAt ≤ now then
    .ok (exportResult .unknown .configurationInvalid none false none none none)
  else if e.expiresAt ≤ now then
    .ok (exportResult .unknown .configurationInvalid none false none none none)
  else
    match loadWitnessClientConfig env with
    | .error _ | .ok none =>
      .ok (exportResult .hardwareWitness .provisionedUnverified (some e) false none none none)
    | .ok (some config) =>
      match env.witness config with
      | .unreadable =>
        .ok (exportResult .hardwareWitness .provisionedUnreachable (some e) true (some false) none
          none)
      | .escapes error => .error error
      | .value current =>
        let matched : Bool := current = e.baseline
        .ok (exportResult .hardwareWitness
          (if matched then .provisionedVerified else .provisionedMismatch) (some e) true
          (some true) (some current) (some matched))

/-! ### Both paths agree -/

/-- The export carries what the status of a provisioned store says. -/
structure Carries (e : AnchorEvidenceExport) (status : AnchorProvisioningStatus) : Prop where
  handle : status.handle = some e.handle
  baseline : status.baseline = some e.baseline
  provisionedAt : status.provisionedAt = some e.provisionedAt

/-- The export is accepted: it verifies, names the expected store, and is within its window. -/
structure Admissible (e : AnchorEvidenceExport) (authorities : VerifySignature)
    (expectedStoreId : String) (now : DateTime) : Prop where
  verified : verifyAnchorEvidenceExportSignature e authorities = .ok true
  storeId : e.storeId = expectedStoreId
  issued : e.issuedAt ≤ now
  unexpired : ¬e.expiresAt ≤ now

/-- The environment leads to a store with this status. -/
structure Configured (str : Json → String) (env : DiscoveryEnvironment)
    (config : ProductionStore) (status : AnchorProvisioningStatus) : Prop where
  storeConfig : env.storeConfig = .ok (some config)
  pathExists : config.pathExists = true
  status : readOnlyAnchorProvisioningStatus str config = .ok status

omit [Platform] in
/-- What is reported of a provisioned store is what is reported of an export that carries it. -/
theorem exportResult_eq {e : AnchorEvidenceExport} {status : AnchorProvisioningStatus}
    (hseeded : status.seeded = true) (hcomplete : status.complete = true) (h : Carries e status)
    (value : AnchorAssurance) (state : AnchorEvidenceState) (configured : Bool)
    (reachable : Option Bool) (current : Option ℤ) (matched : Option Bool) :
    exportResult value state (some e) configured reachable current matched =
      anchorResult value state status configured reachable current matched := by
  simp only [exportResult, anchorResult, Option.map_some, hseeded, hcomplete, h.handle,
    h.baseline, h.provisionedAt]

/-- An accepted export of a status that the store reports leads to the same discovery. -/
theorem discoverAnchorAssuranceFromExport_eq {str : Json → String} {env : DiscoveryEnvironment}
    {config : ProductionStore} {status : AnchorProvisioningStatus} {e : AnchorEvidenceExport}
    {authorities : VerifySignature} {expectedStoreId : String} {now : DateTime}
    (henv : Configured str env config status) (hseeded : status.seeded = true)
    (hcomplete : status.complete = true) (hcarries : Carries e status)
    (he : Admissible e authorities expectedStoreId now) :
    discoverAnchorAssuranceFromExport e authorities expectedStoreId now env =
      discoverAnchorAssurance str env := by
  have hresult := exportResult_eq hseeded hcomplete hcarries
  have hstore : discoverAnchorAssurance str env = verifyLive env status := by
    simp only [discoverAnchorAssurance, henv.storeConfig, henv.pathExists, if_true, henv.status,
      hseeded, hcomplete, and_self]
  rw [hstore, discoverAnchorAssuranceFromExport, he.verified, ok_bind, if_neg (by decide),
    if_neg (not_not.mpr he.storeId), if_neg (not_not.mpr he.issued), if_neg he.unexpired, verifyLive]
  cases loadWitnessClientConfig env with
  | error error => exact congrArg _ (hresult ..)
  | ok config =>
    cases config with
    | none => exact congrArg _ (hresult ..)
    | some config =>
      dsimp only
      cases env.witness config with
      | unreadable => exact congrArg _ (hresult ..)
      | escapes error => rfl
      | value current =>
        -- the comparison is with the baseline of the export, and with that of the status
        simp only [hresult, hcarries.baseline, Option.some.injEq]

end Export

end Posture
