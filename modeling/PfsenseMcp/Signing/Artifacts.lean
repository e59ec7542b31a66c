import PfsenseMcp.Posture.Plan
import PfsenseMcp.Tier1.CanonicalForm
import PfsenseMcp.Tier1.Evidence

/-!
# Signed artifacts

The artifacts of `security_authorization.py` and `tier1/sealed_write_approval.py`, and the bytes that
the signatures of these and of the other signed artifacts cover: the canonical encoding of a
dictionary of their fields. The artifacts of one authority are told apart by the text of the field
`digest_purpose`, or by the keys of this dictionary.

An artifact carries what its `__post_init__` has checked. A text that no pattern restricts is a
sequence of code points, among which there may be surrogates. All times are in UTC.
-/

namespace Signing

open Python Tier1 Posture

/-! ### Authorizations -/

/-- `_ED25519_SIGNATURE_BYTES`. -/
def ed25519SignatureBytes : ℕ := 64

/-- `AUTHORIZATION_SIGNING_ALGORITHM`. -/
def authorizationSigningAlgorithm : String := "ed25519-v1"

/-- `_AUTHORIZATION_LEVEL_RANK`. -/
def authorizationLevelRank : AuthorizationLevel → Option ℕ
  | .noneRequired => some 0
  | .configurationChange => some 1
  | .interactiveHardwareConfirmation => some 2
  | .milestone9ActivationDecision => some 3
  | .separateDeprovisionAuthorization => none
  | .undeterminedNotImplemented => none

/-- `AuthorizationEvidenceFingerprint`. -/
structure AuthorizationEvidenceFingerprint where
  capabilityPostureValue : Text
  anchorAssuranceValue : Text
  anchorEvidenceState : Text
  anchorBaseline : Option ℤ
  anchorWitnessValue : Option ℤ
  anchorProvisionedAt : Option Text
  valid : capabilityPostureValue ≠ [] ∧ anchorAssuranceValue ≠ [] ∧ anchorEvidenceState ≠ []
deriving DecidableEq

/-- A checked text, which has no surrogates. -/
def scalarText (s : String) : Value := .str (Text.ofString s)

/-- An optional integer. -/
def optionalInt : Option ℤ → Value
  | some n => .int n
  | none => .none

/-- An optional text. -/
def optionalText : Option Text → Value
  | some t => .str t
  | none => .none

/-- A dictionary with given keys. -/
def dictOf (fields : List (String × Value)) : Value :=
  .dict (fields.map fun f => (.str (Text.ofString f.1), f.2))

/-- `AuthorizationEvidenceFingerprint.to_payload`. -/
def AuthorizationEvidenceFingerprint.toPayload (f : AuthorizationEvidenceFingerprint) :
    List (String × Value) :=
  [("capability_posture_value", .str f.capabilityPostureValue),
    ("anchor_assurance_value", .str f.anchorAssuranceValue),
    ("anchor_evidence_state", .str f.anchorEvidenceState),
    ("anchor_baseline", optionalInt f.anchorBaseline),
    ("anchor_witness_value", optionalInt f.anchorWitnessValue),
    ("anchor_provisioned_at", optionalText f.anchorProvisionedAt)]

/-- The fields that both versions of a plan authorization have. -/
structure AuthorizationFields where
  schemaVersion : ℤ
  authorizationId : String
  planDigest : String
  authorityId : String
  algorithm : String
  proof : Bytes
  issuedAt : DateTime
  expiresAt : DateTime
  riskClass : AuthorizationLevel
  evidenceFingerprint : AuthorizationEvidenceFingerprint
deriving DecidableEq

/-- What the constructors of both versions check of these. -/
def AuthorizationFields.Valid (schemaVersion : ℤ) (a : AuthorizationFields) : Prop :=
  a.schemaVersion = schemaVersion ∧ isIdentifier a.authorizationId = true ∧
    isIdentifier a.authorityId = true ∧ a.algorithm = authorizationSigningAlgorithm ∧
    isHex64 a.planDigest = true ∧ a.proof.length = ed25519SignatureBytes ∧
    a.issuedAt < a.expiresAt ∧ (authorizationLevelRank a.riskClass).isSome = true

instance (schemaVersion : ℤ) (a : AuthorizationFields) : Decidable (a.Valid schemaVersion) := by
  unfold AuthorizationFields.Valid
  infer_instance

/-- `PlanAuthorization`. -/
structure PlanAuthorization extends AuthorizationFields where
  authorizedStepIds : List Text
  valid : toAuthorizationFields.Valid 1
  valid_steps : authorizedStepIds ≠ [] ∧ (∀ step ∈ authorizedStepIds, step ≠ []) ∧
    authorizedStepIds.Nodup

/-- `PlanAuthorizationStepBinding`. -/
structure PlanAuthorizationStepBinding where
  stepId : String
  executionIntentDigest : String
  valid : isIdentifier stepId = true ∧ isHex64 executionIntentDigest = true
deriving DecidableEq

/-- `PlanAuthorizationStepBinding.to_payload`. -/
def PlanAuthorizationStepBinding.toPayload (b : PlanAuthorizationStepBinding) :
    List (String × Value) :=
  [("step_id", scalarText b.stepId),
    ("execution_intent_digest", scalarText b.executionIntentDigest)]

/-- `PlanAuthorizationV2`. -/
structure PlanAuthorizationV2 extends AuthorizationFields where
  authorizedExecutions : List PlanAuthorizationStepBinding
  valid : toAuthorizationFields.Valid 2
  valid_steps : authorizedExecutions ≠ [] ∧
    (authorizedExecutions.map PlanAuthorizationStepBinding.stepId).Nodup

/-- `DeprovisionAuthorization`. -/
structure DeprovisionAuthorization where
  schemaVersion : ℤ
  authorizationId : String
  targetIdentityDigest : String
  authorityId : String
  algorithm : String
  proof : Bytes
  issuedAt : DateTime
  expiresAt : DateTime
  valid : schemaVersion = 1 ∧ isIdentifier authorizationId = true ∧
    isIdentifier authorityId = true ∧ algorithm = authorizationSigningAlgorithm ∧
    isHex64 targetIdentityDigest = true ∧ proof.length = ed25519SignatureBytes ∧
    issuedAt < expiresAt

/-! ### Sealed write approvals -/

/-- `SealedWriteApproval`. -/
structure SealedWriteApproval where
  schemaVersion : ℤ
  contractId : String
  stateVersion : ℤ
  securityClass : WriteSecurityClass
  executionIntentDigest : String
  targetIdentityDigest : String
  issuedAt : DateTime
  expiresAt : DateTime
  authorityId : String
  proof : Bytes
  valid : schemaVersion = 1 ∧ isIdentifier contractId = true ∧ 0 ≤ stateVersion ∧
    isHex64 executionIntentDigest = true ∧ isHex64 targetIdentityDigest = true ∧
    issuedAt < expiresAt ∧ isIdentifier authorityId = true ∧
    proof.length = ed25519SignatureBytes

/-! ### Exports of anchor evidence -/

/-- `AnchorEvidenceExport`. -/
structure AnchorExport where
  schemaVersion : ℤ
  storeId : String
  handle : String
  baseline : ℤ
  provisionedAt : Text
  issuedAt : DateTime
  expiresAt : DateTime
  authorityId : String
  proof : Bytes
  valid : schemaVersion = 1 ∧ isIdentifier storeId = true ∧ isHandle handle = true ∧
    0 ≤ baseline ∧ provisionedAt ≠ [] ∧ issuedAt < expiresAt ∧ isIdentifier authorityId = true ∧
    proof.length = ed25519SignatureBytes

/-! ### What is signed -/

/-- `sorted` of texts. -/
def sortTexts (texts : List Text) : List Text := texts.mergeSort fun s t => !decide (t < s)

/-- `sorted` of bindings by step and digest. -/
def sortBindings (bindings : List PlanAuthorizationStepBinding) :
    List PlanAuthorizationStepBinding :=
  bindings.mergeSort fun b c => !(Json.keyLt c.stepId b.stepId ||
    (c.stepId == b.stepId && Json.keyLt c.executionIntentDigest b.executionIntentDigest))

/-- The signed fields of `plan_authorization_signing_payload`. -/
def PlanAuthorization.signedFields (a : PlanAuthorization) : List (String × Value) :=
  [("digest_purpose", scalarText DigestPurpose.planAuthorization.value),
    ("schema_version", .int a.schemaVersion),
    ("authorization_id", scalarText a.authorizationId),
    ("plan_digest", scalarText a.planDigest),
    ("authorized_step_ids", .list ((sortTexts a.authorizedStepIds).map .str)),
    ("authority_id", scalarText a.authorityId),
    ("algorithm", scalarText a.algorithm),
    ("issued_at", scalarText a.issuedAt.isoformat),
    ("expires_at", scalarText a.expiresAt.isoformat),
    ("risk_class", scalarText a.riskClass.value),
    ("evidence_fingerprint", dictOf a.evidenceFingerprint.toPayload)]

/-- The signed fields of `plan_authorization_v2_signing_payload`. -/
def PlanAuthorizationV2.signedFields (a : PlanAuthorizationV2) : List (String × Value) :=
  [("digest_purpose", scalarText DigestPurpose.planAuthorizationV2.value),
    ("schema_version", .int a.schemaVersion),
    ("authorization_id", scalarText a.authorizationId),
    ("plan_digest", scalarText a.planDigest),
    ("authorized_executions",
      .list ((sortBindings a.authorizedExecutions).map fun b => dictOf b.toPayload)),
    ("authority_id", scalarText a.authorityId),
    ("algorithm", scalarText a.algorithm),
    ("issued_at", scalarText a.issuedAt.isoformat),
    ("expires_at", scalarText a.expiresAt.isoformat),
    ("risk_class", scalarText a.riskClass.value),
    ("evidence_fingerprint", dictOf a.evidenceFingerprint.toPayload)]

/-- The signed fields of `deprovision_authorization_signing_payload`. -/
def DeprovisionAuthorization.signedFields (a : DeprovisionAuthorization) : List (String × Value) :=
  [("digest_purpose", scalarText DigestPurpose.deprovisionAuthorization.value),
    ("schema_version", .int a.schemaVersion),
    ("authorization_id", scalarText a.authorizationId),
    ("target_identity_digest", scalarText a.targetIdentityDigest),
    ("authority_id", scalarText a.authorityId),
    ("algorithm", scalarText a.algorithm),
    ("issued_at", scalarText a.issuedAt.isoformat),
    ("expires_at", scalarText a.expiresAt.isoformat)]

/-- The signed fields of `confirmation_providers.signing_payload`. -/
def confirmationFields (e : ConfirmationFields) : List (String × Value) :=
  [("algorithm", scalarText e.algorithm), ("authority_id", scalarText e.authorityId),
    ("contract_id", scalarText e.contractId), ("expires_at", scalarText e.expiresAt.isoformat),
    ("intent_digest", scalarText e.intentDigest), ("issued_at", scalarText e.issuedAt.isoformat),
    ("nonce", scalarText e.nonce), ("operation_id", scalarText e.operationId),
    ("target_fingerprint", scalarText e.targetFingerprint),
    ("target_identity_digest", scalarText e.targetIdentityDigest)]

/-- The wire value of an outcome. -/
def outcomeValue : ReconciliationOutcome → String
  | .confirmedApplied => "confirmed_applied"
  | .confirmedNotApplied => "confirmed_not_applied"
  | .confirmedRollbackApplied => "confirmed_rollback_applied"
  | .confirmedRollbackNotApplied => "confirmed_rollback_not_applied"

/-- The signed fields of `reconciliation_providers.signing_payload`. -/
def reconciliationFields (e : ReconciliationFields) : List (String × Value) :=
  [("algorithm", scalarText e.algorithm), ("authority_id", scalarText e.authorityId),
    ("contract_id", scalarText e.contractId), ("issued_at", scalarText e.issuedAt.isoformat),
    ("observed_state_version", .int e.observedStateVersion),
    ("operation_id", scalarText e.operationId), ("outcome", scalarText (outcomeValue e.outcome)),
    ("verified_target_fingerprint", optionalText (e.verifiedTargetFingerprint.map Text.ofString)),
    ("verified_lifecycle_locator", optionalInt e.verifiedLifecycleLocator)]

/-- The signed fields of `sealed_write_approval_signing_payload`. -/
def SealedWriteApproval.signedFields (a : SealedWriteApproval) : List (String × Value) :=
  [("digest_purpose", scalarText "pfsense-mcp-standard-sealed-write-approval-v1"),
    ("schema_version", .int a.schemaVersion),
    ("contract_id", scalarText a.contractId),
    ("state_version", .int a.stateVersion),
    ("security_class", scalarText a.securityClass.value),
    ("execution_intent_digest", scalarText a.executionIntentDigest),
    ("target_identity_digest", scalarText a.targetIdentityDigest),
    ("issued_at", scalarText a.issuedAt.isoformat),
    ("expires_at", scalarText a.expiresAt.isoformat)]

/-- The signed fields of `anchor_evidence_export_signing_payload`. -/
def AnchorExport.signedFields (p : AnchorExport) : List (String × Value) :=
  [("digest_purpose", scalarText "pfsense-mcp-anchor-evidence-export-v1"),
    ("schema_version", .int p.schemaVersion),
    ("store_id", scalarText p.storeId),
    ("handle", scalarText p.handle),
    ("baseline", .int p.baseline),
    ("provisioned_at", .str p.provisionedAt),
    ("issued_at", scalarText p.issuedAt.isoformat),
    ("expires_at", scalarText p.expiresAt.isoformat)]

/-- The artifacts that are signed. -/
inductive SignedArtifact where
  | planAuthorization (a : PlanAuthorization)
  | planAuthorizationV2 (a : PlanAuthorizationV2)
  | deprovisionAuthorization (a : DeprovisionAuthorization)
  | confirmationEvidence (e : ConfirmationEvidence)
  | reconciliationEvidence (e : ReconciliationEvidence)
  | sealedWriteApproval (a : SealedWriteApproval)
  | anchorEvidenceExport (e : AnchorExport)

namespace SignedArtifact

/-- The dictionary that is signed. -/
def signedFields : SignedArtifact → List (String × Value)
  | planAuthorization a => a.signedFields
  | planAuthorizationV2 a => a.signedFields
  | deprovisionAuthorization a => a.signedFields
  | confirmationEvidence e => confirmationFields e.toConfirmationFields
  | reconciliationEvidence e => reconciliationFields e.toReconciliationFields
  | sealedWriteApproval a => a.signedFields
  | anchorEvidenceExport e => e.signedFields

/-- The bytes that the signature covers. -/
def signingPayload [Platform] (a : SignedArtifact) : Except Error Bytes :=
  (dictOf a.signedFields).canonicalJson

end SignedArtifact

/-! ### Kinds -/

/-- The kinds of signed artifacts. -/
inductive Kind where
  | planAuthorization
  | planAuthorizationV2
  | deprovisionAuthorization
  | confirmationEvidence
  | reconciliationEvidence
  | sealedWriteApproval
  | anchorEvidenceExport
deriving DecidableEq, Repr

namespace Kind

/-- The keys of the dictionary that is signed. -/
def keys : Kind → List String
  | planAuthorization =>
    ["digest_purpose", "schema_version", "authorization_id", "plan_digest", "authorized_step_ids",
      "authority_id", "algorithm", "issued_at", "expires_at", "risk_class", "evidence_fingerprint"]
  | planAuthorizationV2 =>
    ["digest_purpose", "schema_version", "authorization_id", "plan_digest",
      "authorized_executions", "authority_id", "algorithm", "issued_at", "expires_at",
      "risk_class", "evidence_fingerprint"]
  | deprovisionAuthorization =>
    ["digest_purpose", "schema_version", "authorization_id", "target_identity_digest",
      "authority_id", "algorithm", "issued_at", "expires_at"]
  | confirmationEvidence =>
    ["algorithm", "authority_id", "contract_id", "expires_at", "intent_digest", "issued_at",
      "nonce", "operation_id", "target_fingerprint", "target_identity_digest"]
  | reconciliationEvidence =>
    ["algorithm", "authority_id", "contract_id", "issued_at", "observed_state_version",
      "operation_id", "outcome", "verified_target_fingerprint", "verified_lifecycle_locator"]
  | sealedWriteApproval =>
    ["digest_purpose", "schema_version", "contract_id", "state_version", "security_class",
      "execution_intent_digest", "target_identity_digest", "issued_at", "expires_at"]
  | anchorEvidenceExport =>
    ["digest_purpose", "schema_version", "store_id", "handle", "baseline", "provisioned_at",
      "issued_at", "expires_at"]

/-- The text under `digest_purpose`. -/
def purpose : Kind → Option String
  | planAuthorization => some "plan-authorization"
  | planAuthorizationV2 => some "plan-authorization-v2"
  | deprovisionAuthorization => some "deprovision-authorization"
  | confirmationEvidence => none
  | reconciliationEvidence => none
  | sealedWriteApproval => some "pfsense-mcp-standard-sealed-write-approval-v1"
  | anchorEvidenceExport => some "pfsense-mcp-anchor-evidence-export-v1"

/-- The purpose tells the kinds apart, besides the two that have none. -/
theorem eq_or_of_purpose {k l : Kind} (h : k.purpose = l.purpose) :
    k = l ∨ (k = confirmationEvidence ∧ l = reconciliationEvidence) ∨
      (k = reconciliationEvidence ∧ l = confirmationEvidence) := by
  revert h
  rcases k <;> rcases l <;> decide

end Kind

namespace SignedArtifact

/-- The kind of an artifact. -/
def kind : SignedArtifact → Kind
  | planAuthorization _ => .planAuthorization
  | planAuthorizationV2 _ => .planAuthorizationV2
  | deprovisionAuthorization _ => .deprovisionAuthorization
  | confirmationEvidence _ => .confirmationEvidence
  | reconciliationEvidence _ => .reconciliationEvidence
  | sealedWriteApproval _ => .sealedWriteApproval
  | anchorEvidenceExport _ => .anchorEvidenceExport

/-- The keys of the signed fields. -/
theorem keys_signedFields (a : SignedArtifact) :
    a.signedFields.map Prod.fst = a.kind.keys := by
  rcases a with a | a | a | a | a | a | a <;> rfl

/-- No key occurs twice. -/
theorem nodup_signedFields (a : SignedArtifact) : (a.signedFields.map Prod.fst).Nodup := by
  rw [keys_signedFields]
  rcases a.kind <;> decide

end SignedArtifact

/-! ### Exports that are read as strings -/

/-- An export whose time of provisioning has no surrogates. -/
def AnchorExport.ofPosture (e : AnchorEvidenceExport) : AnchorExport where
  schemaVersion := e.schemaVersion
  storeId := e.storeId
  handle := e.handle
  baseline := e.baseline
  provisionedAt := Text.ofString e.provisionedAt
  issuedAt := e.issuedAt
  expiresAt := e.expiresAt
  authorityId := e.authorityId
  proof := e.proof
  valid := by
    have haccepted := e.accepted
    simp only [ExportFields.postInit, ExportPayloadFields.postInit, bind_eq_ok, demand_eq_ok]
      at haccepted
    obtain ⟨_, ⟨_, hversion, _, hstore, _, hhandle, _, hbaseline, _, hprovisioned, hwindow⟩, _,
      hauthority, hproof⟩ := haccepted
    refine ⟨hversion, hstore, hhandle, hbaseline, ?_, Nat.lt_of_not_le hwindow, hauthority, hproof⟩
    intro h
    have hread : Text.toString? (Text.ofString e.provisionedAt) = some "" := by rw [h]; rfl
    rw [Text.toString?_ofString] at hread
    exact hprovisioned (Option.some.inj hread)

/-- The bytes of such an export are those of `anchor_evidence_export_signing_payload`. -/
theorem signingPayload_ofPosture [Platform] (e : AnchorEvidenceExport) :
    (SignedArtifact.anchorEvidenceExport (.ofPosture e)).signingPayload =
      anchorEvidenceExportSigningPayload e.toExportPayloadFields := by
  rw [anchorEvidenceExportSigningPayload, ← Value.canonicalJson_ofJson]
  rfl

end Signing
