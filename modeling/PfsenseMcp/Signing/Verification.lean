import PfsenseMcp.Signing.Payloads
import PfsenseMcp.Tier1.Lifecycle

/-!
# Verification

`security_authorization_verifier.py` and the verifiers of exports, approvals and plan digests. They
are meant to answer with a truth value on every input. They raise where the canonical encoding
refuses an artifact that was constructed, or where a text to be compared is not ASCII.

## Main results

* `VerificationCall.answers_iff`: which calls return a truth value.
-/

namespace Signing

open Python Tier1 Posture

/-! ### Comparisons -/

/-- A text of ASCII characters. -/
def isAsciiText (t : Text) : Bool := t.all fun c => c.val < 128

/-- `hmac.compare_digest` of two texts, among which there may be surrogates. -/
def compareTexts (a b : Text) : Except Error Bool :=
  if isAsciiText a && isAsciiText b then .ok (a == b)
  else fail (.other "TypeError") "comparing strings with non-ASCII characters is not supported"

theorem isAsciiText_ofString (s : String) : isAsciiText (Text.ofString s) = isAscii s := by
  rw [isAsciiText, isAscii, Text.ofString, List.all_map]
  rfl

/-- Comparing with a digest. -/
theorem exists_compareTexts_iff {s : String} (hs : isHex64 s = true) {t : Text} :
    (∃ b, compareTexts (Text.ofString s) t = .ok b) ↔ isAsciiText t = true := by
  rw [compareTexts, isAsciiText_ofString, isAscii_of_isHex64 hs, Bool.true_and]
  split_ifs with h
  · exact iff_of_true ⟨_, rfl⟩ h
  · exact iff_of_false (by simp [fail]) h

/-- Texts that can be compared. -/
theorem compareTexts_of_isAscii {s : String} (hs : isHex64 s = true) {t : Text}
    (ht : isAsciiText t = true) :
    compareTexts (Text.ofString s) t = .ok (Text.ofString s == t) := by
  rw [compareTexts, isAsciiText_ofString, isAscii_of_isHex64 hs, ht]
  rfl

theorem compareTexts_of_not_isAscii (a : Text) {t : Text} (ht : ¬isAsciiText t = true) :
    compareTexts a t = fail (.other "TypeError")
      "comparing strings with non-ASCII characters is not supported" := by
  rw [compareTexts, eq_false_of_ne_true ht, Bool.and_false]
  rfl

/-! ### Plans of a setup -/

/-- `TargetDescriptor`. -/
structure TargetDescriptor where
  origin : Option Text
  identity : Option Text
  tlsMode : Option Text
  reachabilityVerified : Bool

/-- `PrivilegePlan`, without its note. -/
structure PrivilegePlan where
  intendedCapabilityPosture : CapabilityPosture
  intendedAccountIdentity : Text
  dedicatedAccountProvisioningImplemented : Bool
  schemaProvided : Bool
  requiredPrivileges : Option (List Text)
  unresolvedRequirementToolNames : List Text
  accountMode : Option Text

/-- `VersionEvidence`, without its note. -/
structure VersionEvidence where
  schemaProvided : Bool
  declaredPackageVersion : Option Text
  packageVersionSupported : Option Bool

/-- `SetupPlan`, as far as its digest depends on it. -/
structure SetupPlan where
  target : TargetDescriptor
  posturePlan : SecurityPosturePlan
  privilegePlan : PrivilegePlan
  versionEvidence : VersionEvidence
  unsupportedSteps : List Text

/-- An optional truth value. -/
def optionalBool : Option Bool → Value
  | some b => .bool b
  | none => .none

/-- An optional list of texts. -/
def optionalTexts : Option (List Text) → Value
  | some texts => .list (texts.map .str)
  | none => .none

/-- `_setup_plan_payload`, by the digest of the posture plan. -/
def SetupPlan.payload (plan : SetupPlan) (posturePlanDigest : String) : List (String × Value) :=
  [("schema_version", .int 2),
    ("target_origin", optionalText plan.target.origin),
    ("target_identity", optionalText plan.target.identity),
    ("target_tls_mode", optionalText plan.target.tlsMode),
    ("target_reachability_verified", .bool plan.target.reachabilityVerified),
    ("posture_plan_digest", scalarText posturePlanDigest),
    ("intended_capability_posture",
      scalarText plan.privilegePlan.intendedCapabilityPosture.value),
    ("intended_account_identity", .str plan.privilegePlan.intendedAccountIdentity),
    ("read_only_account_mode", optionalText plan.privilegePlan.accountMode),
    ("dedicated_account_provisioning_implemented",
      .bool plan.privilegePlan.dedicatedAccountProvisioningImplemented),
    ("privilege_schema_provided", .bool plan.privilegePlan.schemaProvided),
    ("required_privileges", optionalTexts plan.privilegePlan.requiredPrivileges),
    ("unresolved_requirement_tool_names",
      .list (plan.privilegePlan.unresolvedRequirementToolNames.map .str)),
    ("version_schema_provided", .bool plan.versionEvidence.schemaProvided),
    ("declared_package_version", optionalText plan.versionEvidence.declaredPackageVersion),
    ("package_version_supported", optionalBool plan.versionEvidence.packageVersionSupported),
    ("unsupported_step_count", .int plan.unsupportedSteps.length)]

section Model

variable [Platform]

/-- `compute_setup_plan_digest`. -/
def computeSetupPlanDigest (plan : SetupPlan) : Except Error String := do
  let posturePlanDigest ← computePlanDigest plan.posturePlan
  Value.digestValue .setupPlan (dictOf (plan.payload posturePlanDigest)) []

/-! ### Verifiers -/

/-- `verify_plan_authorization_signature`. -/
def verifyPlanAuthorizationSignature (a : PlanAuthorization) (authorities : VerifySignature) :
    Except Error Bool := do
  if a.algorithm ≠ authorizationSigningAlgorithm then .ok false
  else
    let message ← (SignedArtifact.planAuthorization a).signingPayload
    .ok (authorities a.authorityId message a.proof)

/-- `verify_plan_authorization_v2_signature`. -/
def verifyPlanAuthorizationV2Signature (a : PlanAuthorizationV2) (authorities : VerifySignature) :
    Except Error Bool := do
  if a.algorithm ≠ authorizationSigningAlgorithm then .ok false
  else
    let message ← (SignedArtifact.planAuthorizationV2 a).signingPayload
    .ok (authorities a.authorityId message a.proof)

/-- `verify_anchor_evidence_export_signature`. -/
def verifyAnchorExportSignature (e : AnchorExport) (authorities : VerifySignature) :
    Except Error Bool := do
  let message ← (SignedArtifact.anchorEvidenceExport e).signingPayload
  .ok (authorities e.authorityId message e.proof)

instance lawfulBEq_text : LawfulBEq Text := inferInstance

omit [Platform] in
/-- `plan_authorization_authorizes_step`. -/
def planAuthorizationAuthorizesStep (a : PlanAuthorization) (planDigest stepId : Text) :
    Except Error Bool := do
  let digestMatches ← compareTexts (Text.ofString a.planDigest) planDigest
  let stepMatches : Bool := stepId ∈ a.authorizedStepIds
  .ok (digestMatches && stepMatches)

omit [Platform] in
/-- The loop of `plan_authorization_v2_authorizes_execution`. -/
def anyBinding (stepId executionIntentDigest : Text) :
    List PlanAuthorizationStepBinding → Except Error Bool
  | [] => .ok false
  | binding :: bindings => do
    if Text.ofString binding.stepId = stepId then
      let digestMatches ←
        compareTexts (Text.ofString binding.executionIntentDigest) executionIntentDigest
      if digestMatches then .ok true else anyBinding stepId executionIntentDigest bindings
    else anyBinding stepId executionIntentDigest bindings

omit [Platform] in
/-- `plan_authorization_v2_authorizes_execution`. -/
def planAuthorizationV2AuthorizesExecution (a : PlanAuthorizationV2)
    (planDigest stepId executionIntentDigest : Text) : Except Error Bool := do
  let digestMatches ← compareTexts (Text.ofString a.planDigest) planDigest
  if digestMatches then anyBinding stepId executionIntentDigest a.authorizedExecutions
  else .ok false

/-- `verify_plan_digest`. -/
def verifyPlanDigest (plan : SecurityPosturePlan) (expectedDigest : Text) : Except Error Bool := do
  let digest ← computePlanDigest plan
  compareTexts (Text.ofString digest) expectedDigest

/-- `verify_setup_plan_digest`. -/
def verifySetupPlanDigest (plan : SetupPlan) (expectedDigest : Text) : Except Error Bool := do
  let digest ← computeSetupPlanDigest plan
  compareTexts (Text.ofString digest) expectedDigest

/-! ### Sealed write approvals -/

omit [Platform] in
/-- `STANDARD_SEALED_WRITE_APPROVAL_AUTHORITY_ID`. -/
def standardSealedWriteApprovalAuthorityId : String := "standard-sealed-write-approval-authority-v1"

omit [Platform] in
/-- The write that an approval is to be for. -/
structure ApprovedWrite where
  contractId : Text
  stateVersion : ℤ
  securityClass : WriteSecurityClass
  executionIntentDigest : Text
  targetIdentityDigest : Text

omit [Platform] in
/-- The comparisons of an approval with the write. -/
def SealedWriteApproval.Names (a : SealedWriteApproval) (write : ApprovedWrite) : Prop :=
  Text.ofString a.contractId = write.contractId ∧ a.stateVersion = write.stateVersion ∧
    a.securityClass = write.securityClass ∧
    Text.ofString a.executionIntentDigest = write.executionIntentDigest ∧
    Text.ofString a.targetIdentityDigest = write.targetIdentityDigest

omit [Platform] in
instance (a : SealedWriteApproval) (write : ApprovedWrite) : Decidable (a.Names write) :=
  inferInstanceAs (Decidable (_ ∧ _))

/-- `verify_sealed_write_approval`; `now` is `none` if it is no time in UTC. -/
def verifySealedWriteApproval (a : SealedWriteApproval) (authorities : VerifySignature)
    (now : Option DateTime) (write : ApprovedWrite) : Except Error Bool :=
  match now with
  | none => .ok false
  | some now =>
    if a.authorityId ≠ standardSealedWriteApprovalAuthorityId then .ok false
    else if ¬a.Names write then .ok false
    else if ¬(a.issuedAt ≤ now ∧ now < a.expiresAt) then .ok false
    else do
      let message ← (SignedArtifact.sealedWriteApproval a).signingPayload
      .ok (authorities a.authorityId message a.proof)

/-! ### Calls -/

omit [Platform] in
/-- A call of a verifier. -/
inductive VerificationCall where
  | planAuthorizationSignature (a : PlanAuthorization) (authorities : VerifySignature)
  | planAuthorizationV2Signature (a : PlanAuthorizationV2) (authorities : VerifySignature)
  | anchorEvidenceExportSignature (e : AnchorExport) (authorities : VerifySignature)
  | sealedWriteApproval (a : SealedWriteApproval) (authorities : VerifySignature)
      (now : Option DateTime) (write : ApprovedWrite)
  | authorizesStep (a : PlanAuthorization) (planDigest stepId : Text)
  | authorizesExecution (a : PlanAuthorizationV2) (planDigest stepId executionIntentDigest : Text)
  | planDigest (plan : SecurityPosturePlan) (expectedDigest : Text)
  | setupPlanDigest (plan : SetupPlan) (expectedDigest : Text)

namespace VerificationCall

/-- What the call returns or raises. -/
def run : VerificationCall → Except Error Bool
  | planAuthorizationSignature a authorities => verifyPlanAuthorizationSignature a authorities
  | planAuthorizationV2Signature a authorities => verifyPlanAuthorizationV2Signature a authorities
  | anchorEvidenceExportSignature e authorities => verifyAnchorExportSignature e authorities
  | sealedWriteApproval a authorities now write => verifySealedWriteApproval a authorities now write
  | authorizesStep a digest stepId => planAuthorizationAuthorizesStep a digest stepId
  | authorizesExecution a digest stepId executionIntentDigest =>
    planAuthorizationV2AuthorizesExecution a digest stepId executionIntentDigest
  | planDigest plan expectedDigest => verifyPlanDigest plan expectedDigest
  | setupPlanDigest plan expectedDigest => verifySetupPlanDigest plan expectedDigest

/-- The limits on the arguments of a call: those of the canonical encoding on what is encoded, and
ASCII for what is compared. -/
def Answers : VerificationCall → Prop
  | planAuthorizationSignature a _ =>
    a.evidenceFingerprint.Limited ∧ (∀ step ∈ a.authorizedStepIds, ShortText step) ∧
      a.authorizedStepIds.length ≤ maxCanonicalCollectionItems ∧
      (SignedArtifact.planAuthorization a).size ≤ maxCanonicalBytes
  | planAuthorizationV2Signature a _ =>
    a.evidenceFingerprint.Limited ∧ a.authorizedExecutions.length ≤ 3327 ∧
      (SignedArtifact.planAuthorizationV2 a).size ≤ maxCanonicalBytes
  | anchorEvidenceExportSignature e _ => e.baseline ≤ 2 ^ 63 - 1 ∧ ShortText e.provisionedAt
  | sealedWriteApproval a _ now write =>
    a.authorityId = standardSealedWriteApprovalAuthorityId → a.Names write →
      (∃ t ∈ now, a.issuedAt ≤ t ∧ t < a.expiresAt) → a.stateVersion ≤ 2 ^ 63 - 1
  | authorizesStep _ digest _ => isAsciiText digest = true
  | authorizesExecution a digest stepId executionIntentDigest =>
    isAsciiText digest = true ∧ (Text.ofString a.planDigest = digest →
      (∃ binding ∈ a.authorizedExecutions, Text.ofString binding.stepId = stepId) →
        isAsciiText executionIntentDigest = true)
  | planDigest plan expectedDigest =>
    (Value.ofJson (planPayload plan)).WithinLimits ∧ isAsciiText expectedDigest = true
  | setupPlanDigest plan expectedDigest =>
    (Value.ofJson (planPayload plan.posturePlan)).WithinLimits ∧
      (∀ digest, isHex64 digest = true → (dictOf (plan.payload digest)).WithinLimits) ∧
      isAsciiText expectedDigest = true

end VerificationCall

/-! ### One verifier at a time -/

omit [Platform] in
/-- A message that is signed, or refused. -/
theorem exists_bind_ok {message : Except Error Bytes} {answer : Bytes → Bool} :
    (∃ b, (do let m ← message; .ok (answer m) : Except Error Bool) = .ok b) ↔
      ∃ bytes, message = .ok bytes := by
  simp only [bind_eq_ok]
  constructor
  · rintro ⟨_, bytes, h, _⟩
    exact ⟨bytes, h⟩
  · rintro ⟨bytes, h⟩
    exact ⟨_, bytes, h, rfl⟩

theorem planAuthorizationSignature_iff (hascii : NfcAscii) (a : PlanAuthorization)
    (authorities : VerifySignature) :
    (∃ b, verifyPlanAuthorizationSignature a authorities = .ok b) ↔
      (VerificationCall.planAuthorizationSignature a authorities).Answers := by
  rw [verifyPlanAuthorizationSignature, if_neg (not_not.mpr a.valid.2.2.2.1), exists_bind_ok]
  exact exists_payload_planAuthorization hascii a

theorem planAuthorizationV2Signature_iff (hascii : NfcAscii) (a : PlanAuthorizationV2)
    (authorities : VerifySignature) :
    (∃ b, verifyPlanAuthorizationV2Signature a authorities = .ok b) ↔
      (VerificationCall.planAuthorizationV2Signature a authorities).Answers := by
  rw [verifyPlanAuthorizationV2Signature, if_neg (not_not.mpr a.valid.2.2.2.1), exists_bind_ok]
  exact exists_payload_planAuthorizationV2 hascii a

theorem anchorExportSignature_iff (hascii : NfcAscii) (e : AnchorExport)
    (authorities : VerifySignature) :
    (∃ b, verifyAnchorExportSignature e authorities = .ok b) ↔
      (VerificationCall.anchorEvidenceExportSignature e authorities).Answers := by
  rw [verifyAnchorExportSignature, exists_bind_ok]
  exact exists_payload_anchorEvidenceExport hascii e

theorem sealedWriteApproval_iff (hascii : NfcAscii) (a : SealedWriteApproval)
    (authorities : VerifySignature) (now : Option DateTime) (write : ApprovedWrite) :
    (∃ b, verifySealedWriteApproval a authorities now write = .ok b) ↔
      (VerificationCall.sealedWriteApproval a authorities now write).Answers := by
  rw [VerificationCall.Answers]
  rcases now with _ | now
  · refine iff_of_true ⟨false, rfl⟩ ?_
    rintro - - ⟨_, h, -⟩
    cases h
  · rw [verifySealedWriteApproval]
    split_ifs with hauthority hnames hwindow
    · exact iff_of_true ⟨false, rfl⟩ fun h => absurd h hauthority
    · rw [exists_bind_ok, exists_payload_sealedWriteApproval hascii]
      exact ⟨fun h _ _ _ => h, fun h => h (not_not.mp hauthority) hnames ⟨now, rfl, hwindow⟩⟩
    · refine iff_of_true ⟨false, rfl⟩ ?_
      rintro - - ⟨t, ht, h⟩
      exact absurd (Option.some.inj ht ▸ h) hwindow
    · exact iff_of_true ⟨false, rfl⟩ fun _ h => absurd h hnames

omit [Platform] in
theorem authorizesStep_iff (a : PlanAuthorization) (planDigest stepId : Text) :
    (∃ b, planAuthorizationAuthorizesStep a planDigest stepId = .ok b) ↔
      isAsciiText planDigest = true := by
  rw [← exists_compareTexts_iff a.valid.2.2.2.2.1, planAuthorizationAuthorizesStep]
  simp only [bind_eq_ok]
  constructor
  · rintro ⟨_, b, h, _⟩
    exact ⟨b, h⟩
  · rintro ⟨b, h⟩
    exact ⟨_, b, h, rfl⟩

omit [Platform] in
/-- The loop over the bindings raises at the first one of the step. -/
theorem exists_anyBinding_iff (stepId executionIntentDigest : Text)
    (bindings : List PlanAuthorizationStepBinding) :
    (∃ b, anyBinding stepId executionIntentDigest bindings = .ok b) ↔
      ((∃ binding ∈ bindings, Text.ofString binding.stepId = stepId) →
        isAsciiText executionIntentDigest = true) := by
  induction bindings with
  | nil => exact iff_of_true ⟨false, rfl⟩ fun ⟨_, h, _⟩ => absurd h List.not_mem_nil
  | cons binding bindings ih =>
    rw [anyBinding]
    by_cases hstep : Text.ofString binding.stepId = stepId
    · rw [if_pos hstep]
      by_cases hdigest : isAsciiText executionIntentDigest = true
      · rw [compareTexts_of_isAscii binding.valid.2 hdigest, ok_bind]
        refine iff_of_true ?_ fun _ => hdigest
        split_ifs
        · exact ⟨true, rfl⟩
        · exact ih.mpr fun _ => hdigest
      · rw [compareTexts_of_not_isAscii _ hdigest]
        refine iff_of_false ?_ fun h => hdigest (h ⟨binding, List.mem_cons_self, hstep⟩)
        rintro ⟨_, h⟩
        cases h
    · rw [if_neg hstep, ih]
      simp [hstep]

theorem authorizesExecution_iff (a : PlanAuthorizationV2)
    (planDigest stepId executionIntentDigest : Text) :
    (∃ b, planAuthorizationV2AuthorizesExecution a planDigest stepId executionIntentDigest =
        .ok b) ↔
      (VerificationCall.authorizesExecution a planDigest stepId executionIntentDigest).Answers := by
  rw [VerificationCall.Answers, planAuthorizationV2AuthorizesExecution]
  by_cases hplan : isAsciiText planDigest = true
  · rw [compareTexts_of_isAscii a.valid.2.2.2.2.1 hplan, ok_bind, and_iff_right hplan]
    split_ifs with hequal
    · rw [exists_anyBinding_iff]
      exact ⟨fun h _ => h, fun h => h (beq_iff_eq.mp hequal)⟩
    · exact iff_of_true ⟨false, rfl⟩ fun h => absurd (beq_iff_eq.mpr h) hequal
  · rw [compareTexts_of_not_isAscii _ hplan]
    refine iff_of_false ?_ fun h => hplan h.1
    rintro ⟨_, h⟩
    cases h

theorem exists_computePlanDigest_iff (plan : SecurityPosturePlan) :
    (∃ digest, computePlanDigest plan = .ok digest) ↔
      (Value.ofJson (planPayload plan)).WithinLimits := by
  rw [computePlanDigest, ← Value.digestValue_ofJson]
  exact Value.exists_digestValue_iff

omit [Platform] in
/-- Comparing a digest that was computed. -/
theorem exists_compareDigests_iff {compute : Except Error String}
    (hhex : ∀ digest, compute = .ok digest → isHex64 digest = true) {expected : Text} :
    (∃ b, (do let digest ← compute; compareTexts (Text.ofString digest) expected) = .ok b) ↔
      (∃ digest, compute = .ok digest) ∧ isAsciiText expected = true := by
  simp only [bind_eq_ok]
  constructor
  · rintro ⟨b, digest, hdigest, h⟩
    exact ⟨⟨digest, hdigest⟩, (exists_compareTexts_iff (hhex digest hdigest)).mp ⟨b, h⟩⟩
  · rintro ⟨⟨digest, hdigest⟩, hexpected⟩
    obtain ⟨b, h⟩ := (exists_compareTexts_iff (hhex digest hdigest)).mpr hexpected
    exact ⟨b, digest, hdigest, h⟩

theorem planDigest_iff (plan : SecurityPosturePlan) (expectedDigest : Text) :
    (∃ b, verifyPlanDigest plan expectedDigest = .ok b) ↔
      (VerificationCall.planDigest plan expectedDigest).Answers := by
  have hhex : ∀ digest, computePlanDigest plan = .ok digest → isHex64 digest = true :=
    fun _ => isHex64_of_digestValue
  rw [verifyPlanDigest, exists_compareDigests_iff hhex, exists_computePlanDigest_iff]
  rfl

/-! ### Setup plans -/

omit [Platform] in
/-- A hexadecimal digit needs no escape, and takes one byte. -/
theorem escapeChar_of_hex {c : Char} (h : ('0' ≤ c ∧ c ≤ '9') ∨ ('a' ≤ c ∧ c ≤ 'f')) :
    Json.escapeChar false c = [c] ∧ c.utf8Size = 1 := by
  have hbounds : 48 ≤ c.toNat ∧ c.toNat < 103 ∧ c ≠ '\\' := by
    have hle : ∀ {a b : Char}, a ≤ b → a.toNat ≤ b.toNat := fun h => h
    have hslash : c ≠ '\\' := by
      rintro rfl
      exact absurd h (by decide)
    rcases h with ⟨hlow, hhigh⟩ | ⟨hlow, hhigh⟩
    · exact ⟨hle hlow, Nat.lt_of_le_of_lt (hle hhigh) (by decide), hslash⟩
    · exact ⟨Nat.le_trans (by decide) (hle hlow), Nat.lt_of_le_of_lt (hle hhigh) (by decide), hslash⟩
  obtain ⟨hlow, hhigh, hslash⟩ := hbounds
  have hne : ∀ d : Char, d.toNat < 48 → c ≠ d := by
    rintro d hd rfl
    omega
  refine ⟨?_, Char.utf8Size_eq_one_iff.mpr ?_⟩
  · rw [Json.escapeChar, if_neg (hne _ (by decide)), if_neg hslash, if_neg (hne _ (by decide)),
      if_neg (hne _ (by decide)), if_neg (hne _ (by decide)), if_neg (by omega), if_neg (by omega),
      if_neg (by simp; omega)]
  · exact UInt32.le_iff_toNat_le.mpr (Nat.le_of_lt_succ (hhigh.trans (by decide)))

/-- A digest takes 66 bytes. -/
theorem size_scalarText_of_isHex64 (hascii : NfcAscii) {digest : String}
    (h : isHex64 digest = true) : (scalarText digest).size = 66 := by
  have hchars : ∀ cs : List Char, (∀ c ∈ cs, ('0' ≤ c ∧ c ≤ '9') ∨ ('a' ≤ c ∧ c ≤ 'f')) →
      charsSize (Json.dumpChars false cs) = cs.length + 1 := by
    intro cs hcs
    induction cs with
    | nil => rfl
    | cons c cs ih =>
      rw [List.forall_mem_cons] at hcs
      obtain ⟨hescape, hsize⟩ := escapeChar_of_hex hcs.1
      rw [Json.dumpChars, charsSize_append, ih hcs.2, hescape, charsSize_cons, hsize,
        List.length_cons]
      show 1 + 0 + (cs.length + 1) = cs.length + 1 + 1
      omega
  have hquote : Char.utf8Size '"' = 1 := rfl
  have hlength := length_of_isHex64 h
  have hnormal : normalText (Text.ofString digest) = some digest := by
    rw [normalText_ofString, nfc_of_isAscii hascii (isAscii_of_isHex64 h)]
  simp only [isHex64, Bool.and_eq_true, List.all_eq_true, decide_eq_true_eq] at h
  rw [scalarText, Value.size, hnormal, Option.getD_some, textSize_eq, Json.dumpValue,
    Json.dumpString, charsSize_cons, hchars _ h.2, hlength, hquote]

/-- The limits on the payload of a setup plan do not depend on the digest of its posture plan. -/
theorem withinLimits_payload (hascii : NfcAscii) (plan : SetupPlan) {digest digest' : String}
    (h : isHex64 digest = true) (h' : isHex64 digest' = true)
    (hlimits : (dictOf (plan.payload digest)).WithinLimits) :
    (dictOf (plan.payload digest')).WithinLimits := by
  have hlimited {depth : ℕ} {digest : String} (h : isHex64 digest = true)
      (hdepth : depth ≤ maxCanonicalDepth) : (scalarText digest).Limited depth ↔ True :=
    iff_true_intro ((checked_of_isHex64 h).limited hascii hdepth)
  have hdepth : 0 + 1 ≤ maxCanonicalDepth := by decide
  obtain ⟨hall, hnodes, hsize⟩ := hlimits
  refine ⟨?_, hnodes, ?_⟩
  · simp only [SetupPlan.payload, dictOf, List.map_cons, List.map_nil, Value.Limited,
      Value.LimitedFields, hlimited h hdepth, hlimited h' hdepth] at hall ⊢
    exact hall
  · simp only [SetupPlan.payload, dictOf, List.map_cons, List.map_nil, Value.size,
      Value.sizeFields, size_scalarText_of_isHex64 hascii h,
      size_scalarText_of_isHex64 hascii h'] at hsize ⊢
    exact hsize

theorem setupPlanDigest_iff (hascii : NfcAscii) (plan : SetupPlan) (expectedDigest : Text) :
    (∃ b, verifySetupPlanDigest plan expectedDigest = .ok b) ↔
      (VerificationCall.setupPlanDigest plan expectedDigest).Answers := by
  have hhex {digest : String} (h : computePlanDigest plan.posturePlan = .ok digest) :
      isHex64 digest = true := isHex64_of_digestValue h
  have hsetupHex (digest : String) (h : computeSetupPlanDigest plan = .ok digest) :
      isHex64 digest = true := by
    simp only [computeSetupPlanDigest, Value.digestValue, bind_eq_ok] at h
    obtain ⟨_, -, _, -, h⟩ := h
    cases h
    exact Platform.isHex64_sha256 _
  rw [verifySetupPlanDigest, exists_compareDigests_iff hsetupHex, VerificationCall.Answers,
    ← and_assoc, ← exists_computePlanDigest_iff]
  refine and_congr_left fun _ => ?_
  simp only [computeSetupPlanDigest, bind_eq_ok]
  constructor
  · rintro ⟨_, digest, hdigest, h⟩
    have hlimits := Value.exists_digestValue_iff.mp ⟨_, h⟩
    exact ⟨⟨digest, hdigest⟩, fun _ h' => withinLimits_payload hascii plan (hhex hdigest) h' hlimits⟩
  · rintro ⟨⟨digest, hdigest⟩, hall⟩
    obtain ⟨d, h⟩ := Value.exists_digestValue_iff.mpr (hall digest (hhex hdigest))
    exact ⟨d, digest, hdigest, h⟩

/-! ### All verifiers -/

/-- A call returns a truth value exactly if its arguments stay within the limits. -/
theorem VerificationCall.answers_iff (hascii : NfcAscii) (call : VerificationCall) :
    (∃ b, call.run = .ok b) ↔ call.Answers := by
  cases call with
  | planAuthorizationSignature a authorities => exact planAuthorizationSignature_iff hascii a _
  | planAuthorizationV2Signature a authorities => exact planAuthorizationV2Signature_iff hascii a _
  | anchorEvidenceExportSignature e authorities => exact anchorExportSignature_iff hascii e _
  | sealedWriteApproval a authorities now write => exact sealedWriteApproval_iff hascii a _ now write
  | authorizesStep a planDigest stepId => exact authorizesStep_iff a planDigest stepId
  | authorizesExecution a planDigest stepId digest =>
    exact authorizesExecution_iff a planDigest stepId digest
  | planDigest plan expectedDigest => exact planDigest_iff plan expectedDigest
  | setupPlanDigest plan expectedDigest => exact setupPlanDigest_iff hascii plan expectedDigest

end Model

/-! ### Calls that raise -/

namespace VerificationSample

attribute [local instance] Tier1.Sample.platform

theorem isIdentifier_owner : isIdentifier "owner" = true := by decide

/-- An export of a baseline. -/
def anchorExport (baseline : ℤ) (hbaseline : 0 ≤ baseline) : AnchorExport where
  schemaVersion := 1
  storeId := "store-1"
  handle := "0x81010001"
  baseline := baseline
  provisionedAt := Text.ofString "2026-01-01T00:00:00+00:00"
  issuedAt := Sample.midnight 1 Sample.isDay_one
  expiresAt := Sample.midnight 2 Sample.isDay_two
  authorityId := "owner"
  proof := List.replicate 64 0
  valid := ⟨rfl, Sample.isIdentifier_store, by decide +kernel, hbaseline, by decide +kernel, by decide,
    isIdentifier_owner, List.length_replicate⟩

theorem fingerprint_ne_nil : Text.ofString "read_only" ≠ [] ∧ Text.ofString "none" ≠ [] ∧
    Text.ofString "unconfigured" ≠ [] := by
  decide

/-- A plan authorization of one step. -/
def authorization : PlanAuthorization where
  schemaVersion := 1
  authorizationId := "authorization-1"
  planDigest := Sample.hex
  authorityId := "owner"
  algorithm := authorizationSigningAlgorithm
  proof := List.replicate 64 0
  issuedAt := Sample.midnight 1 Sample.isDay_one
  expiresAt := Sample.midnight 2 Sample.isDay_two
  riskClass := .configurationChange
  evidenceFingerprint := {
    capabilityPostureValue := Text.ofString "read_only"
    anchorAssuranceValue := Text.ofString "none"
    anchorEvidenceState := Text.ofString "unconfigured"
    anchorBaseline := none
    anchorWitnessValue := none
    anchorProvisionedAt := none
    valid := fingerprint_ne_nil }
  authorizedStepIds := [Text.ofString "restart"]
  valid := ⟨rfl, by decide +kernel, by decide +kernel, rfl, Sample.isHex64_hex,
    List.length_replicate, by decide, rfl⟩
  valid_steps := by decide +kernel

/-- No authority. -/
def noAuthorities : VerifySignature := fun _ _ _ => false

/-- An export of a small baseline is answered. -/
theorem anchorExport_answers : ∃ b, (VerificationCall.anchorEvidenceExportSignature
    (anchorExport 3 (by decide)) noAuthorities).run = .ok b :=
  (VerificationCall.answers_iff (fun _ _ => rfl) _).mpr
    ⟨by decide, (shortText_of_isAscii (fun _ _ => rfl) (by decide) (by decide +kernel)).2⟩

/-- An export of the baseline `2 ^ 63`, which its constructor accepts, raises, and so does a
comparison of a plan digest with `é`. -/
theorem verifiers_raise :
    (¬∃ b, (VerificationCall.anchorEvidenceExportSignature
      (anchorExport (2 ^ 63) (by decide)) noAuthorities).run = .ok b) ∧
    ¬∃ b, (VerificationCall.authorizesStep authorization (Text.ofString "é")
      (Text.ofString "restart")).run = .ok b := by
  constructor
  · intro h
    exact absurd ((anchorExportSignature_iff (fun _ _ => rfl) _ _).mp h).1 (by decide)
  · intro h
    exact absurd ((authorizesStep_iff _ _ _).mp h) (by decide)

end VerificationSample

end Signing
