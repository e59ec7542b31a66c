import PfsenseMcp.Signing.ReviewExchange
import PfsenseMcp.Tier1.Lifecycle

/-!
# The two modules of artifact exchange

`tier1/artifact_exchange.py` and `tier1/shape_a_artifact_exchange.py` side by side. Both have their
own copy of the codecs of signed artifacts, and each has two readers of review artifacts. A file that
one of them has written can be too large for the readers of both.

## Main results

* `exchange_iff`: which artifacts come back, and on which files the readers answer.
-/

namespace Signing

open Python Tier1 Posture Exchange

/-! ### `tier1/artifact_exchange.py` -/

namespace ArtifactExchange

/-- `plan_authorization_v2_to_bytes`. -/
def planAuthorizationV2ToBytes (authorization : PlanAuthorizationV2) : Except Raised Bytes :=
  encodeAuthorization authorization

/-- `load_signed_plan_authorization_v2`. -/
def loadSignedPlanAuthorizationV2 (lib : Library) (path : String)
    (file : Tier1.ArtifactExchange.StoredFile) : Except Raised PlanAuthorizationV2 :=
  decodeAuthorization lib path file

section

variable [Platform]

/-- `confirmation_evidence_to_bytes`. -/
def confirmationEvidenceToBytes (evidence : ConfirmationEvidence) : Except Raised Bytes :=
  encodeConfirmation evidence

/-- `load_signed_confirmation_evidence`. -/
def loadSignedConfirmationEvidence (lib : Library) (path : String)
    (file : Tier1.ArtifactExchange.StoredFile) : Except Raised ConfirmationEvidence :=
  decodeConfirmation lib path file

/-- `load_authorization_preview`. -/
def loadAuthorizationPreview (lib : Library) (path : String)
    (file : Tier1.ArtifactExchange.StoredFile) (integrityKey : Bytes) :
    Except Raised AuthorizationPreview :=
  authorizationPreview.load lib path file integrityKey

/-- `load_pending_confirmation_request`. -/
def loadPendingConfirmationRequest (lib : Library) (path : String)
    (file : Tier1.ArtifactExchange.StoredFile) (integrityKey : Bytes) :
    Except Raised PendingConfirmationRequest :=
  pendingConfirmationRequest.load lib path file integrityKey

end

end ArtifactExchange

/-! ### `tier1/shape_a_artifact_exchange.py` -/

namespace ShapeAArtifactExchange

/-- `plan_authorization_v2_to_bytes`. -/
def planAuthorizationV2ToBytes (authorization : PlanAuthorizationV2) : Except Raised Bytes :=
  encodeAuthorization authorization

/-- `load_signed_plan_authorization_v2`. -/
def loadSignedPlanAuthorizationV2 (lib : Library) (path : String)
    (file : Tier1.ArtifactExchange.StoredFile) : Except Raised PlanAuthorizationV2 :=
  decodeAuthorization lib path file

section

variable [Platform]

/-- `confirmation_evidence_to_bytes`. -/
def confirmationEvidenceToBytes (evidence : ConfirmationEvidence) : Except Raised Bytes :=
  encodeConfirmation evidence

/-- `load_signed_confirmation_evidence`. -/
def loadSignedConfirmationEvidence (lib : Library) (path : String)
    (file : Tier1.ArtifactExchange.StoredFile) : Except Raised ConfirmationEvidence :=
  decodeConfirmation lib path file

/-- `load_shape_a_authorization_preview`. -/
def loadShapeAAuthorizationPreview (lib : Library) (path : String)
    (file : Tier1.ArtifactExchange.StoredFile) (integrityKey : Bytes) :
    Except Raised ShapeAAuthorizationPreview :=
  shapeAAuthorizationPreview.load lib path file integrityKey

/-- `load_shape_a_pending_confirmation_request`. -/
def loadShapeAPendingConfirmationRequest (lib : Library) (path : String)
    (file : Tier1.ArtifactExchange.StoredFile) (integrityKey : Bytes) :
    Except Raised ShapeAPendingConfirmationRequest :=
  shapeAPendingConfirmationRequest.load lib path file integrityKey

end

end ShapeAArtifactExchange

namespace Exchange

open Tier1.ArtifactExchange (StoredFile maxFile stored stringSize charSize)
open Tier1.ArtifactExchange.Kind (stringSize_of_isHex64)

/-- The authentication code in the file of an artifact that its constructor accepts is ASCII. -/
def Review.AsciiCode {D : Type} (R : Review D) (lib : Library) (path : String)
    (file : StoredFile) : Prop :=
  ∀ d code, R.parse lib path file = .ok (d, code) → ∀ c ∈ code, c.val < 128

theorem forall_mem_pair {α : Type} {p : α → Prop} {a b : α} :
    (∀ x ∈ [a, b], p x) ↔ p a ∧ p b := by
  simp

section

variable [Platform]

/-- The two modules write the same bytes. A signed artifact comes back in both exactly if it fits, and
a reader raises something else than an `ArtifactExchangeError` exactly if the file is nested too
deeply, or holds an authentication code that is not ASCII. -/
theorem exchange_iff (lib : Library) (a : PlanAuthorizationV2) (e : ConfirmationEvidence)
    (ha : lib.ReadsBack (authorizationFields a)) (he : lib.ReadsBack (confirmationPayload e))
    (path : String) (file : StoredFile) (integrityKey : Bytes) :
    ArtifactExchange.planAuthorizationV2ToBytes a =
        ShapeAArtifactExchange.planAuthorizationV2ToBytes a ∧
      ArtifactExchange.confirmationEvidenceToBytes e =
        ShapeAArtifactExchange.confirmationEvidenceToBytes e ∧
      ((∃ bytes, ArtifactExchange.planAuthorizationV2ToBytes a = .ok bytes ∧
        ∀ load ∈ [ArtifactExchange.loadSignedPlanAuthorizationV2,
          ShapeAArtifactExchange.loadSignedPlanAuthorizationV2],
        load lib path (stored bytes) = .ok a) ↔ AuthorizationFits a) ∧
      ((∃ bytes, ArtifactExchange.confirmationEvidenceToBytes e = .ok bytes ∧
        ∀ load ∈ [ArtifactExchange.loadSignedConfirmationEvidence,
          ShapeAArtifactExchange.loadSignedConfirmationEvidence],
        load lib path (stored bytes) = .ok e) ↔ confirmationFileSize e ≤ maxFile) ∧
      (∀ load ∈ [ArtifactExchange.loadSignedPlanAuthorizationV2,
          ShapeAArtifactExchange.loadSignedPlanAuthorizationV2],
        Answers (load lib path file) ↔ ¬TooDeep lib file) ∧
      (∀ load ∈ [ArtifactExchange.loadSignedConfirmationEvidence,
          ShapeAArtifactExchange.loadSignedConfirmationEvidence],
        Answers (load lib path file) ↔ ¬TooDeep lib file) ∧
      (Answers (ArtifactExchange.loadAuthorizationPreview lib path file integrityKey) ↔
        ¬TooDeep lib file ∧
          (32 ≤ integrityKey.length → authorizationPreview.AsciiCode lib path file)) ∧
      (Answers (ArtifactExchange.loadPendingConfirmationRequest lib path file integrityKey) ↔
        ¬TooDeep lib file ∧
          (32 ≤ integrityKey.length → pendingConfirmationRequest.AsciiCode lib path file)) ∧
      (Answers (ShapeAArtifactExchange.loadShapeAAuthorizationPreview lib path file integrityKey) ↔
        ¬TooDeep lib file ∧
          (32 ≤ integrityKey.length → shapeAAuthorizationPreview.AsciiCode lib path file)) ∧
      (Answers (ShapeAArtifactExchange.loadShapeAPendingConfirmationRequest lib path file
          integrityKey) ↔
        ¬TooDeep lib file ∧
          (32 ≤ integrityKey.length →
            shapeAPendingConfirmationRequest.AsciiCode lib path file)) := by
  refine ⟨rfl, rfl, ?_, ?_, ?_, ?_, ?_, ?_, ?_, ?_⟩
  · rw [← authorization_roundTrip_iff ha path]
    simp only [forall_mem_pair]
    exact exists_congr fun bytes => and_congr_right fun _ => ⟨fun h => h.1, fun h => ⟨h, h⟩⟩
  · rw [← confirmation_roundTrip_iff he path]
    simp only [forall_mem_pair]
    exact exists_congr fun bytes => and_congr_right fun _ => ⟨fun h => h.1, fun h => ⟨h, h⟩⟩
  · exact forall_mem_pair.mpr ⟨answers_decodeAuthorization_iff lib path file,
      answers_decodeAuthorization_iff lib path file⟩
  · exact forall_mem_pair.mpr ⟨answers_decodeConfirmation_iff lib path file,
      answers_decodeConfirmation_iff lib path file⟩
  · exact Review.answers_load_iff sound_authorizationPreview
  · exact Review.answers_load_iff sound_pendingConfirmationRequest
  · exact Review.answers_load_iff sound_shapeAAuthorizationPreview
  · exact Review.answers_load_iff sound_shapeAPendingConfirmationRequest

end

/-! ### A sample -/

theorem length_le_stringSize (s : String) : s.toList.length ≤ stringSize s := by
  have hchar : ∀ c, 1 ≤ charSize c := by
    intro c
    unfold charSize
    split_ifs <;> decide
  have hsum : ∀ cs : List Char, cs.length ≤ (cs.map charSize).sum := by
    intro cs
    induction cs with
    | nil => exact le_rfl
    | cons c cs ih =>
      have hc := hchar c
      rw [List.length_cons, List.map_cons, List.sum_cons]
      omega
  have h := hsum s.toList
  rw [stringSize]
  omega

theorem le_stringSize_b64encode (value : Bytes) :
    value.length ≤ stringSize (Bytes.b64encode value) := by
  have hchars : value.length ≤ (Bytes.b64chars value).length := by
    fun_induction Bytes.b64chars value with
    | case1 => exact le_rfl
    | case2 a => exact Nat.le_add_left _ _
    | case3 a b => exact Nat.le_add_left _ _
    | case4 a b c r ih =>
      simp only [List.length_cons]
      omega
  have h := length_le_stringSize (Bytes.b64encode value)
  rw [Bytes.b64encode, String.toList_ofList] at h
  exact hchars.trans h

theorem stringSize_ofList (cs : List Char) :
    stringSize (String.ofList cs) = (cs.map charSize).sum + 2 := by
  rw [stringSize, String.toList_ofList]

namespace AgreementSample

attribute [local instance] Tier1.Sample.platform

/-- An authorization of one step. -/
def authorization : PlanAuthorizationV2 where
  schemaVersion := 2
  authorizationId := "authorization-1"
  planDigest := Sample.hex
  authorityId := "owner"
  algorithm := authorizationSigningAlgorithm
  proof := List.replicate 64 0
  issuedAt := Sample.midnight 1 Sample.isDay_one
  expiresAt := Sample.midnight 2 Sample.isDay_two
  riskClass := .configurationChange
  evidenceFingerprint := {
    capabilityPostureValue := Text.ofString "read_only"
    anchorAssuranceValue := Text.ofString "none"
    anchorEvidenceState := Text.ofString "unconfigured"
    anchorBaseline := some 7
    anchorWitnessValue := none
    anchorProvisionedAt := none
    valid := by decide +kernel }
  authorizedExecutions :=
    [⟨"restart", Sample.hex, by decide +kernel, Sample.isHex64_hex⟩]
  valid := ⟨rfl, by decide +kernel, by decide +kernel, rfl, Sample.isHex64_hex,
    List.length_replicate, by decide, rfl⟩
  valid_steps := by decide +kernel

/-- A confirmation with a proof of some length. -/
def confirmation (n : ℕ) (hpos : 0 < n) (hle : n ≤ 65536) : ConfirmationEvidence where
  authorityId := "owner"
  algorithm := "ed25519"
  nonce := "nonce-1"
  contractId := "contract-1"
  operationId := "operation-1"
  targetIdentityDigest := Sample.hex
  targetFingerprint := Sample.hex
  intentDigest := Sample.hex
  expiresAt := Sample.midnight 2 Sample.isDay_two
  issuedAt := Sample.midnight 1 Sample.isDay_one
  proof := List.replicate n 0
  valid := by
    have hproof : List.replicate n (0 : UInt8) ≠ [] := by
      rw [Ne, List.replicate_eq_nil_iff]
      omega
    simp only [ConfirmationFields.postInit, bind_eq_ok, demand_eq_ok]
    exact ⟨(), by decide +kernel, (), ⟨Sample.isHex64_hex, Sample.isHex64_hex, Sample.isHex64_hex⟩,
      (), by decide, hproof, by rwa [List.length_replicate]⟩

/-- The confirmation that is written. -/
abbrev small : ConfirmationEvidence := confirmation 64 (by decide) (by decide)

/-- `json.loads`, as far as files are read that were written. -/
def jsonLoads (content : Bytes) : Loaded :=
  if some content = (Document.record (authorizationFields authorization)).dumps then
    .value (Document.record (authorizationFields authorization)).sortKeys.readBack
  else if some content = (Document.record (confirmationPayload small)).dumps then
    .value (Document.record (confirmationPayload small)).sortKeys.readBack
  else .valueError

/-- The standard library. -/
def library : Library where
  jsonLoads := jsonLoads
  fromisoformat text := (DateTime.fromisoformat text).map some
  str
    | .str t => t
    | _ => []
  fromisoformat_isoformat t := by rw [DateTime.fromisoformat_isoformat, Option.map_some]

theorem library_jsonLoads : library.jsonLoads = jsonLoads := by
  rw [library]

theorem readsBack_authorization : library.ReadsBack (authorizationFields authorization) := by
  intro bytes h
  rw [library_jsonLoads, jsonLoads, if_pos h.symm]

theorem stringSize_hex : stringSize Sample.hex = 66 := stringSize_of_isHex64 Sample.isHex64_hex

theorem stringSize_issuedAt :
    stringSize (Sample.midnight 1 Sample.isDay_one).isoformat = 27 := by
  rw [DateTime.isoformat, stringSize_ofList]
  decide

theorem stringSize_expiresAt :
    stringSize (Sample.midnight 2 Sample.isDay_two).isoformat = 27 := by
  rw [DateTime.isoformat, stringSize_ofList]
  decide

theorem stringSize_proof : stringSize (Bytes.b64encode (List.replicate 64 0)) = 90 := by
  rw [Bytes.b64encode, stringSize_ofList]
  decide

theorem authorizationFileSize_authorization : authorizationFileSize authorization = 755 := by
  have hid : stringSize authorization.authorizationId = 17 := by decide
  have hdigest : stringSize authorization.planDigest = 66 := stringSize_hex
  have hauthority : stringSize authorization.authorityId = 7 := by decide
  have halgorithm : stringSize authorization.algorithm = 12 := by decide
  have hproof : stringSize (Bytes.b64encode authorization.proof) = 90 := stringSize_proof
  have hissued : stringSize authorization.issuedAt.isoformat = 27 := stringSize_issuedAt
  have hexpires : stringSize authorization.expiresAt.isoformat = 27 := stringSize_expiresAt
  have hrisk : stringSize authorization.riskClass.value = 22 := by decide
  have hstep : stringSize "restart" = 9 := by decide
  have hbindings : (authorization.authorizedExecutions.map fun b =>
      stringSize b.stepId + stringSize b.executionIntentDigest + 40).sum = 115 := by
    rw [authorization, List.map_cons, List.map_nil, List.sum_singleton, stringSize_hex, hstep]
  have hfingerprint : fingerprintSize authorization.evidenceFingerprint = 40 := by decide
  rw [authorizationFileSize, authorizationTextsSize, hid, hdigest, hauthority, halgorithm, hproof,
    hissued, hexpires, hrisk, hbindings, hfingerprint]

theorem confirmationFileSize_small : confirmationFileSize small = 582 := by
  have hnames : stringSize small.authorityId + stringSize small.algorithm +
      stringSize small.nonce + stringSize small.contractId + stringSize small.operationId = 50 := by
    decide
  have htarget : stringSize small.targetIdentityDigest = 66 := stringSize_hex
  have hfingerprint : stringSize small.targetFingerprint = 66 := stringSize_hex
  have hintent : stringSize small.intentDigest = 66 := stringSize_hex
  have hissued : stringSize small.issuedAt.isoformat = 27 := stringSize_issuedAt
  have hexpires : stringSize small.expiresAt.isoformat = 27 := stringSize_expiresAt
  have hproof : stringSize (Bytes.b64encode small.proof) = 90 := stringSize_proof
  rw [confirmationFileSize, hnames, htarget, hfingerprint, hintent, hissued, hexpires, hproof]

theorem readsBack_confirmation : library.ReadsBack (confirmationPayload small) := by
  intro bytes h
  -- the two files have different sizes
  have hsize : confirmationFileSize small ≠ authorizationFileSize authorization := by
    rw [confirmationFileSize_small, authorizationFileSize_authorization]
    decide
  have hne : some bytes ≠ (Document.record (authorizationFields authorization)).dumps := by
    intro heq
    have hconfirmation : encodeConfirmation small = .ok bytes := by
      rw [encodeConfirmation, h, orRaise]
    have hauthorization : encodeAuthorization authorization = .ok bytes := by
      rw [encodeAuthorization, ← heq, orRaise]
    apply hsize
    rw [← length_encodeConfirmation hconfirmation, ← length_encodeAuthorization hauthorization]
  rw [library_jsonLoads, jsonLoads, if_neg hne, if_pos h.symm]

/-- A small authorization and a small confirmation come back in both modules. -/
theorem small_comesBack :
    (∃ bytes, ArtifactExchange.planAuthorizationV2ToBytes authorization = .ok bytes ∧
      ∀ load ∈ [ArtifactExchange.loadSignedPlanAuthorizationV2,
        ShapeAArtifactExchange.loadSignedPlanAuthorizationV2],
      load library "" (stored bytes) = .ok authorization) ∧
    ∃ bytes, ArtifactExchange.confirmationEvidenceToBytes small = .ok bytes ∧
      ∀ load ∈ [ArtifactExchange.loadSignedConfirmationEvidence,
        ShapeAArtifactExchange.loadSignedConfirmationEvidence],
      load library "" (stored bytes) = .ok small := by
  obtain ⟨-, -, ha, he, -⟩ := exchange_iff library authorization small readsBack_authorization
    readsBack_confirmation "" .absent []
  have hshort : ShortIntegers authorization.evidenceFingerprint := by
    refine ⟨?_, nofun⟩
    rintro n ⟨⟩
    exact short_of_lt (n := 7) (by decide)
  have hunpaired : UnpairedTexts authorization.evidenceFingerprint :=
    ⟨Text.unpaired_ofString _, Text.unpaired_ofString _, Text.unpaired_ofString _, nofun⟩
  have hauthorization : authorizationFileSize authorization ≤ maxFile := by
    rw [authorizationFileSize_authorization]
    decide
  have hconfirmation : confirmationFileSize small ≤ maxFile := by
    rw [confirmationFileSize_small]
    decide
  exact ⟨ha.mpr ⟨hshort, hunpaired, hauthorization⟩, he.mpr hconfirmation⟩

/-- The file of a confirmation is longer than its proof. -/
theorem lt_confirmationFileSize {n : ℕ} (hpos : 0 < n) (hle : n ≤ 65536) :
    n < confirmationFileSize (confirmation n hpos hle) := by
  have hproof := le_stringSize_b64encode (List.replicate n (0 : UInt8))
  rw [List.length_replicate] at hproof
  rw [confirmationFileSize]
  show n < _ + stringSize (Bytes.b64encode (List.replicate n 0)) + 190
  omega

/-- A confirmation with a proof of 16384 bytes, which its constructor accepts, does not come back. -/
theorem large_not_comesBack : ¬∀ (lib : Library) (path : String) (e : ConfirmationEvidence),
    ∃ bytes, ArtifactExchange.confirmationEvidenceToBytes e = .ok bytes ∧
      ArtifactExchange.loadSignedConfirmationEvidence lib path (stored bytes) = .ok e := by
  intro h
  obtain ⟨bytes, hbytes, hload⟩ := h library "" (confirmation maxFile (by decide) (by decide))
  have hlength : maxFile < bytes.length := by
    rw [length_encodeConfirmation hbytes]
    exact lt_confirmationFileSize _ _
  have hread := readJson_stored_of_lt library "" hlength
  rw [ArtifactExchange.loadSignedConfirmationEvidence, decodeConfirmation, hread] at hload
  cases hload

end AgreementSample

end Exchange

end Signing
