import PfsenseMcp.Signing.Artifacts
import PfsenseMcp.Tier1.CanonicalLimits

/-!
# When a payload can be signed

The constructors of the artifacts bound the shapes of the fields, and the canonical encoding bounds
their numbers and sizes. A payload exists for the artifacts that stay within both.

## Main results

* `exists_payload_planAuthorization`, `exists_payload_planAuthorizationV2`,
  `exists_payload_sealedWriteApproval`, `exists_payload_anchorEvidenceExport`: for which artifacts
  there is a payload.
-/

namespace Signing

open Python Tier1 Posture

variable [Platform]

/-! ### Dictionaries with plain keys -/

/-- Distinct keys of at most 32 ASCII characters. -/
def plainKeys (keys : List String) : Bool :=
  decide keys.Nodup && keys.all fun k => isAscii k && decide (k.toList.length ≤ 32)

/-- The limits on a dictionary with plain keys are those on its values. -/
theorem limited_dictOf (hascii : NfcAscii) {fields : List (String × Value)} {depth : ℕ}
    (hkeys : plainKeys (fields.map Prod.fst) = true) (hdepth : depth < maxCanonicalDepth)
    (hcount : fields.length ≤ maxCanonicalCollectionItems) :
    (dictOf fields).Limited depth ↔ ∀ f ∈ fields, f.2.Limited (depth + 1) := by
  simp only [plainKeys, Bool.and_eq_true, decide_eq_true_eq, List.all_eq_true] at hkeys
  obtain ⟨hnodup, hplain⟩ := hkeys
  have hshort : ∀ f ∈ fields, normalText (Text.ofString f.1) = some f.1 ∧
      ShortText (Text.ofString f.1) := by
    intro f hf
    obtain ⟨hk, hlength⟩ := hplain f.1 (List.mem_map_of_mem hf)
    exact shortText_of_isAscii hascii hk (hlength.trans (by decide))
  have hnormal : (fields.map fun f => Value.normalKey (.str (Text.ofString f.1))) =
      (fields.map Prod.fst).map some := by
    rw [List.map_map]
    exact List.map_congr_left fun f hf => (hshort f hf).1
  have hvalues {fields : List (String × Value)}
      (hshort : ∀ f ∈ fields, ShortText (Text.ofString f.1)) :
      Value.LimitedFields (depth + 1) (fields.map fun f => (.str (Text.ofString f.1), f.2)) ↔
        ∀ f ∈ fields, f.2.Limited (depth + 1) := by
    induction fields with
    | nil => simp [Value.LimitedFields]
    | cons f fs ih =>
      rw [List.forall_mem_cons] at hshort
      rw [List.map_cons, Value.LimitedFields, ih hshort.2, List.forall_mem_cons]
      exact and_iff_right hshort.1
  have hdistinct : ((fields.map fun f => (Key.str (Text.ofString f.1), f.2)).map
      fun f => Value.normalKey f.1).Nodup := by
    rw [List.map_map]
    refine Eq.subst hnormal.symm ?_
    exact hnodup.map (Option.some_injective _)
  rw [dictOf, Value.Limited, List.length_map, hvalues fun f hf => (hshort f hf).2]
  exact ⟨fun h => h.2.2.2, fun h => ⟨hdepth.le, hcount, hdistinct, h⟩⟩

omit [Platform] in
theorem nodes_dictOf (fields : List (String × Value)) :
    (dictOf fields).nodes = (fields.map fun f => f.2.nodes).sum + 1 := by
  have h : Value.nodesFields (fields.map fun f => (.str (Text.ofString f.1), f.2)) =
      (fields.map fun f => f.2.nodes).sum := by
    induction fields with
    | nil => rfl
    | cons f fs ih => rw [List.map_cons, Value.nodesFields, ih, List.map_cons, List.sum_cons]
  rw [dictOf, Value.nodes, h]

/-- The bytes of a dictionary with plain keys, by those of its values. -/
theorem size_dictOf_le (hascii : NfcAscii) {fields : List (String × Value)}
    (hkeys : plainKeys (fields.map Prod.fst) = true) :
    (dictOf fields).size ≤ (fields.map fun f => f.2.size + 772).sum + 2 := by
  simp only [plainKeys, Bool.and_eq_true, decide_eq_true_eq, List.all_eq_true] at hkeys
  have hkey : ∀ f ∈ fields,
      textSize (.str ((Value.normalKey (.str (Text.ofString f.1))).getD "")) ≤ 770 := by
    intro f hf
    obtain ⟨hk, hlength⟩ := hkeys.2 f.1 (List.mem_map_of_mem hf)
    have hsize := Value.size_ofString_le hascii hk hlength
    rwa [Value.size] at hsize
  have h {fields : List (String × Value)} (hkey : ∀ f ∈ fields,
      textSize (.str ((Value.normalKey (.str (Text.ofString f.1))).getD "")) ≤ 770) :
      Value.sizeFields (fields.map fun f => (.str (Text.ofString f.1), f.2)) ≤
        (fields.map fun f => f.2.size + 772).sum := by
    induction fields with
    | nil => exact Nat.le_refl _
    | cons f fs ih =>
      rw [List.forall_mem_cons] at hkey
      have hrest := ih hkey.2
      rw [List.map_cons, Value.sizeFields, List.map_cons, List.sum_cons]
      omega
  rcases fields with _ | ⟨f, fs⟩
  · exact Nat.le_refl _
  · have hall := h hkey
    rw [List.map_cons, Value.sizeFields] at hall
    rw [dictOf, List.map_cons, Value.size]
    omega

/-! ### Checked values -/

theorem limited_scalarText (hascii : NfcAscii) {s : String} (h : isAscii s = true)
    (hlength : s.toList.length ≤ 500) {depth : ℕ} (hdepth : depth ≤ maxCanonicalDepth) :
    (scalarText s).Limited depth := by
  rw [scalarText, Value.Limited]
  exact ⟨hdepth, (shortText_of_isAscii hascii h hlength).2⟩

/-- A text without other limits than those of the canonical encoding. -/
theorem limited_str {t : Text} {depth : ℕ} (hdepth : depth ≤ maxCanonicalDepth) :
    (Value.str t).Limited depth ↔ ShortText t := by
  rw [Value.Limited, and_iff_right hdepth]

omit [Platform] in
/-- A checked text: an identifier, a digest, a time or a name that the source writes. -/
def Checked (s : String) : Prop := isAscii s = true ∧ s.toList.length ≤ 128

omit [Platform] in
theorem checked_of_isIdentifier {s : String} (h : isIdentifier s = true) : Checked s :=
  ⟨isAscii_of_isIdentifier h, length_le_of_isIdentifier h⟩

omit [Platform] in
theorem checked_of_isHex64 {s : String} (h : isHex64 s = true) : Checked s := by
  refine ⟨isAscii_of_isHex64 h, ?_⟩
  rw [length_of_isHex64 h]
  decide

omit [Platform] in
theorem checked_of_isHandle {s : String} (h : isHandle s = true) : Checked s := by
  unfold isHandle at h
  split at h
  · rename_i digits hs
    simp only [Bool.and_eq_true, beq_iff_eq, List.all_eq_true, Bool.or_eq_true,
      decide_eq_true_eq] at h
    have hle : ∀ {a b : Char}, a ≤ b → a.toNat ≤ b.toNat := fun h => h
    refine ⟨?_, ?_⟩
    · rw [isAscii, hs, List.all_cons, List.all_cons, Bool.and_eq_true, Bool.and_eq_true]
      refine ⟨by decide, by decide, List.all_eq_true.mpr fun c hc => decide_eq_true ?_⟩
      rcases h.2 c hc with (hdigit | ⟨-, hc⟩) | ⟨-, hc⟩
      · have hnine : c.toNat ≤ 57 := by
          simp only [Char.isDigit, Bool.and_eq_true, decide_eq_true_eq] at hdigit
          exact hdigit.2
        omega
      · exact Nat.lt_of_le_of_lt (hle hc) (by decide)
      · exact Nat.lt_of_le_of_lt (hle hc) (by decide)
    · rw [hs, List.length_cons, List.length_cons, h.1]
      decide
  · cases h

omit [Platform] in
theorem checked_isoformat (t : DateTime) : Checked t.isoformat :=
  ⟨isAscii_isoformat t, t.length_isoformat_le.trans (by decide)⟩

theorem Checked.limited (hascii : NfcAscii) {s : String} (h : Checked s) {depth : ℕ}
    (hdepth : depth ≤ maxCanonicalDepth) : (scalarText s).Limited depth :=
  limited_scalarText hascii h.1 (h.2.trans (by decide)) hdepth

theorem Checked.size_le (hascii : NfcAscii) {s : String} (h : Checked s) :
    (scalarText s).size ≤ 3074 :=
  Value.size_ofString_le hascii h.1 h.2

theorem limited_int {n : ℤ} {depth : ℕ} (hdepth : depth ≤ maxCanonicalDepth) :
    (Value.int n).Limited depth ↔ IsInt64 n := by
  rw [Value.Limited, and_iff_right hdepth]

theorem limited_optionalInt {n : Option ℤ} {depth : ℕ} (hdepth : depth ≤ maxCanonicalDepth) :
    (optionalInt n).Limited depth ↔ ∀ m ∈ n, IsInt64 m := by
  rcases n with _ | n
  · exact iff_of_true hdepth fun _ h => absurd h (by simp)
  · rw [optionalInt, limited_int hdepth]
    simp

theorem limited_optionalText {t : Option Text} {depth : ℕ} (hdepth : depth ≤ maxCanonicalDepth) :
    (optionalText t).Limited depth ↔ ∀ u ∈ t, ShortText u := by
  rcases t with _ | t
  · exact iff_of_true hdepth fun _ h => absurd h (by simp)
  · rw [optionalText, limited_str hdepth]
    simp

omit [Platform] in
theorem nodes_scalarText (s : String) : (scalarText s).nodes = 1 := rfl

omit [Platform] in
theorem nodes_int (n : ℤ) : (Value.int n).nodes = 1 := rfl

/-! ### Fingerprints and steps -/

/-- The limits on the texts and the integers of a fingerprint. -/
structure AuthorizationEvidenceFingerprint.Limited (f : AuthorizationEvidenceFingerprint) :
    Prop where
  capabilityPostureValue : ShortText f.capabilityPostureValue
  anchorAssuranceValue : ShortText f.anchorAssuranceValue
  anchorEvidenceState : ShortText f.anchorEvidenceState
  anchorBaseline : ∀ n ∈ f.anchorBaseline, IsInt64 n
  anchorWitnessValue : ∀ n ∈ f.anchorWitnessValue, IsInt64 n
  anchorProvisionedAt : ∀ t ∈ f.anchorProvisionedAt, ShortText t

theorem limited_toPayload (hascii : NfcAscii) (f : AuthorizationEvidenceFingerprint) :
    (dictOf f.toPayload).Limited 1 ↔ f.Limited := by
  have hkeys : f.toPayload.map Prod.fst = ["capability_posture_value", "anchor_assurance_value",
      "anchor_evidence_state", "anchor_baseline", "anchor_witness_value",
      "anchor_provisioned_at"] := rfl
  have hplain : plainKeys (f.toPayload.map Prod.fst) = true := by
    rw [hkeys]
    decide
  have hdepth : 1 + 1 ≤ maxCanonicalDepth := by decide
  rw [limited_dictOf hascii hplain (by decide) (by simp [AuthorizationEvidenceFingerprint.toPayload,
    maxCanonicalCollectionItems])]
  simp only [AuthorizationEvidenceFingerprint.toPayload, List.forall_mem_cons, limited_str hdepth,
    limited_optionalInt hdepth, limited_optionalText hdepth, List.not_mem_nil, IsEmpty.forall_iff,
    implies_true, and_true]
  exact ⟨fun ⟨h₁, h₂, h₃, h₄, h₅, h₆⟩ => ⟨h₁, h₂, h₃, h₄, h₅, h₆⟩,
    fun ⟨h₁, h₂, h₃, h₄, h₅, h₆⟩ => ⟨h₁, h₂, h₃, h₄, h₅, h₆⟩⟩

omit [Platform] in
theorem nodes_toPayload (f : AuthorizationEvidenceFingerprint) : (dictOf f.toPayload).nodes = 7 := by
  have hint (n : Option ℤ) : (optionalInt n).nodes = 1 := by rcases n with _ | n <;> rfl
  have htext (t : Option Text) : (optionalText t).nodes = 1 := by rcases t with _ | t <;> rfl
  simp [nodes_dictOf, AuthorizationEvidenceFingerprint.toPayload, hint, htext, Value.nodes]

/-- The limits on a list of texts. -/
theorem limited_texts {texts : List Text} {depth : ℕ} (hdepth : depth < maxCanonicalDepth) :
    (Value.list (texts.map .str)).Limited depth ↔
      texts.length ≤ maxCanonicalCollectionItems ∧ ∀ t ∈ texts, ShortText t := by
  have hitems (texts : List Text) : Value.LimitedItems (depth + 1) (texts.map .str) ↔
      ∀ t ∈ texts, ShortText t := by
    induction texts with
    | nil => simp [Value.LimitedItems]
    | cons t texts ih =>
      rw [List.map_cons, Value.LimitedItems, limited_str hdepth, ih, List.forall_mem_cons]
  rw [Value.Limited, List.length_map, hitems, and_iff_right hdepth.le]

omit [Platform] in
theorem nodes_texts (texts : List Text) :
    (Value.list (texts.map .str)).nodes = texts.length + 1 := by
  have hitems (texts : List Text) : Value.nodesItems (texts.map .str) = texts.length := by
    induction texts with
    | nil => rfl
    | cons t texts ih =>
      have ht : (Value.str t).nodes = 1 := rfl
      rw [List.map_cons, Value.nodesItems, ih, ht, List.length_cons, Nat.add_comm]
  rw [Value.nodes, hitems]

/-- A binding stays within the limits, and a list of bindings if it is not too long. -/
theorem limited_bindings (hascii : NfcAscii) {bindings : List PlanAuthorizationStepBinding} :
    (Value.list (bindings.map fun b => dictOf b.toPayload)).Limited 1 ↔
      bindings.length ≤ maxCanonicalCollectionItems := by
  have hbinding (b : PlanAuthorizationStepBinding) : (dictOf b.toPayload).Limited 2 := by
    have hkeys : b.toPayload.map Prod.fst = ["step_id", "execution_intent_digest"] := rfl
    have hplain : plainKeys (b.toPayload.map Prod.fst) = true := by
      rw [hkeys]
      decide
    refine (limited_dictOf hascii hplain (by decide) (by simp [PlanAuthorizationStepBinding.toPayload,
      maxCanonicalCollectionItems])).mpr ?_
    simp only [PlanAuthorizationStepBinding.toPayload, List.forall_mem_cons, List.not_mem_nil,
      IsEmpty.forall_iff, implies_true, and_true]
    exact ⟨(checked_of_isIdentifier b.valid.1).limited hascii (by decide),
      (checked_of_isHex64 b.valid.2).limited hascii (by decide)⟩
  have hitems (bindings : List PlanAuthorizationStepBinding) :
      Value.LimitedItems 2 (bindings.map fun b => dictOf b.toPayload) := by
    induction bindings with
    | nil => trivial
    | cons b bindings ih => exact ⟨hbinding b, ih⟩
  rw [Value.Limited, List.length_map]
  exact ⟨fun h => h.2.1, fun h => ⟨by decide, h, hitems bindings⟩⟩

omit [Platform] in
theorem nodes_bindings (bindings : List PlanAuthorizationStepBinding) :
    (Value.list (bindings.map fun b => dictOf b.toPayload)).nodes = 3 * bindings.length + 1 := by
  have hitems (bindings : List PlanAuthorizationStepBinding) :
      Value.nodesItems (bindings.map fun b => dictOf b.toPayload) = 3 * bindings.length := by
    induction bindings with
    | nil => rfl
    | cons b bindings ih =>
      have hb : (dictOf b.toPayload).nodes = 3 := rfl
      rw [List.map_cons, Value.nodesItems, ih, hb, List.length_cons]
      omega
  rw [Value.nodes, hitems]

/-! ### Payloads -/

namespace SignedArtifact

omit [Platform] in
theorem plainKeys_signedFields (a : SignedArtifact) :
    plainKeys (a.signedFields.map Prod.fst) = true := by
  rw [keys_signedFields]
  rcases a.kind <;> decide

/-- The limits on the keys of an artifact are met. -/
theorem limited_signedFields (hascii : NfcAscii) (a : SignedArtifact) :
    (dictOf a.signedFields).Limited 0 ↔ ∀ f ∈ a.signedFields, f.2.Limited 1 := by
  refine limited_dictOf hascii (plainKeys_signedFields a) (by decide) ?_
  · rw [← List.length_map (f := Prod.fst), keys_signedFields]
    rcases a.kind <;> decide

/-- There is a payload exactly if the signed dictionary stays within the limits. -/
theorem exists_signingPayload_iff (hascii : NfcAscii) (a : SignedArtifact) :
    (∃ bytes, a.signingPayload = .ok bytes) ↔ (∀ f ∈ a.signedFields, f.2.Limited 1) ∧
      (dictOf a.signedFields).nodes ≤ maxCanonicalNodes ∧
      (dictOf a.signedFields).size ≤ maxCanonicalBytes := by
  rw [signingPayload, Value.exists_canonicalJson_iff, ← limited_signedFields hascii]
  exact ⟨fun ⟨h₁, h₂, h₃⟩ => ⟨h₁, h₂, h₃⟩, fun ⟨h₁, h₂, h₃⟩ => ⟨h₁, h₂, h₃⟩⟩

end SignedArtifact

/-- What the constructors of both versions of a plan authorization have checked. -/
theorem AuthorizationFields.limited (hascii : NfcAscii) {schemaVersion : ℤ}
    {a : AuthorizationFields} (h : a.Valid schemaVersion) :
    (scalarText a.authorizationId).Limited 1 ∧ (scalarText a.planDigest).Limited 1 ∧
      (scalarText a.authorityId).Limited 1 ∧ (scalarText a.algorithm).Limited 1 ∧
      (scalarText a.issuedAt.isoformat).Limited 1 ∧ (scalarText a.expiresAt.isoformat).Limited 1 ∧
      (scalarText a.riskClass.value).Limited 1 := by
  obtain ⟨-, hid, hauthority, halgorithm, hplan, -, -, -⟩ := h
  have hrisk : Checked a.riskClass.value := by
    rcases a.riskClass <;> exact ⟨by decide, by decide⟩
  have halgorithm' : Checked a.algorithm := by
    rw [halgorithm]
    exact ⟨by decide, by decide⟩
  have hdepth : 1 ≤ maxCanonicalDepth := by decide
  exact ⟨(checked_of_isIdentifier hid).limited hascii hdepth,
    (checked_of_isHex64 hplan).limited hascii hdepth,
    (checked_of_isIdentifier hauthority).limited hascii hdepth,
    halgorithm'.limited hascii hdepth, (checked_isoformat _).limited hascii hdepth,
    (checked_isoformat _).limited hascii hdepth, hrisk.limited hascii hdepth⟩

/-- The number of bytes of the signed dictionary. -/
def SignedArtifact.size (a : SignedArtifact) : ℕ := (dictOf a.signedFields).size

/-- A plan authorization has a payload exactly if its texts and integers are within the limits, it
has at most 4096 steps, and it is not too large. -/
theorem exists_payload_planAuthorization (hascii : NfcAscii) (a : PlanAuthorization) :
    (∃ bytes, (SignedArtifact.planAuthorization a).signingPayload = .ok bytes) ↔
      a.evidenceFingerprint.Limited ∧ (∀ step ∈ a.authorizedStepIds, ShortText step) ∧
        a.authorizedStepIds.length ≤ maxCanonicalCollectionItems ∧
        (SignedArtifact.planAuthorization a).size ≤ maxCanonicalBytes := by
  have hpurpose : (scalarText DigestPurpose.planAuthorization.value).Limited 1 :=
    limited_scalarText hascii (by decide) (by decide) (by decide)
  have hversion : (Value.int a.schemaVersion).Limited 1 := by
    rw [limited_int (by decide), a.valid.1]
    decide
  obtain ⟨hid, hplan, hauthority, halgorithm, hissued, hexpires, hrisk⟩ :=
    AuthorizationFields.limited hascii a.valid
  have hperm := List.mergeSort_perm a.authorizedStepIds fun s t => !decide (t < s)
  have hlength : (sortTexts a.authorizedStepIds).length = a.authorizedStepIds.length :=
    hperm.length_eq
  have hmem : ∀ {t}, t ∈ sortTexts a.authorizedStepIds ↔ t ∈ a.authorizedStepIds := hperm.mem_iff
  have hnodes : (dictOf a.signedFields).nodes = a.authorizedStepIds.length + 18 := by
    rw [nodes_dictOf, PlanAuthorization.signedFields]
    simp only [List.map_cons, List.map_nil, List.sum_cons, List.sum_nil, nodes_toPayload,
      nodes_texts, hlength, nodes_scalarText, nodes_int]
    omega
  rw [SignedArtifact.exists_signingPayload_iff hascii, SignedArtifact.size]
  simp only [SignedArtifact.signedFields, hnodes]
  simp only [PlanAuthorization.signedFields, List.forall_mem_cons, List.not_mem_nil,
    IsEmpty.forall_iff, implies_true, and_true, limited_toPayload hascii,
    limited_texts (show 1 < maxCanonicalDepth by decide), hlength, hmem, hpurpose, hversion, hid,
    hplan, hauthority, halgorithm, hissued, hexpires, hrisk, true_and]
  unfold maxCanonicalCollectionItems maxCanonicalNodes
  constructor
  · rintro ⟨⟨⟨hcount, hsteps⟩, hfingerprint⟩, -, hsize⟩
    exact ⟨hfingerprint, hsteps, hcount, hsize⟩
  · rintro ⟨hfingerprint, hsteps, hcount, hsize⟩
    exact ⟨⟨⟨hcount, hsteps⟩, hfingerprint⟩, by omega, hsize⟩

/-- A second version has a payload exactly if its fingerprint is within the limits, it has at most
3327 bindings, and it is not too large. -/
theorem exists_payload_planAuthorizationV2 (hascii : NfcAscii) (a : PlanAuthorizationV2) :
    (∃ bytes, (SignedArtifact.planAuthorizationV2 a).signingPayload = .ok bytes) ↔
      a.evidenceFingerprint.Limited ∧ a.authorizedExecutions.length ≤ 3327 ∧
        (SignedArtifact.planAuthorizationV2 a).size ≤ maxCanonicalBytes := by
  have hpurpose : (scalarText DigestPurpose.planAuthorizationV2.value).Limited 1 :=
    limited_scalarText hascii (by decide) (by decide) (by decide)
  have hversion : (Value.int a.schemaVersion).Limited 1 := by
    rw [limited_int (by decide), a.valid.1]
    decide
  obtain ⟨hid, hplan, hauthority, halgorithm, hissued, hexpires, hrisk⟩ :=
    AuthorizationFields.limited hascii a.valid
  have hlength : (sortBindings a.authorizedExecutions).length = a.authorizedExecutions.length :=
    List.length_mergeSort _
  have hnodes : (dictOf a.signedFields).nodes = 3 * a.authorizedExecutions.length + 18 := by
    rw [nodes_dictOf, PlanAuthorizationV2.signedFields]
    simp only [List.map_cons, List.map_nil, List.sum_cons, List.sum_nil, nodes_toPayload,
      nodes_bindings, hlength, nodes_scalarText, nodes_int]
    omega
  rw [SignedArtifact.exists_signingPayload_iff hascii, SignedArtifact.size]
  simp only [SignedArtifact.signedFields, hnodes]
  simp only [PlanAuthorizationV2.signedFields, List.forall_mem_cons, List.not_mem_nil,
    IsEmpty.forall_iff, implies_true, and_true, limited_toPayload hascii, limited_bindings hascii,
    hlength, hpurpose, hversion, hid, hplan, hauthority, halgorithm, hissued, hexpires, hrisk,
    true_and]
  unfold maxCanonicalCollectionItems maxCanonicalNodes
  constructor
  · rintro ⟨⟨-, hfingerprint⟩, hcount, hsize⟩
    exact ⟨hfingerprint, by omega, hsize⟩
  · rintro ⟨hfingerprint, hcount, hsize⟩
    exact ⟨⟨by omega, hfingerprint⟩, by omega, hsize⟩

/-- An approval has a payload exactly if its version is an integer of 64 bits. -/
theorem exists_payload_sealedWriteApproval (hascii : NfcAscii) (a : SealedWriteApproval) :
    (∃ bytes, (SignedArtifact.sealedWriteApproval a).signingPayload = .ok bytes) ↔
      a.stateVersion ≤ 2 ^ 63 - 1 := by
  obtain ⟨hschema, hcontract, hstate, hintent, htarget, -, -, -⟩ := a.valid
  have hclass : Checked a.securityClass.value := by
    rcases a.securityClass <;> exact ⟨by decide, by decide⟩
  have hpurpose : Checked "pfsense-mcp-standard-sealed-write-approval-v1" :=
    ⟨by decide, by decide⟩
  have hchecked {s : String} (h : Checked s) :
      (scalarText s).Limited 1 ∧ (scalarText s).size ≤ 3074 :=
    ⟨h.limited hascii (by decide), h.size_le hascii⟩
  obtain ⟨hcontract₁, hcontract₂⟩ := hchecked (checked_of_isIdentifier hcontract)
  obtain ⟨hintent₁, hintent₂⟩ := hchecked (checked_of_isHex64 hintent)
  obtain ⟨htarget₁, htarget₂⟩ := hchecked (checked_of_isHex64 htarget)
  obtain ⟨hissued₁, hissued₂⟩ := hchecked (checked_isoformat a.issuedAt)
  obtain ⟨hexpires₁, hexpires₂⟩ := hchecked (checked_isoformat a.expiresAt)
  obtain ⟨hclass₁, hclass₂⟩ := hchecked hclass
  obtain ⟨hpurpose₁, hpurpose₂⟩ := hchecked hpurpose
  have hversion : (Value.int a.schemaVersion).Limited 1 ∧ (Value.int a.schemaVersion).size ≤ 76 := by
    rw [limited_int (by decide), hschema]
    exact ⟨by decide, Value.size_int_le (by decide) (by decide)⟩
  rw [SignedArtifact.exists_signingPayload_iff hascii]
  simp only [SignedArtifact.signedFields, SealedWriteApproval.signedFields, List.forall_mem_cons,
    List.not_mem_nil, IsEmpty.forall_iff, implies_true, and_true, hpurpose₁, hversion.1, hcontract₁,
    limited_int (show 1 ≤ maxCanonicalDepth by decide), hclass₁, hintent₁, htarget₁, hissued₁,
    hexpires₁, true_and]
  constructor
  · rintro ⟨hint, -, -⟩
    exact hint.2
  · intro hbound
    have hsize := size_dictOf_le hascii
      (SignedArtifact.plainKeys_signedFields (.sealedWriteApproval a))
    have hnumber := Value.size_int_le hstate hbound
    simp only [SignedArtifact.signedFields, SealedWriteApproval.signedFields, List.map_cons,
      List.map_nil, List.sum_cons, List.sum_nil] at hsize
    refine ⟨⟨by omega, hbound⟩, ?_, hsize.trans ?_⟩
    · simp only [nodes_dictOf, List.map_cons, List.map_nil, List.sum_cons, List.sum_nil,
        nodes_scalarText, nodes_int]
      decide
    unfold maxCanonicalBytes
    omega

/-- An export has a payload exactly if its baseline is an integer of 64 bits, and its time of
provisioning is short. -/
theorem exists_payload_anchorEvidenceExport (hascii : NfcAscii) (e : AnchorExport) :
    (∃ bytes, (SignedArtifact.anchorEvidenceExport e).signingPayload = .ok bytes) ↔
      e.baseline ≤ 2 ^ 63 - 1 ∧ ShortText e.provisionedAt := by
  obtain ⟨hschema, hstore, hhandle, hbaseline, -, -, -, -⟩ := e.valid
  have hpurpose : Checked "pfsense-mcp-anchor-evidence-export-v1" := ⟨by decide, by decide⟩
  have hchecked {s : String} (h : Checked s) :
      (scalarText s).Limited 1 ∧ (scalarText s).size ≤ 3074 :=
    ⟨h.limited hascii (by decide), h.size_le hascii⟩
  obtain ⟨hstore₁, hstore₂⟩ := hchecked (checked_of_isIdentifier hstore)
  obtain ⟨hhandle₁, hhandle₂⟩ := hchecked (checked_of_isHandle hhandle)
  obtain ⟨hissued₁, hissued₂⟩ := hchecked (checked_isoformat e.issuedAt)
  obtain ⟨hexpires₁, hexpires₂⟩ := hchecked (checked_isoformat e.expiresAt)
  obtain ⟨hpurpose₁, hpurpose₂⟩ := hchecked hpurpose
  have hversion : (Value.int e.schemaVersion).Limited 1 ∧ (Value.int e.schemaVersion).size ≤ 76 := by
    rw [limited_int (by decide), hschema]
    exact ⟨by decide, Value.size_int_le (by decide) (by decide)⟩
  have hdepth : 1 ≤ maxCanonicalDepth := by decide
  rw [SignedArtifact.exists_signingPayload_iff hascii]
  simp only [SignedArtifact.signedFields, AnchorExport.signedFields, List.forall_mem_cons,
    List.not_mem_nil, IsEmpty.forall_iff, implies_true, and_true, hpurpose₁, hversion.1, hstore₁,
    limited_int hdepth, limited_str hdepth, hhandle₁, hissued₁, hexpires₁, true_and]
  constructor
  · rintro ⟨⟨hint, hshort⟩, -, -⟩
    exact ⟨hint.2, hshort⟩
  · rintro ⟨hbound, hshort⟩
    have hsize := size_dictOf_le hascii
      (SignedArtifact.plainKeys_signedFields (.anchorEvidenceExport e))
    have hnumber := Value.size_int_le hbaseline hbound
    have htext := Value.size_str_le hshort
    simp only [SignedArtifact.signedFields, AnchorExport.signedFields, List.map_cons,
      List.map_nil, List.sum_cons, List.sum_nil] at hsize
    have hstr : (Value.str e.provisionedAt).nodes = 1 := rfl
    refine ⟨⟨⟨by omega, hbound⟩, hshort⟩, ?_, hsize.trans ?_⟩
    · simp only [nodes_dictOf, List.map_cons, List.map_nil, List.sum_cons, List.sum_nil,
        nodes_scalarText, nodes_int, hstr]
      decide
    unfold maxCanonicalStringBytes at htext
    unfold maxCanonicalBytes
    omega

end Signing
