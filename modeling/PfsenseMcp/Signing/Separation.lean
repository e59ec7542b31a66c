import PfsenseMcp.Python.Equality
import PfsenseMcp.Signing.Payloads
import PfsenseMcp.Tier1.Lifecycle

/-!
# Signatures are of one artifact

Two signed artifacts whose signatures cover the same bytes are of the same kind, and agree in every
field that is signed: texts in normalisation form C, and steps as sets.

## Main results

* `fieldForm_eq`: equal encodings are those of dictionaries with the same normal forms;
* `SignedArtifact.agrees_of_signingPayload`: artifacts with the same signed bytes agree.
-/

namespace Signing

open Python Tier1 Posture

section

variable [Platform]

/-! ### Normal forms of dictionaries -/

theorem normalForm_str (t : Text) : (Value.str t).normalForm = (normalText t).map .str := by
  rw [Value.normalForm, normalText, Option.map_map]
  rfl

@[simp]
theorem normalForm_scalarText (s : String) :
    (scalarText s).normalForm = some (.str (Platform.nfc s)) := by
  rw [scalarText, normalForm_str, normalText, Text.toString?_ofString, Option.map_some,
    Option.map_some]

@[simp]
theorem normalForm_int (n : ℤ) : (Value.int n).normalForm = some (.int n) := by
  rw [Value.normalForm]

@[simp]
theorem normalForm_optionalInt (n : Option ℤ) :
    (optionalInt n).normalForm = some (n.elim .null .int) := by
  rcases n with _ | n <;> rw [optionalInt, Value.normalForm] <;> rfl

/-- The normal form of an optional text. -/
theorem normalForm_optionalText (t : Option Text) :
    (optionalText t).normalForm = t.elim (some .null) fun t => (normalText t).map .str := by
  rcases t with _ | t
  · rw [optionalText, Value.normalForm]
    rfl
  · exact normalForm_str t

/-- The normal forms of the values under the keys of a dictionary. -/
def fieldForm (fields : List (String × Value)) (key : String) : Option Unordered :=
  (fields.lookup key).bind Value.normalForm

theorem fieldForm_cons_self (key : String) (v : Value) (fields : List (String × Value)) :
    fieldForm ((key, v) :: fields) key = v.normalForm := by
  rw [fieldForm, List.lookup_cons_self, Option.bind_some]

theorem fieldForm_eq_none {fields : List (String × Value)} {key : String}
    (h : key ∉ fields.map Prod.fst) : fieldForm fields key = none := by
  have hlookup : fields.lookup key = none := by
    rw [List.lookup_eq_none_iff]
    intro f hf
    have hne : key ≠ f.1 := by
      rintro rfl
      exact h (List.mem_map_of_mem hf)
    exact bne_iff_ne.mpr hne
  rw [fieldForm, hlookup, Option.bind_none]

/-- A key that normalisation keeps. -/
def KeepsKeys (fields : List (String × Value)) : Prop :=
  ∀ f ∈ fields, Platform.nfc f.1 = f.1

/-- Keys of ASCII characters. -/
theorem keepsKeys_of_isAscii (hascii : NfcAscii) {fields : List (String × Value)}
    (h : (fields.map Prod.fst).all isAscii = true) : KeepsKeys fields :=
  fun _ hf => nfc_of_isAscii hascii (List.all_eq_true.mp h _ (List.mem_map_of_mem hf))

theorem lookup_normalFormFields {fields : List (String × Value)} (hkeys : KeepsKeys fields)
    {forms : List (String × Unordered)}
    (h : Value.normalFormFields (fields.map fun f => (.str (Text.ofString f.1), f.2)) =
      some forms) :
    (fun key => forms.lookup key) = fieldForm fields ∧
      ∀ f ∈ fields, f.2.normalForm.isSome = true := by
  induction fields generalizing forms with
  | nil =>
    simp only [List.map_nil, Value.normalFormFields, Option.some.injEq] at h
    rw [← h]
    exact ⟨rfl, fun _ hf => absurd hf List.not_mem_nil⟩
  | cons f fields ih =>
    obtain ⟨k, v⟩ := f
    rw [KeepsKeys, List.forall_mem_cons] at hkeys
    simp only [List.map_cons, Value.normalFormFields, Text.toString?_ofString,
      Option.bind_eq_bind, Option.bind_some, Option.bind_eq_some_iff, Option.pure_def,
      Option.some.injEq] at h
    obtain ⟨n, hn, rest, hrest, rfl⟩ := h
    obtain ⟨hlookup, hsome⟩ := ih hkeys.2 hrest
    refine ⟨funext fun key => ?_, List.forall_mem_cons.mpr ⟨Option.isSome_of_eq_some hn, hsome⟩⟩
    have hk : Platform.nfc k = k := hkeys.1
    rw [hk, List.lookup_cons, fieldForm, List.lookup_cons]
    by_cases heq : key = k
    · rw [heq, beq_self_eq_true]
      exact hn.symm
    · rw [beq_false_of_ne heq]
      exact congrFun hlookup key

/-- The normal form of a dictionary with keys that normalisation keeps. -/
theorem normalForm_dictOf {fields : List (String × Value)} (hkeys : KeepsKeys fields)
    {n : Unordered} (h : (dictOf fields).normalForm = some n) :
    n = .obj (fieldForm fields) ∧ ∀ f ∈ fields, f.2.normalForm.isSome = true := by
  simp only [dictOf, Value.normalForm, Option.map_eq_some_iff] at h
  obtain ⟨forms, hforms, rfl⟩ := h
  obtain ⟨hlookup, hsome⟩ := lookup_normalFormFields hkeys hforms
  exact ⟨congrArg Unordered.obj hlookup, hsome⟩

/-- Equal encodings are those of dictionaries with the same normal forms under every key. -/
theorem fieldForm_eq (hnfc : Value.NfcIdempotent) {fields fields' : List (String × Value)}
    (hkeys : KeepsKeys fields) (hkeys' : KeepsKeys fields') {bytes : Bytes}
    (h : (dictOf fields).canonicalJson = .ok bytes)
    (h' : (dictOf fields').canonicalJson = .ok bytes) :
    fieldForm fields = fieldForm fields' ∧ ∀ f ∈ fields, f.2.normalForm.isSome = true := by
  obtain ⟨n, hn, hn'⟩ := (Value.canonicalJson_eq_iff hnfc h h').mp rfl
  obtain ⟨heq, hsome⟩ := normalForm_dictOf hkeys hn
  exact ⟨Unordered.obj.inj (heq.symm.trans (normalForm_dictOf hkeys' hn').1), hsome⟩

/-- What is under the keys of a dictionary, in the order of the fields. -/
theorem map_normalForm {fields : List (String × Value)} (hnodup : (fields.map Prod.fst).Nodup) :
    fields.map (fun f => f.2.normalForm) = (fields.map Prod.fst).map (fieldForm fields) := by
  rw [List.map_map]
  refine List.map_congr_left fun f hf => ?_
  rw [Function.comp_apply, fieldForm, Json.lookup_of_mem hnodup hf, Option.bind_some]

/-- Dictionaries with the same keys in the same order have the same normal forms field by field. -/
theorem map_normalForm_eq {fields fields' : List (String × Value)}
    (h : fieldForm fields = fieldForm fields') (hnodup : (fields.map Prod.fst).Nodup)
    (hkeys : fields'.map Prod.fst = fields.map Prod.fst) :
    fields.map (fun f => f.2.normalForm) = fields'.map fun f => f.2.normalForm := by
  rw [map_normalForm hnodup, map_normalForm (hkeys ▸ hnodup), hkeys, h]

/-! ### Agreement -/

/-- Texts without surrogates that have the same normalisation form C. -/
def SameText (s t : Text) : Prop := ∃ u, normalText s = some u ∧ normalText t = some u

/-- Checked texts with the same normalisation form C. -/
def SameString (s t : String) : Prop := Platform.nfc s = Platform.nfc t

/-- Optional texts with the same normalisation form C. -/
def SameOptionalText (s t : Option Text) : Prop :=
  (s = none ∧ t = none) ∨ ∃ u v, s = some u ∧ t = some v ∧ SameText u v

/-- Fingerprints with the same fields. -/
structure SameFingerprint (f g : AuthorizationEvidenceFingerprint) : Prop where
  capabilityPostureValue : SameText f.capabilityPostureValue g.capabilityPostureValue
  anchorAssuranceValue : SameText f.anchorAssuranceValue g.anchorAssuranceValue
  anchorEvidenceState : SameText f.anchorEvidenceState g.anchorEvidenceState
  anchorBaseline : f.anchorBaseline = g.anchorBaseline
  anchorWitnessValue : f.anchorWitnessValue = g.anchorWitnessValue
  anchorProvisionedAt : SameOptionalText f.anchorProvisionedAt g.anchorProvisionedAt

/-- Plan authorizations with the same fields besides the proof and the steps. -/
structure SameAuthorization (a b : AuthorizationFields) : Prop where
  schemaVersion : a.schemaVersion = b.schemaVersion
  authorizationId : SameString a.authorizationId b.authorizationId
  planDigest : SameString a.planDigest b.planDigest
  authorityId : SameString a.authorityId b.authorityId
  algorithm : SameString a.algorithm b.algorithm
  issuedAt : a.issuedAt = b.issuedAt
  expiresAt : a.expiresAt = b.expiresAt
  riskClass : a.riskClass = b.riskClass
  evidenceFingerprint : SameFingerprint a.evidenceFingerprint b.evidenceFingerprint

/-- A binding, in normalisation form C. -/
def PlanAuthorizationStepBinding.normalized (b : PlanAuthorizationStepBinding) : String × String :=
  (Platform.nfc b.stepId, Platform.nfc b.executionIntentDigest)

namespace SignedArtifact

/-- Two artifacts are of one kind and agree in all their fields besides the proof, and in the kinds
whose authority is not signed besides the authority. -/
def Agrees : SignedArtifact → SignedArtifact → Prop
  | planAuthorization a, planAuthorization b =>
    SameAuthorization a.toAuthorizationFields b.toAuthorizationFields ∧
      ∀ step, some step ∈ a.authorizedStepIds.map normalText ↔
        some step ∈ b.authorizedStepIds.map normalText
  | planAuthorizationV2 a, planAuthorizationV2 b =>
    SameAuthorization a.toAuthorizationFields b.toAuthorizationFields ∧
      ∀ binding, binding ∈ a.authorizedExecutions.map PlanAuthorizationStepBinding.normalized ↔
        binding ∈ b.authorizedExecutions.map PlanAuthorizationStepBinding.normalized
  | deprovisionAuthorization a, deprovisionAuthorization b =>
    a.schemaVersion = b.schemaVersion ∧ SameString a.authorizationId b.authorizationId ∧
      SameString a.targetIdentityDigest b.targetIdentityDigest ∧
      SameString a.authorityId b.authorityId ∧ SameString a.algorithm b.algorithm ∧
      a.issuedAt = b.issuedAt ∧ a.expiresAt = b.expiresAt
  | confirmationEvidence d, confirmationEvidence e =>
    SameString d.algorithm e.algorithm ∧ SameString d.authorityId e.authorityId ∧
      SameString d.contractId e.contractId ∧ d.expiresAt = e.expiresAt ∧
      SameString d.intentDigest e.intentDigest ∧ d.issuedAt = e.issuedAt ∧
      SameString d.nonce e.nonce ∧ SameString d.operationId e.operationId ∧
      SameString d.targetFingerprint e.targetFingerprint ∧
      SameString d.targetIdentityDigest e.targetIdentityDigest
  | reconciliationEvidence d, reconciliationEvidence e =>
    SameString d.algorithm e.algorithm ∧ SameString d.authorityId e.authorityId ∧
      SameString d.contractId e.contractId ∧ d.issuedAt = e.issuedAt ∧
      d.observedStateVersion = e.observedStateVersion ∧ SameString d.operationId e.operationId ∧
      d.outcome = e.outcome ∧
      d.verifiedTargetFingerprint.map Platform.nfc = e.verifiedTargetFingerprint.map Platform.nfc ∧
      d.verifiedLifecycleLocator = e.verifiedLifecycleLocator
  | sealedWriteApproval a, sealedWriteApproval b =>
    a.schemaVersion = b.schemaVersion ∧ SameString a.contractId b.contractId ∧
      a.stateVersion = b.stateVersion ∧ a.securityClass = b.securityClass ∧
      SameString a.executionIntentDigest b.executionIntentDigest ∧
      SameString a.targetIdentityDigest b.targetIdentityDigest ∧ a.issuedAt = b.issuedAt ∧
      a.expiresAt = b.expiresAt
  | anchorEvidenceExport d, anchorEvidenceExport e =>
    d.schemaVersion = e.schemaVersion ∧ SameString d.storeId e.storeId ∧
      SameString d.handle e.handle ∧ d.baseline = e.baseline ∧
      SameText d.provisionedAt e.provisionedAt ∧ d.issuedAt = e.issuedAt ∧
      d.expiresAt = e.expiresAt
  | _, _ => False

/-- All keys are of ASCII characters. -/
theorem keepsKeys_signedFields (hascii : NfcAscii) (a : SignedArtifact) :
    KeepsKeys a.signedFields := by
  have hplain := plainKeys_signedFields a
  simp only [plainKeys, Bool.and_eq_true, List.all_eq_true] at hplain
  exact keepsKeys_of_isAscii hascii (List.all_eq_true.mpr fun k hk => (hplain.2 k hk).1)

theorem fieldForm_purpose (hascii : NfcAscii) (a : SignedArtifact) :
    fieldForm a.signedFields "digest_purpose" = a.kind.purpose.map .str := by
  have hfirst {s : String} (h : isAscii s = true) (fields : List (String × Value)) :
      fieldForm (("digest_purpose", scalarText s) :: fields) "digest_purpose" = some (.str s) := by
    rw [fieldForm_cons_self, normalForm_scalarText, nfc_of_isAscii hascii h]
  have hnone {k : Kind} (h : "digest_purpose" ∉ k.keys) {a : SignedArtifact} (ha : a.kind = k) :
      fieldForm a.signedFields "digest_purpose" = none :=
    fieldForm_eq_none (by rwa [keys_signedFields, ha])
  rcases a with a | a | a | e | e | a | e
  · exact hfirst (s := "plan-authorization") (by decide) _
  · exact hfirst (s := "plan-authorization-v2") (by decide) _
  · exact hfirst (s := "deprovision-authorization") (by decide) _
  · exact hnone (k := .confirmationEvidence) (by decide) rfl
  · exact hnone (k := .reconciliationEvidence) (by decide) rfl
  · exact hfirst (s := "pfsense-mcp-standard-sealed-write-approval-v1") (by decide) _
  · exact hfirst (s := "pfsense-mcp-anchor-evidence-export-v1") (by decide) _

/-- Confirmation has a nonce, and reconciliation has none. -/
theorem fieldForm_nonce {a b : SignedArtifact} (ha : a.kind = .confirmationEvidence)
    (hb : b.kind = .reconciliationEvidence) :
    fieldForm a.signedFields "nonce" ≠ fieldForm b.signedFields "nonce" := by
  rcases a with a | a | a | a | a | a | a <;> try exact Kind.noConfusion ha
  rcases b with b | b | b | b | b | b | b <;> try exact Kind.noConfusion hb
  have hnone : fieldForm (reconciliationEvidence b).signedFields "nonce" = none :=
    fieldForm_eq_none (by rw [keys_signedFields, hb]; decide)
  have hmem : ("nonce", scalarText a.nonce) ∈ (confirmationEvidence a).signedFields := by
    simp [signedFields, confirmationFields]
  rw [hnone, fieldForm, Json.lookup_of_mem (nodup_signedFields _) hmem, Option.bind_some,
    normalForm_scalarText]
  exact Option.some_ne_none _

/-! ### Values that determine what was written -/

/-- What is written in ASCII characters is read back from the normal form. -/
theorem eq_of_nfc (hascii : NfcAscii) {α : Type} (write : α → String)
    (hinj : Function.Injective write) (hwrite : ∀ x, isAscii (write x) = true) {x y : α}
    (h : Platform.nfc (write x) = Platform.nfc (write y)) : x = y := by
  rw [nfc_of_isAscii hascii (hwrite x), nfc_of_isAscii hascii (hwrite y)] at h
  exact hinj h

theorem eq_of_isoformat (hascii : NfcAscii) {s t : DateTime}
    (h : Platform.nfc s.isoformat = Platform.nfc t.isoformat) : s = t := by
  refine eq_of_nfc hascii DateTime.isoformat (fun _ _ => DateTime.isoformat_injective) ?_ h
  intro t
  exact List.all_eq_true.mpr fun c hc => decide_eq_true (t.isoformat_ascii c hc)

theorem eq_of_riskClass (hascii : NfcAscii) {l m : AuthorizationLevel}
    (h : Platform.nfc l.value = Platform.nfc m.value) : l = m := by
  refine eq_of_nfc hascii AuthorizationLevel.value ?_ ?_ h
  · intro x y hxy
    rcases x <;> rcases y <;> first | rfl | exact absurd hxy (by decide)
  · intro x
    rcases x <;> decide

theorem eq_of_outcomeValue (hascii : NfcAscii) {o p : ReconciliationOutcome}
    (h : Platform.nfc (outcomeValue o) = Platform.nfc (outcomeValue p)) : o = p := by
  refine eq_of_nfc hascii outcomeValue ?_ ?_ h
  · intro x y hxy
    rcases x <;> rcases y <;> first | rfl | exact absurd hxy (by decide)
  · intro x
    rcases x <;> decide

theorem eq_of_securityClass (hascii : NfcAscii) {c d : WriteSecurityClass}
    (h : Platform.nfc c.value = Platform.nfc d.value) : c = d := by
  refine eq_of_nfc hascii WriteSecurityClass.value ?_ ?_ h
  · intro x y hxy
    rcases x <;> rcases y <;> first | rfl | exact absurd hxy (by decide)
  · intro x
    rcases x <;> decide

omit [Platform] in
theorem eq_of_optionalInt {m n : Option ℤ}
    (h : m.elim Unordered.null Unordered.int = n.elim Unordered.null Unordered.int) : m = n := by
  rcases m with _ | m <;> rcases n with _ | n <;> simp at h ⊢
  exact h

theorem sameText {s t : Text} (h : (Value.str s).normalForm = (Value.str t).normalForm)
    (hsome : (Value.str s).normalForm.isSome = true) : SameText s t := by
  rw [normalForm_str, normalForm_str] at h
  rw [normalForm_str, Option.isSome_map, Option.isSome_iff_exists] at hsome
  obtain ⟨u, hu⟩ := hsome
  exact ⟨u, hu, (Option.map_injective (fun _ _ => Unordered.str.inj) h).symm.trans hu⟩

theorem sameOptionalText {s t : Option Text}
    (h : (optionalText s).normalForm = (optionalText t).normalForm)
    (hsome : (optionalText s).normalForm.isSome = true) : SameOptionalText s t := by
  have hnull (u : Text) : (Value.str u).normalForm ≠ some .null := by
    rw [normalForm_str]
    rcases normalText u with _ | u <;> simp
  have hnone : (optionalText none).normalForm = some .null := by
    rw [normalForm_optionalText]
    rfl
  rcases s with _ | s <;> rcases t with _ | t
  · exact Or.inl ⟨rfl, rfl⟩
  · exact absurd (h.symm.trans hnone) (hnull t)
  · exact absurd (h.trans hnone) (hnull s)
  · exact Or.inr ⟨s, t, rfl, rfl, sameText h hsome⟩

theorem eq_of_scalarText {s t : Option String}
    (h : (optionalText (s.map Text.ofString)).normalForm =
      (optionalText (t.map Text.ofString)).normalForm) :
    s.map Platform.nfc = t.map Platform.nfc := by
  have hform (s : Option String) : (optionalText (s.map Text.ofString)).normalForm =
      some ((s.map Platform.nfc).elim .null .str) := by
    rw [normalForm_optionalText]
    rcases s with _ | s
    · rfl
    · rw [Option.map_some, Option.elim_some, normalText, Text.toString?_ofString]
      rfl
  rw [hform, hform, Option.some.injEq] at h
  rcases s with _ | s <;> rcases t with _ | t <;> simp at h ⊢
  exact h

/-- Fingerprints with the same normal form. -/
theorem sameFingerprint (hascii : NfcAscii) {f g : AuthorizationEvidenceFingerprint}
    (h : (dictOf f.toPayload).normalForm = (dictOf g.toPayload).normalForm)
    (hsome : (dictOf f.toPayload).normalForm.isSome = true) : SameFingerprint f g := by
  have hkeys (f : AuthorizationEvidenceFingerprint) : KeepsKeys f.toPayload := by
    have hliteral : f.toPayload.map Prod.fst = ["capability_posture_value",
        "anchor_assurance_value", "anchor_evidence_state", "anchor_baseline",
        "anchor_witness_value", "anchor_provisioned_at"] := rfl
    refine keepsKeys_of_isAscii hascii ?_
    rw [hliteral]
    decide
  obtain ⟨n, hn⟩ := Option.isSome_iff_exists.mp hsome
  obtain ⟨heq, hvalues⟩ := normalForm_dictOf (hkeys f) hn
  have hfields : fieldForm f.toPayload = fieldForm g.toPayload :=
    Unordered.obj.inj (heq.symm.trans (normalForm_dictOf (hkeys g) (h.symm.trans hn)).1)
  have hmap := map_normalForm_eq hfields (of_decide_eq_true rfl) rfl
  simp only [AuthorizationEvidenceFingerprint.toPayload, List.map_cons, List.map_nil,
    normalForm_optionalInt, List.cons.injEq, Option.some.injEq, and_true] at hmap
  simp only [AuthorizationEvidenceFingerprint.toPayload, List.forall_mem_cons] at hvalues
  obtain ⟨hcapability, hassurance, hstate, hbaseline, hwitness, hprovisioned⟩ := hmap
  obtain ⟨hcapability', hassurance', hstate', -, -, hprovisioned', -⟩ := hvalues
  exact ⟨sameText hcapability hcapability', sameText hassurance hassurance',
    sameText hstate hstate', eq_of_optionalInt hbaseline, eq_of_optionalInt hwitness,
    sameOptionalText hprovisioned hprovisioned'⟩

/-! ### Steps -/

/-- The normal forms of texts. -/
theorem normalFormItems_texts {texts : List Text} {forms : List Unordered}
    (h : Value.normalFormItems (texts.map .str) = some forms) :
    ∃ normalized : List String, texts.map normalText = normalized.map some ∧
      forms = normalized.map .str := by
  induction texts generalizing forms with
  | nil =>
    rw [List.map_nil, Value.normalFormItems, Option.some.injEq] at h
    exact ⟨[], rfl, h.symm⟩
  | cons t texts ih =>
    simp only [List.map_cons, Value.normalFormItems, normalForm_str, Option.bind_eq_bind,
      Option.bind_eq_some_iff, Option.pure_def, Option.some.injEq, Option.map_eq_some_iff] at h
    obtain ⟨_, ⟨s, hs, rfl⟩, rest, hrest, rfl⟩ := h
    obtain ⟨normalized, hnormalized, rfl⟩ := ih hrest
    exact ⟨s :: normalized, by rw [List.map_cons, List.map_cons, hs, hnormalized], rfl⟩

/-- Lists of texts with the same normal form. -/
theorem map_normalText_eq {texts texts' : List Text}
    (h : (Value.list (texts.map .str)).normalForm = (Value.list (texts'.map .str)).normalForm)
    (hsome : (Value.list (texts.map .str)).normalForm.isSome = true) :
    texts.map normalText = texts'.map normalText := by
  rw [Value.normalForm, Value.normalForm] at h
  rw [Value.normalForm, Option.isSome_map, Option.isSome_iff_exists] at hsome
  obtain ⟨forms, hforms⟩ := hsome
  have hforms' : Value.normalFormItems (texts'.map .str) = some forms :=
    (Option.map_injective (fun _ _ => Unordered.arr.inj) h).symm.trans hforms
  obtain ⟨normalized, hnormalized, heq⟩ := normalFormItems_texts hforms
  obtain ⟨normalized', hnormalized', heq'⟩ := normalFormItems_texts hforms'
  rw [hnormalized, hnormalized',
    List.map_injective_iff.mpr (fun _ _ => Unordered.str.inj) (heq.symm.trans heq')]

/-- The normal form of a binding. -/
def bindingForm (b : String × String) : Unordered :=
  .obj fun key => [("step_id", Unordered.str b.1), ("execution_intent_digest", .str b.2)].lookup key

omit [Platform] in
theorem bindingForm_injective : Function.Injective bindingForm := by
  intro b c h
  have hlookup := Unordered.obj.inj h
  have hstep := congrFun hlookup "step_id"
  have hdigest := congrFun hlookup "execution_intent_digest"
  simp [List.lookup_cons] at hstep hdigest
  exact Prod.ext hstep hdigest

theorem normalForm_binding (hascii : NfcAscii) (b : PlanAuthorizationStepBinding) :
    (dictOf b.toPayload).normalForm = some (bindingForm b.normalized) := by
  have hstep : Platform.nfc "step_id" = "step_id" := nfc_of_isAscii hascii (by decide)
  have hdigest : Platform.nfc "execution_intent_digest" = "execution_intent_digest" :=
    nfc_of_isAscii hascii (by decide)
  simp only [dictOf, PlanAuthorizationStepBinding.toPayload, List.map_cons, List.map_nil,
    Value.normalForm, Value.normalFormFields, normalForm_scalarText, Text.toString?_ofString,
    Option.map_some, Option.bind_eq_bind, Option.bind_some, Option.pure_def, hstep, hdigest,
    bindingForm, PlanAuthorizationStepBinding.normalized]

/-- The normal form of a list of bindings. -/
theorem normalForm_bindings (hascii : NfcAscii) (bindings : List PlanAuthorizationStepBinding) :
    (Value.list (bindings.map fun b => dictOf b.toPayload)).normalForm =
      some (.arr (bindings.map fun b => bindingForm b.normalized)) := by
  have hitems : Value.normalFormItems (bindings.map fun b => dictOf b.toPayload) =
      some (bindings.map fun b => bindingForm b.normalized) := by
    induction bindings with
    | nil => rfl
    | cons b bindings ih =>
      rw [List.map_cons, Value.normalFormItems, normalForm_binding hascii, ih]
      rfl
  rw [Value.normalForm, hitems, Option.map_some]

/-! ### Artifacts of one kind -/

/-- The signed fields of two artifacts of one kind, one by one. -/
theorem map_signedFields (a b : SignedArtifact) (hkind : a.kind = b.kind)
    (h : fieldForm a.signedFields = fieldForm b.signedFields) :
    a.signedFields.map (fun f => f.2.normalForm) = b.signedFields.map fun f => f.2.normalForm :=
  map_normalForm_eq h (nodup_signedFields a)
    (by rw [keys_signedFields, keys_signedFields, hkind])

theorem agrees_planAuthorization (hascii : NfcAscii) {a b : PlanAuthorization}
    (h : fieldForm a.signedFields = fieldForm b.signedFields)
    (hsome : ∀ f ∈ a.signedFields, f.2.normalForm.isSome = true) :
    (planAuthorization a).Agrees (planAuthorization b) := by
  have hmap := map_signedFields (planAuthorization a) (planAuthorization b) rfl h
  simp only [signedFields, PlanAuthorization.signedFields, List.map_cons, List.map_nil,
    normalForm_scalarText, normalForm_int, List.cons.injEq, Option.some.injEq, Unordered.str.injEq, Unordered.int.injEq,
    true_and, and_true] at hmap
  simp only [PlanAuthorization.signedFields, List.forall_mem_cons] at hsome
  obtain ⟨hversion, hid, hplan, hsteps, hauthority, halgorithm, hissued, hexpires, hrisk,
    hevidence⟩ := hmap
  obtain ⟨-, -, -, -, hsteps', -, -, -, -, -, hevidence', -⟩ := hsome
  refine ⟨⟨hversion, hid, hplan, hauthority, halgorithm, eq_of_isoformat hascii hissued,
    eq_of_isoformat hascii hexpires, eq_of_riskClass hascii hrisk,
    sameFingerprint hascii hevidence hevidence'⟩, fun step => ?_⟩
  have hsorted := map_normalText_eq hsteps hsteps'
  have hperm (texts : List Text) : some step ∈ (sortTexts texts).map normalText ↔
      some step ∈ texts.map normalText := ((List.mergeSort_perm texts _).map normalText).mem_iff
  rw [← hperm, hsorted, hperm]

theorem agrees_planAuthorizationV2 (hascii : NfcAscii) {a b : PlanAuthorizationV2}
    (h : fieldForm a.signedFields = fieldForm b.signedFields)
    (hsome : ∀ f ∈ a.signedFields, f.2.normalForm.isSome = true) :
    (planAuthorizationV2 a).Agrees (planAuthorizationV2 b) := by
  have hmap := map_signedFields (planAuthorizationV2 a) (planAuthorizationV2 b) rfl h
  simp only [signedFields, PlanAuthorizationV2.signedFields, List.map_cons, List.map_nil, normalForm_scalarText,
    normalForm_int, normalForm_bindings hascii, List.cons.injEq, Option.some.injEq,
    Unordered.str.injEq, Unordered.int.injEq, Unordered.arr.injEq, true_and, and_true] at hmap
  simp only [PlanAuthorizationV2.signedFields, List.forall_mem_cons] at hsome
  obtain ⟨hversion, hid, hplan, hbindings, hauthority, halgorithm, hissued, hexpires, hrisk,
    hevidence⟩ := hmap
  obtain ⟨-, -, -, -, -, -, -, -, -, -, hevidence', -⟩ := hsome
  refine ⟨⟨hversion, hid, hplan, hauthority, halgorithm, eq_of_isoformat hascii hissued,
    eq_of_isoformat hascii hexpires, eq_of_riskClass hascii hrisk,
    sameFingerprint hascii hevidence hevidence'⟩, fun binding => ?_⟩
  have hsorted : (sortBindings a.authorizedExecutions).map PlanAuthorizationStepBinding.normalized =
      (sortBindings b.authorizedExecutions).map PlanAuthorizationStepBinding.normalized := by
    refine List.map_injective_iff.mpr bindingForm_injective ?_
    rw [List.map_map, List.map_map]
    exact hbindings
  have hperm (bindings : List PlanAuthorizationStepBinding) :
      binding ∈ (sortBindings bindings).map PlanAuthorizationStepBinding.normalized ↔
        binding ∈ bindings.map PlanAuthorizationStepBinding.normalized :=
    ((List.mergeSort_perm bindings _).map _).mem_iff
  rw [← hperm, hsorted, hperm]

theorem agrees_deprovisionAuthorization (hascii : NfcAscii) {a b : DeprovisionAuthorization}
    (h : fieldForm a.signedFields = fieldForm b.signedFields) :
    (deprovisionAuthorization a).Agrees (deprovisionAuthorization b) := by
  have hmap := map_signedFields (deprovisionAuthorization a) (deprovisionAuthorization b) rfl h
  simp only [signedFields, DeprovisionAuthorization.signedFields, List.map_cons, List.map_nil,
    normalForm_scalarText, normalForm_int, List.cons.injEq, Option.some.injEq, Unordered.str.injEq, Unordered.int.injEq, true_and,
    and_true] at hmap
  obtain ⟨hversion, hid, htarget, hauthority, halgorithm, hissued, hexpires⟩ := hmap
  exact ⟨hversion, hid, htarget, hauthority, halgorithm, eq_of_isoformat hascii hissued,
    eq_of_isoformat hascii hexpires⟩

theorem agrees_confirmationEvidence (hascii : NfcAscii) {d e : ConfirmationEvidence}
    (h : fieldForm (confirmationFields d.toConfirmationFields) =
      fieldForm (confirmationFields e.toConfirmationFields)) :
    (confirmationEvidence d).Agrees (confirmationEvidence e) := by
  have hmap := map_signedFields (confirmationEvidence d) (confirmationEvidence e) rfl h
  simp only [signedFields, confirmationFields, List.map_cons, List.map_nil, normalForm_scalarText,
    List.cons.injEq, Option.some.injEq, Unordered.str.injEq, and_true] at hmap
  obtain ⟨halgorithm, hauthority, hcontract, hexpires, hintent, hissued, hnonce, hoperation,
    hfingerprint, htarget⟩ := hmap
  exact ⟨halgorithm, hauthority, hcontract, eq_of_isoformat hascii hexpires, hintent,
    eq_of_isoformat hascii hissued, hnonce, hoperation, hfingerprint, htarget⟩

theorem agrees_reconciliationEvidence (hascii : NfcAscii) {d e : ReconciliationEvidence}
    (h : fieldForm (reconciliationFields d.toReconciliationFields) =
      fieldForm (reconciliationFields e.toReconciliationFields)) :
    (reconciliationEvidence d).Agrees (reconciliationEvidence e) := by
  have hmap := map_signedFields (reconciliationEvidence d) (reconciliationEvidence e) rfl h
  simp only [signedFields, reconciliationFields, List.map_cons, List.map_nil, normalForm_scalarText,
    normalForm_int, normalForm_optionalInt, List.cons.injEq, Option.some.injEq, Unordered.str.injEq,
    Unordered.int.injEq, and_true] at hmap
  obtain ⟨halgorithm, hauthority, hcontract, hissued, hversion, hoperation, houtcome, hfingerprint,
    hlocator⟩ := hmap
  exact ⟨halgorithm, hauthority, hcontract, eq_of_isoformat hascii hissued, hversion, hoperation,
    eq_of_outcomeValue hascii houtcome, eq_of_scalarText hfingerprint, eq_of_optionalInt hlocator⟩

theorem agrees_sealedWriteApproval (hascii : NfcAscii) {a b : SealedWriteApproval}
    (h : fieldForm a.signedFields = fieldForm b.signedFields) :
    (sealedWriteApproval a).Agrees (sealedWriteApproval b) := by
  have hmap := map_signedFields (sealedWriteApproval a) (sealedWriteApproval b) rfl h
  simp only [signedFields, SealedWriteApproval.signedFields, List.map_cons, List.map_nil,
    normalForm_scalarText, normalForm_int, List.cons.injEq, Option.some.injEq, Unordered.str.injEq, Unordered.int.injEq, true_and,
    and_true] at hmap
  obtain ⟨hversion, hcontract, hstate, hclass, hintent, htarget, hissued, hexpires⟩ := hmap
  exact ⟨hversion, hcontract, hstate, eq_of_securityClass hascii hclass, hintent, htarget,
    eq_of_isoformat hascii hissued, eq_of_isoformat hascii hexpires⟩

theorem agrees_anchorEvidenceExport (hascii : NfcAscii) {d e : AnchorExport}
    (h : fieldForm d.signedFields = fieldForm e.signedFields)
    (hsome : ∀ f ∈ d.signedFields, f.2.normalForm.isSome = true) :
    (anchorEvidenceExport d).Agrees (anchorEvidenceExport e) := by
  have hmap := map_signedFields (anchorEvidenceExport d) (anchorEvidenceExport e) rfl h
  simp only [signedFields, AnchorExport.signedFields, List.map_cons, List.map_nil, normalForm_scalarText,
    normalForm_int, List.cons.injEq, Option.some.injEq, Unordered.str.injEq, Unordered.int.injEq,
    true_and, and_true] at hmap
  simp only [AnchorExport.signedFields, List.forall_mem_cons] at hsome
  obtain ⟨hversion, hstore, hhandle, hbaseline, hprovisioned, hissued, hexpires⟩ := hmap
  obtain ⟨-, -, -, -, -, hprovisioned', -⟩ := hsome
  exact ⟨hversion, hstore, hhandle, hbaseline, sameText hprovisioned hprovisioned', eq_of_isoformat hascii hissued,
    eq_of_isoformat hascii hexpires⟩

/-- Artifacts with the same signed bytes are of one kind, and agree in what is signed. -/
theorem agrees_of_signingPayload (hnfc : Value.NfcIdempotent) (hascii : NfcAscii)
    {a b : SignedArtifact} {bytes : Bytes} (h : a.signingPayload = .ok bytes)
    (h' : b.signingPayload = .ok bytes) : a.Agrees b := by
  obtain ⟨hforms, hsome⟩ :=
    fieldForm_eq hnfc (keepsKeys_signedFields hascii a) (keepsKeys_signedFields hascii b) h h'
  have hpurpose : a.kind.purpose = b.kind.purpose := by
    refine Option.map_injective (fun _ _ => Unordered.str.inj) ?_
    rw [← fieldForm_purpose hascii, ← fieldForm_purpose hascii, hforms]
  have hkind : a.kind = b.kind := by
    rcases Kind.eq_or_of_purpose hpurpose with h | ⟨ha, hb⟩ | ⟨ha, hb⟩
    · exact h
    · exact absurd (congrFun hforms "nonce") (fieldForm_nonce ha hb)
    · exact absurd (congrFun hforms "nonce").symm (fieldForm_nonce hb ha)
  rcases a with a | a | a | a | a | a | a <;> rcases b with b | b | b | b | b | b | b
  all_goals first
    | exact Kind.noConfusion hkind
    | skip
  · exact agrees_planAuthorization hascii hforms hsome
  · exact agrees_planAuthorizationV2 hascii hforms hsome
  · exact agrees_deprovisionAuthorization hascii hforms
  · exact agrees_confirmationEvidence hascii hforms
  · exact agrees_reconciliationEvidence hascii hforms
  · exact agrees_sealedWriteApproval hascii hforms
  · exact agrees_anchorEvidenceExport hascii hforms hsome

end SignedArtifact

end

/-! ### Two approvals of one write -/

namespace SeparationSample

attribute [local instance] Tier1.Sample.platform

/-- An approval, by the authority that signs it. -/
def approval (authorityId : String) (hauthority : isIdentifier authorityId = true) (proof : UInt8) :
    SealedWriteApproval where
  schemaVersion := 1
  contractId := "contract-1"
  stateVersion := 3
  securityClass := .standardSealedWrite
  executionIntentDigest := Sample.hex
  targetIdentityDigest := Sample.hex
  issuedAt := Sample.midnight 1 Sample.isDay_one
  expiresAt := Sample.midnight 2 Sample.isDay_two
  authorityId := authorityId
  proof := List.replicate 64 proof
  valid := ⟨rfl, by decide +kernel, by decide, Sample.isHex64_hex, Sample.isHex64_hex, by decide,
    hauthority, List.length_replicate⟩

/-- What two authorities have signed for one write has the same payload, and agrees. -/
theorem agrees_approval : ∃ bytes,
    (SignedArtifact.sealedWriteApproval (approval "owner" (by decide +kernel) 0)).signingPayload =
        .ok bytes ∧
      SignedArtifact.Agrees (.sealedWriteApproval (approval "owner" (by decide +kernel) 0))
        (.sealedWriteApproval (approval "deputy" (by decide +kernel) 1)) := by
  obtain ⟨bytes, h⟩ := (exists_payload_sealedWriteApproval (fun _ _ => rfl)
    (approval "owner" (by decide +kernel) 0)).mpr (by decide)
  exact ⟨bytes, h, SignedArtifact.agrees_of_signingPayload (fun _ => rfl) (fun _ _ => rfl) h h⟩

end SeparationSample

end Signing
