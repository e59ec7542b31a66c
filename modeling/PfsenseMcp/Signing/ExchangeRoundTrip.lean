import PfsenseMcp.Signing.Exchange

/-!
# Signed artifacts that were written

What is read of a file of an authorization or of a confirmation that was written: the artifact, where
the file is small enough, and the texts of the fingerprint are texts that come back.

## Main results

* `decodeAuthorization_stored`, `decodeConfirmation_stored`: what is read;
* `length_encodeAuthorization`, `length_encodeConfirmation`: the size of a file;
* `authorization_roundTrip_iff`, `confirmation_roundTrip_iff`: what comes back as it was.
-/

namespace Signing

open Python Tier1 Posture
open ArtifactExchange (StoredFile maxFile stored stringSize keysSize)

namespace Exchange

/-! ### Dictionaries that come back -/

@[simp]
theorem readBack_string (s : String) :
    (Document.string s).sortKeys.readBack = Document.string s := by
  simp only [Document.string, Document.sortKeys, Document.readBack, Text.paired_ofString]

@[simp]
theorem readBack_int (n : ℤ) : (Document.int n).sortKeys.readBack = .int n := by
  simp only [Document.sortKeys, Document.readBack]

@[simp]
theorem readBack_text (t : Text) : (Document.str t).sortKeys.readBack = .str t.paired := by
  simp only [Document.sortKeys, Document.readBack]

@[simp]
theorem stringOf_string (s : String) : stringOf (.string s) = some s :=
  Text.toString?_ofString s

section

variable {fields : List (String × Document)} (hkeys : (fields.map Prod.fst).Nodup)

include hkeys

/-- What is found under a key of a dictionary that comes back. -/
theorem subscript_readBack {key : String} {v : Document} (h : (key, v) ∈ fields) :
    subscript (Document.record fields).sortKeys.readBack key = .ok v.sortKeys.readBack := by
  obtain ⟨fs, heq, hperm⟩ := Document.readBack_record fields
  have hnodup : (fs.map Prod.fst).Nodup := by
    refine ((hperm.map Prod.fst).nodup_iff).mpr ?_
    rw [List.map_map]
    have hmap := hkeys.map Text.ofString_injective
    rwa [List.map_map] at hmap
  have hmem : (Text.ofString key, v.sortKeys.readBack) ∈ fs :=
    hperm.mem_iff.mpr (List.mem_map.mpr ⟨(key, v), h, rfl⟩)
  rw [heq, subscript, Json.lookup_of_mem hnodup hmem, orRaise]

omit hkeys in
theorem hasKeys_readBack :
    hasKeys (Document.record fields).sortKeys.readBack (fields.map Prod.fst) = .ok true := by
  obtain ⟨fs, heq, hperm⟩ := Document.readBack_record fields
  have hkey : ∀ t, t ∈ fs.map Prod.fst ↔ t ∈ (fields.map Prod.fst).map Text.ofString := by
    intro t
    rw [(hperm.map Prod.fst).mem_iff, List.map_map, List.map_map]
    rfl
  rw [heq]
  refine congrArg Except.ok ?_
  rw [sameSet, Bool.and_eq_true, List.all_eq_true, List.all_eq_true]
  constructor
  · intro t ht
    exact decide_eq_true ((hkey t).mp ht)
  · intro t ht
    exact decide_eq_true ((hkey t).mpr ht)

/-- The checks of the keys and of the version accept what was written. -/
theorem checkEnvelope_readBack {version : ℕ}
    (hversion : ("schema_version", .int (version : ℤ)) ∈ fields) :
    checkEnvelope (Document.record fields).sortKeys.readBack (fields.map Prod.fst) version =
      .ok () := by
  refine bind_of_ok hasKeys_readBack ?_
  refine bind_of_ok rfl ?_
  refine bind_of_ok (subscript_readBack hkeys hversion) ?_
  rw [readBack_int, isVersion, decide_eq_true rfl]
  rfl

end

@[simp]
theorem fromisoformat_string (lib : Library) (t : DateTime) :
    fromisoformat lib (.string t.isoformat) = .ok (some t) := by
  rw [Document.string, fromisoformat, Text.toString?_ofString, Option.bind_some,
    lib.fromisoformat_isoformat, orRaise]

@[simp]
theorem b64decode_string (value : Bytes) :
    b64decode (.string (Bytes.b64encode value)) = .ok value := by
  rw [Document.string, b64decode, Text.toString?_ofString, Option.bind_some,
    Bytes.b64decode_b64encode, orRaise]

/-- A file that is too large is not read. -/
theorem readJson_stored_of_lt (lib : Library) (path : String) {bytes : Bytes}
    (hlength : maxFile < bytes.length) : readJson lib path (stored bytes) =
      .error (.artifactExchangeError ("File exceeds the maximum allowed size: " ++ path)) := by
  have hsecure : readSecure path (stored bytes) =
      .error (.artifactExchangeError ("File exceeds the maximum allowed size: " ++ path)) :=
    if_pos hlength
  rw [readJson, hsecure]
  rfl

/-- What is read of a file that was written. -/
theorem readJson_stored {lib : Library} {fields : List (String × Document)}
    (hread : lib.ReadsBack fields) (path : String) {bytes : Bytes}
    (hbytes : (Document.record fields).dumps = some bytes) :
    readJson lib path (stored bytes) =
      if bytes.length ≤ maxFile then .ok (Document.record fields).sortKeys.readBack
      else .error (.artifactExchangeError ("File exceeds the maximum allowed size: " ++ path)) := by
  by_cases hlength : bytes.length ≤ maxFile
  · have hsecure : readSecure path (stored bytes) = .ok bytes := if_neg (Nat.not_lt.mpr hlength)
    rw [if_pos hlength]
    refine bind_of_ok hsecure ?_
    rw [hread bytes hbytes]
  · rw [if_neg hlength]
    exact readJson_stored_of_lt lib path (Nat.lt_of_not_le hlength)

theorem tryExcept_of_ok {α : Type} {caught : Raised → Bool} {message : String}
    {body : Except Raised α} {a : α} (h : body = .ok a) : tryExcept caught message body = .ok a := by
  rw [h, tryExcept]

theorem eq_some_of_orRaise {α : Type} {e : Raised} {x : Option α} {a : α}
    (h : orRaise e x = .ok a) : x = some a := by
  rcases x with - | b
  · cases h
  · exact congrArg some (Except.ok.inj h)

/-! ### Authorizations -/

/-- A fingerprint as it comes back. -/
def pairedFingerprint (f : AuthorizationEvidenceFingerprint) :
    AuthorizationEvidenceFingerprint where
  capabilityPostureValue := f.capabilityPostureValue.paired
  anchorAssuranceValue := f.anchorAssuranceValue.paired
  anchorEvidenceState := f.anchorEvidenceState.paired
  anchorBaseline := f.anchorBaseline
  anchorWitnessValue := f.anchorWitnessValue
  anchorProvisionedAt := f.anchorProvisionedAt.map Text.paired
  valid := by
    obtain ⟨h₁, h₂, h₃⟩ := f.valid
    exact ⟨Text.paired_ne_nil.mpr h₁, Text.paired_ne_nil.mpr h₂, Text.paired_ne_nil.mpr h₃⟩

/-- An authorization as it comes back. -/
def pairedAuthorization (a : PlanAuthorizationV2) : PlanAuthorizationV2 :=
  { a with
    evidenceFingerprint := pairedFingerprint a.evidenceFingerprint
    valid := a.valid
    valid_steps := a.valid_steps }

theorem optionalIntOf_readBack (n : Option ℤ) :
    optionalIntOf (optionalIntDocument n).sortKeys.readBack = some n := by
  rcases n with - | n <;> simp [optionalIntDocument, optionalIntOf, Document.sortKeys,
    Document.readBack]

theorem optionalTextOf_readBack (t : Option Text) :
    optionalTextOf (optionalTextDocument t).sortKeys.readBack = some (t.map Text.paired) := by
  rcases t with - | t <;> simp [optionalTextDocument, optionalTextOf, Document.sortKeys,
    Document.readBack]

theorem readFingerprint_readBack (f : AuthorizationEvidenceFingerprint) :
    readFingerprint (Document.record (fingerprintFields f)).sortKeys.readBack =
      .ok (pairedFingerprint f) := by
  have hkeys : ((fingerprintFields f).map Prod.fst).Nodup := by
    show ["capability_posture_value", "anchor_assurance_value", "anchor_evidence_state",
      "anchor_baseline", "anchor_witness_value", "anchor_provisioned_at"].Nodup
    decide
  have hget : ∀ {key v}, (key, v) ∈ fingerprintFields f → subscript (Document.record
      (fingerprintFields f)).sortKeys.readBack key = .ok v.sortKeys.readBack :=
    subscript_readBack hkeys
  obtain ⟨fs, heq, -⟩ := Document.readBack_record (fingerprintFields f)
  refine bind_of_ok (by rw [heq]; rfl) ?_
  refine bind_of_ok (hget (v := .str f.capabilityPostureValue) (by simp [fingerprintFields])) ?_
  refine bind_of_ok (hget (v := .str f.anchorAssuranceValue) (by simp [fingerprintFields])) ?_
  refine bind_of_ok (hget (v := .str f.anchorEvidenceState) (by simp [fingerprintFields])) ?_
  refine bind_of_ok
    (hget (v := optionalIntDocument f.anchorBaseline) (by simp [fingerprintFields])) ?_
  refine bind_of_ok
    (hget (v := optionalIntDocument f.anchorWitnessValue) (by simp [fingerprintFields])) ?_
  refine bind_of_ok
    (hget (v := optionalTextDocument f.anchorProvisionedAt) (by simp [fingerprintFields])) ?_
  simp only [fingerprintOf, readBack_text, textOf, optionalIntOf_readBack, optionalTextOf_readBack,
    Option.bind_eq_bind, Option.bind_some]
  exact congrArg (orRaise _) (dif_pos (pairedFingerprint f).valid)

theorem readBinding_readBack (b : PlanAuthorizationStepBinding) :
    readBinding (Document.record (bindingFields b)).sortKeys.readBack = .ok b := by
  have hkeys : ((bindingFields b).map Prod.fst).Nodup := by
    show ["step_id", "execution_intent_digest"].Nodup
    decide
  refine bind_of_ok (subscript_readBack hkeys (v := .string b.stepId)
    (by simp [bindingFields])) ?_
  refine bind_of_ok (subscript_readBack hkeys (v := .string b.executionIntentDigest)
    (by simp [bindingFields])) ?_
  simp only [bindingOf, readBack_string, stringOf_string, Option.bind_eq_bind, Option.bind_some]
  exact congrArg (orRaise _) (dif_pos b.valid)

theorem authorizationLevelOf_value (level : AuthorizationLevel) :
    authorizationLevelOf (Text.ofString level.value) = some level := by
  rcases level <;> decide

theorem readBindings_readBack (bindings : List PlanAuthorizationStepBinding) :
    (((bindings.map fun b => Document.record (bindingFields b)).map Document.sortKeys).map
      Document.readBack).mapM readBinding = .ok bindings := by
  induction bindings with
  | nil => rfl
  | cons b bindings ih =>
    simp only [List.map_cons, List.mapM_cons]
    exact bind_of_ok (readBinding_readBack b) (bind_of_ok ih rfl)

theorem nonemptyItems_eq_ok {items : List Document} (h : items ≠ []) :
    nonemptyItems (.arr items) = .ok items := by
  rcases items with - | ⟨x, xs⟩
  · exact absurd rfl h
  · rfl

/-- What is read of a file of an authorization that was written. -/
theorem decodeAuthorization_stored {lib : Library} {a : PlanAuthorizationV2}
    (hread : lib.ReadsBack (authorizationFields a)) (path : String) {bytes : Bytes}
    (hbytes : encodeAuthorization a = .ok bytes) :
    decodeAuthorization lib path (stored bytes) =
      if bytes.length ≤ maxFile then .ok (pairedAuthorization a)
      else .error (.artifactExchangeError ("File exceeds the maximum allowed size: " ++ path)) := by
  have hjson := readJson_stored hread path (eq_some_of_orRaise hbytes)
  unfold decodeAuthorization
  by_cases hlength : bytes.length ≤ maxFile
  · rw [if_pos hlength] at hjson ⊢
    have hkeys : ((authorizationFields a).map Prod.fst).Nodup := by
      show authorizationKeys.Nodup
      decide
    have hget : ∀ {key v}, (key, v) ∈ authorizationFields a → subscript (Document.record
        (authorizationFields a)).sortKeys.readBack key = .ok v.sortKeys.readBack :=
      subscript_readBack hkeys
    refine tryExcept_of_ok (bind_of_ok hjson ?_)
    have hversion : ("schema_version", Document.int ((2 : ℕ) : ℤ)) ∈ authorizationFields a := by
      have h : a.schemaVersion = 2 := a.valid.1
      simp [authorizationFields, h]
    refine bind_of_ok (checkEnvelope_readBack hkeys hversion) ?_
    refine bind_of_ok (hget (v := .arr (a.authorizedExecutions.map fun b =>
      .record (bindingFields b))) (by simp [authorizationFields])) ?_
    rw [Document.sortKeys, Document.readBack, Document.sortItems_eq_map,
      Document.readBackItems_eq_map]
    refine bind_of_ok (nonemptyItems_eq_ok (by simpa using a.valid_steps.1)) ?_
    refine bind_of_ok (readBindings_readBack a.authorizedExecutions) ?_
    refine bind_of_ok (hget (v := .record (fingerprintFields a.evidenceFingerprint))
      (by simp [authorizationFields])) ?_
    refine bind_of_ok (readFingerprint_readBack a.evidenceFingerprint) ?_
    refine bind_of_ok (hget (v := .int a.schemaVersion) (by simp [authorizationFields])) ?_
    refine bind_of_ok (hget (v := .string a.authorizationId) (by simp [authorizationFields])) ?_
    refine bind_of_ok (hget (v := .string a.planDigest) (by simp [authorizationFields])) ?_
    refine bind_of_ok (hget (v := .string a.authorityId) (by simp [authorizationFields])) ?_
    refine bind_of_ok (hget (v := .string a.algorithm) (by simp [authorizationFields])) ?_
    refine bind_of_ok (hget (v := .string (Bytes.b64encode a.proof))
      (by simp [authorizationFields])) ?_
    simp only [readBack_string, readBack_int]
    refine bind_of_ok (b64decode_string a.proof) ?_
    refine bind_of_ok (hget (v := .string a.issuedAt.isoformat) (by simp [authorizationFields])) ?_
    simp only [readBack_string]
    refine bind_of_ok (fromisoformat_string lib a.issuedAt) ?_
    refine bind_of_ok (hget (v := .string a.expiresAt.isoformat)
      (by simp [authorizationFields])) ?_
    simp only [readBack_string]
    refine bind_of_ok (fromisoformat_string lib a.expiresAt) ?_
    refine bind_of_ok (hget (v := .string a.riskClass.value) (by simp [authorizationFields])) ?_
    simp only [readBack_string]
    refine bind_of_ok (congrArg (orRaise _) (authorizationLevelOf_value a.riskClass)) ?_
    simp only [authorizationOf, intOf, stringOf_string, Option.bind_eq_bind, Option.bind_some]
    exact congrArg (orRaise _) (dif_pos ⟨(pairedAuthorization a).valid, a.valid_steps⟩)
  · rw [if_neg hlength] at hjson ⊢
    rw [hjson]
    rfl

/-! ### Confirmations -/

/-- What is read of a file of a confirmation that was written. -/
theorem decodeConfirmation_stored {lib : Library} {e : ConfirmationEvidence}
    (hread : lib.ReadsBack (confirmationPayload e)) (path : String) {bytes : Bytes}
    (hbytes : encodeConfirmation e = .ok bytes) :
    decodeConfirmation lib path (stored bytes) =
      if bytes.length ≤ maxFile then .ok e
      else .error (.artifactExchangeError ("File exceeds the maximum allowed size: " ++ path)) := by
  have hjson := readJson_stored hread path (eq_some_of_orRaise hbytes)
  unfold decodeConfirmation
  by_cases hlength : bytes.length ≤ maxFile
  · rw [if_pos hlength] at hjson ⊢
    have hkeys : ((confirmationPayload e).map Prod.fst).Nodup := by
      show confirmationKeys.Nodup
      decide
    have hget : ∀ {key s}, (key, Document.string s) ∈ confirmationPayload e → subscript
        (Document.record (confirmationPayload e)).sortKeys.readBack key = .ok (.string s) := by
      intro key s h
      rw [subscript_readBack hkeys h, readBack_string]
    refine tryExcept_of_ok (bind_of_ok hjson ?_)
    refine bind_of_ok (checkEnvelope_readBack hkeys (by simp [confirmationPayload])) ?_
    refine bind_of_ok (hget (s := e.authorityId) (by simp [confirmationPayload])) ?_
    refine bind_of_ok (hget (s := e.algorithm) (by simp [confirmationPayload])) ?_
    refine bind_of_ok (hget (s := e.nonce) (by simp [confirmationPayload])) ?_
    refine bind_of_ok (hget (s := e.contractId) (by simp [confirmationPayload])) ?_
    refine bind_of_ok (hget (s := e.operationId) (by simp [confirmationPayload])) ?_
    refine bind_of_ok (hget (s := e.targetIdentityDigest) (by simp [confirmationPayload])) ?_
    refine bind_of_ok (hget (s := e.targetFingerprint) (by simp [confirmationPayload])) ?_
    refine bind_of_ok (hget (s := e.intentDigest) (by simp [confirmationPayload])) ?_
    refine bind_of_ok (hget (s := e.issuedAt.isoformat) (by simp [confirmationPayload])) ?_
    refine bind_of_ok (fromisoformat_string lib e.issuedAt) ?_
    refine bind_of_ok (hget (s := e.expiresAt.isoformat) (by simp [confirmationPayload])) ?_
    refine bind_of_ok (fromisoformat_string lib e.expiresAt) ?_
    refine bind_of_ok (hget (s := Bytes.b64encode e.proof) (by simp [confirmationPayload])) ?_
    refine bind_of_ok (b64decode_string e.proof) ?_
    simp only [confirmationOf, stringOf_string, Option.bind_eq_bind, Option.bind_some]
    exact congrArg (orRaise _) (dif_pos e.valid)
  · rw [if_neg hlength] at hjson ⊢
    rw [hjson]
    rfl

/-! ### Sizes -/

theorem size_string (s : String) : (Document.string s).size = stringSize s := by
  rw [Document.string, Document.size_str, Text.size_ofString]

/-- The number of bytes in which an optional integer is written. -/
def optionalIntSize : Option ℤ → ℕ
  | some n => (Json.dumpInt n).length
  | none => 4

/-- The number of bytes in which an optional text is written. -/
def optionalTextSize : Option Text → ℕ
  | some t => t.size
  | none => 4

theorem size_int (n : ℤ) : (Document.int n).size = (Json.dumpInt n).length := by
  have hascii : ∀ cs : List Char, (∀ c ∈ cs, c.toNat < 128) → charsSize cs = cs.length := by
    intro cs
    induction cs with
    | nil => exact fun _ => rfl
    | cons c cs ih =>
      intro h
      rw [List.forall_mem_cons] at h
      rw [charsSize_cons, ArtifactExchange.utf8Size_of_lt h.1, ih h.2, List.length_cons,
        Nat.add_comm]
  have hdigit : ∀ m, ∀ c ∈ Json.dumpNat m, c.toNat < 128 := by
    intro m c hc
    have h := Json.dumpNat_isDigit hc
    simp only [Char.isDigit, Bool.and_eq_true, decide_eq_true_eq] at h
    exact lt_of_le_of_lt (UInt32.le_iff_toNat_le.mp h.2) (by decide)
  rw [Document.size, Document.dumpValue]
  apply hascii
  rcases n with m | m
  · exact hdigit m
  · intro c hc
    rcases List.mem_cons.mp hc with rfl | hc
    · decide
    · exact hdigit _ c hc

theorem size_optionalInt (n : Option ℤ) : (optionalIntDocument n).size = optionalIntSize n := by
  rcases n with - | n
  · rfl
  · exact size_int n

theorem size_optionalText (t : Option Text) :
    (optionalTextDocument t).size = optionalTextSize t := by
  rcases t with - | t
  · rfl
  · exact Document.size_str t

/-- The size of the texts and the integers of a fingerprint. -/
def fingerprintSize (f : AuthorizationEvidenceFingerprint) : ℕ :=
  f.capabilityPostureValue.size + f.anchorAssuranceValue.size + f.anchorEvidenceState.size +
    optionalIntSize f.anchorBaseline + optionalIntSize f.anchorWitnessValue +
    optionalTextSize f.anchorProvisionedAt

/-- The size of the strings of an authorization. -/
def authorizationTextsSize (a : PlanAuthorizationV2) : ℕ :=
  stringSize a.authorizationId + stringSize a.planDigest + stringSize a.authorityId +
    stringSize a.algorithm + stringSize (Bytes.b64encode a.proof) +
    stringSize a.issuedAt.isoformat + stringSize a.expiresAt.isoformat +
    stringSize a.riskClass.value

/-- The size of the file of an authorization. -/
def authorizationFileSize (a : PlanAuthorizationV2) : ℕ :=
  authorizationTextsSize a +
    (a.authorizedExecutions.map fun b =>
      stringSize b.stepId + stringSize b.executionIntentDigest + 40).sum +
    fingerprintSize a.evidenceFingerprint + 332

/-- The size of the file of a confirmation. -/
def confirmationFileSize (e : ConfirmationEvidence) : ℕ :=
  stringSize e.authorityId + stringSize e.algorithm + stringSize e.nonce + stringSize e.contractId +
    stringSize e.operationId + stringSize e.targetIdentityDigest + stringSize e.targetFingerprint +
    stringSize e.intentDigest + stringSize e.issuedAt.isoformat + stringSize e.expiresAt.isoformat +
    stringSize (Bytes.b64encode e.proof) + 190

theorem size_fingerprint (f : AuthorizationEvidenceFingerprint) :
    (Document.record (fingerprintFields f)).size = fingerprintSize f + 148 := by
  have hkeys : keysSize ((fingerprintFields f).map Prod.fst) = 147 := by
    show keysSize ["capability_posture_value", "anchor_assurance_value", "anchor_evidence_state",
      "anchor_baseline", "anchor_witness_value", "anchor_provisioned_at"] = _
    decide
  rw [Document.size_record (by simp [fingerprintFields]), hkeys]
  simp only [fingerprintFields, List.map_cons, List.map_nil, List.sum_cons, List.sum_nil,
    Document.size_str, size_optionalInt, size_optionalText, fingerprintSize]
  omega

theorem size_bindings {bindings : List PlanAuthorizationStepBinding} (hne : bindings ≠ []) :
    (Document.arr (bindings.map fun b => .record (bindingFields b))).size =
      (bindings.map fun b => stringSize b.stepId + stringSize b.executionIntentDigest + 40).sum +
        1 := by
  have hkeys : ∀ b, keysSize ((bindingFields b).map Prod.fst) = 38 := by
    intro b
    show keysSize ["step_id", "execution_intent_digest"] = 38
    decide
  rw [Document.size_arr (by simpa using hne), List.map_map]
  refine congrArg (· + 1) (congrArg List.sum (List.map_congr_left fun b _ => ?_))
  rw [Function.comp_apply, Document.size_record (by simp [bindingFields]), hkeys]
  simp only [bindingFields, List.map_cons, List.map_nil, List.sum_cons, List.sum_nil, size_string]
  omega

/-- The size of the file of an authorization. -/
theorem length_encodeAuthorization {a : PlanAuthorizationV2} {bytes : Bytes}
    (h : encodeAuthorization a = .ok bytes) : bytes.length = authorizationFileSize a := by
  have hkeys : keysSize ((authorizationFields a).map Prod.fst) = 181 := by
    show keysSize authorizationKeys = 181
    decide
  have hversion : (Document.int a.schemaVersion).size = 1 := by
    have hvalid : a.schemaVersion = 2 := a.valid.1
    rw [hvalid, size_int]
    decide
  rw [Document.length_dumps (eq_some_of_orRaise h), Document.size_sortKeys,
    Document.size_record (by simp [authorizationFields]), hkeys]
  simp only [authorizationFields, List.map_cons, List.map_nil, List.sum_cons, List.sum_nil,
    size_string, hversion, size_bindings a.valid_steps.1, size_fingerprint, authorizationFileSize,
    authorizationTextsSize]
  omega

/-- The size of the file of a confirmation. -/
theorem length_encodeConfirmation {e : ConfirmationEvidence} {bytes : Bytes}
    (h : encodeConfirmation e = .ok bytes) : bytes.length = confirmationFileSize e := by
  have hkeys : keysSize ((confirmationPayload e).map Prod.fst) = 188 := by
    show keysSize confirmationKeys = 188
    decide
  have hversion : (Document.int 1).size = 1 := by
    rw [size_int]
    decide
  rw [Document.length_dumps (eq_some_of_orRaise h), Document.size_sortKeys,
    Document.size_record (by simp [confirmationPayload]), hkeys]
  simp only [confirmationPayload, List.map_cons, List.map_nil, List.sum_cons, List.sum_nil,
    size_string, hversion, confirmationFileSize]
  omega

/-! ### What comes back -/

/-- `str` writes the integers of a fingerprint. -/
def ShortIntegers (f : AuthorizationEvidenceFingerprint) : Prop :=
  (∀ n ∈ f.anchorBaseline, Document.Short n) ∧ ∀ n ∈ f.anchorWitnessValue, Document.Short n

/-- The texts of a fingerprint come back. -/
def UnpairedTexts (f : AuthorizationEvidenceFingerprint) : Prop :=
  f.capabilityPostureValue.Unpaired ∧ f.anchorAssuranceValue.Unpaired ∧
    f.anchorEvidenceState.Unpaired ∧ ∀ t ∈ f.anchorProvisionedAt, Text.Unpaired t

/-- An authorization can be written, fits into a file, and its texts come back. -/
def AuthorizationFits (a : PlanAuthorizationV2) : Prop :=
  ShortIntegers a.evidenceFingerprint ∧ UnpairedTexts a.evidenceFingerprint ∧
    authorizationFileSize a ≤ maxFile

theorem writable_optionalInt (n : Option ℤ) :
    (optionalIntDocument n).writable = true ↔ ∀ m ∈ n, Document.Short m := by
  rcases n with - | n
  · simp [optionalIntDocument, Document.writable]
  · simp [optionalIntDocument, Document.writable]

theorem writable_optionalText (t : Option Text) : (optionalTextDocument t).writable = true := by
  rcases t with - | t
  · rfl
  · rfl

theorem writable_authorization (a : PlanAuthorizationV2) :
    (Document.record (authorizationFields a)).writable = true ↔
      ShortIntegers a.evidenceFingerprint := by
  have htwo : Document.Short a.schemaVersion := by
    have hvalid : a.schemaVersion = 2 := a.valid.1
    rw [hvalid, Document.Short]
    calc (2 : ℤ).natAbs < 10 ^ 1 := by decide
      _ ≤ 10 ^ Document.maxStrDigits := Nat.pow_le_pow_right (by decide) (by decide)
  have hbindings : Document.writableItems (a.authorizedExecutions.map fun b =>
      .record (bindingFields b)) = true := by
    rw [Document.writableItems_iff, List.forall_mem_map]
    intro b _
    rw [Document.writable_record]
    simp [bindingFields, Document.string, Document.writable]
  have hfingerprint : (Document.record (fingerprintFields a.evidenceFingerprint)).writable = true ↔
      ShortIntegers a.evidenceFingerprint := by
    rw [Document.writable_record]
    simp only [fingerprintFields, List.forall_mem_cons, Document.writable, writable_optionalInt,
      writable_optionalText, true_and, ShortIntegers]
    exact ⟨fun h => ⟨h.1, h.2.1⟩, fun h => ⟨h.1, h.2, List.forall_mem_nil _⟩⟩
  rw [Document.writable_record]
  simp only [authorizationFields, List.forall_mem_cons, hbindings, hfingerprint, Document.string,
    Document.writable, decide_eq_true htwo, true_and]
  exact ⟨fun h => h.1, fun h => ⟨h, List.forall_mem_nil _⟩⟩

theorem pairedFingerprint_eq_iff (f : AuthorizationEvidenceFingerprint) :
    pairedFingerprint f = f ↔ UnpairedTexts f := by
  have hoption : f.anchorProvisionedAt.map Text.paired = f.anchorProvisionedAt ↔
      ∀ t ∈ f.anchorProvisionedAt, Text.Unpaired t := by
    rcases f.anchorProvisionedAt with - | t
    · simp
    · simp [Text.paired_eq_iff]
  rw [UnpairedTexts, ← hoption, ← Text.paired_eq_iff, ← Text.paired_eq_iff, ← Text.paired_eq_iff]
  constructor
  · intro h
    exact ⟨congrArg (·.capabilityPostureValue) h, congrArg (·.anchorAssuranceValue) h,
      congrArg (·.anchorEvidenceState) h, congrArg (·.anchorProvisionedAt) h⟩
  · rintro ⟨h₁, h₂, h₃, h₄⟩
    rcases f with ⟨posture, assurance, state, baseline, witness, provisioned, hvalid⟩
    simp only [pairedFingerprint, AuthorizationEvidenceFingerprint.mk.injEq, true_and]
    exact ⟨h₁, h₂, h₃, h₄⟩

theorem pairedAuthorization_eq_iff (a : PlanAuthorizationV2) :
    pairedAuthorization a = a ↔ UnpairedTexts a.evidenceFingerprint := by
  rw [← pairedFingerprint_eq_iff]
  constructor
  · intro h
    exact congrArg (·.evidenceFingerprint) h
  · intro h
    rcases a with ⟨fields, executions, hvalid, hsteps⟩
    simp only [pairedAuthorization]
    rw [h]

/-- The authorizations that are written and come back as they were. -/
theorem authorization_roundTrip_iff {lib : Library} {a : PlanAuthorizationV2}
    (hread : lib.ReadsBack (authorizationFields a)) (path : String) :
    (∃ bytes, encodeAuthorization a = .ok bytes ∧
      decodeAuthorization lib path (stored bytes) = .ok a) ↔ AuthorizationFits a := by
  rw [AuthorizationFits, ← writable_authorization, ← pairedAuthorization_eq_iff]
  constructor
  · rintro ⟨bytes, hbytes, hload⟩
    have hwritable : (Document.record (authorizationFields a)).writable = true := by
      have hdumps := eq_some_of_orRaise hbytes
      unfold Document.dumps at hdumps
      split_ifs at hdumps with h
      exact h
    rw [decodeAuthorization_stored hread path hbytes] at hload
    split_ifs at hload with hlength
    rw [length_encodeAuthorization hbytes] at hlength
    exact ⟨hwritable, Except.ok.inj hload, hlength⟩
  · rintro ⟨hwritable, hpaired, hlength⟩
    have hbytes : ∃ bytes, encodeAuthorization a = .ok bytes := by
      rw [encodeAuthorization, Document.dumps, if_pos hwritable]
      exact ⟨_, rfl⟩
    obtain ⟨bytes, hbytes⟩ := hbytes
    refine ⟨bytes, hbytes, ?_⟩
    rw [← length_encodeAuthorization hbytes] at hlength
    rw [decodeAuthorization_stored hread path hbytes, if_pos hlength, hpaired]

/-- Every confirmation is written. -/
theorem exists_encodeConfirmation (e : ConfirmationEvidence) :
    ∃ bytes, encodeConfirmation e = .ok bytes := by
  have hone : Document.Short 1 := by
    rw [Document.Short]
    calc (1 : ℤ).natAbs < 10 ^ 1 := by decide
      _ ≤ 10 ^ Document.maxStrDigits := Nat.pow_le_pow_right (by decide) (by decide)
  have hwritable : (Document.record (confirmationPayload e)).writable = true := by
    rw [Document.writable_record]
    simp only [confirmationPayload, List.forall_mem_cons, Document.string, Document.writable,
      decide_eq_true hone, true_and]
    exact List.forall_mem_nil _
  rw [encodeConfirmation, Document.dumps, if_pos hwritable]
  exact ⟨_, rfl⟩

/-- The confirmations that come back. -/
theorem confirmation_roundTrip_iff {lib : Library} {e : ConfirmationEvidence}
    (hread : lib.ReadsBack (confirmationPayload e)) (path : String) :
    (∃ bytes, encodeConfirmation e = .ok bytes ∧
      decodeConfirmation lib path (stored bytes) = .ok e) ↔ confirmationFileSize e ≤ maxFile := by
  obtain ⟨bytes, hbytes⟩ := exists_encodeConfirmation e
  have hload := decodeConfirmation_stored hread path hbytes
  rw [← length_encodeConfirmation hbytes]
  constructor
  · rintro ⟨bytes', hbytes', hload'⟩
    rw [hbytes] at hbytes'
    cases hbytes'
    by_contra hlarge
    rw [hload, if_neg hlarge] at hload'
    cases hload'
  · intro hlength
    exact ⟨bytes, hbytes, by rw [hload, if_pos hlength]⟩

end Exchange

end Signing
