import Mathlib.Data.Nat.Notation
import Mathlib.Tactic.NormNum.Basic
import Mathlib.Tactic.SplitIfs
import PfsenseMcp.Tier1.Contract

/-!
# The stored payload of a contract

`_contract_payload` and `_contract_from_payload` of `tier1/store.py`: a contract as a JSON text
with sorted keys, and the strict reader that refuses duplicate, missing and unknown fields.

## Main results

* `contractFromPayload_contractPayload`: reading the payload of a contract gives it back;
* `contractPayload_injective`: a payload belongs to one contract;
* `length_contractPayload_lt`: a payload is short enough to be framed.
-/

namespace Tier1

open Python RecoveryState

/-! ### Writing -/

/-- `_artifact_to_dict`. -/
def artifactToDict (artifact : ProtectedArtifact) : Json :=
  .obj [("algorithm", .str artifact.algorithm),
    ("ciphertext", .str (Bytes.b64encode artifact.ciphertext)),
    ("key_id", .str artifact.keyId)]

/-- `_provenance_to_dict`. -/
def provenanceToDict : Option AuthorizationProvenance → Json
  | none => .null
  | some provenance =>
    .obj [("appliance_target_digest", .str provenance.applianceTargetDigest),
      ("authority_id", .str provenance.authorityId),
      ("authorization_expires_at", .str provenance.authorizationExpiresAt.isoformat),
      ("authorization_id", .str provenance.authorizationId),
      ("authorization_issued_at", .str provenance.authorizationIssuedAt.isoformat),
      ("execution_intent_digest", .str provenance.executionIntentDigest),
      ("plan_authorization_schema_version", .int provenance.planAuthorizationSchemaVersion),
      ("plan_digest", .str provenance.planDigest),
      ("schema_version", .int provenance.schemaVersion),
      ("step_id", .str provenance.stepId)]

/-- A text or `null`. -/
def optionalStr : Option String → Json
  | none => .null
  | some text => .str text

/-- The dictionary that `_contract_payload` encodes. -/
def contractDict (c : ContractFields) : Json :=
  .obj [("capability", .str c.capability.name),
    ("confirmation_digest", optionalStr c.confirmationDigest),
    ("confirmed_at", optionalStr (c.confirmedAt.map DateTime.isoformat)),
    ("contract_id", .str c.contractId),
    ("created_at", .str c.createdAt.isoformat),
    ("endpoint_symbol", .str c.endpointSymbol),
    ("expires_at", .str c.expiresAt.isoformat),
    ("http_method", .str c.httpMethod),
    ("idempotency_key", .str c.idempotencyKey),
    ("intent_digest", .str c.intentDigest),
    ("lifecycle_locator", .int c.lifecycleLocator),
    ("operation_id", .str c.operationId),
    ("protected_intent", artifactToDict c.protectedIntent),
    ("protected_snapshot", artifactToDict c.protectedSnapshot),
    ("protected_target_identity", artifactToDict c.protectedTargetIdentity),
    ("rollback_plan_version", .str c.rollbackPlanVersion),
    ("security_class", .str c.securityClass.value),
    ("snapshot_digest", .str c.snapshotDigest),
    ("state", .str c.state.value),
    ("state_version", .int c.stateVersion),
    ("target_fingerprint", .str c.targetFingerprint),
    ("target_identity_digest", .str c.targetIdentityDigest),
    ("verified_target_fingerprint", optionalStr c.verifiedTargetFingerprint),
    ("authorization_provenance", provenanceToDict c.authorizationProvenance)]

/-- `_contract_payload`. -/
def contractPayload (c : ContractFields) : Bytes :=
  Bytes.encodeUtf8 (Json.dumps true (Json.sortKeys (contractDict c)))

/-! ### Reading -/

mutual

/-- Whether the hook `_strict_object` refuses some object of the value. -/
def hasDuplicateField : Json → Bool
  | .arr items => itemsHaveDuplicateField items
  | .obj fields => fieldsHaveDuplicateField [] fields
  | _ => false

/-- `hasDuplicateField` of some item. -/
def itemsHaveDuplicateField : List Json → Bool
  | [] => false
  | x :: xs => hasDuplicateField x || itemsHaveDuplicateField xs

/-- A key that occurs twice, or `hasDuplicateField` of some value; `seen` are the keys before. -/
def fieldsHaveDuplicateField (seen : List String) : List (String × Json) → Bool
  | [] => false
  | (k, v) :: fs => seen.contains k || hasDuplicateField v || fieldsHaveDuplicateField (k :: seen) fs

end

/-- The value of a field. -/
def getField (fields : List (String × Json)) (name : String) : Option Json :=
  fields.lookup name

/-- Whether the keys of an object without duplicates are exactly the given ones. -/
def hasExactFields (fields : List (String × Json)) (names : List String) : Bool :=
  fields.length == names.length && names.all fun name => (getField fields name).isSome

/-- `_CONTRACT_FIELDS`. -/
def contractFieldNames : List String :=
  ["capability", "confirmation_digest", "confirmed_at", "contract_id", "created_at",
    "endpoint_symbol", "expires_at", "http_method", "idempotency_key", "intent_digest",
    "lifecycle_locator", "operation_id", "protected_intent", "protected_snapshot",
    "protected_target_identity", "rollback_plan_version", "security_class", "snapshot_digest",
    "state", "state_version", "target_fingerprint", "target_identity_digest",
    "verified_target_fingerprint", "authorization_provenance"]

/-- `_LEGACY_CONTRACT_FIELDS`. -/
def legacyContractFieldNames : List String :=
  contractFieldNames.filter fun name =>
    name ≠ "authorization_provenance" ∧ name ≠ "security_class"

/-- The error of a payload that does not describe a contract. -/
def invalidContract {α : Type} : Except Error α :=
  fail .contractIntegrity "Stored Recovery Contract is invalid."

/-- The `KeyError`, `TypeError` or `ValueError` of a reader becomes `invalidContract`. -/
def orInvalid {α : Type} : Option α → Except Error α
  | some value => .ok value
  | none => invalidContract

/-- A field that has to be a text. -/
def strField (fields : List (String × Json)) (name : String) : Except Error String :=
  match getField fields name with
  | some (.str text) => .ok text
  | _ => invalidContract

/-- A field that has to be an integer. -/
def intField (fields : List (String × Json)) (name : String) : Except Error ℤ :=
  match getField fields name with
  | some (.int n) => .ok n
  | _ => invalidContract

/-- A field that has to be a text or `null`. -/
def optionalStrField (fields : List (String × Json)) (name : String) :
    Except Error (Option String) :=
  match getField fields name with
  | some .null => .ok none
  | some (.str text) => .ok (some text)
  | _ => invalidContract

/-- `datetime.fromisoformat(value[name])`. -/
def dateField (fields : List (String × Json)) (name : String) : Except Error DateTime := do
  let text ← strField fields name
  orInvalid (DateTime.fromisoformat text)

/-- `datetime.fromisoformat(value[name]) if value[name] else None`. -/
def optionalDateField (fields : List (String × Json)) (name : String) :
    Except Error (Option DateTime) :=
  match getField fields name with
  | some .null | some (.bool false) | some (.int 0) | some (.str "") | some (.arr [])
  | some (.obj []) => .ok none
  | some (.str text) => (orInvalid (DateTime.fromisoformat text)).map some
  | _ => invalidContract

/-- `_artifact_from_dict`. -/
def artifactFromDict (value : Option Json) : Except Error ProtectedArtifact :=
  let refused : Except Error ProtectedArtifact :=
    fail .contractIntegrity "Stored protected artifact is invalid."
  match value with
  | some (.obj fields) =>
    if hasExactFields fields ["algorithm", "ciphertext", "key_id"] then
      match getField fields "algorithm", getField fields "ciphertext", getField fields "key_id" with
      | some (.str algorithm), some (.str ciphertext), some (.str keyId) =>
        match Bytes.b64decode ciphertext with
        | some ciphertext =>
          match ProtectedArtifact.new keyId algorithm ciphertext with
          | .ok artifact => .ok artifact
          | .error _ => refused
        | none => refused
      | _, _, _ => refused
    else refused
  | _ => refused

/-- The field names of a stored provenance. -/
def provenanceFieldNames : List String :=
  ["appliance_target_digest", "authority_id", "authorization_expires_at", "authorization_id",
    "authorization_issued_at", "execution_intent_digest", "plan_authorization_schema_version",
    "plan_digest", "schema_version", "step_id"]

/-- `_provenance_from_dict`. -/
def provenanceFromDict (value : Option Json) : Except Error (Option AuthorizationProvenance) :=
  match value with
  | none | some .null => .ok none
  | some (.obj fields) => do
    demand (hasExactFields fields provenanceFieldNames = true) .contractIntegrity
      "Stored authorization provenance is invalid."
    let provenance : ProvenanceFields := {
      schemaVersion := ← intField fields "schema_version"
      authorizationId := ← strField fields "authorization_id"
      authorityId := ← strField fields "authority_id"
      planAuthorizationSchemaVersion := ← intField fields "plan_authorization_schema_version"
      planDigest := ← strField fields "plan_digest"
      stepId := ← strField fields "step_id"
      executionIntentDigest := ← strField fields "execution_intent_digest"
      authorizationIssuedAt := ← dateField fields "authorization_issued_at"
      authorizationExpiresAt := ← dateField fields "authorization_expires_at"
      applianceTargetDigest := ← strField fields "appliance_target_digest" }
    match AuthorizationProvenance.ofFields provenance with
    | .ok provenance => .ok (some provenance)
    | .error _ => invalidContract
  | _ => fail .contractIntegrity "Stored authorization provenance is invalid."

variable [Platform]

/-- `_recovery_contract_from_fields`, with its failures as `_contract_from_payload` reports
them. -/
def recoveryContractFromFields (fields : List (String × Json)) (securityClass : WriteSecurityClass) :
    Except Error RecoveryContract := do
  let contract : ContractFields := {
    contractId := ← strField fields "contract_id"
    operationId := ← strField fields "operation_id"
    idempotencyKey := ← strField fields "idempotency_key"
    capability := ← (do orInvalid (Capability.ofName (← strField fields "capability")))
    securityClass := securityClass
    endpointSymbol := ← strField fields "endpoint_symbol"
    httpMethod := ← strField fields "http_method"
    targetIdentityDigest := ← strField fields "target_identity_digest"
    targetFingerprint := ← strField fields "target_fingerprint"
    intentDigest := ← strField fields "intent_digest"
    lifecycleLocator := ← intField fields "lifecycle_locator"
    snapshotDigest := ← strField fields "snapshot_digest"
    rollbackPlanVersion := ← strField fields "rollback_plan_version"
    createdAt := ← dateField fields "created_at"
    expiresAt := ← dateField fields "expires_at"
    state := ← (do orInvalid (RecoveryState.ofValue (← strField fields "state")))
    stateVersion := ← intField fields "state_version"
    protectedTargetIdentity := ← artifactFromDict (getField fields "protected_target_identity")
    protectedIntent := ← artifactFromDict (getField fields "protected_intent")
    protectedSnapshot := ← artifactFromDict (getField fields "protected_snapshot")
    confirmationDigest := ← optionalStrField fields "confirmation_digest"
    confirmedAt := ← optionalDateField fields "confirmed_at"
    verifiedTargetFingerprint := ← optionalStrField fields "verified_target_fingerprint"
    authorizationProvenance := ← provenanceFromDict (getField fields "authorization_provenance") }
  match RecoveryContract.ofFields contract with
  | .ok contract => .ok contract
  | .error _ => invalidContract

/-- `_contract_from_payload`. -/
def contractFromPayload (payload : Bytes) : Except Error RecoveryContract := do
  let value ← orInvalid (Bytes.decodeUtf8 payload >>= Json.loads)
  demand (hasDuplicateField value = false) .contractIntegrity
    "Stored Recovery Contract contains a duplicate field."
  match value with
  | .obj fields =>
    if hasExactFields fields contractFieldNames then do
      let securityClass ← orInvalid
        (WriteSecurityClass.ofValue (← strField fields "security_class"))
      recoveryContractFromFields fields securityClass
    else if hasExactFields fields legacyContractFieldNames then
      recoveryContractFromFields fields .highAssuranceTier1
    else fail .contractIntegrity "Stored Recovery Contract fields are invalid."
  | _ => fail .contractIntegrity "Stored Recovery Contract fields are invalid."

/-! ### Round trip -/

section

omit [Platform]

theorem sortKeys_artifactToDict (a : ProtectedArtifact) :
    Json.sortKeys (artifactToDict a) = artifactToDict a := by
  simp [artifactToDict, Json.sortKeys, Json.sortFields, Json.insertField, Json.keyLt]

theorem sortKeys_provenanceToDict (p : Option AuthorizationProvenance) :
    Json.sortKeys (provenanceToDict p) = provenanceToDict p := by
  cases p with
  | none => rfl
  | some p =>
    simp [provenanceToDict, Json.sortKeys, Json.sortFields, Json.insertField, Json.keyLt]

theorem sortKeys_optionalStr (t : Option String) :
    Json.sortKeys (optionalStr t) = optionalStr t := by
  cases t <;> rfl

/-- The fields of a contract in the order of their keys. -/
def contractFieldList (c : ContractFields) : List (String × Json) :=
  ("authorization_provenance", provenanceToDict c.authorizationProvenance) ::
  [("capability", .str c.capability.name),
    ("confirmation_digest", optionalStr c.confirmationDigest),
    ("confirmed_at", optionalStr (c.confirmedAt.map DateTime.isoformat)),
    ("contract_id", .str c.contractId),
    ("created_at", .str c.createdAt.isoformat),
    ("endpoint_symbol", .str c.endpointSymbol),
    ("expires_at", .str c.expiresAt.isoformat),
    ("http_method", .str c.httpMethod),
    ("idempotency_key", .str c.idempotencyKey),
    ("intent_digest", .str c.intentDigest),
    ("lifecycle_locator", .int c.lifecycleLocator),
    ("operation_id", .str c.operationId),
    ("protected_intent", artifactToDict c.protectedIntent),
    ("protected_snapshot", artifactToDict c.protectedSnapshot),
    ("protected_target_identity", artifactToDict c.protectedTargetIdentity),
    ("rollback_plan_version", .str c.rollbackPlanVersion),
    ("security_class", .str c.securityClass.value),
    ("snapshot_digest", .str c.snapshotDigest),
    ("state", .str c.state.value),
    ("state_version", .int c.stateVersion),
    ("target_fingerprint", .str c.targetFingerprint),
    ("target_identity_digest", .str c.targetIdentityDigest),
    ("verified_target_fingerprint", optionalStr c.verifiedTargetFingerprint)]

theorem sortKeys_contractDict (c : ContractFields) :
    Json.sortKeys (contractDict c) = .obj (contractFieldList c) := by
  simp [contractDict, contractFieldList, Json.sortKeys, Json.sortFields, Json.insertField, Json.keyLt,
    sortKeys_artifactToDict, sortKeys_provenanceToDict, sortKeys_optionalStr]

theorem plain_contractFieldList (c : ContractFields) : Json.plain (.obj (contractFieldList c)) = true := by
  have h₁ : ∀ a, Json.plain (artifactToDict a) = true := fun a => rfl
  have h₂ : ∀ t, Json.plain (optionalStr t) = true := fun t => by cases t <;> rfl
  have h₃ : ∀ p, Json.plain (provenanceToDict p) = true := fun p => by cases p <;> rfl
  simp [contractFieldList, Json.plain, Json.plainFields, h₁, h₂, h₃]

theorem artifactFromDict_artifactToDict (a : ProtectedArtifact) :
    artifactFromDict (some (artifactToDict a)) = .ok a := by
  simp [artifactFromDict, artifactToDict, hasExactFields, getField, List.lookup_cons,
    ProtectedArtifact.new_self]

theorem provenanceFromDict_provenanceToDict (p : Option AuthorizationProvenance) :
    provenanceFromDict (some (provenanceToDict p)) = .ok p := by
  cases p with
  | none => rfl
  | some p =>
    have h := AuthorizationProvenance.ofFields_self p
    simp [provenanceFromDict, provenanceToDict, hasExactFields, getField, List.lookup_cons,
      provenanceFieldNames, strField, intField, dateField, orInvalid, bind, Except.bind, h, demand]

theorem strField_of_getField {fields : List (String × Json)} {name text : String}
    (h : getField fields name = some (.str text)) : strField fields name = .ok text := by
  rw [strField, h]

theorem intField_of_getField {fields : List (String × Json)} {name : String} {n : ℤ}
    (h : getField fields name = some (.int n)) : intField fields name = .ok n := by
  rw [intField, h]

theorem optionalStrField_of_getField {fields : List (String × Json)} {name : String}
    {text : Option String} (h : getField fields name = some (optionalStr text)) :
    optionalStrField fields name = .ok text := by
  rw [optionalStrField, h]
  cases text <;> rfl

theorem dateField_of_getField {fields : List (String × Json)} {name : String} {t : DateTime}
    (h : getField fields name = some (.str t.isoformat)) : dateField fields name = .ok t := by
  rw [dateField, strField_of_getField h]
  simp [orInvalid, bind, Except.bind]

theorem optionalDateField_of_getField {fields : List (String × Json)} {name : String}
    {t : Option DateTime} (h : getField fields name = some (optionalStr (t.map DateTime.isoformat))) :
    optionalDateField fields name = .ok t := by
  cases t with
  | none => rw [optionalDateField, h]; rfl
  | some t =>
    have hne := t.isoformat_ne_empty
    rw [optionalDateField, h]
    simp only [Option.map_some, optionalStr]
    simp [orInvalid, Except.map]

end

/-- Reading the fields of a contract gives it back. -/
theorem recoveryContractFromFields_contractFieldList (c : RecoveryContract) :
    recoveryContractFromFields (contractFieldList c.toContractFields) c.securityClass = .ok c := by
  have hwrite := c.identityValid.capability
  have hbuild : RecoveryContract.ofFields c.toContractFields = .ok c :=
    RecoveryContract.ofFields_eq_ok.mpr rfl
  generalize hL : contractFieldList c.toContractFields = L
  have h_contract_id : getField L "contract_id" = some (.str c.contractId) := by
    rw [← hL]; rfl
  have h_operation_id : getField L "operation_id" = some (.str c.operationId) := by
    rw [← hL]; rfl
  have h_idempotency_key : getField L "idempotency_key" = some (.str c.idempotencyKey) := by
    rw [← hL]; rfl
  have h_capability : getField L "capability" = some (.str c.capability.name) := by
    rw [← hL]; rfl
  have h_endpoint_symbol : getField L "endpoint_symbol" = some (.str c.endpointSymbol) := by
    rw [← hL]; rfl
  have h_http_method : getField L "http_method" = some (.str c.httpMethod) := by
    rw [← hL]; rfl
  have h_target_identity_digest : getField L "target_identity_digest" = some (.str c.targetIdentityDigest) := by
    rw [← hL]; rfl
  have h_target_fingerprint : getField L "target_fingerprint" = some (.str c.targetFingerprint) := by
    rw [← hL]; rfl
  have h_intent_digest : getField L "intent_digest" = some (.str c.intentDigest) := by
    rw [← hL]; rfl
  have h_snapshot_digest : getField L "snapshot_digest" = some (.str c.snapshotDigest) := by
    rw [← hL]; rfl
  have h_rollback_plan_version : getField L "rollback_plan_version" = some (.str c.rollbackPlanVersion) := by
    rw [← hL]; rfl
  have h_state : getField L "state" = some (.str c.state.value) := by
    rw [← hL]; rfl
  have h_security_class : getField L "security_class" = some (.str c.securityClass.value) := by
    rw [← hL]; rfl
  have h_lifecycle_locator : getField L "lifecycle_locator" = some (.int c.lifecycleLocator) := by
    rw [← hL]; rfl
  have h_state_version : getField L "state_version" = some (.int c.stateVersion) := by
    rw [← hL]; rfl
  have h_created_at : getField L "created_at" = some (.str c.createdAt.isoformat) := by
    rw [← hL]; rfl
  have h_expires_at : getField L "expires_at" = some (.str c.expiresAt.isoformat) := by
    rw [← hL]; rfl
  have h_protected_target_identity : getField L "protected_target_identity" = some (artifactToDict c.protectedTargetIdentity) := by
    rw [← hL]; rfl
  have h_protected_intent : getField L "protected_intent" = some (artifactToDict c.protectedIntent) := by
    rw [← hL]; rfl
  have h_protected_snapshot : getField L "protected_snapshot" = some (artifactToDict c.protectedSnapshot) := by
    rw [← hL]; rfl
  have h_confirmation_digest : getField L "confirmation_digest" = some (optionalStr c.confirmationDigest) := by
    rw [← hL]; rfl
  have h_verified_target_fingerprint : getField L "verified_target_fingerprint" = some (optionalStr c.verifiedTargetFingerprint) := by
    rw [← hL]; rfl
  have h_confirmed_at : getField L "confirmed_at" = some (optionalStr (c.confirmedAt.map DateTime.isoformat)) := by
    rw [← hL]; rfl
  have h_authorization_provenance : getField L "authorization_provenance" = some (provenanceToDict c.authorizationProvenance) := by
    rw [← hL]; rfl
  simp only [recoveryContractFromFields, strField_of_getField h_contract_id, strField_of_getField h_operation_id, strField_of_getField h_idempotency_key, strField_of_getField h_capability, strField_of_getField h_endpoint_symbol, strField_of_getField h_http_method, strField_of_getField h_target_identity_digest, strField_of_getField h_target_fingerprint, strField_of_getField h_intent_digest, strField_of_getField h_snapshot_digest, strField_of_getField h_rollback_plan_version, strField_of_getField h_state, intField_of_getField h_lifecycle_locator, intField_of_getField h_state_version,
    dateField_of_getField h_created_at, dateField_of_getField h_expires_at, h_protected_target_identity, h_protected_intent, h_protected_snapshot,
    optionalStrField_of_getField h_confirmation_digest, optionalStrField_of_getField h_verified_target_fingerprint,
    optionalDateField_of_getField h_confirmed_at, h_authorization_provenance,
    artifactFromDict_artifactToDict, provenanceFromDict_provenanceToDict, Capability.ofName_name hwrite, RecoveryState.ofValue_value, orInvalid, ok_bind, hbuild]

omit [Platform] in
/-- A contract has no duplicate field in its payload. -/
theorem hasDuplicateField_contractFieldList (c : ContractFields) :
    hasDuplicateField (.obj (contractFieldList c)) = false := by
  have h₁ : ∀ a, hasDuplicateField (artifactToDict a) = false := fun a => by
    simp [artifactToDict, hasDuplicateField, fieldsHaveDuplicateField]
  have h₂ : ∀ t, hasDuplicateField (optionalStr t) = false := fun t => by cases t <;> rfl
  have h₃ : ∀ p, hasDuplicateField (provenanceToDict p) = false := fun p => by
    cases p <;> simp [provenanceToDict, hasDuplicateField, fieldsHaveDuplicateField]
  simp [contractFieldList, hasDuplicateField, fieldsHaveDuplicateField, h₁, h₂, h₃]

/-- Reading the payload of a contract gives it back. -/
theorem contractFromPayload_contractPayload (c : RecoveryContract) :
    contractFromPayload (contractPayload c.toContractFields) = .ok c := by
  have hload : (Bytes.decodeUtf8 (contractPayload c.toContractFields) >>= Json.loads) =
      some (.obj (contractFieldList c.toContractFields)) := by
    rw [contractPayload, sortKeys_contractDict, Bytes.decodeUtf8_encodeUtf8]
    exact Json.loads_dumps true (plain_contractFieldList _)
  have hexact :
      hasExactFields (contractFieldList c.toContractFields) contractFieldNames = true := by
    simp [hasExactFields, contractFieldList, contractFieldNames, getField, List.lookup_cons]
  have hclass : strField (contractFieldList c.toContractFields) "security_class" =
      .ok c.securityClass.value :=
    strField_of_getField (by simp [contractFieldList, getField, List.lookup_cons])
  rw [contractFromPayload, hload, orInvalid, ok_bind,
    demand_of (hasDuplicateField_contractFieldList _), ok_bind]
  dsimp only
  rw [if_pos hexact, hclass, ok_bind, WriteSecurityClass.ofValue_value, orInvalid, ok_bind]
  exact recoveryContractFromFields_contractFieldList c

/-- A payload belongs to one contract. -/
theorem contractPayload_injective {c d : RecoveryContract}
    (h : contractPayload c.toContractFields = contractPayload d.toContractFields) : c = d := by
  have hc := contractFromPayload_contractPayload c
  rw [h, contractFromPayload_contractPayload] at hc
  exact (Except.ok.inj hc).symm

/-! ### Length -/

omit [Platform] in
theorem weight_artifactToDict_le (a : ProtectedArtifact) :
    Json.weight (artifactToDict a) ≤ 16800000 := by
  have hvalid := a.valid
  simp only [ProtectedArtifact.postInit, bind_eq_ok, demand_eq_ok] at hvalid
  obtain ⟨_, ⟨hkey, halg⟩, _, -, hlen⟩ := hvalid
  have h₁ := length_le_of_isIdentifier hkey
  have h₂ := length_le_of_isIdentifier halg
  have h₃ := Bytes.length_b64chars_le a.ciphertext
  have h₄ : a.ciphertext.length ≤ 1048576 := hlen
  simp [artifactToDict, Json.weight, Json.weightFields, Bytes.b64encode, String.toList_ofList]
  omega

omit [Platform] in
theorem weight_optionalStr_le {text : Option String} {bound : ℕ}
    (h : ∀ t ∈ text, t.toList.length ≤ bound) :
    Json.weight (optionalStr text) ≤ 12 * bound + 4 := by
  cases text with
  | none => simp [optionalStr, Json.weight]
  | some t =>
    have := h t rfl
    simp only [optionalStr, Json.weight]
    omega

omit [Platform] in
theorem weight_provenanceToDict_le (p : Option AuthorizationProvenance) :
    Json.weight (provenanceToDict p) ≤ 16800000 := by
  cases p with
  | none => simp [provenanceToDict, Json.weight]
  | some p =>
    have hvalid := p.valid
    simp only [ProvenanceFields.postInit, bind_eq_ok, demand_eq_ok] at hvalid
    obtain ⟨_, hs, _, hp, _, ⟨h₁, h₂, h₃⟩, _, ⟨h₄, h₅, h₆⟩, -⟩ := hvalid
    have l₁ := length_le_of_isIdentifier h₁
    have l₂ := length_le_of_isIdentifier h₂
    have l₃ := length_le_of_isIdentifier h₃
    have l₄ := length_of_isHex64 h₄
    have l₅ := length_of_isHex64 h₅
    have l₆ := length_of_isHex64 h₆
    have l₇ := p.authorizationIssuedAt.length_isoformat_le
    have l₈ := p.authorizationExpiresAt.length_isoformat_le
    have w : Json.weight (.int 2) = 1 := rfl
    simp only [provenanceToDict, Json.weight.eq_7, Json.weightFields, hs, hp, w]
    simp [Json.weight]
    omega

/-- A payload is short enough to be framed, as long as the version fits the database column. -/
theorem length_contractPayload_lt (c : RecoveryContract) (hversion : c.stateVersion < 2 ^ 63) :
    (contractPayload c.toContractFields).length < 2 ^ 32 := by
  have i := c.identityValid
  have p := c.progressValid
  have hcap : c.capability.name.toList.length ≤ 40 := by
    have := i.capability
    cases hc : c.capability <;> simp_all [Capability.name, Capability.isWrite]
  have hmethod : c.httpMethod.toList.length ≤ 6 := by
    have := i.httpMethod
    simp only [isMutatingMethod, List.contains_eq_mem, List.mem_cons, List.not_mem_nil, or_false,
      decide_eq_true_eq] at this
    rcases this with h | h | h | h <;> simp [h]
  have hclass : c.securityClass.value.toList.length ≤ 21 := by
    cases c.securityClass <;> simp [WriteSecurityClass.value]
  have hstate : c.state.value.toList.length ≤ 15 := by cases c.state <;> simp [RecoveryState.value]
  have hlocator : Json.weight (.int c.lifecycleLocator) ≤ 10 :=
    Json.weight_int_le (by decide) i.lifecycleLocator.1
      (by have := i.lifecycleLocator.2; omega)
  have hver : Json.weight (.int c.stateVersion) ≤ 19 :=
    Json.weight_int_le (by decide) p.stateVersion (by omega)
  have hconf : Json.weight (optionalStr c.confirmationDigest) ≤ 12 * 64 + 4 :=
    weight_optionalStr_le fun t ht =>
      Nat.le_of_eq (length_of_isHex64 (p.confirmationDigest t ht))
  have hfp : Json.weight (optionalStr c.verifiedTargetFingerprint) ≤ 12 * 64 + 4 :=
    weight_optionalStr_le fun t ht =>
      Nat.le_of_eq (length_of_isHex64 (p.verifiedTargetFingerprint t ht))
  have hconfAt : Json.weight (optionalStr (c.confirmedAt.map DateTime.isoformat)) ≤
      12 * 32 + 4 := by
    refine weight_optionalStr_le fun t ht => ?_
    obtain ⟨u, -, rfl⟩ := Option.map_eq_some_iff.mp ht
    exact u.length_isoformat_le
  have hstr : ∀ (text : String) (n : ℕ), text.toList.length ≤ n →
      Json.weight (.str text) ≤ 12 * n + 2 := by
    intro text n h
    simp only [Json.weight]
    omega
  have hid : ∀ text : String, isIdentifier text = true → Json.weight (.str text) ≤ 12 * 128 + 2 :=
    fun t h => hstr t _ (length_le_of_isIdentifier h)
  have hhex : ∀ text : String, isHex64 text = true → Json.weight (.str text) ≤ 12 * 64 + 2 :=
    fun t h => hstr t _ (Nat.le_of_eq (length_of_isHex64 h))
  have hdate : ∀ t : DateTime, Json.weight (.str t.isoformat) ≤ 12 * 32 + 2 :=
    fun t => hstr _ _ t.length_isoformat_le
  have hkeys : ∀ f ∈ contractFieldList c.toContractFields, f.1.toList.length ≤ 40 := by
    simp [contractFieldList]
  have hvalues : ∀ f ∈ contractFieldList c.toContractFields, Json.weight f.2 ≤ 16800000 := by
    simp only [contractFieldList, List.forall_mem_cons, List.not_mem_nil, false_imp_iff,
      implies_true, and_true]
    have hle : ∀ {a b : ℕ}, a ≤ b → b ≤ 16800000 → a ≤ 16800000 := fun h h' => Nat.le_trans h h'
    refine ⟨weight_provenanceToDict_le _, hle (hstr _ _ hcap) ?_, hle hconf ?_, hle hconfAt ?_,
      hle (hid _ i.contractId) ?_, hle (hdate _) ?_, hle (hid _ i.endpointSymbol) ?_,
      hle (hdate _) ?_, hle (hstr _ _ hmethod) ?_, hle (hhex _ i.idempotencyKey) ?_,
      hle (hhex _ i.intentDigest) ?_, hle hlocator ?_, hle (hid _ i.operationId) ?_,
      weight_artifactToDict_le _, weight_artifactToDict_le _, weight_artifactToDict_le _,
      hle (hid _ i.rollbackPlanVersion) ?_, hle (hstr _ _ hclass) ?_,
      hle (hhex _ i.snapshotDigest) ?_, hle (hstr _ _ hstate) ?_, hle hver ?_,
      hle (hhex _ i.targetFingerprint) ?_, hle (hhex _ i.targetIdentityDigest) ?_, hle hfp ?_⟩
    all_goals decide
  have hfields := Json.weightFields_le hkeys hvalues
  have hlen : (contractFieldList c.toContractFields).length = 24 := rfl
  rw [hlen] at hfields
  have htext := Json.length_dumpValue_le true (.obj (contractFieldList c.toContractFields))
  have hbytes := Bytes.length_encodeUtf8_le
    (Json.dumps true (.obj (contractFieldList c.toContractFields)))
  rw [contractPayload, sortKeys_contractDict]
  simp only [Json.weight] at htext
  simp only [Json.dumps, String.toList_ofList] at hbytes
  simp only [Json.dumps]
  omega

end Tier1
