import PfsenseMcp.Posture.Types
import PfsenseMcp.Python.Equality
import PfsenseMcp.Python.JsonOrder
import PfsenseMcp.Tier1.PreparedExecutionIntent

/-!
# Review artifacts

`tier1/artifact_exchange.py` and `tier1/shape_a_artifact_exchange.py`: the previews and the pending
confirmation requests that the server writes and the signer reads. The constructors bound the
characters of a text, the reader the bytes of the file.

## Main results

* `Kind.length_file`: the size of a file, from the texts of the artifact;
* `Kind.load_toBytes_iff`: what was written can be read exactly if it fits;
* `Kind.computed_of_load`: what is read was written;
* `readable_iff`: both for every kind.
-/

namespace Tier1

open Python Posture

namespace ArtifactExchange

/-! ### Files -/

/-- What a path leads to. -/
inductive StoredFile where
  | absent
  | symlink
  | file (regular owned shared : Bool) (content : Bytes)

/-- `_MAX_FILE`. -/
def maxFile : ℕ := 16 * 1024

/-- `_read_secure`; `none` is an `ArtifactExchangeError`. -/
def readSecure : StoredFile → Option Bytes
  | .absent => none
  | .symlink => none
  | .file regular owned shared content =>
    if regular && owned && !shared && decide (content.length ≤ maxFile) then some content else none

/-- What `write_secure_new` writes, where no call fails. -/
def stored (content : Bytes) : StoredFile := .file true true false content

/-! ### Formats -/

/-- What the reader takes from the standard library. -/
structure Reader where
  /-- `json.loads` of bytes; `none` is a `ValueError`. -/
  jsonLoads : Bytes → Option Json
  /-- `datetime.fromisoformat(text)`, if it is in UTC; `none` is a `ValueError`. -/
  fromisoformat : String → Option DateTime
  /-- `str(value)`. -/
  str : Json → String
  jsonLoads_dumps : ∀ v : Json, v.plain = true → v.Distinct →
    jsonLoads (Bytes.encodeUtf8 (Json.dumps true v)) = some v
  fromisoformat_isoformat : ∀ t : DateTime, fromisoformat t.isoformat = some t
  str_str : ∀ s, str (.str s) = s

/-- What is raised. -/
inductive LoadError where
  /-- An `ArtifactExchangeError`. -/
  | artifactExchange (message : String)
  /-- The `TypeError` of `hmac.compare_digest` for a text that is not ASCII. -/
  | typeError

/-- `value != version` is false. -/
def isVersion (version : ℕ) : Json → Bool
  | .int n => n = version
  | .bool b => (if b then 1 else 0) = version
  | .float text => text = toString version ++ ".0"
  | _ => false

/-- A string of a dictionary. -/
def text (fields : List (String × Json)) (key : String) : Option String :=
  match fields.lookup key with
  | some (.str s) => some s
  | _ => none

/-- What the two kinds of artifacts have in common in both modules. -/
structure Format (D : Type) where
  /-- How the errors call an artifact. -/
  name : String
  macDomain : Bytes
  schemaVersion : ℕ
  /-- The payload without its version, which comes first. -/
  fields : D → List (String × Json)
  /-- The keys of a file besides its version and its authentication code. -/
  keys : List String
  /-- The constructor, applied to what is read. -/
  read : Reader → List (String × Json) → Option D

namespace Format

variable {D : Type} (F : Format D)

/-- The payload of an artifact. -/
def payload (d : D) : List (String × Json) := ("schema_version", .int F.schemaVersion) :: F.fields d

section

variable [Platform]

/-- What the authentication code is computed of. -/
def message (d : D) : Bytes :=
  F.macDomain ++ Bytes.encodeUtf8 (Json.dumps true (Json.sortKeys (.obj (F.payload d))))

/-- The authentication code of an artifact. -/
def mac (d : D) (integrityKey : Bytes) : Except LoadError String :=
  if integrityKey.length < 32 then
    .error (.artifactExchange (F.name ++ " integrity key is invalid"))
  else .ok (Platform.hmacSha256 integrityKey (F.message d))

/-- The bytes of an artifact. -/
def toBytes (d : D) (integrityKey : Bytes) : Except LoadError Bytes :=
  match F.mac d integrityKey with
  | .error e => .error e
  | .ok mac => .ok (Bytes.encodeUtf8 (Json.dumps true (Json.sortKeys
      (.obj (F.payload d ++ [("integrity_mac", .str mac)])))))

/-- `set(raw) == expected_keys and raw["schema_version"] == version`. -/
def expects (raw : List (String × Json)) : Bool :=
  let expected := "schema_version" :: "integrity_mac" :: F.keys
  (raw.map Prod.fst).all (· ∈ expected) && expected.all (· ∈ raw.map Prod.fst) &&
    ((raw.lookup "schema_version").map (isVersion F.schemaVersion)).getD false

/-- What is read of a file, with its authentication code; `none` is one of the errors that make an
artifact malformed. -/
def parse (r : Reader) (file : StoredFile) : Option (D × String) := do
  let content ← readSecure file
  match r.jsonLoads content with
  | some (.obj raw) =>
    if F.expects raw then do
      let d ← F.read r raw
      let mac ← text raw "integrity_mac"
      some (d, mac)
    else none
  | _ => none

/-- The reader of an artifact. -/
def load (r : Reader) (path : String) (file : StoredFile) (integrityKey : Bytes) :
    Except LoadError D :=
  match F.parse r file with
  | none => .error (.artifactExchange (F.name ++ " is malformed: " ++ path))
  | some (d, mac) =>
    match F.mac d integrityKey with
    | .error e => .error e
    | .ok expected =>
      if mac.toList.any fun c => 127 < c.toNat then .error .typeError
      else if mac = expected then .ok d
      else .error (.artifactExchange (F.name ++ " failed integrity verification: " ++ path))

end

end Format

/-! ### The artifacts of the alias capability -/

/-- `SEMANTIC_UNIT`. -/
def semanticUnit : String := "set_firewall_alias_description_v1"

def maxAliasNameLength : ℕ := 32

def maxDescriptionLength : ℕ := 1024

/-- The arguments of `AuthorizationPreview`. -/
structure PreviewFields where
  operation : String
  aliasName : String
  previousDescription : String
  requestedDescription : String
  executionIntentDigest : String
  requestedPlanDigest : String
  requestedStepId : String
  targetCapabilityPosture : CapabilityPosture
  targetAnchorAssurance : AnchorAssurance
  generatedAt : DateTime

/-- `AuthorizationPreview.__post_init__`. -/
def PreviewFields.Valid (v : PreviewFields) : Prop :=
  v.operation = semanticUnit ∧
    (v.aliasName ≠ "" ∧ v.aliasName.toList.length ≤ maxAliasNameLength) ∧
    v.previousDescription.toList.length ≤ maxDescriptionLength ∧
    v.requestedDescription.toList.length ≤ maxDescriptionLength ∧
    isHex64 v.executionIntentDigest = true ∧ isHex64 v.requestedPlanDigest = true ∧
    isIdentifier v.requestedStepId = true

instance (v : PreviewFields) : Decidable v.Valid := by
  unfold PreviewFields.Valid
  infer_instance

/-- `AuthorizationPreview`. -/
abbrev AuthorizationPreview := {v : PreviewFields // v.Valid}

/-- The payload of `AuthorizationPreview` without its version. -/
def PreviewFields.payload (v : PreviewFields) : List (String × Json) :=
  [("operation", .str v.operation), ("alias_name", .str v.aliasName),
    ("previous_description", .str v.previousDescription),
    ("requested_description", .str v.requestedDescription),
    ("execution_intent_digest", .str v.executionIntentDigest),
    ("requested_plan_digest", .str v.requestedPlanDigest),
    ("requested_step_id", .str v.requestedStepId),
    ("target_capability_posture", .str v.targetCapabilityPosture.value),
    ("target_anchor_assurance", .str v.targetAnchorAssurance.value),
    ("generated_at", .str v.generatedAt.isoformat)]

/-- The codec of `AuthorizationPreview`. -/
def authorizationPreview : Format AuthorizationPreview where
  name := "authorization preview"
  macDomain := Bytes.encodeUtf8 "tier1-authorization-preview-v1" ++ [0]
  schemaVersion := 1
  fields v := v.1.payload
  keys :=
    ["operation", "alias_name", "previous_description", "requested_description",
      "execution_intent_digest", "requested_plan_digest", "requested_step_id",
      "target_capability_posture", "target_anchor_assurance", "generated_at"]
  read r raw := do
    let generatedAt ← (← text raw "generated_at") |> r.fromisoformat
    let v : PreviewFields :=
      { operation := ← text raw "operation"
        aliasName := ← text raw "alias_name"
        previousDescription := ← text raw "previous_description"
        requestedDescription := ← text raw "requested_description"
        executionIntentDigest := ← text raw "execution_intent_digest"
        requestedPlanDigest := ← text raw "requested_plan_digest"
        requestedStepId := ← text raw "requested_step_id"
        targetCapabilityPosture :=
          ← CapabilityPosture.ofValue (Text.ofString (← text raw "target_capability_posture"))
        targetAnchorAssurance :=
          ← AnchorAssurance.ofValue (Text.ofString (← text raw "target_anchor_assurance"))
        generatedAt := generatedAt }
    if h : v.Valid then some ⟨v, h⟩ else none

/-- The arguments of `PendingConfirmationRequest`. -/
structure PendingFields where
  operation : String
  contractId : String
  operationId : String
  aliasName : String
  previousDescription : String
  requestedDescription : String
  targetIdentityDigest : String
  targetFingerprint : String
  intentDigest : String
  expiresAt : DateTime
  expectedAuthorityId : String
  expectedAlgorithm : String

/-- `PendingConfirmationRequest.__post_init__`. -/
def PendingFields.Valid (v : PendingFields) : Prop :=
  v.operation = semanticUnit ∧
    (∀ token ∈ [v.contractId, v.operationId, v.expectedAuthorityId, v.expectedAlgorithm],
      isIdentifier token = true) ∧
    (v.aliasName ≠ "" ∧ v.aliasName.toList.length ≤ maxAliasNameLength) ∧
    v.previousDescription.toList.length ≤ maxDescriptionLength ∧
    v.requestedDescription.toList.length ≤ maxDescriptionLength ∧
    ∀ digest ∈ [v.targetIdentityDigest, v.targetFingerprint, v.intentDigest], isHex64 digest = true

instance (v : PendingFields) : Decidable v.Valid := by
  unfold PendingFields.Valid
  infer_instance

/-- `PendingConfirmationRequest`. -/
abbrev PendingConfirmationRequest := {v : PendingFields // v.Valid}

/-- The payload of `PendingConfirmationRequest` without its version. -/
def PendingFields.payload (v : PendingFields) : List (String × Json) :=
  [("operation", .str v.operation), ("contract_id", .str v.contractId),
    ("operation_id", .str v.operationId), ("alias_name", .str v.aliasName),
    ("previous_description", .str v.previousDescription),
    ("requested_description", .str v.requestedDescription),
    ("target_identity_digest", .str v.targetIdentityDigest),
    ("target_fingerprint", .str v.targetFingerprint), ("intent_digest", .str v.intentDigest),
    ("expires_at", .str v.expiresAt.isoformat),
    ("expected_authority_id", .str v.expectedAuthorityId),
    ("expected_algorithm", .str v.expectedAlgorithm)]

/-- The codec of `PendingConfirmationRequest`. -/
def pendingConfirmationRequest : Format PendingConfirmationRequest where
  name := "pending confirmation request"
  macDomain := Bytes.encodeUtf8 "tier1-pending-confirmation-request-v2" ++ [0]
  schemaVersion := 2
  fields v := v.1.payload
  keys :=
    ["operation", "contract_id", "operation_id", "alias_name", "previous_description",
      "requested_description", "target_identity_digest", "target_fingerprint", "intent_digest",
      "expires_at", "expected_authority_id", "expected_algorithm"]
  read r raw := do
    let expiresAt ← (← text raw "expires_at") |> r.fromisoformat
    let v : PendingFields :=
      { operation := ← text raw "operation"
        contractId := ← text raw "contract_id"
        operationId := ← text raw "operation_id"
        aliasName := ← text raw "alias_name"
        previousDescription := ← text raw "previous_description"
        requestedDescription := ← text raw "requested_description"
        targetIdentityDigest := ← text raw "target_identity_digest"
        targetFingerprint := ← text raw "target_fingerprint"
        intentDigest := ← text raw "intent_digest"
        expiresAt := expiresAt
        expectedAuthorityId := ← text raw "expected_authority_id"
        expectedAlgorithm := ← text raw "expected_algorithm" }
    if h : v.Valid then some ⟨v, h⟩ else none

/-! ### The artifacts of the Shape-A capabilities -/

/-- The keys of `SHAPE_A_REGISTRATIONS`. -/
def registeredCapabilities : List String :=
  ["NTP_TIME_SERVER_PREFER", "NTP_SETTINGS_OBSERVABILITY_TOGGLES", "LOG_DISPLAY_PREFERENCES",
    "LOG_RETENTION_SETTINGS", "SYSTEM_TIMEZONE"]

def maxSemanticFields : ℕ := 16

def maxSemanticLabelLength : ℕ := 64

def maxSemanticValueLength : ℕ := 256

/-- `_validate_semantic_fields`. -/
def ValidSemanticFields (fields : List (String × String)) : Prop :=
  fields.length ≤ maxSemanticFields ∧ ∀ field ∈ fields, field.1 ≠ "" ∧
    field.1.toList.length ≤ maxSemanticLabelLength ∧
    field.2.toList.length ≤ maxSemanticValueLength

instance (fields : List (String × String)) : Decidable (ValidSemanticFields fields) := by
  unfold ValidSemanticFields
  infer_instance

/-- `[list(pair) for pair in semantic_fields]`. -/
def semanticPayload (fields : List (String × String)) : Json :=
  .arr (fields.map fun (label, value) => .arr [.str label, .str value])

/-- The pairs of strings in a list: other entries are left out. -/
def readSemanticFields (r : Reader) : Option Json → Option (List (String × String))
  | some (.arr items) => some (items.filterMap fun
    | .arr [label, value] => some (r.str label, r.str value)
    | _ => none)
  | _ => none

/-- The arguments of `ShapeAAuthorizationPreview`. -/
structure ShapeAPreviewFields where
  capabilitySymbol : String
  semanticFields : List (String × String)
  executionIntentDigest : String
  requestedPlanDigest : String
  requestedStepId : String
  targetCapabilityPosture : CapabilityPosture
  targetAnchorAssurance : AnchorAssurance
  generatedAt : DateTime

/-- `ShapeAAuthorizationPreview.__init__`. -/
def ShapeAPreviewFields.Valid (v : ShapeAPreviewFields) : Prop :=
  v.capabilitySymbol ∈ registeredCapabilities ∧ ValidSemanticFields v.semanticFields ∧
    isHex64 v.executionIntentDigest = true ∧ isHex64 v.requestedPlanDigest = true ∧
    isIdentifier v.requestedStepId = true

instance (v : ShapeAPreviewFields) : Decidable v.Valid := by
  unfold ShapeAPreviewFields.Valid
  infer_instance

/-- `ShapeAAuthorizationPreview`. -/
abbrev ShapeAAuthorizationPreview := {v : ShapeAPreviewFields // v.Valid}

/-- The payload of `ShapeAAuthorizationPreview` without its version. -/
def ShapeAPreviewFields.payload (v : ShapeAPreviewFields) : List (String × Json) :=
  [("capability_symbol", .str v.capabilitySymbol),
    ("semantic_fields", semanticPayload v.semanticFields),
    ("execution_intent_digest", .str v.executionIntentDigest),
    ("requested_plan_digest", .str v.requestedPlanDigest),
    ("requested_step_id", .str v.requestedStepId),
    ("target_capability_posture", .str v.targetCapabilityPosture.value),
    ("target_anchor_assurance", .str v.targetAnchorAssurance.value),
    ("generated_at", .str v.generatedAt.isoformat)]

/-- The codec of `ShapeAAuthorizationPreview`. -/
def shapeAAuthorizationPreview : Format ShapeAAuthorizationPreview where
  name := "authorization preview"
  macDomain := Bytes.encodeUtf8 "tier1-shape-a-authorization-preview-v1" ++ [0]
  schemaVersion := 1
  fields v := v.1.payload
  keys :=
    ["capability_symbol", "semantic_fields", "execution_intent_digest", "requested_plan_digest",
      "requested_step_id", "target_capability_posture", "target_anchor_assurance", "generated_at"]
  read r raw := do
    let generatedAt ← (← text raw "generated_at") |> r.fromisoformat
    let v : ShapeAPreviewFields :=
      { semanticFields := ← readSemanticFields r (raw.lookup "semantic_fields")
        capabilitySymbol := ← text raw "capability_symbol"
        executionIntentDigest := ← text raw "execution_intent_digest"
        requestedPlanDigest := ← text raw "requested_plan_digest"
        requestedStepId := ← text raw "requested_step_id"
        targetCapabilityPosture :=
          ← CapabilityPosture.ofValue (Text.ofString (← text raw "target_capability_posture"))
        targetAnchorAssurance :=
          ← AnchorAssurance.ofValue (Text.ofString (← text raw "target_anchor_assurance"))
        generatedAt := generatedAt }
    if h : v.Valid then some ⟨v, h⟩ else none

/-- The arguments of `ShapeAPendingConfirmationRequest`. -/
structure ShapeAPendingFields where
  capabilitySymbol : String
  contractId : String
  operationId : String
  semanticFields : List (String × String)
  targetIdentityDigest : String
  targetFingerprint : String
  intentDigest : String
  expiresAt : DateTime
  expectedAuthorityId : String
  expectedAlgorithm : String

/-- `ShapeAPendingConfirmationRequest.__init__`. -/
def ShapeAPendingFields.Valid (v : ShapeAPendingFields) : Prop :=
  v.capabilitySymbol ∈ registeredCapabilities ∧ ValidSemanticFields v.semanticFields ∧
    (∀ token ∈ [v.contractId, v.operationId, v.expectedAuthorityId, v.expectedAlgorithm],
      isIdentifier token = true) ∧
    ∀ digest ∈ [v.targetIdentityDigest, v.targetFingerprint, v.intentDigest], isHex64 digest = true

instance (v : ShapeAPendingFields) : Decidable v.Valid := by
  unfold ShapeAPendingFields.Valid
  infer_instance

/-- `ShapeAPendingConfirmationRequest`. -/
abbrev ShapeAPendingConfirmationRequest := {v : ShapeAPendingFields // v.Valid}

/-- The payload of `ShapeAPendingConfirmationRequest` without its version. -/
def ShapeAPendingFields.payload (v : ShapeAPendingFields) : List (String × Json) :=
  [("capability_symbol", .str v.capabilitySymbol), ("contract_id", .str v.contractId),
    ("operation_id", .str v.operationId),
    ("semantic_fields", semanticPayload v.semanticFields),
    ("target_identity_digest", .str v.targetIdentityDigest),
    ("target_fingerprint", .str v.targetFingerprint), ("intent_digest", .str v.intentDigest),
    ("expires_at", .str v.expiresAt.isoformat),
    ("expected_authority_id", .str v.expectedAuthorityId),
    ("expected_algorithm", .str v.expectedAlgorithm)]

/-- The codec of `ShapeAPendingConfirmationRequest`. -/
def shapeAPendingConfirmationRequest : Format ShapeAPendingConfirmationRequest where
  name := "pending confirmation request"
  macDomain := Bytes.encodeUtf8 "tier1-shape-a-pending-confirmation-request-v1" ++ [0]
  schemaVersion := 1
  fields v := v.1.payload
  keys :=
    ["capability_symbol", "contract_id", "operation_id", "semantic_fields",
      "target_identity_digest", "target_fingerprint", "intent_digest", "expires_at",
      "expected_authority_id", "expected_algorithm"]
  read r raw := do
    let expiresAt ← (← text raw "expires_at") |> r.fromisoformat
    let v : ShapeAPendingFields :=
      { semanticFields := ← readSemanticFields r (raw.lookup "semantic_fields")
        capabilitySymbol := ← text raw "capability_symbol"
        contractId := ← text raw "contract_id"
        operationId := ← text raw "operation_id"
        targetIdentityDigest := ← text raw "target_identity_digest"
        targetFingerprint := ← text raw "target_fingerprint"
        intentDigest := ← text raw "intent_digest"
        expiresAt := expiresAt
        expectedAuthorityId := ← text raw "expected_authority_id"
        expectedAlgorithm := ← text raw "expected_algorithm" }
    if h : v.Valid then some ⟨v, h⟩ else none

/-! ### What every format provides -/

section Settled

/-- A plain value with distinct keys that are in order. -/
structure Settled (v : Json) : Prop where
  plain : v.plain = true
  distinct : v.Distinct
  sortKeys : v.sortKeys = v

theorem settled_str (s : String) : Settled (.str s) := ⟨rfl, trivial, rfl⟩

theorem plainFields_of_forall {fs : List (String × Json)} (h : ∀ f ∈ fs, f.2.plain = true) :
    Json.plainFields fs = true := by
  induction fs with
  | nil => rfl
  | cons f fs ih =>
    rw [List.forall_mem_cons] at h
    rw [Json.plainFields, h.1, ih h.2]
    rfl

theorem distinctFields_of_forall {fs : List (String × Json)} (h : ∀ f ∈ fs, f.2.Distinct) :
    Json.DistinctFields fs := by
  induction fs with
  | nil => trivial
  | cons f fs ih =>
    rw [List.forall_mem_cons] at h
    exact ⟨h.1, ih h.2⟩

variable {fs : List (String × Json)} (h : ∀ f ∈ fs, Settled f.2)

include h

/-- Settled fields are only put in order. -/
theorem sortFields_perm_of_settled : (Json.sortFields fs).Perm fs := by
  have hmap : (fs.map fun f => (f.1, f.2.sortKeys)) = fs := by
    refine (List.map_congr_left fun f hf => ?_).trans (List.map_id fs)
    rw [(h f hf).sortKeys]
    rfl
  have hperm := Json.sortFields_perm fs
  rwa [hmap] at hperm

theorem settled_sortFields : ∀ f ∈ Json.sortFields fs, Settled f.2 :=
  fun f hf => h f ((sortFields_perm_of_settled h).mem_iff.mp hf)

theorem plain_sortFields : (Json.obj (Json.sortFields fs)).plain = true := by
  rw [Json.plain]
  exact plainFields_of_forall fun f hf => (settled_sortFields h f hf).plain

variable (hkeys : (fs.map Prod.fst).Nodup)

include hkeys

theorem nodup_sortFields : ((Json.sortFields fs).map Prod.fst).Nodup :=
  ((sortFields_perm_of_settled h).map Prod.fst).nodup_iff.mpr hkeys

theorem distinct_sortFields : (Json.obj (Json.sortFields fs)).Distinct := by
  rw [Json.Distinct]
  exact ⟨nodup_sortFields h hkeys,
    distinctFields_of_forall fun f hf => (settled_sortFields h f hf).distinct⟩

/-- Every field is found under its key. -/
theorem lookup_sortFields {f : String × Json} (hf : f ∈ fs) :
    (Json.sortFields fs).lookup f.1 = some f.2 :=
  Json.lookup_of_mem (nodup_sortFields h hkeys) ((sortFields_perm_of_settled h).mem_iff.mpr hf)

end Settled

namespace Format

variable {D : Type}

/-- What the codec of an artifact has to fulfil. -/
structure Lawful (F : Format D) : Prop where
  keys_fields : ∀ d, (F.fields d).map Prod.fst = F.keys
  nodup_keys : ("schema_version" :: (F.keys ++ ["integrity_mac"])).Nodup
  settled : ∀ d, ∀ f ∈ F.fields d, Settled f.2
  /-- The constructor accepts the fields of an artifact, in any order and whatever else there is. -/
  read_fields : ∀ r d raw, (∀ f ∈ F.fields d, raw.lookup f.1 = some f.2) → F.read r raw = some d

/-- The fields of a file. -/
def signed (F : Format D) (d : D) (mac : String) : List (String × Json) :=
  F.payload d ++ [("integrity_mac", .str mac)]

namespace Lawful

variable {F : Format D} (hF : F.Lawful)

include hF

theorem settled_payload (d : D) : ∀ f ∈ F.payload d, Settled f.2 := by
  intro f hf
  rcases List.mem_cons.mp hf with rfl | hf
  · exact ⟨rfl, trivial, rfl⟩
  · exact hF.settled d f hf

theorem settled_signed (d : D) (mac : String) : ∀ f ∈ F.signed d mac, Settled f.2 := by
  intro f hf
  rcases List.mem_append.mp hf with hf | hf
  · exact hF.settled_payload d f hf
  · rw [List.mem_singleton.mp hf]
    exact settled_str mac

theorem keys_payload (d : D) : (F.payload d).map Prod.fst = "schema_version" :: F.keys := by
  rw [payload, List.map_cons, hF.keys_fields d]

theorem keys_signed (d : D) (mac : String) :
    (F.signed d mac).map Prod.fst = "schema_version" :: (F.keys ++ ["integrity_mac"]) := by
  rw [signed, List.map_append, hF.keys_payload d]
  rfl

theorem nodup_signed (d : D) (mac : String) : ((F.signed d mac).map Prod.fst).Nodup := by
  rw [hF.keys_signed d mac]
  exact hF.nodup_keys

theorem nodup_payload (d : D) : ((F.payload d).map Prod.fst).Nodup := by
  have h := hF.nodup_signed d ""
  rw [signed, List.map_append] at h
  exact (List.nodup_append.mp h).1

/-- A file has the expected keys. -/
theorem mem_keys_signed (d : D) (mac : String) {key : String} :
    key ∈ (Json.sortFields (F.signed d mac)).map Prod.fst ↔
      key ∈ "schema_version" :: "integrity_mac" :: F.keys := by
  rw [((sortFields_perm_of_settled (hF.settled_signed d mac)).map Prod.fst).mem_iff,
    hF.keys_signed d mac]
  simp only [List.mem_cons, List.mem_append]
  tauto

/-- The fields of an artifact give it back. -/
theorem read_payload (r : Reader) (d : D) : F.read r (Json.sortFields (F.payload d)) = some d := by
  apply hF.read_fields
  intro f hf
  exact lookup_sortFields (hF.settled_payload d) (hF.nodup_payload d) (List.mem_cons_of_mem _ hf)

/-- What is read of a file that was written. -/
theorem parse_stored (r : Reader) (d : D) (mac : String) {content : Bytes}
    (hcontent : content = Bytes.encodeUtf8 (Json.dumps true
      (.obj (Json.sortFields (F.signed d mac))))) :
    F.parse r (stored content) = if content.length ≤ maxFile then some (d, mac) else none := by
  have hsettled := hF.settled_signed d mac
  have hnodup := hF.nodup_signed d mac
  by_cases hlength : content.length ≤ maxFile
  · have hread : readSecure (stored content) = some content := by
      simp [readSecure, stored, hlength]
    have hloads : r.jsonLoads content = some (.obj (Json.sortFields (F.signed d mac))) := by
      rw [hcontent]
      exact r.jsonLoads_dumps _ (plain_sortFields hsettled) (distinct_sortFields hsettled hnodup)
    have hlookup : ∀ f ∈ F.signed d mac,
        (Json.sortFields (F.signed d mac)).lookup f.1 = some f.2 :=
      fun f hf => lookup_sortFields hsettled hnodup hf
    have hversion := hlookup ("schema_version", .int F.schemaVersion) List.mem_cons_self
    have hexpects : F.expects (Json.sortFields (F.signed d mac)) = true := by
      rw [expects, hversion, Bool.and_eq_true, Bool.and_eq_true, List.all_eq_true,
        List.all_eq_true]
      refine ⟨⟨?_, ?_⟩, by simp [isVersion]⟩ <;> intro key hkey
      · exact decide_eq_true ((hF.mem_keys_signed d mac).mp hkey)
      · exact decide_eq_true ((hF.mem_keys_signed d mac).mpr hkey)
    have hmac : text (Json.sortFields (F.signed d mac)) "integrity_mac" = some mac := by
      rw [text, hlookup ("integrity_mac", .str mac) (by simp [signed])]
    have hfields : F.read r (Json.sortFields (F.signed d mac)) = some d := by
      apply hF.read_fields
      intro f hf
      exact hlookup f (by simp [signed, payload, hf])
    rw [if_pos hlength, parse, hread]
    simp [hloads, hexpects, hfields, hmac]
  · rw [if_neg hlength, parse]
    simp [readSecure, stored, hlength]

/-- Two artifacts with the same message are the same. -/
theorem message_injective (r : Reader) : Function.Injective F.message := by
  intro d e h
  have hplain : ∀ d, (Json.obj (F.payload d)).sortKeys.plain = true := by
    intro d
    rw [Json.sortKeys]
    exact plain_sortFields (hF.settled_payload d)
  rw [message, message, List.append_cancel_left_eq] at h
  have hvalue := Json.dumps_injective true (hplain d) (hplain e) (Bytes.encodeUtf8_injective h)
  simp only [Json.sortKeys, Json.obj.injEq] at hvalue
  have hread := hF.read_payload r d
  rw [hvalue, hF.read_payload r e] at hread
  exact (Option.some.inj hread).symm

section

variable [Platform]

/-- What is loaded of a file that was written. -/
theorem load_toBytes (r : Reader) (path : String) (d : D) {integrityKey : Bytes}
    (hkey : 32 ≤ integrityKey.length) :
    ∃ bytes, F.toBytes d integrityKey = .ok bytes ∧ bytes = Bytes.encodeUtf8 (Json.dumps true (.obj
        (Json.sortFields (F.signed d (Platform.hmacSha256 integrityKey (F.message d)))))) ∧
      F.load r path (stored bytes) integrityKey = if bytes.length ≤ maxFile then .ok d else
        .error (.artifactExchange (F.name ++ " is malformed: " ++ path)) := by
  have hmac : F.mac d integrityKey = .ok (Platform.hmacSha256 integrityKey (F.message d)) :=
    if_neg (by omega)
  refine ⟨_, ?_, rfl, ?_⟩
  · rw [toBytes, hmac]
    simp only [Json.sortKeys]
    rfl
  · have hascii : ((Platform.hmacSha256 integrityKey (F.message d)).toList.any
        fun c => 127 < c.toNat) = false := by
      rw [List.any_eq_false]
      intro c hc
      have hc' := ascii_of_isHex64 (Platform.isHex64_hmacSha256 integrityKey (F.message d)) c hc
      simp only [decide_eq_true_eq]
      omega
    rw [load, hF.parse_stored r d _ rfl]
    split_ifs
    · simp [hmac, hascii]
    · rfl

end

end Lawful

/-- Whatever is loaded has the authentication code that the file holds. -/
theorem parse_of_load [Platform] {F : Format D} {r : Reader} {path : String} {file : StoredFile}
    {integrityKey : Bytes} {d : D} (h : F.load r path file integrityKey = .ok d) :
    ∃ mac, F.parse r file = some (d, mac) ∧ F.mac d integrityKey = .ok mac := by
  unfold load at h
  split at h
  · cases h
  · next d' mac hparse =>
    split at h
    · cases h
    · next expected hmac =>
      split_ifs at h with hascii heq
      cases h
      exact ⟨mac, hparse, heq ▸ hmac⟩

end Format

/-! ### Sizes -/

/-- The number of bytes in which a character of a string is written. -/
def charSize (c : Char) : ℕ :=
  if c = '"' ∨ c = '\\' ∨ c = '\n' ∨ c = '\r' ∨ c = '\t' ∨ c.toNat = 12 ∨ c.toNat = 8 then 2
  else if 32 ≤ c.toNat ∧ c.toNat ≤ 126 then 1
  else if c.toNat < 0x10000 then 6
  else 12

/-- The number of bytes in which a string is written. -/
def stringSize (s : String) : ℕ := (s.toList.map charSize).sum + 2

/-- The number of bytes in which pairs of strings are written. -/
def pairsSize : List (String × String) → ℕ
  | [] => 2
  | pairs => (pairs.map fun pair => stringSize pair.1 + stringSize pair.2 + 4).sum + 1

theorem utf8Size_of_lt {c : Char} (h : c.toNat < 128) : c.utf8Size = 1 := by
  rw [Char.utf8Size_eq_one_iff]
  exact UInt32.le_iff_toNat_le.mpr (Nat.le_of_lt_succ h)

theorem toNat_hexDigit_lt : ∀ n < 16, (Json.hexDigit n).toNat < 128 := by decide

theorem charsSize_unitEscape {n : ℕ} (hn : n < 0x10000) : charsSize (Json.unitEscape n) = 6 := by
  have hdigit : ∀ m < 16, (Json.hexDigit m).utf8Size = 1 :=
    fun m hm => utf8Size_of_lt (toNat_hexDigit_lt m hm)
  have hback : Char.utf8Size '\\' = 1 := rfl
  have hu : Char.utf8Size 'u' = 1 := rfl
  simp only [Json.unitEscape, charsSize, List.map_cons, List.map_nil, List.sum_cons, List.sum_nil,
    hback, hu, hdigit (n / 4096) (by omega), hdigit (n / 256 % 16) (by omega),
    hdigit (n / 16 % 16) (by omega), hdigit (n % 16) (by omega)]
  rfl

theorem charsSize_escapeChar (c : Char) : charsSize (Json.escapeChar true c) = charSize c := by
  have hone : ∀ d : Char, d.toNat < 128 → charsSize ['\\', d] = 2 := by
    intro d hd
    have hback : Char.utf8Size '\\' = 1 := rfl
    rw [charsSize_cons, charsSize_cons, hback, utf8Size_of_lt hd]
    rfl
  have hvalid := Json.toNat_cases c
  unfold Json.escapeChar charSize
  by_cases hshort : c = '"' ∨ c = '\\' ∨ c = '\n' ∨ c = '\r' ∨ c = '\t' ∨ c.toNat = 12 ∨ c.toNat = 8
  · rw [if_pos hshort]
    split_ifs with h₁ h₂ h₃ h₄ h₅ h₆ h₇
    all_goals try exact hone _ (by decide)
    -- one of the seven characters it is
    all_goals simp only [h₁, h₂, h₃, h₄, h₅, h₆, h₇, or_self] at hshort
  · rw [if_neg hshort]
    simp only [not_or] at hshort
    obtain ⟨h₁, h₂, h₃, h₄, h₅, h₆, h₇⟩ := hshort
    rw [if_neg h₁, if_neg h₂, if_neg h₃, if_neg h₄, if_neg h₅, if_neg h₆, if_neg h₇]
    by_cases hprint : 32 ≤ c.toNat ∧ c.toNat ≤ 126
    · rw [if_neg (by omega), if_pos hprint, charsSize_cons, utf8Size_of_lt (by omega)]
      rfl
    · rw [if_pos (by simp only [true_and]; omega), if_neg hprint, Json.unicodeEscape]
      split_ifs with hbasic
      · exact charsSize_unitEscape hbasic
      · rw [charsSize_append, charsSize_unitEscape (by omega), charsSize_unitEscape (by omega)]

theorem charsSize_dumpString (s : String) : charsSize (Json.dumpString true s) = stringSize s := by
  have hquote : Char.utf8Size '"' = 1 := rfl
  have hchars : ∀ cs, charsSize (Json.dumpChars true cs) = (cs.map charSize).sum + 1 := by
    intro cs
    induction cs with
    | nil => rfl
    | cons c cs ih =>
      rw [Json.dumpChars, charsSize_append, charsSize_escapeChar, ih, List.map_cons, List.sum_cons]
      omega
  rw [Json.dumpString, charsSize_cons, hchars, hquote, stringSize]
  omega

/-- The number of bytes in which a value is written. -/
def size (v : Json) : ℕ := charsSize (Json.dumpValue true v)

theorem length_dumps (v : Json) : (Bytes.encodeUtf8 (Json.dumps true v)).length = size v := by
  rw [Bytes.length_encodeUtf8, Json.dumps, String.toList_ofList, size, charsSize]

theorem size_str (s : String) : size (.str s) = stringSize s := by
  rw [size, Json.dumpValue, charsSize_dumpString]

/-- The number of bytes in which the keys and the values of an object are written. -/
def keysSize (keys : List String) : ℕ := (keys.map fun key => stringSize key + 2).sum

theorem size_obj {fs : List (String × Json)} (hne : fs ≠ []) :
    size (.obj fs) = keysSize (fs.map Prod.fst) + (fs.map fun f => size f.2).sum + 1 := by
  have hfields : ∀ fs : List (String × Json), charsSize (Json.dumpFields true fs) =
      keysSize (fs.map Prod.fst) + (fs.map fun f => size f.2).sum + 1 := by
    intro fs
    induction fs with
    | nil => rfl
    | cons f fs ih =>
      obtain ⟨k, v⟩ := f
      have hcomma : Char.utf8Size ',' = 1 := rfl
      have hcolon : Char.utf8Size ':' = 1 := rfl
      simp only [Json.dumpFields, charsSize_cons, charsSize_append, charsSize_dumpString, hcomma,
        hcolon, ih, keysSize, List.map_cons, List.sum_cons, size]
      omega
  cases fs with
  | nil => exact absurd rfl hne
  | cons f fs =>
    obtain ⟨k, v⟩ := f
    have hbrace : Char.utf8Size '\x7b' = 1 := rfl
    have hcolon : Char.utf8Size ':' = 1 := rfl
    simp only [size, Json.dumpValue, charsSize_cons, charsSize_append, charsSize_dumpString, hbrace,
      hcolon, hfields, keysSize, List.map_cons, List.sum_cons]
    omega

theorem size_semanticPayload (pairs : List (String × String)) :
    size (semanticPayload pairs) = pairsSize pairs := by
  have hcomma : Char.utf8Size ',' = 1 := rfl
  have hopen : Char.utf8Size '[' = 1 := rfl
  have hclose : Char.utf8Size ']' = 1 := rfl
  have hpair : ∀ pair : String × String, charsSize (Json.dumpValue true
      (.arr [.str pair.1, .str pair.2])) = stringSize pair.1 + stringSize pair.2 + 3 := by
    intro pair
    simp only [Json.dumpValue, Json.dumpItems, charsSize_cons, charsSize_append,
      charsSize_dumpString, hcomma, hopen, hclose]
    rw [charsSize, List.map_nil, List.sum_nil]
    omega
  have hitems : ∀ pairs : List (String × String), charsSize (Json.dumpItems true (pairs.map
      fun (label, value) => .arr [.str label, .str value])) =
        (pairs.map fun pair => stringSize pair.1 + stringSize pair.2 + 4).sum + 1 := by
    intro pairs
    induction pairs with
    | nil => rfl
    | cons pair pairs ih =>
      rw [List.map_cons, Json.dumpItems, charsSize_cons, charsSize_append, ih, hpair, hcomma,
        List.map_cons, List.sum_cons]
      omega
  cases pairs with
  | nil => rfl
  | cons pair pairs =>
    rw [size, semanticPayload, List.map_cons, Json.dumpValue, charsSize_cons, charsSize_append,
      hitems, hpair, hopen]
    simp only [pairsSize, List.map_cons, List.sum_cons]
    omega

/-- The order of the fields does not change the size. -/
theorem size_sortFields {fs : List (String × Json)} (h : ∀ f ∈ fs, Settled f.2) (hne : fs ≠ []) :
    size (.obj (Json.sortFields fs)) = size (.obj fs) := by
  have hperm := sortFields_perm_of_settled h
  have hne' : Json.sortFields fs ≠ [] := by
    intro hnil
    rw [hnil] at hperm
    exact hne hperm.nil_eq.symm
  rw [size_obj hne, size_obj hne', keysSize, keysSize,
    ((hperm.map Prod.fst).map fun key => stringSize key + 2).sum_nat,
    (hperm.map fun f => size f.2).sum_nat]

/-! ### The four kinds -/

/-- The pairs are written in the order in which they are. -/
theorem settled_semanticPayload (pairs : List (String × String)) :
    Settled (semanticPayload pairs) := by
  have hitems : ∀ pairs : List (String × String), ∃ items, items = pairs.map
      (fun (label, value) => Json.arr [.str label, .str value]) ∧ Json.plainItems items = true ∧
        Json.DistinctItems items ∧ Json.sortItems items = items := by
    intro pairs
    refine ⟨_, rfl, ?_⟩
    induction pairs with
    | nil => exact ⟨rfl, trivial, rfl⟩
    | cons pair pairs ih =>
      obtain ⟨hplain, hdistinct, hsort⟩ := ih
      refine ⟨?_, ?_, ?_⟩
      · simpa [Json.plainItems, Json.plain] using hplain
      · simpa [Json.DistinctItems, Json.Distinct] using hdistinct
      · simpa [Json.sortItems, Json.sortKeys] using hsort
  obtain ⟨items, rfl, hplain, hdistinct, hsort⟩ := hitems pairs
  refine ⟨?_, ?_, ?_⟩
  · rw [semanticPayload, Json.plain]
    exact hplain
  · rw [semanticPayload, Json.Distinct]
    exact hdistinct
  · rw [semanticPayload, Json.sortKeys, hsort]

theorem readSemanticFields_semanticPayload (r : Reader) (pairs : List (String × String)) :
    readSemanticFields r (some (semanticPayload pairs)) = some pairs := by
  rw [semanticPayload, readSemanticFields, Option.some.injEq]
  induction pairs with
  | nil => rfl
  | cons pair pairs ih =>
    obtain ⟨label, value⟩ := pair
    simp only [List.map_cons, List.filterMap_cons, r.str_str] at ih ⊢
    rw [ih]

theorem ofValue_capabilityPosture (p : CapabilityPosture) :
    CapabilityPosture.ofValue (Text.ofString p.value) = some p := by
  cases p <;> decide

theorem ofValue_anchorAssurance (a : AnchorAssurance) :
    AnchorAssurance.ofValue (Text.ofString a.value) = some a := by
  cases a <;> decide

theorem text_of_lookup {raw : List (String × Json)} {key s : String}
    (h : raw.lookup key = some (.str s)) : text raw key = some s := by
  rw [text, h]

theorem semantic_of_lookup (r : Reader) {raw : List (String × Json)}
    {pairs : List (String × String)} {key : String}
    (h : raw.lookup key = some (semanticPayload pairs)) :
    readSemanticFields r (raw.lookup key) = some pairs := by
  rw [h, readSemanticFields_semanticPayload]

/-- A step that succeeds is followed by the rest. -/
theorem bind_of_eq {α β : Type} {x : Option α} {a : α} {f : α → Option β} {b : Option β}
    (hx : x = some a) (hf : f a = b) : (x >>= f) = b := by
  rw [hx]
  exact hf

theorem lawful_authorizationPreview : authorizationPreview.Lawful where
  keys_fields _ := rfl
  nodup_keys := by decide
  settled v := by
    show ∀ f ∈ v.1.payload, Settled f.2
    simp only [PreviewFields.payload, List.forall_mem_cons, settled_str, true_and]
    exact List.forall_mem_nil _
  read_fields r v raw h := by
    change ∀ f ∈ v.1.payload, raw.lookup f.1 = some f.2 at h
    simp only [PreviewFields.payload, List.forall_mem_cons] at h
    obtain ⟨h₁, h₂, h₃, h₄, h₅, h₆, h₇, h₈, h₉, h₁₀, -⟩ := h
    refine bind_of_eq (text_of_lookup h₁₀) ?_
    refine bind_of_eq (r.fromisoformat_isoformat _) ?_
    refine bind_of_eq (text_of_lookup h₁) ?_
    refine bind_of_eq (text_of_lookup h₂) ?_
    refine bind_of_eq (text_of_lookup h₃) ?_
    refine bind_of_eq (text_of_lookup h₄) ?_
    refine bind_of_eq (text_of_lookup h₅) ?_
    refine bind_of_eq (text_of_lookup h₆) ?_
    refine bind_of_eq (text_of_lookup h₇) ?_
    refine bind_of_eq (text_of_lookup h₈) ?_
    refine bind_of_eq (ofValue_capabilityPosture _) ?_
    refine bind_of_eq (text_of_lookup h₉) ?_
    refine bind_of_eq (ofValue_anchorAssurance _) ?_
    exact dif_pos v.2

theorem lawful_pendingConfirmationRequest : pendingConfirmationRequest.Lawful where
  keys_fields _ := rfl
  nodup_keys := by decide
  settled v := by
    show ∀ f ∈ v.1.payload, Settled f.2
    simp only [PendingFields.payload, List.forall_mem_cons, settled_str, true_and]
    exact List.forall_mem_nil _
  read_fields r v raw h := by
    change ∀ f ∈ v.1.payload, raw.lookup f.1 = some f.2 at h
    simp only [PendingFields.payload, List.forall_mem_cons] at h
    obtain ⟨h₁, h₂, h₃, h₄, h₅, h₆, h₇, h₈, h₉, h₁₀, h₁₁, h₁₂, -⟩ := h
    refine bind_of_eq (text_of_lookup h₁₀) ?_
    refine bind_of_eq (r.fromisoformat_isoformat _) ?_
    refine bind_of_eq (text_of_lookup h₁) ?_
    refine bind_of_eq (text_of_lookup h₂) ?_
    refine bind_of_eq (text_of_lookup h₃) ?_
    refine bind_of_eq (text_of_lookup h₄) ?_
    refine bind_of_eq (text_of_lookup h₅) ?_
    refine bind_of_eq (text_of_lookup h₆) ?_
    refine bind_of_eq (text_of_lookup h₇) ?_
    refine bind_of_eq (text_of_lookup h₈) ?_
    refine bind_of_eq (text_of_lookup h₉) ?_
    refine bind_of_eq (text_of_lookup h₁₁) ?_
    refine bind_of_eq (text_of_lookup h₁₂) ?_
    exact dif_pos v.2

theorem lawful_shapeAAuthorizationPreview : shapeAAuthorizationPreview.Lawful where
  keys_fields _ := rfl
  nodup_keys := by decide
  settled v := by
    show ∀ f ∈ v.1.payload, Settled f.2
    simp only [ShapeAPreviewFields.payload, List.forall_mem_cons, settled_str,
      settled_semanticPayload, true_and]
    exact List.forall_mem_nil _
  read_fields r v raw h := by
    change ∀ f ∈ v.1.payload, raw.lookup f.1 = some f.2 at h
    simp only [ShapeAPreviewFields.payload, List.forall_mem_cons] at h
    obtain ⟨h₁, h₂, h₃, h₄, h₅, h₆, h₇, h₈, -⟩ := h
    refine bind_of_eq (text_of_lookup h₈) ?_
    refine bind_of_eq (r.fromisoformat_isoformat _) ?_
    refine bind_of_eq (semantic_of_lookup r h₂) ?_
    refine bind_of_eq (text_of_lookup h₁) ?_
    refine bind_of_eq (text_of_lookup h₃) ?_
    refine bind_of_eq (text_of_lookup h₄) ?_
    refine bind_of_eq (text_of_lookup h₅) ?_
    refine bind_of_eq (text_of_lookup h₆) ?_
    refine bind_of_eq (ofValue_capabilityPosture _) ?_
    refine bind_of_eq (text_of_lookup h₇) ?_
    refine bind_of_eq (ofValue_anchorAssurance _) ?_
    exact dif_pos v.2

theorem lawful_shapeAPendingConfirmationRequest : shapeAPendingConfirmationRequest.Lawful where
  keys_fields _ := rfl
  nodup_keys := by decide
  settled v := by
    show ∀ f ∈ v.1.payload, Settled f.2
    simp only [ShapeAPendingFields.payload, List.forall_mem_cons, settled_str,
      settled_semanticPayload, true_and]
    exact List.forall_mem_nil _
  read_fields r v raw h := by
    change ∀ f ∈ v.1.payload, raw.lookup f.1 = some f.2 at h
    simp only [ShapeAPendingFields.payload, List.forall_mem_cons] at h
    obtain ⟨h₁, h₂, h₃, h₄, h₅, h₆, h₇, h₈, h₉, h₁₀, -⟩ := h
    refine bind_of_eq (text_of_lookup h₈) ?_
    refine bind_of_eq (r.fromisoformat_isoformat _) ?_
    refine bind_of_eq (semantic_of_lookup r h₄) ?_
    refine bind_of_eq (text_of_lookup h₁) ?_
    refine bind_of_eq (text_of_lookup h₂) ?_
    refine bind_of_eq (text_of_lookup h₃) ?_
    refine bind_of_eq (text_of_lookup h₅) ?_
    refine bind_of_eq (text_of_lookup h₆) ?_
    refine bind_of_eq (text_of_lookup h₇) ?_
    refine bind_of_eq (text_of_lookup h₉) ?_
    refine bind_of_eq (text_of_lookup h₁₀) ?_
    exact dif_pos v.2

/-- The kinds of artifacts. -/
inductive Kind where
  | authorizationPreview
  | pendingConfirmationRequest
  | shapeAAuthorizationPreview
  | shapeAPendingConfirmationRequest
deriving DecidableEq, Repr

namespace Kind

/-- The artifacts of a kind. -/
def Artifact : Kind → Type
  | authorizationPreview => AuthorizationPreview
  | pendingConfirmationRequest => PendingConfirmationRequest
  | shapeAAuthorizationPreview => ShapeAAuthorizationPreview
  | shapeAPendingConfirmationRequest => ShapeAPendingConfirmationRequest

/-- The codec of a kind. -/
def format : (k : Kind) → Format k.Artifact
  | authorizationPreview => ArtifactExchange.authorizationPreview
  | pendingConfirmationRequest => ArtifactExchange.pendingConfirmationRequest
  | shapeAAuthorizationPreview => ArtifactExchange.shapeAAuthorizationPreview
  | shapeAPendingConfirmationRequest => ArtifactExchange.shapeAPendingConfirmationRequest

/-- The texts of an artifact. -/
def texts : (k : Kind) → k.Artifact → List String
  | authorizationPreview, v =>
    [v.1.operation, v.1.aliasName, v.1.previousDescription, v.1.requestedDescription,
      v.1.executionIntentDigest, v.1.requestedPlanDigest, v.1.requestedStepId,
      v.1.targetCapabilityPosture.value, v.1.targetAnchorAssurance.value,
      v.1.generatedAt.isoformat]
  | pendingConfirmationRequest, v =>
    [v.1.operation, v.1.contractId, v.1.operationId, v.1.aliasName, v.1.previousDescription,
      v.1.requestedDescription, v.1.targetIdentityDigest, v.1.targetFingerprint, v.1.intentDigest,
      v.1.expiresAt.isoformat, v.1.expectedAuthorityId, v.1.expectedAlgorithm]
  | shapeAAuthorizationPreview, v =>
    [v.1.capabilitySymbol, v.1.executionIntentDigest, v.1.requestedPlanDigest,
      v.1.requestedStepId, v.1.targetCapabilityPosture.value, v.1.targetAnchorAssurance.value,
      v.1.generatedAt.isoformat]
  | shapeAPendingConfirmationRequest, v =>
    [v.1.capabilitySymbol, v.1.contractId, v.1.operationId, v.1.targetIdentityDigest,
      v.1.targetFingerprint, v.1.intentDigest, v.1.expiresAt.isoformat, v.1.expectedAuthorityId,
      v.1.expectedAlgorithm]

/-- The size of the pairs of an artifact that has some. -/
def semanticSize : (k : Kind) → k.Artifact → ℕ
  | authorizationPreview, _ => 0
  | pendingConfirmationRequest, _ => 0
  | shapeAAuthorizationPreview, v => pairsSize v.1.semanticFields
  | shapeAPendingConfirmationRequest, v => pairsSize v.1.semanticFields

/-- The size of what is the same in every file of a kind. -/
def overhead : Kind → ℕ
  | authorizationPreview => 324
  | pendingConfirmationRequest => 336
  | shapeAAuthorizationPreview => 288
  | shapeAPendingConfirmationRequest => 300

/-- The texts of an artifact fit into a file. -/
def Fits (k : Kind) (v : k.Artifact) : Prop :=
  ((k.texts v).map stringSize).sum + k.semanticSize v + k.overhead ≤ maxFile

instance (k : Kind) (v : k.Artifact) : Decidable (k.Fits v) := by
  unfold Fits
  infer_instance

/-- The size of the keys, the version and the authentication code. -/
theorem overhead_eq (k : Kind) :
    keysSize ("schema_version" :: (k.format.keys ++ ["integrity_mac"])) + 68 = k.overhead := by
  cases k <;> decide +kernel

theorem lawful : (k : Kind) → k.format.Lawful
  | authorizationPreview => lawful_authorizationPreview
  | pendingConfirmationRequest => lawful_pendingConfirmationRequest
  | shapeAAuthorizationPreview => lawful_shapeAAuthorizationPreview
  | shapeAPendingConfirmationRequest => lawful_shapeAPendingConfirmationRequest

theorem stringSize_of_isHex64 {s : String} (h : isHex64 s = true) : stringSize s = 66 := by
  have hlength := length_of_isHex64 h
  simp only [isHex64, Bool.and_eq_true, List.all_eq_true, decide_eq_true_eq] at h
  have hone : ∀ c ∈ s.toList, charSize c = 1 := by
    intro c hc
    have hle : ∀ {a b : Char}, a ≤ b → a.toNat ≤ b.toNat := fun h => h
    have hbounds : (48 ≤ c.toNat ∧ c.toNat ≤ 57) ∨ (97 ≤ c.toNat ∧ c.toNat ≤ 102) := by
      rcases h.2 c hc with ⟨h₁, h₂⟩ | ⟨h₁, h₂⟩
      · exact Or.inl ⟨hle h₁, hle h₂⟩
      · exact Or.inr ⟨hle h₁, hle h₂⟩
    have hne : ∀ d : Char, (d.toNat < 48 ∨ d.toNat = 92) → c ≠ d := by
      rintro d hd rfl
      omega
    rw [charSize, if_neg, if_pos (by omega)]
    simp only [not_or]
    exact ⟨hne _ (by decide), hne _ (by decide), hne _ (by decide), hne _ (by decide),
      hne _ (by decide), by omega, by omega⟩
  rw [stringSize, List.map_congr_left hone, List.map_const', List.sum_replicate_nat, hlength]

/-- The size of a file, from the texts of the artifact. -/
theorem length_file (k : Kind) (v : k.Artifact) {mac : String} (hmac : isHex64 mac = true) :
    (Bytes.encodeUtf8 (Json.dumps true
      (.obj (Json.sortFields (k.format.signed v mac))))).length =
        ((k.texts v).map stringSize).sum + k.semanticSize v + k.overhead := by
  have hfields : ((k.format.fields v).map fun f => size f.2).sum =
      ((k.texts v).map stringSize).sum + k.semanticSize v := by
    cases k
    · show ((PreviewFields.payload v.1).map fun f => size f.2).sum = _
      simp [PreviewFields.payload, texts, semanticSize, size_str]
    · show ((PendingFields.payload v.1).map fun f => size f.2).sum = _
      simp [PendingFields.payload, texts, semanticSize, size_str]
    · show ((ShapeAPreviewFields.payload v.1).map fun f => size f.2).sum = _
      simp [ShapeAPreviewFields.payload, texts, semanticSize, size_str, size_semanticPayload]
      omega
    · show ((ShapeAPendingFields.payload v.1).map fun f => size f.2).sum = _
      simp [ShapeAPendingFields.payload, texts, semanticSize, size_str, size_semanticPayload]
      omega
  have hversion : size (.int k.format.schemaVersion) = 1 := by cases k <;> decide +kernel
  rw [length_dumps, size_sortFields (k.lawful.settled_signed v mac) (by simp [Format.signed]),
    size_obj (by simp [Format.signed]), k.lawful.keys_signed v mac, ← k.overhead_eq]
  simp only [Format.signed, Format.payload, List.cons_append, List.map_cons, List.map_append,
    List.map_nil, List.sum_cons, List.sum_append, List.sum_nil, hversion, hfields, size_str,
    stringSize_of_isHex64 hmac]
  omega

/-- No domain of a kind is the beginning of another. -/
theorem not_isPrefix_macDomain {k l : Kind} (h : k ≠ l) :
    ¬k.format.macDomain <+: l.format.macDomain := by
  cases k <;> cases l <;> first | exact absurd rfl h | decide +kernel

/-- Artifacts of two kinds have different messages. -/
theorem message_ne {k l : Kind} (h : k ≠ l) (v : k.Artifact) (w : l.Artifact) :
    k.format.message v ≠ l.format.message w := by
  intro heq
  have hk : k.format.macDomain <+: l.format.message w := by
    rw [← heq]
    exact List.prefix_append _ _
  have hl : l.format.macDomain <+: l.format.message w := List.prefix_append _ _
  rcases List.prefix_or_prefix_of_prefix hk hl with hpre | hpre
  · exact not_isPrefix_macDomain h hpre
  · exact not_isPrefix_macDomain h.symm hpre

section

variable [Platform]

/-- The authentication code in a file, where it is right, was computed for the message that is
checked. -/
def Unforged (k : Kind) (r : Reader) (file : StoredFile) (integrityKey : Bytes)
    (computed : (l : Kind) → l.Artifact → Prop) : Prop :=
  ∀ v mac, k.format.parse r file = some (v, mac) →
    mac = Platform.hmacSha256 integrityKey (k.format.message v) →
      ∃ l w, computed l w ∧ l.format.message w = k.format.message v

/-- What is loaded was written. -/
theorem computed_of_load {k : Kind} {r : Reader} {path : String} {file : StoredFile}
    {integrityKey : Bytes} {computed : (l : Kind) → l.Artifact → Prop}
    (hunforged : k.Unforged r file integrityKey computed) {v : k.Artifact}
    (h : k.format.load r path file integrityKey = .ok v) : computed k v := by
  obtain ⟨mac, hparse, hmac⟩ := Format.parse_of_load h
  have hcode : mac = Platform.hmacSha256 integrityKey (k.format.message v) := by
    unfold Format.mac at hmac
    split_ifs at hmac
    exact (Except.ok.inj hmac).symm
  obtain ⟨l, w, hcomputed, hmessage⟩ := hunforged v mac hparse hcode
  by_cases hkind : l = k
  · subst hkind
    rwa [← l.lawful.message_injective r hmessage]
  · exact absurd hmessage (message_ne hkind w v)

/-- What was written can be read exactly if it fits. -/
theorem load_toBytes_iff (k : Kind) (r : Reader) (path : String) {integrityKey : Bytes}
    (hkey : 32 ≤ integrityKey.length) (v : k.Artifact) :
    (∃ bytes, k.format.toBytes v integrityKey = .ok bytes ∧
      k.format.load r path (stored bytes) integrityKey = .ok v) ↔ k.Fits v := by
  obtain ⟨bytes, hbytes, heq, hload⟩ := k.lawful.load_toBytes r path v hkey
  have hlength : bytes.length =
      ((k.texts v).map stringSize).sum + k.semanticSize v + k.overhead := by
    rw [heq, k.length_file v (Platform.isHex64_hmacSha256 _ _)]
  rw [Fits, ← hlength]
  constructor
  · rintro ⟨bytes', hbytes', hload'⟩
    -- the bytes that are written are determined
    rw [hbytes] at hbytes'
    cases hbytes'
    by_contra hlarge
    rw [hload, if_neg hlarge] at hload'
    cases hload'
  · intro hfits
    exact ⟨bytes, hbytes, by rw [hload, if_pos hfits]⟩

end

end Kind

/-- Every artifact is read back, and whatever is read was written: this holds of an artifact exactly
if its texts fit into a file. -/
theorem readable_iff [Platform] (k : Kind) (r : Reader) (path : String) (integrityKey : Bytes)
    (hkey : 32 ≤ integrityKey.length) :
    (∀ v : k.Artifact, (∃ bytes, k.format.toBytes v integrityKey = .ok bytes ∧
      k.format.load r path (stored bytes) integrityKey = .ok v) ↔ k.Fits v) ∧
    ∀ file computed, k.Unforged r file integrityKey computed → ∀ v : k.Artifact,
      k.format.load r path file integrityKey = .ok v → computed k v :=
  ⟨k.load_toBytes_iff r path hkey, fun _ _ hunforged _ h => Kind.computed_of_load hunforged h⟩

/-! ### A sample -/

namespace Sample

/-- The standard library, as far as files are read that were written. -/
def reader : Reader where
  jsonLoads content := (Bytes.decodeUtf8 content).bind Json.parse
  fromisoformat := DateTime.fromisoformat
  str
    | .str s => s
    | .null => "None"
    | .bool b => if b then "True" else "False"
    | value => Json.dumps false value
  jsonLoads_dumps v hplain hdistinct := by
    rw [Bytes.decodeUtf8_encodeUtf8, Option.bind_some, Json.parse_dumps true hplain hdistinct]
  fromisoformat_isoformat := DateTime.fromisoformat_isoformat
  str_str _ := rfl

/-- The first instant of 2030. -/
def generatedAt : DateTime :=
  ⟨2030, 1, 1, 0, 0, 0, 0, by decide, by decide, by decide, by decide, by decide, by decide,
    by decide⟩

/-- The preview of a change of a description. -/
def preview (previousDescription requestedDescription : String) : PreviewFields where
  operation := semanticUnit
  aliasName := "web_servers"
  previousDescription := previousDescription
  requestedDescription := requestedDescription
  executionIntentDigest := Tier1.Sample.hex
  requestedPlanDigest := Tier1.Sample.hex
  requestedStepId := "step-1"
  targetCapabilityPosture := .writeProtected
  targetAnchorAssurance := .hardwareWitness
  generatedAt := generatedAt

theorem aliasName_valid : "web_servers" ≠ "" ∧
    "web_servers".toList.length ≤ maxAliasNameLength := by decide

theorem isIdentifier_step : isIdentifier "step-1" = true := by decide +kernel

theorem preview_valid {previous requested : String}
    (hprevious : previous.toList.length ≤ maxDescriptionLength)
    (hrequested : requested.toList.length ≤ maxDescriptionLength) :
    (preview previous requested).Valid :=
  ⟨rfl, aliasName_valid, hprevious, hrequested, Tier1.Sample.isHex64_hex, Tier1.Sample.isHex64_hex,
    isIdentifier_step⟩

/-- A preview does not fit if its descriptions do not. -/
theorem not_fits_preview {previous requested : String} (h : (preview previous requested).Valid)
    (hlong : maxFile < stringSize previous + stringSize requested) :
    ¬Kind.Fits .authorizationPreview ⟨preview previous requested, h⟩ := by
  simp only [Kind.Fits, Kind.texts, preview, List.map_cons, List.map_nil, List.sum_cons,
    List.sum_nil, not_le]
  omega

def key : Bytes := List.replicate 32 7

/-- A description of 1024 characters outside the basic plane. -/
def longDescription : String := String.ofList (List.replicate maxDescriptionLength '😀')

theorem length_longDescription : longDescription.toList.length ≤ maxDescriptionLength := by
  rw [longDescription, String.toList_ofList, List.length_replicate]

theorem stringSize_longDescription : stringSize longDescription = 12290 := by
  have hchar : charSize '😀' = 12 := by decide
  rw [stringSize, longDescription, String.toList_ofList, List.map_replicate, hchar,
    List.sum_replicate_nat, maxDescriptionLength]

end Sample

section

attribute [local instance] Sample.platform

/-- The descriptions of a preview are read back. -/
theorem readable_sample : ∃ bytes,
    authorizationPreview.toBytes ⟨Sample.preview "" "front", Sample.preview_valid (by decide)
      (by decide)⟩ Sample.key = .ok bytes ∧
    authorizationPreview.load Sample.reader "" (stored bytes) Sample.key =
      .ok ⟨Sample.preview "" "front", Sample.preview_valid (by decide) (by decide)⟩ := by
  have hfits : ((Kind.texts .authorizationPreview ⟨Sample.preview "" "front",
      Sample.preview_valid (by decide) (by decide)⟩).map stringSize).sum + 0 + 324 ≤ maxFile := by
    decide +kernel
  exact ((readable_iff .authorizationPreview Sample.reader "" Sample.key (by decide)).1 _).mpr
    hfits

/-- A preview whose descriptions are short enough for its constructor cannot be read. -/
theorem long_preview_unreadable : ¬∀ (v : AuthorizationPreview) (integrityKey : Bytes),
    32 ≤ integrityKey.length → ∀ path, ∃ bytes,
      authorizationPreview.toBytes v integrityKey = .ok bytes ∧
      authorizationPreview.load Sample.reader path (stored bytes) integrityKey = .ok v := by
  intro h
  have hvalid := Sample.preview_valid Sample.length_longDescription Sample.length_longDescription
  refine Sample.not_fits_preview hvalid ?_ ((Kind.load_toBytes_iff .authorizationPreview
    Sample.reader "" (by decide) ⟨_, hvalid⟩).mp (h _ Sample.key (by decide) ""))
  rw [Sample.stringSize_longDescription]
  decide

end

end ArtifactExchange

end Tier1
