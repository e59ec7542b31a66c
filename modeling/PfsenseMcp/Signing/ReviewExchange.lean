import PfsenseMcp.Signing.ExchangeRoundTrip

/-!
# Files of review artifacts

The four readers of previews and pending requests in `tier1/artifact_exchange.py` and
`tier1/shape_a_artifact_exchange.py`, with the errors that they raise. An artifact consists of fields
that its constructor has checked; its texts may contain surrogates.

## Main results

* `Review.answers_load_iff`: such a reader raises nothing but an `ArtifactExchangeError`, unless the
  file is nested too deeply or its authentication code is not ASCII;
* `exchange_iff`: the eight readers and the four writers of both modules.
-/

namespace Signing

open Python Tier1 Posture
open ArtifactExchange (StoredFile maxFile stored stringSize keysSize)

namespace Exchange

/-! ### Checked fields -/

/-- A value that fulfils a condition. -/
def refined {α : Type} (p : α → Prop) [DecidablePred p] (a : α) : Option {a : α // p a} :=
  if h : p a then some ⟨a, h⟩ else none

/-- A digest. -/
abbrev Digest := {s : String // isHex64 s = true}

/-- A token. -/
abbrev Token := {s : String // isIdentifier s = true}

/-- A nonempty text of bounded length. -/
abbrev Label (bound : ℕ) := {t : Text // t ≠ [] ∧ t.length ≤ bound}

/-- A text of bounded length. -/
abbrev Bounded (bound : ℕ) := {t : Text // t.length ≤ bound}

def digestOf (d : Document) : Option Digest := (stringOf d).bind (refined _)

def tokenOf (d : Document) : Option Token := (stringOf d).bind (refined _)

def labelOf (bound : ℕ) (d : Document) : Option (Label bound) := (textOf d).bind (refined _)

def boundedOf (bound : ℕ) (d : Document) : Option (Bounded bound) := (textOf d).bind (refined _)

/-- A checked string in a payload. -/
def checkedString {p : String → Prop} (s : {s : String // p s}) : Document := .string s.1

/-- A checked text in a payload. -/
def checkedText {p : Text → Prop} (t : {t : Text // p t}) : Document := .str t.1

/-- A check of a constructor. -/
def check {α : Type} (message : String) (value : Option α) : Except Raised α :=
  orRaise (.artifactExchangeError message) value

/-- `datetime.fromisoformat(document)`, and `_is_utc` of it. -/
def utcTime (lib : Library) (d : Document) : Except Raised DateTime := do
  let time ← fromisoformat lib d
  orRaise .valueError time

/-! ### Readers -/

/-- What the `except` clause for a review artifact names. -/
def caughtForReview : Raised → Bool
  | .keyError => true
  | .typeError => true
  | .valueError => true
  | .artifactExchangeError _ => true
  | _ => false

/-- What the four kinds of review artifacts have in common. -/
structure Review (D : Type) where
  /-- How the errors call an artifact. -/
  name : String
  macDomain : Bytes
  schemaVersion : ℕ
  /-- The keys of a file besides its version and its authentication code. -/
  keys : List String
  /-- The payload of an artifact without its version, which comes first. -/
  payload : D → List (String × Document)
  /-- The fields of the file, and the constructor. -/
  read : Library → Document → Except Raised D

/-- `hmac.compare_digest`. -/
def compareDigest (a b : Text) : Except Raised Bool :=
  if a.all (·.val < 128) && b.all (·.val < 128) then .ok (a = b) else .error .typeError

namespace Review

variable {D : Type} (R : Review D)

/-- What is read of a file, with its authentication code. -/
def parse (lib : Library) (path : String) (file : StoredFile) : Except Raised (D × Text) := do
  let raw ← readJson lib path file
  checkEnvelope raw ("schema_version" :: (R.keys ++ ["integrity_mac"])) R.schemaVersion
  let d ← R.read lib raw
  let mac ← subscript raw "integrity_mac"
  let mac ← orRaise .valueError (textOf mac)
  .ok (d, mac)

/-- The payload of an artifact. -/
def fields (d : D) : List (String × Document) :=
  ("schema_version", .int R.schemaVersion) :: R.payload d

section

variable [Platform]

/-- The authentication code of an artifact. -/
def mac (d : D) (integrityKey : Bytes) : Except Raised String :=
  if integrityKey.length < 32 then
    .error (.artifactExchangeError (R.name ++ " integrity key is invalid"))
  else do
    let canonical ← orRaise .valueError (Document.record (R.fields d)).dumps
    .ok (Platform.hmacSha256 integrityKey (R.macDomain ++ canonical))

/-- The reader of an artifact. -/
def load (lib : Library) (path : String) (file : StoredFile) (integrityKey : Bytes) :
    Except Raised D := do
  let (d, mac) ← tryExcept caughtForReview (R.name ++ " is malformed: " ++ path)
    (R.parse lib path file)
  let expected ← R.mac d integrityKey
  let same ← compareDigest mac (Text.ofString expected)
  if same then .ok d
  else .error (.artifactExchangeError (R.name ++ " failed integrity verification: " ++ path))

end

end Review

/-! ### The artifacts of the alias capability -/

/-- `AuthorizationPreview`. -/
structure AuthorizationPreview where
  operation : {s : String // s = ArtifactExchange.semanticUnit}
  aliasName : Label ArtifactExchange.maxAliasNameLength
  previousDescription : Bounded ArtifactExchange.maxDescriptionLength
  requestedDescription : Bounded ArtifactExchange.maxDescriptionLength
  executionIntentDigest : Digest
  requestedPlanDigest : Digest
  requestedStepId : Token
  targetCapabilityPosture : CapabilityPosture
  targetAnchorAssurance : AnchorAssurance
  generatedAt : DateTime

/-- The codec of `AuthorizationPreview`. -/
def authorizationPreview : Review AuthorizationPreview where
  name := "authorization preview"
  macDomain := Bytes.encodeUtf8 "tier1-authorization-preview-v1" ++ [0]
  schemaVersion := 1
  keys := ["operation", "alias_name", "previous_description", "requested_description",
    "execution_intent_digest", "requested_plan_digest", "requested_step_id",
    "target_capability_posture", "target_anchor_assurance", "generated_at"]
  payload v := [("operation", checkedString v.operation), ("alias_name", checkedText v.aliasName),
    ("previous_description", checkedText v.previousDescription),
    ("requested_description", checkedText v.requestedDescription),
    ("execution_intent_digest", checkedString v.executionIntentDigest),
    ("requested_plan_digest", checkedString v.requestedPlanDigest),
    ("requested_step_id", checkedString v.requestedStepId),
    ("target_capability_posture", .string v.targetCapabilityPosture.value),
    ("target_anchor_assurance", .string v.targetAnchorAssurance.value),
    ("generated_at", .string v.generatedAt.isoformat)]
  read lib raw := do
    let generatedAt ← subscript raw "generated_at"
    let generatedAt ← utcTime lib generatedAt
    let operation ← subscript raw "operation"
    let aliasName ← subscript raw "alias_name"
    let previous ← subscript raw "previous_description"
    let requested ← subscript raw "requested_description"
    let intentDigest ← subscript raw "execution_intent_digest"
    let planDigest ← subscript raw "requested_plan_digest"
    let stepId ← subscript raw "requested_step_id"
    let posture ← subscript raw "target_capability_posture"
    let posture ← enumOf CapabilityPosture.ofValue posture
    let assurance ← subscript raw "target_anchor_assurance"
    let assurance ← enumOf AnchorAssurance.ofValue assurance
    let operation ← check "authorization preview operation identity is invalid"
      ((stringOf operation).bind (refined _))
    let aliasName ← check "authorization preview alias_name is invalid" (labelOf _ aliasName)
    let previous ← check "authorization preview description is invalid" (boundedOf _ previous)
    let requested ← check "authorization preview description is invalid" (boundedOf _ requested)
    let intentDigest ← check "authorization preview digest is invalid" (digestOf intentDigest)
    let planDigest ← check "authorization preview digest is invalid" (digestOf planDigest)
    let stepId ← check "authorization preview step_id is invalid" (tokenOf stepId)
    .ok ⟨operation, aliasName, previous, requested, intentDigest, planDigest, stepId, posture,
      assurance, generatedAt⟩

/-- `PendingConfirmationRequest`. -/
structure PendingConfirmationRequest where
  operation : {s : String // s = ArtifactExchange.semanticUnit}
  contractId : Token
  operationId : Token
  aliasName : Label ArtifactExchange.maxAliasNameLength
  previousDescription : Bounded ArtifactExchange.maxDescriptionLength
  requestedDescription : Bounded ArtifactExchange.maxDescriptionLength
  targetIdentityDigest : Digest
  targetFingerprint : Digest
  intentDigest : Digest
  expiresAt : DateTime
  expectedAuthorityId : Token
  expectedAlgorithm : Token

/-- The codec of `PendingConfirmationRequest`. -/
def pendingConfirmationRequest : Review PendingConfirmationRequest where
  name := "pending confirmation request"
  macDomain := Bytes.encodeUtf8 "tier1-pending-confirmation-request-v2" ++ [0]
  schemaVersion := 2
  keys := ["operation", "contract_id", "operation_id", "alias_name", "previous_description",
    "requested_description", "target_identity_digest", "target_fingerprint", "intent_digest",
    "expires_at", "expected_authority_id", "expected_algorithm"]
  payload v := [("operation", checkedString v.operation),
    ("contract_id", checkedString v.contractId), ("operation_id", checkedString v.operationId),
    ("alias_name", checkedText v.aliasName),
    ("previous_description", checkedText v.previousDescription),
    ("requested_description", checkedText v.requestedDescription),
    ("target_identity_digest", checkedString v.targetIdentityDigest),
    ("target_fingerprint", checkedString v.targetFingerprint),
    ("intent_digest", checkedString v.intentDigest),
    ("expires_at", .string v.expiresAt.isoformat),
    ("expected_authority_id", checkedString v.expectedAuthorityId),
    ("expected_algorithm", checkedString v.expectedAlgorithm)]
  read lib raw := do
    let expiresAt ← subscript raw "expires_at"
    let expiresAt ← utcTime lib expiresAt
    let operation ← subscript raw "operation"
    let contractId ← subscript raw "contract_id"
    let operationId ← subscript raw "operation_id"
    let aliasName ← subscript raw "alias_name"
    let previous ← subscript raw "previous_description"
    let requested ← subscript raw "requested_description"
    let identityDigest ← subscript raw "target_identity_digest"
    let fingerprint ← subscript raw "target_fingerprint"
    let intentDigest ← subscript raw "intent_digest"
    let authorityId ← subscript raw "expected_authority_id"
    let algorithm ← subscript raw "expected_algorithm"
    let operation ← check "pending confirmation request operation identity is invalid"
      ((stringOf operation).bind (refined _))
    let contractId ← check "pending confirmation request identity is invalid" (tokenOf contractId)
    let operationId ← check "pending confirmation request identity is invalid" (tokenOf operationId)
    let authorityId ← check "pending confirmation request identity is invalid" (tokenOf authorityId)
    let algorithm ← check "pending confirmation request identity is invalid" (tokenOf algorithm)
    let aliasName ← check "pending confirmation request alias_name is invalid" (labelOf _ aliasName)
    let previous ← check "pending confirmation request description is invalid"
      (boundedOf _ previous)
    let requested ← check "pending confirmation request description is invalid"
      (boundedOf _ requested)
    let identityDigest ← check "pending confirmation request digest is invalid"
      (digestOf identityDigest)
    let fingerprint ← check "pending confirmation request digest is invalid" (digestOf fingerprint)
    let intentDigest ← check "pending confirmation request digest is invalid"
      (digestOf intentDigest)
    .ok ⟨operation, contractId, operationId, aliasName, previous, requested, identityDigest,
      fingerprint, intentDigest, expiresAt, authorityId, algorithm⟩

/-! ### The artifacts of the Shape-A capabilities -/

/-- A symbol that `is_registered_capability` accepts. -/
abbrev CapabilitySymbol := {s : String // s ∈ ArtifactExchange.registeredCapabilities}

/-- A pair of `semantic_fields`. -/
abbrev SemanticField := Label ArtifactExchange.maxSemanticLabelLength ×
  Bounded ArtifactExchange.maxSemanticValueLength

/-- What `_validate_semantic_fields` accepts. -/
abbrev SemanticFields :=
  {fields : List SemanticField // fields.length ≤ ArtifactExchange.maxSemanticFields}

/-- The pairs of strings in a list: other entries are left out. -/
def readSemanticFields (lib : Library) : Document → Except Raised (List (Text × Text))
  | .arr items => .ok (items.filterMap fun
    | .arr [label, value] => some (lib.str label, lib.str value)
    | _ => none)
  | _ => .error .valueError

/-- `_validate_semantic_fields`. -/
def validateSemanticFields (fields : List (Text × Text)) : Except Raised SemanticFields := do
  let fields ← check "semantic review fields are invalid"
    (refined (fun fields : List (Text × Text) =>
      fields.length ≤ ArtifactExchange.maxSemanticFields) fields)
  let entries ← fields.1.mapM fun field => check "semantic review field entry is invalid" do
    let label ← refined _ field.1
    let value ← refined _ field.2
    some ((label, value) : SemanticField)
  check "semantic review fields are invalid" (refined _ entries)

/-- `[list(pair) for pair in semantic_fields]`. -/
def semanticPayload (fields : SemanticFields) : Document :=
  .arr (fields.1.map fun field => .arr [checkedText field.1, checkedText field.2])

/-- `ShapeAAuthorizationPreview`. -/
structure ShapeAAuthorizationPreview where
  capabilitySymbol : CapabilitySymbol
  semanticFields : SemanticFields
  executionIntentDigest : Digest
  requestedPlanDigest : Digest
  requestedStepId : Token
  targetCapabilityPosture : CapabilityPosture
  targetAnchorAssurance : AnchorAssurance
  generatedAt : DateTime

/-- The codec of `ShapeAAuthorizationPreview`. -/
def shapeAAuthorizationPreview : Review ShapeAAuthorizationPreview where
  name := "authorization preview"
  macDomain := Bytes.encodeUtf8 "tier1-shape-a-authorization-preview-v1" ++ [0]
  schemaVersion := 1
  keys := ["capability_symbol", "semantic_fields", "execution_intent_digest",
    "requested_plan_digest", "requested_step_id", "target_capability_posture",
    "target_anchor_assurance", "generated_at"]
  payload v := [("capability_symbol", checkedString v.capabilitySymbol),
    ("semantic_fields", semanticPayload v.semanticFields),
    ("execution_intent_digest", checkedString v.executionIntentDigest),
    ("requested_plan_digest", checkedString v.requestedPlanDigest),
    ("requested_step_id", checkedString v.requestedStepId),
    ("target_capability_posture", .string v.targetCapabilityPosture.value),
    ("target_anchor_assurance", .string v.targetAnchorAssurance.value),
    ("generated_at", .string v.generatedAt.isoformat)]
  read lib raw := do
    let generatedAt ← subscript raw "generated_at"
    let generatedAt ← utcTime lib generatedAt
    let rawFields ← subscript raw "semantic_fields"
    let semanticFields ← readSemanticFields lib rawFields
    let symbol ← subscript raw "capability_symbol"
    let intentDigest ← subscript raw "execution_intent_digest"
    let planDigest ← subscript raw "requested_plan_digest"
    let stepId ← subscript raw "requested_step_id"
    let posture ← subscript raw "target_capability_posture"
    let posture ← enumOf CapabilityPosture.ofValue posture
    let assurance ← subscript raw "target_anchor_assurance"
    let assurance ← enumOf AnchorAssurance.ofValue assurance
    let symbol ← check "authorization preview names an unregistered Shape-A capability"
      ((stringOf symbol).bind (refined _))
    let semanticFields ← validateSemanticFields semanticFields
    let intentDigest ← check "authorization preview digest is invalid" (digestOf intentDigest)
    let planDigest ← check "authorization preview digest is invalid" (digestOf planDigest)
    let stepId ← check "authorization preview step_id is invalid" (tokenOf stepId)
    .ok ⟨symbol, semanticFields, intentDigest, planDigest, stepId, posture, assurance, generatedAt⟩

/-- `ShapeAPendingConfirmationRequest`. -/
structure ShapeAPendingConfirmationRequest where
  capabilitySymbol : CapabilitySymbol
  contractId : Token
  operationId : Token
  semanticFields : SemanticFields
  targetIdentityDigest : Digest
  targetFingerprint : Digest
  intentDigest : Digest
  expiresAt : DateTime
  expectedAuthorityId : Token
  expectedAlgorithm : Token

/-- The codec of `ShapeAPendingConfirmationRequest`. -/
def shapeAPendingConfirmationRequest : Review ShapeAPendingConfirmationRequest where
  name := "pending confirmation request"
  macDomain := Bytes.encodeUtf8 "tier1-shape-a-pending-confirmation-request-v1" ++ [0]
  schemaVersion := 1
  keys := ["capability_symbol", "contract_id", "operation_id", "semantic_fields",
    "target_identity_digest", "target_fingerprint", "intent_digest", "expires_at",
    "expected_authority_id", "expected_algorithm"]
  payload v := [("capability_symbol", checkedString v.capabilitySymbol),
    ("contract_id", checkedString v.contractId), ("operation_id", checkedString v.operationId),
    ("semantic_fields", semanticPayload v.semanticFields),
    ("target_identity_digest", checkedString v.targetIdentityDigest),
    ("target_fingerprint", checkedString v.targetFingerprint),
    ("intent_digest", checkedString v.intentDigest),
    ("expires_at", .string v.expiresAt.isoformat),
    ("expected_authority_id", checkedString v.expectedAuthorityId),
    ("expected_algorithm", checkedString v.expectedAlgorithm)]
  read lib raw := do
    let expiresAt ← subscript raw "expires_at"
    let expiresAt ← utcTime lib expiresAt
    let rawFields ← subscript raw "semantic_fields"
    let semanticFields ← readSemanticFields lib rawFields
    let symbol ← subscript raw "capability_symbol"
    let contractId ← subscript raw "contract_id"
    let operationId ← subscript raw "operation_id"
    let identityDigest ← subscript raw "target_identity_digest"
    let fingerprint ← subscript raw "target_fingerprint"
    let intentDigest ← subscript raw "intent_digest"
    let authorityId ← subscript raw "expected_authority_id"
    let algorithm ← subscript raw "expected_algorithm"
    let symbol ← check "pending confirmation request names an unregistered Shape-A capability"
      ((stringOf symbol).bind (refined _))
    let semanticFields ← validateSemanticFields semanticFields
    let contractId ← check "pending confirmation request identity is invalid" (tokenOf contractId)
    let operationId ← check "pending confirmation request identity is invalid" (tokenOf operationId)
    let authorityId ← check "pending confirmation request identity is invalid" (tokenOf authorityId)
    let algorithm ← check "pending confirmation request identity is invalid" (tokenOf algorithm)
    let identityDigest ← check "pending confirmation request digest is invalid"
      (digestOf identityDigest)
    let fingerprint ← check "pending confirmation request digest is invalid" (digestOf fingerprint)
    let intentDigest ← check "pending confirmation request digest is invalid"
      (digestOf intentDigest)
    .ok ⟨symbol, contractId, operationId, semanticFields, identityDigest, fingerprint, intentDigest,
      expiresAt, authorityId, algorithm⟩

/-! ### What the readers raise -/

namespace Review

variable {D : Type}

/-- What the reader of a kind has to fulfil. -/
structure Sound (R : Review D) : Prop where
  /-- The `except` clause names whatever the constructor and the conversions before it raise. -/
  raises : ∀ lib file raw, OnlyRaises (Expected lib file caughtForReview) (R.read lib raw)
  writable : ∀ d, ∀ f ∈ R.payload d, f.2.writable = true
  version : Document.Short R.schemaVersion

variable {R : Review D} {lib : Library} {path : String} {file : StoredFile}

theorem onlyRaises_parse (hR : R.Sound) :
    OnlyRaises (Expected lib file caughtForReview) (R.parse lib path file) := by
  refine (onlyRaises_readJson rfl).bind fun raw _ => ?_
  refine (onlyRaises_checkEnvelope rfl rfl rfl raw _ _).bind fun _ _ => ?_
  refine (hR.raises lib file raw).bind fun d _ => ?_
  refine (onlyRaises_subscript rfl rfl raw _).bind fun mac _ => ?_
  refine (onlyRaises_orRaise (Or.inl rfl) _).bind fun mac _ => ?_
  exact .ok _

section

variable [Platform] {integrityKey : Bytes}

theorem mac_of_length (hR : R.Sound) (d : D) (hkey : 32 ≤ integrityKey.length) :
    ∃ code, R.mac d integrityKey = .ok code ∧ isHex64 code = true := by
  have hwritable : (Document.record (R.fields d)).writable = true := by
    rw [Document.writable_record, fields, List.forall_mem_cons]
    refine ⟨?_, hR.writable d⟩
    rw [Document.writable]
    exact decide_eq_true hR.version
  rw [mac, if_neg (Nat.not_lt.mpr hkey), Document.dumps, if_pos hwritable]
  exact ⟨_, rfl, Platform.isHex64_hmacSha256 _ _⟩

omit [Platform] in
theorem compareDigest_hex (code : Text) {expected : String} (h : isHex64 expected = true) :
    compareDigest code (Text.ofString expected) =
      if code.all (·.val < 128) then .ok (code = Text.ofString expected) else .error .typeError := by
  have hascii : (Text.ofString expected).all (·.val < 128) = true := by
    rw [List.all_eq_true, Text.ofString, List.forall_mem_map]
    intro c hc
    exact decide_eq_true (ascii_of_isHex64 h c hc)
  rw [compareDigest, hascii, Bool.and_true]

/-- The reader of a well-formed artifact. -/
theorem load_of_parse (hR : R.Sound) {d : D} {code : Text} (hkey : 32 ≤ integrityKey.length)
    (hparse : R.parse lib path file = .ok (d, code)) :
    ∃ expected, R.load lib path file integrityKey =
      if code.all (·.val < 128) then (if code = Text.ofString expected then .ok d
        else .error (.artifactExchangeError
          (R.name ++ " failed integrity verification: " ++ path)))
      else .error .typeError := by
  obtain ⟨expected, hmac, hhex⟩ := mac_of_length hR d hkey
  refine ⟨expected, ?_⟩
  rw [load, hparse]
  refine (bind_of_ok hmac rfl).trans ?_
  rw [compareDigest_hex code hhex]
  by_cases hascii : code.all (·.val < 128) = true
  · rw [if_pos hascii, if_pos hascii]
    by_cases hsame : code = Text.ofString expected
    · rw [if_pos hsame, decide_eq_true hsame]
      rfl
    · rw [if_neg hsame, decide_eq_false hsame]
      rfl
  · rw [if_neg hascii, if_neg hascii]
    rfl

/-- The reader answers as its `try` statement does, where no artifact is read. -/
theorem answers_load_of_error {e : Raised} (he : R.parse lib path file = .error e) :
    Answers (R.load lib path file integrityKey) ↔
      Answers (tryExcept caughtForReview (R.name ++ " is malformed: " ++ path)
        (R.parse lib path file)) := by
  rw [load, he]
  simp only [tryExcept]
  split_ifs
  · exact ⟨fun _ => Or.inr ⟨_, rfl⟩, fun _ => Or.inr ⟨_, rfl⟩⟩
  · constructor
    · rintro (⟨a, h⟩ | ⟨message, h⟩)
      · cases h
      · exact Or.inr ⟨message, congrArg Except.error (Except.error.inj h)⟩
    · rintro (⟨a, h⟩ | ⟨message, h⟩)
      · cases h
      · exact Or.inr ⟨message, congrArg Except.error (Except.error.inj h)⟩

/-- A reader of review artifacts raises nothing but an `ArtifactExchangeError`, unless the file is
nested too deeply or is a well-formed artifact whose authentication code is not ASCII. -/
theorem answers_load_iff (hR : R.Sound) :
    Answers (R.load lib path file integrityKey) ↔ ¬TooDeep lib file ∧
      (32 ≤ integrityKey.length → ∀ d code, R.parse lib path file = .ok (d, code) →
        ∀ c ∈ code, c.val < 128) := by
  have htry : Answers (tryExcept caughtForReview (R.name ++ " is malformed: " ++ path)
      (R.parse lib path file)) ↔ ¬TooDeep lib file :=
    ⟨fun h hdeep => not_answers_of_tooDeep rfl hdeep h,
      answers_tryExcept (onlyRaises_parse hR)⟩
  rcases hparse : R.parse lib path file with e | ⟨d, code⟩
  · rw [answers_load_of_error hparse, htry]
    constructor
    · exact fun hdeep => ⟨hdeep, fun _ d code h => by cases h⟩
    · exact fun h => h.1
  · have hdeep : ¬TooDeep lib file := by
      rw [← htry, hparse]
      exact Or.inl ⟨_, rfl⟩
    by_cases hkey : 32 ≤ integrityKey.length
    · obtain ⟨expected, hload⟩ := load_of_parse hR hkey hparse
      have hascii : (∀ c ∈ code, c.val < 128) ↔ code.all (·.val < 128) = true := by
        simp only [List.all_eq_true, decide_eq_true_eq]
      rw [hload]
      constructor
      · intro h
        refine ⟨hdeep, fun _ d' code' heq => ?_⟩
        cases heq
        rw [hascii]
        by_contra hnot
        rw [if_neg hnot] at h
        rcases h with ⟨a, h⟩ | ⟨message, h⟩
        · cases h
        · cases h
      · rintro ⟨-, h⟩
        rw [if_pos (hascii.mp (h hkey d code rfl))]
        split_ifs
        · exact Or.inl ⟨d, rfl⟩
        · exact Or.inr ⟨_, rfl⟩
    · have hload : R.load lib path file integrityKey =
          .error (.artifactExchangeError (R.name ++ " integrity key is invalid")) := by
        have hmac : R.mac d integrityKey =
            .error (.artifactExchangeError (R.name ++ " integrity key is invalid")) :=
          if_pos (Nat.lt_of_not_le hkey)
        rw [load, hparse]
        refine bind_of_ok rfl ?_
        show (R.mac d integrityKey >>= _) = _
        rw [hmac]
        rfl
      exact ⟨fun _ => ⟨hdeep, fun h => absurd h hkey⟩, fun _ => Or.inr ⟨_, hload⟩⟩

end

end Review

/-! ### The four kinds -/

section

variable {lib : Library} {file : StoredFile}

theorem onlyRaises_check {α : Type} (message : String) (value : Option α) :
    OnlyRaises (Expected lib file caughtForReview) (check message value) :=
  onlyRaises_orRaise (Or.inl rfl) _

theorem onlyRaises_get (d : Document) (key : String) :
    OnlyRaises (Expected lib file caughtForReview) (subscript d key) :=
  onlyRaises_subscript rfl rfl d key

theorem onlyRaises_utcTime (d : Document) :
    OnlyRaises (Expected lib file caughtForReview) (utcTime lib d) :=
  (onlyRaises_fromisoformat rfl rfl d).bind fun _ _ => onlyRaises_orRaise (Or.inl rfl) _

theorem onlyRaises_readSemanticFields (d : Document) :
    OnlyRaises (Expected lib file caughtForReview) (readSemanticFields lib d) := by
  unfold readSemanticFields
  split
  · exact .ok _
  · exact .error (Or.inl rfl)

theorem onlyRaises_validateSemanticFields (fields : List (Text × Text)) :
    OnlyRaises (Expected lib file caughtForReview) (validateSemanticFields fields) := by
  refine (onlyRaises_check _ _).bind fun fields _ => ?_
  refine (OnlyRaises.mapM fun field _ => onlyRaises_check _ _).bind fun entries _ => ?_
  exact onlyRaises_check _ _

end

theorem writable_semanticPayload (fields : SemanticFields) :
    (semanticPayload fields).writable = true := by
  rw [semanticPayload, Document.writable, Document.writableItems_iff, List.forall_mem_map]
  intro field _
  simp [checkedText, Document.writable, Document.writableItems]

theorem short_of_lt {n : ℕ} (h : n < 10) : Document.Short n := by
  rw [Document.Short, Int.natAbs_natCast]
  calc n < 10 ^ 1 := h
    _ ≤ 10 ^ Document.maxStrDigits := Nat.pow_le_pow_right (by decide) (by decide)

theorem sound_authorizationPreview : authorizationPreview.Sound where
  raises lib file raw := by
    refine (onlyRaises_get raw _).bind fun generatedAt _ => ?_
    refine (onlyRaises_utcTime generatedAt).bind fun generatedAt _ => ?_
    refine (onlyRaises_get raw _).bind fun operation _ => ?_
    refine (onlyRaises_get raw _).bind fun aliasName _ => ?_
    refine (onlyRaises_get raw _).bind fun previous _ => ?_
    refine (onlyRaises_get raw _).bind fun requested _ => ?_
    refine (onlyRaises_get raw _).bind fun intentDigest _ => ?_
    refine (onlyRaises_get raw _).bind fun planDigest _ => ?_
    refine (onlyRaises_get raw _).bind fun stepId _ => ?_
    refine (onlyRaises_get raw _).bind fun posture _ => ?_
    refine (onlyRaises_enumOf rfl _ posture).bind fun posture _ => ?_
    refine (onlyRaises_get raw _).bind fun assurance _ => ?_
    refine (onlyRaises_enumOf rfl _ assurance).bind fun assurance _ => ?_
    refine (onlyRaises_check _ _).bind fun operation _ => ?_
    refine (onlyRaises_check _ _).bind fun aliasName _ => ?_
    refine (onlyRaises_check _ _).bind fun previous _ => ?_
    refine (onlyRaises_check _ _).bind fun requested _ => ?_
    refine (onlyRaises_check _ _).bind fun intentDigest _ => ?_
    refine (onlyRaises_check _ _).bind fun planDigest _ => ?_
    refine (onlyRaises_check _ _).bind fun stepId _ => ?_
    exact .ok _
  writable v := by
    simp [authorizationPreview, checkedString, checkedText, Document.string, Document.writable]
  version := short_of_lt (by decide)

theorem sound_pendingConfirmationRequest : pendingConfirmationRequest.Sound where
  raises lib file raw := by
    refine (onlyRaises_get raw _).bind fun expiresAt _ => ?_
    refine (onlyRaises_utcTime expiresAt).bind fun expiresAt _ => ?_
    refine (onlyRaises_get raw _).bind fun operation _ => ?_
    refine (onlyRaises_get raw _).bind fun contractId _ => ?_
    refine (onlyRaises_get raw _).bind fun operationId _ => ?_
    refine (onlyRaises_get raw _).bind fun aliasName _ => ?_
    refine (onlyRaises_get raw _).bind fun previous _ => ?_
    refine (onlyRaises_get raw _).bind fun requested _ => ?_
    refine (onlyRaises_get raw _).bind fun identityDigest _ => ?_
    refine (onlyRaises_get raw _).bind fun fingerprint _ => ?_
    refine (onlyRaises_get raw _).bind fun intentDigest _ => ?_
    refine (onlyRaises_get raw _).bind fun authorityId _ => ?_
    refine (onlyRaises_get raw _).bind fun algorithm _ => ?_
    refine (onlyRaises_check _ _).bind fun operation _ => ?_
    refine (onlyRaises_check _ _).bind fun contractId _ => ?_
    refine (onlyRaises_check _ _).bind fun operationId _ => ?_
    refine (onlyRaises_check _ _).bind fun authorityId _ => ?_
    refine (onlyRaises_check _ _).bind fun algorithm _ => ?_
    refine (onlyRaises_check _ _).bind fun aliasName _ => ?_
    refine (onlyRaises_check _ _).bind fun previous _ => ?_
    refine (onlyRaises_check _ _).bind fun requested _ => ?_
    refine (onlyRaises_check _ _).bind fun identityDigest _ => ?_
    refine (onlyRaises_check _ _).bind fun fingerprint _ => ?_
    refine (onlyRaises_check _ _).bind fun intentDigest _ => ?_
    exact .ok _
  writable v := by
    simp [pendingConfirmationRequest, checkedString, checkedText, Document.string,
      Document.writable]
  version := short_of_lt (by decide)

theorem sound_shapeAAuthorizationPreview : shapeAAuthorizationPreview.Sound where
  raises lib file raw := by
    refine (onlyRaises_get raw _).bind fun generatedAt _ => ?_
    refine (onlyRaises_utcTime generatedAt).bind fun generatedAt _ => ?_
    refine (onlyRaises_get raw _).bind fun rawFields _ => ?_
    refine (onlyRaises_readSemanticFields rawFields).bind fun semanticFields _ => ?_
    refine (onlyRaises_get raw _).bind fun symbol _ => ?_
    refine (onlyRaises_get raw _).bind fun intentDigest _ => ?_
    refine (onlyRaises_get raw _).bind fun planDigest _ => ?_
    refine (onlyRaises_get raw _).bind fun stepId _ => ?_
    refine (onlyRaises_get raw _).bind fun posture _ => ?_
    refine (onlyRaises_enumOf rfl _ posture).bind fun posture _ => ?_
    refine (onlyRaises_get raw _).bind fun assurance _ => ?_
    refine (onlyRaises_enumOf rfl _ assurance).bind fun assurance _ => ?_
    refine (onlyRaises_check _ _).bind fun symbol _ => ?_
    refine (onlyRaises_validateSemanticFields _).bind fun semanticFields _ => ?_
    refine (onlyRaises_check _ _).bind fun intentDigest _ => ?_
    refine (onlyRaises_check _ _).bind fun planDigest _ => ?_
    refine (onlyRaises_check _ _).bind fun stepId _ => ?_
    exact .ok _
  writable v := by
    simp [shapeAAuthorizationPreview, checkedString, Document.string, Document.writable,
      writable_semanticPayload]
  version := short_of_lt (by decide)

theorem sound_shapeAPendingConfirmationRequest : shapeAPendingConfirmationRequest.Sound where
  raises lib file raw := by
    refine (onlyRaises_get raw _).bind fun expiresAt _ => ?_
    refine (onlyRaises_utcTime expiresAt).bind fun expiresAt _ => ?_
    refine (onlyRaises_get raw _).bind fun rawFields _ => ?_
    refine (onlyRaises_readSemanticFields rawFields).bind fun semanticFields _ => ?_
    refine (onlyRaises_get raw _).bind fun symbol _ => ?_
    refine (onlyRaises_get raw _).bind fun contractId _ => ?_
    refine (onlyRaises_get raw _).bind fun operationId _ => ?_
    refine (onlyRaises_get raw _).bind fun identityDigest _ => ?_
    refine (onlyRaises_get raw _).bind fun fingerprint _ => ?_
    refine (onlyRaises_get raw _).bind fun intentDigest _ => ?_
    refine (onlyRaises_get raw _).bind fun authorityId _ => ?_
    refine (onlyRaises_get raw _).bind fun algorithm _ => ?_
    refine (onlyRaises_check _ _).bind fun symbol _ => ?_
    refine (onlyRaises_validateSemanticFields _).bind fun semanticFields _ => ?_
    refine (onlyRaises_check _ _).bind fun contractId _ => ?_
    refine (onlyRaises_check _ _).bind fun operationId _ => ?_
    refine (onlyRaises_check _ _).bind fun authorityId _ => ?_
    refine (onlyRaises_check _ _).bind fun algorithm _ => ?_
    refine (onlyRaises_check _ _).bind fun identityDigest _ => ?_
    refine (onlyRaises_check _ _).bind fun fingerprint _ => ?_
    refine (onlyRaises_check _ _).bind fun intentDigest _ => ?_
    exact .ok _
  writable v := by
    simp [shapeAPendingConfirmationRequest, checkedString, Document.string, Document.writable,
      writable_semanticPayload]
  version := short_of_lt (by decide)

end Exchange

end Signing
