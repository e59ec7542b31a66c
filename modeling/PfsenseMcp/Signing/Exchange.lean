import PfsenseMcp.Python.Raises
import PfsenseMcp.Signing.Artifacts
import PfsenseMcp.Tier1.Document

/-!
# Files of signed artifacts

`tier1/artifact_exchange.py` and `tier1/shape_a_artifact_exchange.py` write and read plan
authorizations and confirmations in the same way. The errors of the reader are followed one by one,
since an `except` clause turns only some of them into an `ArtifactExchangeError`.

## Main results

* `answers_decodeAuthorization_iff`, `answers_decodeConfirmation_iff`: a reader raises nothing but an
  `ArtifactExchangeError`, unless the file is nested too deeply.
-/

namespace Signing

open Python Tier1 Posture
open ArtifactExchange (StoredFile maxFile stored stringSize keysSize)

namespace Exchange

/-! ### Errors -/

/-- What is raised. -/
inductive Raised where
  | keyError
  | typeError
  | valueError
  | recursionError
  | securityAuthorizationError
  | confirmationError
  | artifactExchangeError (message : String)
deriving DecidableEq, Repr

/-- A `try` statement whose `except` clause raises an `ArtifactExchangeError`. -/
def tryExcept {α : Type} (caught : Raised → Bool) (message : String) (body : Except Raised α) :
    Except Raised α :=
  match body with
  | .ok a => .ok a
  | .error e => if caught e then .error (.artifactExchangeError message) else .error e

/-- A value, or an error where there is none. -/
def orRaise {α : Type} (e : Raised) : Option α → Except Raised α
  | some a => .ok a
  | none => .error e

/-- `raise ValueError` unless something holds. -/
def require (condition : Bool) : Except Raised Unit :=
  if condition then .ok () else .error .valueError

/-! ### The standard library -/

/-- What `json.loads` does. -/
inductive Loaded where
  | value (document : Document)
  /-- Also a `JSONDecodeError` or a `UnicodeDecodeError`. -/
  | valueError
  /-- The text is nested too deeply. -/
  | recursionError

/-- What is taken from the standard library. -/
structure Library where
  /-- `json.loads` of bytes. -/
  jsonLoads : Bytes → Loaded
  /-- `datetime.fromisoformat(text)`: `none` is a `ValueError`, `some none` a time that is not in
  UTC. -/
  fromisoformat : String → Option (Option DateTime)
  /-- `str(value)`. -/
  str : Document → Text
  fromisoformat_isoformat : ∀ t : DateTime, fromisoformat t.isoformat = some (some t)

/-- The text of a dictionary is read as far as texts come back. -/
def Library.ReadsBack (lib : Library) (fields : List (String × Document)) : Prop :=
  ∀ bytes, (Document.record fields).dumps = some bytes →
    lib.jsonLoads bytes = .value (Document.record fields).sortKeys.readBack

/-- `_read_secure`. -/
def readSecure (path : String) : StoredFile → Except Raised Bytes
  | .absent => .error (.artifactExchangeError ("File could not be opened: " ++ path))
  | .symlink => .error (.artifactExchangeError ("File must not be a symbolic link: " ++ path))
  | .file regular owned shared content =>
    if regular = false then
      .error (.artifactExchangeError ("File is not a regular file: " ++ path))
    else if owned = false then
      .error (.artifactExchangeError ("File must be owned by the current user: " ++ path))
    else if shared = true then .error (.artifactExchangeError
      ("File must not grant permissions to group or other users: " ++ path))
    else if maxFile < content.length then
      .error (.artifactExchangeError ("File exceeds the maximum allowed size: " ++ path))
    else .ok content

/-- `json.loads(_read_secure(path))`. -/
def readJson (lib : Library) (path : String) (file : StoredFile) : Except Raised Document := do
  let content ← readSecure path file
  match lib.jsonLoads content with
  | .value d => .ok d
  | .valueError => .error .valueError
  | .recursionError => .error .recursionError

/-- `document[key]`. -/
def subscript (d : Document) (key : String) : Except Raised Document :=
  match d with
  | .obj fields => orRaise .keyError (fields.lookup (Text.ofString key))
  | _ => .error .typeError

/-- A document can be an element of a set. -/
def hashable : Document → Bool
  | .arr _ => false
  | .obj _ => false
  | _ => true

/-- The text of a string. -/
def textOf : Document → Option Text
  | .str t => some t
  | _ => none

/-- The text of a string without surrogates. -/
def stringOf (d : Document) : Option String := (textOf d).bind Text.toString?

/-- Two sets of texts are equal. -/
def sameSet (a b : List Text) : Bool := a.all (· ∈ b) && b.all (· ∈ a)

/-- `set(raw) == expected_keys`. -/
def hasKeys (raw : Document) (expected : List String) : Except Raised Bool :=
  let expected := expected.map Text.ofString
  match raw with
  | .obj fields => .ok (sameSet (fields.map Prod.fst) expected)
  | .str t => .ok (sameSet (t.map fun c => [c]) expected)
  | .arr items =>
    if items.all hashable then
      -- an item that is no string is in no set of strings
      .ok (((items.mapM textOf).map fun texts => sameSet texts expected).getD false)
    else .error .typeError
  | _ => .error .typeError

/-- `value == version`. -/
def isVersion (version : ℕ) : Document → Bool
  | .int n => n = version
  | .bool b => (if b then 1 else 0) = version
  | .float text => text = toString version ++ ".0"
  | _ => false

/-- The checks of the keys and of the version. -/
def checkEnvelope (raw : Document) (expected : List String) (version : ℕ) :
    Except Raised Unit := do
  let same ← hasKeys raw expected
  require same
  let schemaVersion ← subscript raw "schema_version"
  require (isVersion version schemaVersion)

/-- `datetime.fromisoformat(document)`; `none` is a time that is not in UTC. -/
def fromisoformat (lib : Library) (d : Document) : Except Raised (Option DateTime) :=
  match d with
  | .str t => orRaise .valueError (t.toString?.bind lib.fromisoformat)
  | _ => .error .typeError

/-- `base64.b64decode(document, validate=True)`. -/
def b64decode : Document → Except Raised Bytes
  | .str t => orRaise .valueError (t.toString?.bind Bytes.b64decode)
  | _ => .error .typeError

/-- The member of an enumeration with a value. -/
def enumOf {α : Type} (ofValue : Text → Option α) (d : Document) : Except Raised α :=
  orRaise .valueError ((textOf d).bind ofValue)

/-! ### Plan authorizations -/

/-- `AuthorizationLevel(value)`; `none` is a `ValueError`. -/
def authorizationLevelOf (value : Text) : Option AuthorizationLevel :=
  [.noneRequired, .configurationChange, .interactiveHardwareConfirmation,
    .milestone9ActivationDecision, .separateDeprovisionAuthorization,
    .undeterminedNotImplemented].find? fun level => Text.ofString level.value = value

/-- An optional integer of a fingerprint. -/
def optionalIntDocument : Option ℤ → Document
  | some n => .int n
  | none => .null

/-- An optional text of a fingerprint. -/
def optionalTextDocument : Option Text → Document
  | some t => .str t
  | none => .null

/-- `AuthorizationEvidenceFingerprint.to_payload`. -/
def fingerprintFields (f : AuthorizationEvidenceFingerprint) : List (String × Document) :=
  [("capability_posture_value", .str f.capabilityPostureValue),
    ("anchor_assurance_value", .str f.anchorAssuranceValue),
    ("anchor_evidence_state", .str f.anchorEvidenceState),
    ("anchor_baseline", optionalIntDocument f.anchorBaseline),
    ("anchor_witness_value", optionalIntDocument f.anchorWitnessValue),
    ("anchor_provisioned_at", optionalTextDocument f.anchorProvisionedAt)]

/-- A binding in a file. -/
def bindingFields (b : PlanAuthorizationStepBinding) : List (String × Document) :=
  [("step_id", .string b.stepId), ("execution_intent_digest", .string b.executionIntentDigest)]

/-- The payload of an authorization. -/
def authorizationFields (a : PlanAuthorizationV2) : List (String × Document) :=
  [("schema_version", .int a.schemaVersion), ("authorization_id", .string a.authorizationId),
    ("plan_digest", .string a.planDigest),
    ("authorized_executions",
      .arr (a.authorizedExecutions.map fun b => .record (bindingFields b))),
    ("authority_id", .string a.authorityId), ("algorithm", .string a.algorithm),
    ("proof", .string (Bytes.b64encode a.proof)), ("issued_at", .string a.issuedAt.isoformat),
    ("expires_at", .string a.expiresAt.isoformat), ("risk_class", .string a.riskClass.value),
    ("evidence_fingerprint", .record (fingerprintFields a.evidenceFingerprint))]

/-- The `expected_keys` of an authorization. -/
def authorizationKeys : List String :=
  ["schema_version", "authorization_id", "plan_digest", "authorized_executions", "authority_id",
    "algorithm", "proof", "issued_at", "expires_at", "risk_class", "evidence_fingerprint"]

/-- The body of both functions `plan_authorization_v2_to_bytes`. -/
def encodeAuthorization (a : PlanAuthorizationV2) : Except Raised Bytes :=
  orRaise .valueError (Document.record (authorizationFields a)).dumps

/-- An optional integer that is no truth value. -/
def optionalIntOf : Document → Option (Option ℤ)
  | .null => some none
  | .int n => some (some n)
  | _ => none

/-- An optional text. -/
def optionalTextOf : Document → Option (Option Text)
  | .null => some none
  | .str t => some (some t)
  | _ => none

/-- `PlanAuthorizationStepBinding(...)`. -/
def bindingOf (stepId executionIntentDigest : Document) :
    Except Raised PlanAuthorizationStepBinding :=
  orRaise .securityAuthorizationError do
    let stepId ← stringOf stepId
    let executionIntentDigest ← stringOf executionIntentDigest
    if h : isIdentifier stepId = true ∧ isHex64 executionIntentDigest = true then
      some ⟨stepId, executionIntentDigest, h⟩
    else none

/-- The step of the loop over `raw["authorized_executions"]`. -/
def readBinding (d : Document) : Except Raised PlanAuthorizationStepBinding := do
  let stepId ← subscript d "step_id"
  let executionIntentDigest ← subscript d "execution_intent_digest"
  bindingOf stepId executionIntentDigest

/-- `AuthorizationEvidenceFingerprint(...)`. -/
def fingerprintOf (posture assurance state baseline witness provisioned : Document) :
    Except Raised AuthorizationEvidenceFingerprint :=
  orRaise .securityAuthorizationError do
    let posture ← textOf posture
    let assurance ← textOf assurance
    let state ← textOf state
    let baseline ← optionalIntOf baseline
    let witness ← optionalIntOf witness
    let provisioned ← optionalTextOf provisioned
    if h : posture ≠ [] ∧ assurance ≠ [] ∧ state ≠ [] then
      some ⟨posture, assurance, state, baseline, witness, provisioned, h⟩
    else none

/-- The fingerprint under its key. -/
def readFingerprint (d : Document) : Except Raised AuthorizationEvidenceFingerprint := do
  require (d matches .obj _)
  let posture ← subscript d "capability_posture_value"
  let assurance ← subscript d "anchor_assurance_value"
  let state ← subscript d "anchor_evidence_state"
  let baseline ← subscript d "anchor_baseline"
  let witness ← subscript d "anchor_witness_value"
  let provisioned ← subscript d "anchor_provisioned_at"
  fingerprintOf posture assurance state baseline witness provisioned

/-- An integer that is no truth value. -/
def intOf : Document → Option ℤ
  | .int n => some n
  | _ => none

/-- `PlanAuthorizationV2(...)`. -/
def authorizationOf (schemaVersion authorizationId planDigest : Document)
    (executions : List PlanAuthorizationStepBinding) (authorityId algorithm : Document)
    (proof : Bytes) (issuedAt expiresAt : Option DateTime) (riskClass : AuthorizationLevel)
    (fingerprint : AuthorizationEvidenceFingerprint) : Except Raised PlanAuthorizationV2 :=
  orRaise .securityAuthorizationError do
    let schemaVersion ← intOf schemaVersion
    let authorizationId ← stringOf authorizationId
    let planDigest ← stringOf planDigest
    let authorityId ← stringOf authorityId
    let algorithm ← stringOf algorithm
    let issuedAt ← issuedAt
    let expiresAt ← expiresAt
    let a : AuthorizationFields := ⟨schemaVersion, authorizationId, planDigest, authorityId,
      algorithm, proof, issuedAt, expiresAt, riskClass, fingerprint⟩
    if h : a.Valid 2 ∧ executions ≠ [] ∧
        (executions.map PlanAuthorizationStepBinding.stepId).Nodup then
      some { a with authorizedExecutions := executions, valid := h.1, valid_steps := h.2 }
    else none

/-- A nonempty list. -/
def nonemptyItems : Document → Except Raised (List Document)
  | .arr (x :: xs) => .ok (x :: xs)
  | _ => .error .valueError

/-- What the `except` clause for an authorization names. -/
def caughtForAuthorization : Raised → Bool
  | .keyError => true
  | .typeError => true
  | .valueError => true
  | .securityAuthorizationError => true
  | _ => false

/-- The body of both functions `load_signed_plan_authorization_v2`. -/
def decodeAuthorization (lib : Library) (path : String) (file : StoredFile) :
    Except Raised PlanAuthorizationV2 :=
  tryExcept caughtForAuthorization ("signed PlanAuthorizationV2 artifact is malformed: " ++ path) do
    let raw ← readJson lib path file
    checkEnvelope raw authorizationKeys 2
    let items ← subscript raw "authorized_executions"
    let items ← nonemptyItems items
    let executions ← items.mapM readBinding
    let fingerprint ← subscript raw "evidence_fingerprint"
    let fingerprint ← readFingerprint fingerprint
    let schemaVersion ← subscript raw "schema_version"
    let authorizationId ← subscript raw "authorization_id"
    let planDigest ← subscript raw "plan_digest"
    let authorityId ← subscript raw "authority_id"
    let algorithm ← subscript raw "algorithm"
    let proof ← subscript raw "proof"
    let proof ← b64decode proof
    let issuedAt ← subscript raw "issued_at"
    let issuedAt ← fromisoformat lib issuedAt
    let expiresAt ← subscript raw "expires_at"
    let expiresAt ← fromisoformat lib expiresAt
    let riskClass ← subscript raw "risk_class"
    let riskClass ← enumOf authorizationLevelOf riskClass
    authorizationOf schemaVersion authorizationId planDigest executions authorityId algorithm proof
      issuedAt expiresAt riskClass fingerprint

/-! ### Confirmations -/

section

variable [Platform]

/-- The payload of a confirmation. -/
def confirmationPayload (e : ConfirmationEvidence) : List (String × Document) :=
  [("schema_version", .int 1), ("authority_id", .string e.authorityId),
    ("algorithm", .string e.algorithm), ("nonce", .string e.nonce),
    ("contract_id", .string e.contractId), ("operation_id", .string e.operationId),
    ("target_identity_digest", .string e.targetIdentityDigest),
    ("target_fingerprint", .string e.targetFingerprint), ("intent_digest", .string e.intentDigest),
    ("issued_at", .string e.issuedAt.isoformat), ("expires_at", .string e.expiresAt.isoformat),
    ("proof", .string (Bytes.b64encode e.proof))]

/-- The `expected_keys` of a confirmation. -/
def confirmationKeys : List String :=
  ["schema_version", "authority_id", "algorithm", "nonce", "contract_id", "operation_id",
    "target_identity_digest", "target_fingerprint", "intent_digest", "issued_at", "expires_at",
    "proof"]

/-- The body of both functions `confirmation_evidence_to_bytes`. -/
def encodeConfirmation (e : ConfirmationEvidence) : Except Raised Bytes :=
  orRaise .valueError (Document.record (confirmationPayload e)).dumps

/-- `ConfirmationEvidence(...)`. -/
def confirmationOf (authorityId algorithm nonce contractId operationId targetIdentityDigest
    targetFingerprint intentDigest : Document) (issuedAt expiresAt : Option DateTime)
    (proof : Bytes) : Except Raised ConfirmationEvidence :=
  orRaise .confirmationError do
    let authorityId ← stringOf authorityId
    let algorithm ← stringOf algorithm
    let nonce ← stringOf nonce
    let contractId ← stringOf contractId
    let operationId ← stringOf operationId
    let targetIdentityDigest ← stringOf targetIdentityDigest
    let targetFingerprint ← stringOf targetFingerprint
    let intentDigest ← stringOf intentDigest
    let issuedAt ← issuedAt
    let expiresAt ← expiresAt
    let e : ConfirmationFields := ⟨authorityId, algorithm, nonce, contractId, operationId,
      targetIdentityDigest, targetFingerprint, intentDigest, expiresAt, issuedAt, proof⟩
    if h : e.postInit = .ok () then some ⟨e, h⟩ else none

/-- What the `except` clause for a confirmation names. -/
def caughtForConfirmation : Raised → Bool
  | .keyError => true
  | .typeError => true
  | .valueError => true
  | .confirmationError => true
  | _ => false

/-- The body of both functions `load_signed_confirmation_evidence`. -/
def decodeConfirmation (lib : Library) (path : String) (file : StoredFile) :
    Except Raised ConfirmationEvidence :=
  tryExcept caughtForConfirmation ("signed ConfirmationEvidence artifact is malformed: " ++ path) do
    let raw ← readJson lib path file
    checkEnvelope raw confirmationKeys 1
    let authorityId ← subscript raw "authority_id"
    let algorithm ← subscript raw "algorithm"
    let nonce ← subscript raw "nonce"
    let contractId ← subscript raw "contract_id"
    let operationId ← subscript raw "operation_id"
    let targetIdentityDigest ← subscript raw "target_identity_digest"
    let targetFingerprint ← subscript raw "target_fingerprint"
    let intentDigest ← subscript raw "intent_digest"
    let issuedAt ← subscript raw "issued_at"
    let issuedAt ← fromisoformat lib issuedAt
    let expiresAt ← subscript raw "expires_at"
    let expiresAt ← fromisoformat lib expiresAt
    let proof ← subscript raw "proof"
    let proof ← b64decode proof
    confirmationOf authorityId algorithm nonce contractId operationId targetIdentityDigest
      targetFingerprint intentDigest issuedAt expiresAt proof

end

/-! ### What is raised -/

/-- A value is returned, or an `ArtifactExchangeError` raised. -/
def Answers {α : Type} (x : Except Raised α) : Prop :=
  (∃ a, x = .ok a) ∨ ∃ message, x = .error (.artifactExchangeError message)

/-- The content of a file is nested too deeply for `json.loads`. -/
def TooDeep (lib : Library) (file : StoredFile) : Prop :=
  ∃ content, ArtifactExchange.readSecure file = some content ∧
    lib.jsonLoads content = .recursionError

/-- What can be raised between the beginning of a reader and its `except` clause. -/
def Expected (lib : Library) (file : StoredFile) (caught : Raised → Bool) (e : Raised) : Prop :=
  caught e = true ∨ (∃ message, e = .artifactExchangeError message) ∨
    (e = .recursionError ∧ TooDeep lib file)

theorem readSecure_eq_ok {path : String} {file : StoredFile} {content : Bytes} :
    readSecure path file = .ok content ↔ ArtifactExchange.readSecure file = some content := by
  rcases file with - | - | ⟨regular, owned, shared, stored⟩
  · simp [readSecure, ArtifactExchange.readSecure]
  · simp [readSecure, ArtifactExchange.readSecure]
  · rcases regular <;> rcases owned <;> rcases shared
    all_goals
      by_cases hlength : stored.length ≤ maxFile
      · simp [readSecure, ArtifactExchange.readSecure, hlength, Nat.not_lt.mpr hlength]
      · simp [readSecure, ArtifactExchange.readSecure, hlength, Nat.lt_of_not_le hlength]

theorem onlyRaises_readSecure (path : String) (file : StoredFile) :
    OnlyRaises (fun e => ∃ message, e = .artifactExchangeError message)
      (readSecure path file) := by
  rcases file with - | - | ⟨regular, owned, shared, stored⟩
  · exact .error ⟨_, rfl⟩
  · exact .error ⟨_, rfl⟩
  · rw [readSecure]
    split_ifs
    · exact .error ⟨_, rfl⟩
    · exact .error ⟨_, rfl⟩
    · exact .error ⟨_, rfl⟩
    · exact .error ⟨_, rfl⟩
    · exact .ok _

section

variable {lib : Library} {path : String} {file : StoredFile} {caught : Raised → Bool}

theorem onlyRaises_orRaise {α : Type} {e : Raised} (he : Expected lib file caught e)
    (x : Option α) : OnlyRaises (Expected lib file caught) (orRaise e x) := by
  rcases x with - | a
  · exact .error he
  · exact .ok a

variable (hvalue : caught .valueError = true)

include hvalue

theorem onlyRaises_require (condition : Bool) :
    OnlyRaises (Expected lib file caught) (require condition) := by
  rcases condition with - | -
  · exact .error (Or.inl hvalue)
  · exact .ok _

theorem onlyRaises_readJson :
    OnlyRaises (Expected lib file caught) (readJson lib path file) := by
  refine ((onlyRaises_readSecure path file).mono fun e he => Or.inr (Or.inl he)).bind ?_
  intro content hcontent
  rcases hloads : lib.jsonLoads content with d | - | -
  · exact .ok d
  · exact .error (Or.inl hvalue)
  · exact .error (Or.inr (Or.inr ⟨rfl, content, readSecure_eq_ok.mp hcontent, hloads⟩))

theorem onlyRaises_nonemptyItems (d : Document) :
    OnlyRaises (Expected lib file caught) (nonemptyItems d) := by
  unfold nonemptyItems
  split
  · exact .ok _
  · exact .error (Or.inl hvalue)

theorem onlyRaises_enumOf {α : Type} (ofValue : Text → Option α) (d : Document) :
    OnlyRaises (Expected lib file caught) (enumOf ofValue d) :=
  onlyRaises_orRaise (Or.inl hvalue) _

variable (htype : caught .typeError = true)

include htype

omit hvalue in
theorem onlyRaises_hasKeys (raw : Document) (expected : List String) :
    OnlyRaises (Expected lib file caught) (hasKeys raw expected) := by
  unfold hasKeys
  rcases raw with - | b | n | t | t | items | fields
  · exact .error (Or.inl htype)
  · exact .error (Or.inl htype)
  · exact .error (Or.inl htype)
  · exact .error (Or.inl htype)
  · exact .ok _
  · show OnlyRaises _ (if _ then _ else _)
    split_ifs
    · exact .ok _
    · exact .error (Or.inl htype)
  · exact .ok _

theorem onlyRaises_fromisoformat (d : Document) :
    OnlyRaises (Expected lib file caught) (fromisoformat lib d) := by
  unfold fromisoformat
  split
  · exact onlyRaises_orRaise (Or.inl hvalue) _
  · exact .error (Or.inl htype)

theorem onlyRaises_b64decode (d : Document) :
    OnlyRaises (Expected lib file caught) (b64decode d) := by
  unfold b64decode
  split
  · exact onlyRaises_orRaise (Or.inl hvalue) _
  · exact .error (Or.inl htype)

variable (hkey : caught .keyError = true)

include hkey

omit hvalue in
theorem onlyRaises_subscript (d : Document) (key : String) :
    OnlyRaises (Expected lib file caught) (subscript d key) := by
  unfold subscript
  split
  · exact onlyRaises_orRaise (Or.inl hkey) _
  · exact .error (Or.inl htype)

theorem onlyRaises_checkEnvelope (raw : Document) (expected : List String) (version : ℕ) :
    OnlyRaises (Expected lib file caught) (checkEnvelope raw expected version) := by
  refine (onlyRaises_hasKeys htype raw expected).bind fun same _ => ?_
  refine (onlyRaises_require hvalue same).bind fun _ _ => ?_
  refine (onlyRaises_subscript htype hkey raw _).bind fun schemaVersion _ => ?_
  exact onlyRaises_require hvalue _

end

/-- A reader answers, or the content of the file is nested too deeply. -/
theorem answers_tryExcept {α : Type} {lib : Library} {file : StoredFile} {caught : Raised → Bool}
    {message : String} {body : Except Raised α} (hbody : OnlyRaises (Expected lib file caught) body)
    (hdeep : ¬TooDeep lib file) : Answers (tryExcept caught message body) := by
  rcases hresult : body with e | a
  · show Answers (if caught e then _ else _)
    rcases hbody e hresult with he | ⟨m, rfl⟩ | ⟨-, h⟩
    · rw [if_pos he]
      exact Or.inr ⟨_, rfl⟩
    · split_ifs
      · exact Or.inr ⟨_, rfl⟩
      · exact Or.inr ⟨_, rfl⟩
    · exact absurd h hdeep
  · exact Or.inl ⟨a, rfl⟩

/-- Where `json.loads` raises a `RecursionError`, a reader that begins with it does. -/
theorem not_answers_of_tooDeep {α : Type} {lib : Library} {path : String} {file : StoredFile}
    {caught : Raised → Bool} {message : String} {body : Document → Except Raised α}
    (hcaught : caught .recursionError = false) (hdeep : TooDeep lib file) :
    ¬Answers (tryExcept caught message (readJson lib path file >>= body)) := by
  obtain ⟨content, hcontent, hloads⟩ := hdeep
  have hread : readJson lib path file = .error .recursionError := by
    refine bind_of_ok (readSecure_eq_ok.mpr hcontent) ?_
    rw [hloads]
  rw [hread]
  show ¬Answers (if caught .recursionError then _ else _)
  rw [hcaught]
  rintro (⟨a, h⟩ | ⟨m, h⟩)
  · cases h
  · cases h

/-- What a reader of authorizations raises. -/
theorem answers_decodeAuthorization_iff (lib : Library) (path : String) (file : StoredFile) :
    Answers (decodeAuthorization lib path file) ↔ ¬TooDeep lib file := by
  refine ⟨fun h hdeep => not_answers_of_tooDeep rfl hdeep h, fun hdeep => ?_⟩
  refine answers_tryExcept ?_ hdeep
  refine (onlyRaises_readJson rfl).bind fun raw _ => ?_
  have hget : ∀ d key, OnlyRaises (Expected lib file caughtForAuthorization) (subscript d key) :=
    onlyRaises_subscript rfl rfl
  have htime : ∀ d, OnlyRaises (Expected lib file caughtForAuthorization) (fromisoformat lib d) :=
    onlyRaises_fromisoformat rfl rfl
  have hbinding : ∀ d, OnlyRaises (Expected lib file caughtForAuthorization) (readBinding d) :=
    fun d => (hget d _).bind fun _ _ => (hget d _).bind fun _ _ =>
      onlyRaises_orRaise (Or.inl rfl) _
  refine (onlyRaises_checkEnvelope rfl rfl rfl raw _ _).bind fun _ _ => ?_
  refine (hget _ _).bind fun items _ => ?_
  refine (onlyRaises_nonemptyItems rfl items).bind fun items _ => ?_
  refine (OnlyRaises.mapM fun d _ => hbinding d).bind fun executions _ => ?_
  refine (hget _ _).bind fun fingerprint _ => ?_
  refine .bind ?_ fun fingerprint _ => ?_
  · refine (onlyRaises_require rfl _).bind fun _ _ => ?_
    refine (hget _ _).bind fun _ _ => ?_
    refine (hget _ _).bind fun _ _ => ?_
    refine (hget _ _).bind fun _ _ => ?_
    refine (hget _ _).bind fun _ _ => ?_
    refine (hget _ _).bind fun _ _ => ?_
    refine (hget _ _).bind fun _ _ => ?_
    exact onlyRaises_orRaise (Or.inl rfl) _
  refine (hget _ _).bind fun schemaVersion _ => ?_
  refine (hget _ _).bind fun authorizationId _ => ?_
  refine (hget _ _).bind fun planDigest _ => ?_
  refine (hget _ _).bind fun authorityId _ => ?_
  refine (hget _ _).bind fun algorithm _ => ?_
  refine (hget _ _).bind fun proof _ => ?_
  refine (onlyRaises_b64decode rfl rfl _).bind fun proof _ => ?_
  refine (hget _ _).bind fun issuedAt _ => ?_
  refine (htime _).bind fun issuedAt _ => ?_
  refine (hget _ _).bind fun expiresAt _ => ?_
  refine (htime _).bind fun expiresAt _ => ?_
  refine (hget _ _).bind fun riskClass _ => ?_
  refine (onlyRaises_enumOf rfl _ _).bind fun riskClass _ => ?_
  exact onlyRaises_orRaise (Or.inl rfl) _

/-- What a reader of confirmations raises. -/
theorem answers_decodeConfirmation_iff (lib : Library) (path : String) (file : StoredFile) :
    Answers (decodeConfirmation lib path file) ↔ ¬TooDeep lib file := by
  refine ⟨fun h hdeep => not_answers_of_tooDeep rfl hdeep h, fun hdeep => ?_⟩
  refine answers_tryExcept ?_ hdeep
  refine (onlyRaises_readJson rfl).bind fun raw _ => ?_
  have hget : ∀ d key, OnlyRaises (Expected lib file caughtForConfirmation) (subscript d key) :=
    onlyRaises_subscript rfl rfl
  have htime : ∀ d, OnlyRaises (Expected lib file caughtForConfirmation) (fromisoformat lib d) :=
    onlyRaises_fromisoformat rfl rfl
  refine (onlyRaises_checkEnvelope rfl rfl rfl raw _ _).bind fun _ _ => ?_
  refine (hget _ _).bind fun authorityId _ => ?_
  refine (hget _ _).bind fun algorithm _ => ?_
  refine (hget _ _).bind fun nonce _ => ?_
  refine (hget _ _).bind fun contractId _ => ?_
  refine (hget _ _).bind fun operationId _ => ?_
  refine (hget _ _).bind fun targetIdentityDigest _ => ?_
  refine (hget _ _).bind fun targetFingerprint _ => ?_
  refine (hget _ _).bind fun intentDigest _ => ?_
  refine (hget _ _).bind fun issuedAt _ => ?_
  refine (htime _).bind fun issuedAt _ => ?_
  refine (hget _ _).bind fun expiresAt _ => ?_
  refine (htime _).bind fun expiresAt _ => ?_
  refine (hget _ _).bind fun proof _ => ?_
  refine (onlyRaises_b64decode rfl rfl _).bind fun proof _ => ?_
  exact onlyRaises_orRaise (Or.inl rfl) _

end Exchange

end Signing
