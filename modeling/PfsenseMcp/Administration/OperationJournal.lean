import Mathlib.Data.Nat.Notation
import PfsenseMcp.Concurrency.Procedure
import PfsenseMcp.Tier1.Payload

/-!
# The operation journal

`OperationJournal` of `security_operation_journal.py` on the files it uses: the journal, one
authenticated JSON record to a line, the head, which names the last record, and the temporary file
that a new head is written to. `create` and `append` are cut into the effects they have on the
files, so that they can stop between any two of them.

A line is read as UTF-8; the other encodings that `json.loads` recognises are left out. The checks
of `urlsplit` on an origin are a parameter of `create`.
-/

namespace Administration

open Python Concurrency Procedure Tier1

/-! ### Constants -/

/-- `_DOMAIN`. -/
def domain : Bytes := Bytes.encodeUtf8 "pfsense-mcp-adr033-operation-journal-v1" ++ [0]

/-- `_HEAD_DOMAIN`. -/
def headDomain : Bytes := Bytes.encodeUtf8 "pfsense-mcp-adr033-operation-head-v1" ++ [0]

/-- `_MAX_JOURNAL_BYTES`. -/
def maxJournalBytes : ℕ := 4 * 1024 * 1024

/-- `_MAX_METADATA_BYTES`. -/
def maxMetadataBytes : ℕ := 64 * 1024

/-- `_ZERO_MAC`. -/
def zeroMac : String := "0000000000000000000000000000000000000000000000000000000000000000"

/-- `OperationJournalError`. -/
def journalError : ErrorClass := .other "OperationJournalError"

/-! ### Records -/

/-- `AdministrativeOperationType`. -/
inductive AdministrativeOperationType where
  | bootstrap
  | recoverOrphanKey
  | recoverDedicatedUser
  | recoverUnprovisionedIncident
deriving DecidableEq, Repr

/-- `DurableOperationState`. -/
inductive DurableOperationState where
  | created
  | preSendReady
  | mutationIntentRecorded
  | mutationResultUnknown
  | serverStatePartial
  | recoveryRequired
  | finalVerificationPending
  | completed
deriving DecidableEq, Repr

/-- `AdministrativeTransactionState`. -/
inductive AdministrativeTransactionState where
  | notStarted
  | userCreated
  | bootstrapPrivilegeGranted
  | keyGenerated
  | bootstrapPrivilegeRevoked
  | verified
  | recoveryObjectIdentified
  | recoveryMutationSent
  | recoveryVerified
deriving DecidableEq, Repr

/-- `RecoveryAction`. -/
inductive RecoveryAction where
  | revokeOrphanKey
  | deleteDedicatedUser
  | resolveUnprovisionedIncident
deriving DecidableEq, Repr

namespace AdministrativeOperationType

/-- The value of an operation type. -/
def value : AdministrativeOperationType → String
  | bootstrap => "bootstrap"
  | recoverOrphanKey => "recover_orphan_key"
  | recoverDedicatedUser => "recover_dedicated_user"
  | recoverUnprovisionedIncident => "recover_unprovisioned_incident"

/-- `AdministrativeOperationType(value)`. -/
def ofValue (text : String) : Option AdministrativeOperationType :=
  [bootstrap, recoverOrphanKey, recoverDedicatedUser, recoverUnprovisionedIncident].find?
    fun t => t.value == text

@[simp]
theorem ofValue_value (t : AdministrativeOperationType) : ofValue t.value = some t := by
  cases t <;> decide

end AdministrativeOperationType

namespace DurableOperationState

/-- The value of a state. -/
def value : DurableOperationState → String
  | created => "created"
  | preSendReady => "pre_send_ready"
  | mutationIntentRecorded => "mutation_intent_recorded"
  | mutationResultUnknown => "mutation_result_unknown"
  | serverStatePartial => "server_state_partial"
  | recoveryRequired => "recovery_required"
  | finalVerificationPending => "final_verification_pending"
  | completed => "completed"

/-- `DurableOperationState(value)`. -/
def ofValue (text : String) : Option DurableOperationState :=
  [created, preSendReady, mutationIntentRecorded, mutationResultUnknown, serverStatePartial,
    recoveryRequired, finalVerificationPending, completed].find? fun t => t.value == text

@[simp]
theorem ofValue_value (t : DurableOperationState) : ofValue t.value = some t := by
  cases t <;> decide

/-- `_ALLOWED`. -/
def allowed : DurableOperationState → List DurableOperationState
  | created => [preSendReady]
  | preSendReady => [mutationIntentRecorded, completed]
  | mutationIntentRecorded =>
    [mutationResultUnknown, serverStatePartial, finalVerificationPending, recoveryRequired]
  | mutationResultUnknown => [serverStatePartial, recoveryRequired]
  | serverStatePartial => [preSendReady, recoveryRequired, finalVerificationPending]
  | recoveryRequired => []
  | finalVerificationPending => [completed, recoveryRequired]
  | completed => []

end DurableOperationState

namespace AdministrativeTransactionState

/-- The value of a transaction state. -/
def value : AdministrativeTransactionState → String
  | notStarted => "not_started"
  | userCreated => "user_created"
  | bootstrapPrivilegeGranted => "bootstrap_privilege_granted"
  | keyGenerated => "key_generated"
  | bootstrapPrivilegeRevoked => "bootstrap_privilege_revoked"
  | verified => "verified"
  | recoveryObjectIdentified => "recovery_object_identified"
  | recoveryMutationSent => "recovery_mutation_sent"
  | recoveryVerified => "recovery_verified"

/-- `AdministrativeTransactionState(value)`. -/
def ofValue (text : String) : Option AdministrativeTransactionState :=
  [notStarted, userCreated, bootstrapPrivilegeGranted, keyGenerated, bootstrapPrivilegeRevoked,
    verified, recoveryObjectIdentified, recoveryMutationSent, recoveryVerified].find?
    fun t => t.value == text

@[simp]
theorem ofValue_value (t : AdministrativeTransactionState) : ofValue t.value = some t := by
  cases t <;> decide

end AdministrativeTransactionState

namespace RecoveryAction

/-- The value of a recovery action. -/
def value : RecoveryAction → String
  | revokeOrphanKey => "revoke_orphan_key"
  | deleteDedicatedUser => "delete_dedicated_user"
  | resolveUnprovisionedIncident => "resolve_unprovisioned_incident"

/-- `RecoveryAction(value)`. -/
def ofValue (text : String) : Option RecoveryAction :=
  [revokeOrphanKey, deleteDedicatedUser, resolveUnprovisionedIncident].find?
    fun t => t.value == text

@[simp]
theorem ofValue_value (t : RecoveryAction) : ofValue t.value = some t := by
  cases t <;> decide

end RecoveryAction

/-- `OperationBinding`. -/
structure OperationBinding where
  operationId : String
  operationType : AdministrativeOperationType
  targetIdentity : String
  targetOrigin : String
  accountIdentity : String
  approvedProfile : String
  schemaVersion : String
  schemaEvidenceDigest : String
  startingAuthMethods : List String
deriving DecidableEq

/-- `JournalRecord`. -/
structure JournalRecord where
  sequence : ℤ
  binding : OperationBinding
  state : DurableOperationState
  transactionState : AdministrativeTransactionState
  mutationIndex : ℤ
  recoveryAction : Option RecoveryAction
  timestamp : String
  previousMac : String
  mac : String
deriving DecidableEq

/-! ### Encoding -/

/-- `_canonical`. -/
def canonical (value : Json) : Bytes := Bytes.encodeUtf8 (Json.dumps false (Json.sortKeys value))

/-- The dictionary of a binding, with the value of its operation type. -/
def bindingDict (binding : OperationBinding) : Json :=
  .obj [("operation_id", .str binding.operationId),
    ("operation_type", .str binding.operationType.value),
    ("target_identity", .str binding.targetIdentity),
    ("target_origin", .str binding.targetOrigin),
    ("account_identity", .str binding.accountIdentity),
    ("approved_profile", .str binding.approvedProfile),
    ("schema_version", .str binding.schemaVersion),
    ("schema_evidence_digest", .str binding.schemaEvidenceDigest),
    ("starting_auth_methods", .arr (binding.startingAuthMethods.map .str))]

/-- The value of a recovery action or `null`. -/
def recoveryValue : Option RecoveryAction → Json
  | some action => .str action.value
  | none => .null

/-- The fields of `_payload(record)`. -/
def payloadFields (record : JournalRecord) : List (String × Json) :=
  [("sequence", .int record.sequence),
    ("binding", bindingDict record.binding),
    ("state", .str record.state.value),
    ("transaction_state", .str record.transactionState.value),
    ("mutation_index", .int record.mutationIndex),
    ("recovery_action", recoveryValue record.recoveryAction),
    ("timestamp", .str record.timestamp),
    ("previous_mac", .str record.previousMac)]

/-- `_payload`. -/
def payload (record : JournalRecord) : Json := .obj (payloadFields record)

/-- The line of a record, without its line feed. -/
def recordText (record : JournalRecord) : Bytes :=
  canonical (.obj (payloadFields record ++ [("mac", .str record.mac)]))

/-! ### Reading -/

/-- The error of the reading functions. -/
def refuse {α : Type} (message : String) : Except Error α := fail journalError message

/-- `raw.splitlines()`, with the part of the current line that was passed. After a carriage return
a line feed does not end another line. -/
def splitLinesFrom (afterReturn : Bool) (line : Bytes) : Bytes → List Bytes
  | [] => if line = [] then [] else [line]
  | b :: rest =>
    if b = 10 then
      if afterReturn then splitLinesFrom false [] rest else line :: splitLinesFrom false [] rest
    else if b = 13 then line :: splitLinesFrom true [] rest
    else splitLinesFrom false (line ++ [b]) rest

/-- `raw.splitlines()`. -/
def splitLines (raw : Bytes) : List Bytes := splitLinesFrom false [] raw

/-- A text that a reader requires to be a value of an enumeration; its `ValueError` is reported by
`load`. -/
def enumValue {α : Type} : Option α → Except Error α
  | some value => .ok value
  | none => refuse "Operation journal contains malformed data"

/-- The expected fields of a binding. -/
def bindingFieldNames : List String :=
  ["operation_id", "operation_type", "target_identity", "target_origin", "account_identity",
    "approved_profile", "schema_version", "schema_evidence_digest", "starting_auth_methods"]

/-- A field of a binding that has to be a text. -/
def bindingStr (fields : List (String × Json)) (name : String) : Except Error String :=
  match getField fields name with
  | some (.str text) => .ok text
  | _ => refuse "Operation journal binding field types are malformed"

/-- The texts of a list of authentication methods. -/
def authMethods : List Json → Except Error (List String)
  | [] => .ok []
  | .str method :: methods => do
    let methods ← authMethods methods
    .ok (method :: methods)
  | _ :: _ => refuse "Operation journal authentication methods are malformed"

/-- `_binding_from`. -/
def bindingFrom (fields : List (String × Json)) : Except Error OperationBinding := do
  demand (hasExactFields fields bindingFieldNames = true) journalError
    "Operation journal binding fields are malformed"
  let operationId ← bindingStr fields "operation_id"
  let operationType ← bindingStr fields "operation_type"
  let targetIdentity ← bindingStr fields "target_identity"
  let targetOrigin ← bindingStr fields "target_origin"
  let accountIdentity ← bindingStr fields "account_identity"
  let approvedProfile ← bindingStr fields "approved_profile"
  let schemaVersion ← bindingStr fields "schema_version"
  let schemaEvidenceDigest ← bindingStr fields "schema_evidence_digest"
  match getField fields "starting_auth_methods" with
  | some (.arr methods) =>
    let startingAuthMethods ← authMethods methods
    let operationType ← enumValue (AdministrativeOperationType.ofValue operationType)
    .ok { operationId, operationType, targetIdentity, targetOrigin, accountIdentity,
          approvedProfile, schemaVersion, schemaEvidenceDigest, startingAuthMethods }
  | _ => refuse "Operation journal binding field types are malformed"

/-- The expected fields of a record. -/
def recordFieldNames : List String :=
  ["sequence", "binding", "state", "transaction_state", "mutation_index", "recovery_action",
    "timestamp", "previous_mac", "mac"]

/-- The error of a record whose fields have other types. -/
def malformedTypes {α : Type} : Except Error α :=
  refuse "Operation journal record field types are malformed"

/-- A field of a record that has to be an integer. -/
def recordInt (fields : List (String × Json)) (name : String) : Except Error ℤ :=
  match getField fields name with
  | some (.int n) => .ok n
  | _ => malformedTypes

/-- A field of a record that has to be a text. -/
def recordStr (fields : List (String × Json)) (name : String) : Except Error String :=
  match getField fields name with
  | some (.str text) => .ok text
  | _ => malformedTypes

/-- The field of a record that has to be a text or `null`. -/
def recordOptionalStr (fields : List (String × Json)) (name : String) :
    Except Error (Option String) :=
  match getField fields name with
  | some .null => .ok none
  | some (.str text) => .ok (some text)
  | _ => malformedTypes

/-- `RecoveryAction(recovery) if recovery is not None else None`. -/
def recoveryActionFrom : Option String → Except Error (Option RecoveryAction)
  | some text => (enumValue (RecoveryAction.ofValue text)).map some
  | none => .ok none

/-- `_record_from`. -/
def recordFrom (fields : List (String × Json)) : Except Error JournalRecord := do
  demand (hasExactFields fields recordFieldNames = true) journalError
    "Operation journal record fields are malformed"
  let sequence ← recordInt fields "sequence"
  let mutationIndex ← recordInt fields "mutation_index"
  let state ← recordStr fields "state"
  let transactionState ← recordStr fields "transaction_state"
  let timestamp ← recordStr fields "timestamp"
  let previousMac ← recordStr fields "previous_mac"
  let mac ← recordStr fields "mac"
  let recovery ← recordOptionalStr fields "recovery_action"
  match getField fields "binding" with
  | some (.obj bindingFields) =>
    let binding ← bindingFrom bindingFields
    let state ← enumValue (DurableOperationState.ofValue state)
    let transactionState ← enumValue (AdministrativeTransactionState.ofValue transactionState)
    let recoveryAction ← recoveryActionFrom recovery
    .ok { sequence, binding, state, transactionState, mutationIndex, recoveryAction, timestamp,
          previousMac, mac }
  | _ => malformedTypes

/-- The record of a line. -/
def recordOfLine (line : Bytes) : Except Error JournalRecord :=
  match Bytes.decodeUtf8 line >>= Json.parse with
  | some (.obj fields) => recordFrom fields
  | _ => refuse "Operation journal contains malformed data"

/-- `_validate_transition`. -/
def validateTransition (previous candidate : JournalRecord) : Except Error Unit := do
  demand (candidate.binding = previous.binding) journalError
    "Operation binding changed within the journal"
  demand (candidate.state ∈ previous.state.allowed) journalError
    ("Illegal durable operation transition: " ++ previous.state.value ++ " -> " ++
      candidate.state.value)
  demand (previous.mutationIndex ≤ candidate.mutationIndex ∧
    candidate.mutationIndex ≤ previous.mutationIndex + 1) journalError
    "Mutation index is out of order"
  demand (candidate.state = .preSendReady →
    candidate.mutationIndex = previous.mutationIndex + 1) journalError
    "Each new pre-send checkpoint must advance the mutation index"
  demand (candidate.state = .recoveryRequired → candidate.recoveryAction ≠ none) journalError
    "Recovery-required state must name one closed recovery action"
  demand (candidate.state ≠ .recoveryRequired → candidate.recoveryAction = none) journalError
    "Recovery action is only valid in recovery-required state"
  demand (Json.keyLt candidate.timestamp previous.timestamp = false) journalError
    "Operation journal timestamps are out of order"

/-! ### Files -/

/-- A file, as far as it is looked at. -/
structure File where
  symlink : Bool
  regular : Bool
  /-- The file belongs to the effective user. -/
  owned : Bool
  /-- The group or other users have some permission. -/
  shared : Bool
  content : Bytes
deriving DecidableEq

/-- A file that was created with mode 0600. -/
def File.created (content : Bytes) : File := ⟨false, true, true, false, content⟩

/-- The directory of the journal. -/
structure Parent where
  directory : Bool
  owned : Bool
  shared : Bool

/-- The files of a journal. -/
structure Files where
  /-- The parent directory, unless it cannot be read. -/
  parent : Option Parent
  journal : Option File
  head : Option File
  /-- The temporary file of every process. -/
  temp : ℕ → Option File

/-- `_read_secure`, by `open_nofollow` and `validate_descriptor`. -/
def readSecure (path : String) (file : Option File) (maximum : ℕ) : Except Error Bytes :=
  match file with
  | none => refuse ("File could not be opened: " ++ path)
  | some file => do
    demand (file.symlink = false) journalError ("File must not be a symbolic link: " ++ path)
    demand (file.regular = true) journalError ("File is not a regular file: " ++ path)
    demand (file.owned = true) journalError ("File must be owned by the current user: " ++ path)
    demand (file.shared = false) journalError
      ("File must not grant permissions to group or other users: " ++ path)
    demand (file.content.length ≤ maximum) journalError
      ("File exceeds the maximum allowed size: " ++ path)
    .ok file.content

/-- The conversions `int(…)` and `str(…)` of what `json.loads` returns. -/
class Conversions where
  /-- `int(value)`. -/
  int : Json → Except Error ℤ
  /-- `str(value)`. -/
  str : Json → String
  int_int : ∀ n, int (.int n) = .ok n
  str_str : ∀ text, str (.str text) = text

/-- `OperationJournal`. -/
structure OperationJournal where
  /-- The directory of the journal. -/
  parentPath : String
  /-- The name of the journal in its directory. -/
  name : String
  integrityKey : Bytes
  /-- `_validate_key`. -/
  key_length : 32 ≤ integrityKey.length

namespace OperationJournal

/-- `_path`. -/
def path (journal : OperationJournal) : String := journal.parentPath ++ "/" ++ journal.name

/-- `_head_path`. -/
def headPath (journal : OperationJournal) : String := journal.path ++ ".head"

section

variable [Platform]

/-- `_mac`. -/
def mac (journal : OperationJournal) (record : JournalRecord) : String :=
  Platform.hmacSha256 journal.integrityKey (domain ++ canonical (payload record))

/-- `_head_mac`. -/
def headMac (journal : OperationJournal) (sequence : ℤ) (recordMac : String) : String :=
  Platform.hmacSha256 journal.integrityKey
    (headDomain ++ Bytes.encodeUtf8 (String.ofList (Json.dumpInt sequence) ++ ":" ++ recordMac))

/-- The content of the head for a record. -/
def headText (journal : OperationJournal) (sequence : ℤ) (recordMac : String) : Bytes :=
  canonical (.obj [("sequence", .int sequence), ("record_mac", .str recordMac),
    ("mac", .str (journal.headMac sequence recordMac))]) ++ [10]

/-- A record with its authentication code. -/
def authenticated (journal : OperationJournal) (record : JournalRecord) : JournalRecord :=
  { record with mac := journal.mac record }

/-! ### Loading -/

/-- The check of one line of the journal against the records before it. -/
def loadLine (journal : OperationJournal) (records : List JournalRecord) (line : Bytes) :
    Except Error (List JournalRecord) := do
  let record ← recordOfLine line
  let expectedPrevious := match records.getLast? with
    | some previous => previous.mac
    | none => zeroMac
  demand (record.sequence = records.length ∧ record.previousMac = expectedPrevious) journalError
    "Operation journal sequence or integrity linkage is invalid"
  let authentic ← compareDigest record.mac (journal.mac record)
  demand (authentic = true) journalError "Operation journal authentication failed"
  match records.getLast? with
  | some previous => validateTransition previous record
  | none => .ok ()
  .ok (records ++ [record])

/-- The lines of the journal, one after the other. -/
def loadLines (journal : OperationJournal) (records : List JournalRecord) :
    List Bytes → Except Error (List JournalRecord)
  | [] => .ok records
  | line :: lines => do
    let records ← journal.loadLine records line
    journal.loadLines records lines

variable [Conversions]

/-- The error of a head that cannot be read. -/
def malformedHead {α : Type} : Except Error α := refuse "Operation journal head is malformed"

/-- The sequence number and the codes of a head. -/
def decodeHead (raw : Bytes) : Except Error (ℤ × String × String) :=
  match Bytes.decodeUtf8 raw >>= Json.parse with
  | some (.obj fields) =>
    if hasExactFields fields ["sequence", "record_mac", "mac"] then
      match getField fields "sequence", getField fields "record_mac", getField fields "mac" with
      | some sequence, some recordMac, some mac =>
        match Conversions.int sequence with
        | .ok sequence => .ok (sequence, Conversions.str recordMac, Conversions.str mac)
        | .error e =>
          -- only these two are caught
          if e.cls = .valueError ∨ e.cls = .other "TypeError" then malformedHead else .error e
      | _, _, _ => malformedHead
    else malformedHead
  | _ => malformedHead

/-- `_verify_head`. -/
def verifyHead (journal : OperationJournal) (head : Option File) (record : JournalRecord) :
    Except Error Unit := do
  let raw ← readSecure journal.headPath head maxMetadataBytes
  let (sequence, recordMac, mac) ← decodeHead raw
  let authentic ← compareDigest mac (journal.headMac sequence recordMac)
  demand (authentic = true) journalError "Operation journal head authentication failed"
  demand (sequence = record.sequence ∧ recordMac = record.mac) journalError
    "Operation journal rollback or head mismatch detected"

/-- `load`. -/
def load (journal : OperationJournal) (files : Files) : Except Error (List JournalRecord) := do
  let raw ← readSecure journal.path files.journal maxJournalBytes
  demand (raw.getLast? = some 10) journalError "Operation journal is empty or truncated"
  let records ← journal.loadLines [] (splitLines raw)
  match records.getLast? with
  | some latest =>
    journal.verifyHead files.head latest
    .ok records
  | none => fail (.other "IndexError") "list index out of range"

/-! ### Writing -/

/-- How a call of the operating system ends. -/
structure Answer where
  /-- The call fails with an `OSError`, without an effect. -/
  failed : Bool
  /-- The number of bytes that a write puts into the file, if it is not all of them. -/
  written : Option ℕ

/-- A call that does all it was asked for. -/
def Answer.complete : Answer := ⟨false, none⟩

/-- The part of the data that a write puts into the file. -/
def Answer.part (answer : Answer) (data : Bytes) : Bytes :=
  match answer.written with
  | some n => data.take n
  | none => data

/-- Code on the files of a journal. -/
abbrev FileOp := Procedure Files Answer Error

/-- An `OSError`. -/
def osError (name message : String) : Error := ⟨.other name, message⟩

omit [Platform] [Conversions] in
/-- Look at the files. -/
def look {α : Type} (f : Files → Except Error α) : FileOp α :=
  .atom (fun _ s => s) fun _ s => ofExcept (f s)

omit [Platform] [Conversions] in
/-- A call with an effect on the files, given as a function of the data it takes part of. -/
def effect (data : Bytes) (f : Bytes → Files → Files) : FileOp ℕ :=
  .atom (fun answer s => if answer.failed then s else f (answer.part data) s) fun answer _ =>
    if answer.failed then .raise (osError "OSError" "Input/output error")
    else .ret (answer.part data).length

omit [Platform] [Conversions] in
/-- `os.fsync`. -/
def fsync : FileOp Unit := do
  let _ ← effect [] fun _ s => s

omit [Platform] [Conversions] in
/-- `os.fchmod` to the mode that a created file has already. -/
def fchmod : FileOp Unit := do
  let _ ← effect [] fun _ s => s

omit [Platform] [Conversions] in
/-- `os.open` with `O_CREAT | O_EXCL`: a new empty file where there is none. -/
def openExclusive (slot : Files → Option File) (put : Option File → Files → Files) (e : Error) :
    FileOp Unit :=
  .atom (fun answer s => if answer.failed ∨ slot s ≠ none then s else put (some (.created [])) s)
    fun answer s => if answer.failed ∨ slot s ≠ none then .raise e else .ret ()

omit [Platform] [Conversions] in
/-- Add data at the end of a file. -/
def appendTo (file : Option File) (data : Bytes) : Option File :=
  file.map fun file => { file with content := file.content ++ data }

/-- `_write_head(…, create=True)`. -/
def createHead (journal : OperationJournal) (sequence : ℤ) (recordMac : String) : FileOp Unit := do
  openExclusive Files.head (fun file s => { s with head := file })
    ⟨journalError, "Operation journal head already exists or is unsafe: " ++ journal.headPath⟩
  let _ ← effect (journal.headText sequence recordMac) fun data s =>
    { s with head := appendTo s.head data }
  fsync

/-- The new head is written to the temporary file of the process, which then replaces the head. -/
def replaceHead (journal : OperationJournal) (pid : ℕ) (sequence : ℤ) (recordMac : String) :
    FileOp Unit := do
  openExclusive (fun s => s.temp pid) (fun file s => { s with temp := Function.update s.temp pid file })
    (osError "FileExistsError" "File exists")
  let _ ← effect (journal.headText sequence recordMac) fun data s =>
    { s with temp := Function.update s.temp pid (appendTo (s.temp pid) data) }
  fsync
  let _ ← effect [] fun _ s => { s with head := s.temp pid, temp := Function.update s.temp pid none }

/-- `_write_head(…, create=False)`. -/
def writeHead (journal : OperationJournal) (pid : ℕ) (sequence : ℤ) (recordMac : String) :
    FileOp Unit := do
  look fun s => demand (s.head.map File.symlink ≠ some true) journalError
    "Operation journal head must not be a symbolic link"
  let result ← (journal.replaceHead pid sequence recordMac).attempt
  -- the temporary file is removed in any case
  let _ ← effect [] fun _ s => { s with temp := Function.update s.temp pid none }
  ofExcept result

/-- What `append` is asked to record. -/
structure AppendRequest where
  operationId : String
  state : DurableOperationState
  transactionState : AdministrativeTransactionState
  mutationIndex : ℤ
  timestamp : String
  recoveryAction : Option RecoveryAction

/-- The record that a request adds after the previous one. -/
def candidate (journal : OperationJournal) (previous : JournalRecord) (request : AppendRequest) :
    JournalRecord :=
  journal.authenticated {
    sequence := previous.sequence + 1
    binding := previous.binding
    state := request.state
    transactionState := request.transactionState
    mutationIndex := request.mutationIndex
    recoveryAction := request.recoveryAction
    timestamp := request.timestamp
    previousMac := previous.mac
    mac := "" }

omit [Conversions] in
/-- The checks of `append` on the snapshot it loaded; the new record. -/
def admitRecord (journal : OperationJournal) (records : List JournalRecord) (request : AppendRequest) :
    Except Error JournalRecord :=
  match records.getLast? with
  | none => fail (.other "IndexError") "tuple index out of range"
  | some previous => do
    demand (request.operationId = previous.binding.operationId) journalError
      "Operation id does not match the durable journal"
    let record := journal.candidate previous request
    validateTransition previous record
    .ok record

omit [Platform] [Conversions] in
/-- Open the journal for appending, without following a link. -/
def openForAppend (journal : OperationJournal) (s : Files) : Except Error Unit :=
  match s.journal with
  | some file =>
    if file.symlink then refuse "Operation journal could not be opened securely for append"
    else do
      let _ ← readSecure journal.path s.journal maxJournalBytes
      .ok ()
  | none => refuse "Operation journal could not be opened securely for append"

/-- `append`, in the process with a given number. -/
def append (journal : OperationJournal) (pid : ℕ) (request : AppendRequest) :
    FileOp (List JournalRecord) := do
  let records ← look journal.load
  let record ← ofExcept (journal.admitRecord records request)
  look journal.openForAppend
  let line := recordText record ++ [10]
  let written ← effect line fun data s => { s with journal := appendTo s.journal data }
  require (written = line.length) ⟨journalError, "Operation journal append was incomplete"⟩
  fsync
  journal.writeHead pid record.sequence record.mac
  fsync
  return records ++ [record]

/-- The parts of `urlsplit(origin)` that are checked. -/
structure SplitOrigin where
  scheme : String
  hostname : Option String
  username : Option String
  password : Option String

omit [Platform] [Conversions] in
/-- `_validate_parent`. -/
def validateParent (journal : OperationJournal) (s : Files) : Except Error Unit :=
  match s.parent with
  | none => refuse ("Operation journal directory is unavailable: " ++ journal.parentPath)
  | some parent => demand (parent.directory = true ∧ parent.owned = true ∧ parent.shared = false)
      journalError ("Operation journal directory is not owner-controlled: " ++ journal.parentPath)

omit [Platform] [Conversions] in
/-- The checks of `create` on a binding. -/
def validateBinding (split : String → Except Error SplitOrigin) (binding : OperationBinding) :
    Except Error Unit := do
  demand (binding.operationId ≠ "" ∧ binding.targetIdentity ≠ "" ∧ binding.targetOrigin ≠ "" ∧
    binding.accountIdentity ≠ "") journalError
    "Operation binding contains an empty identity field"
  demand ((binding.accountIdentity, binding.approvedProfile) ∈
    [("pfsense-mcp", "write_protected"), ("pfsense-mcp-readonly", "read_only")]) journalError
    "Operation binding is outside the fixed ADR-033 account/profile scope"
  demand (binding.startingAuthMethods = ["KeyAuth"]) journalError
    "Operation binding must start from exact KeyAuth-only state"
  let origin ← split binding.targetOrigin
  demand (origin.scheme = "https" ∧ (origin.hostname ≠ none ∧ origin.hostname ≠ some "") ∧
    (origin.username = none ∨ origin.username = some "") ∧
    (origin.password = none ∨ origin.password = some "")) journalError
    "Operation target origin must be an HTTPS origin without credentials"

/-- The first record of a journal. -/
def firstRecord (journal : OperationJournal) (binding : OperationBinding) (timestamp : String) :
    JournalRecord :=
  journal.authenticated {
    sequence := 0
    binding := binding
    state := .created
    transactionState := .notStarted
    mutationIndex := 0
    recoveryAction := none
    timestamp := timestamp
    previousMac := zeroMac
    mac := "" }

/-- `create`. -/
def create (journal : OperationJournal) (split : String → Except Error SplitOrigin)
    (binding : OperationBinding) (timestamp : String) : FileOp (List JournalRecord) := do
  look journal.validateParent
  ofExcept (validateBinding split binding)
  let record := journal.firstRecord binding timestamp
  openExclusive Files.journal (fun file s => { s with journal := file })
    ⟨journalError, "Operation journal already exists or is unsafe: " ++ journal.path⟩
  fchmod
  let _ ← effect (recordText record ++ [10]) fun data s =>
    { s with journal := appendTo s.journal data }
  fsync
  journal.createHead record.sequence record.mac
  fsync
  return [record]

end

end OperationJournal

end Administration
