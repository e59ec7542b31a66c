import Mathlib.Data.Nat.Notation
import Mathlib.Logic.Function.Basic
import PfsenseMcp.Administration.OperationLock

/-!
# One bootstrap attempt

`run_bootstrap` of `security_bootstrap_orchestration.py` on the local state of one namespace: the
journal with its head, the lock and the custody file of the service key. Every effect is a step of
its own. A process may die before any of its steps, or in the middle of a write; a `flock` ends
with the process that holds it.

The trace records the creation of the journal, the calls of the engine and the results that were
returned, with the number of the call. No call reads it.
-/

namespace Administration

open Python Concurrency Procedure Tier1

/-! ### Results -/

/-- `ProvisioningOutcome`. -/
inductive ProvisioningOutcome where
  | alreadySatisfied
  | alreadySatisfiedWithExtraPrivileges
  | privilegesSynced
  | completed
  | blockedExistingPartial
  | derivationFailed
  | failed
deriving DecidableEq, Repr

/-- `_CLEAN_SUCCESS_OUTCOMES`. -/
def cleanSuccessOutcomes : List ProvisioningOutcome :=
  [.alreadySatisfied, .alreadySatisfiedWithExtraPrivileges, .privilegesSynced, .completed]

/-- `ProvisioningResult`, as far as `run_bootstrap` reads it. -/
structure ProvisioningResult where
  outcome : ProvisioningOutcome
  detail : String
  /-- The value of the state of the transaction, if there is one. -/
  transaction : Option String
  /-- The secret of the key that was made. -/
  apiKey : Option String
deriving DecidableEq

/-- `PfRestReadOnlyStatus`. -/
inductive PfRestReadOnlyStatus where
  | writable
  | blockedReadOnly
  | blockedUnverifiable
deriving DecidableEq, Repr

/-- `BootstrapOrchestrationOutcome`, without the one that is returned before `run_bootstrap`. -/
inductive BootstrapOutcome where
  | alreadyComplete
  | completed
  | blockedLockContention
  | blockedPriorOperation
  | blockedCorruptLocalState
  | preflightDerivationFailed
  | blockedReadOnlyMode
  | provisioningFailed
deriving DecidableEq, Repr

/-- `BootstrapOrchestrationResult`. -/
structure BootstrapResult where
  outcome : BootstrapOutcome
  detail : String
  operationId : Option String := none
  restartDecision : Option RestartDecision := none
  provisioningOutcome : Option ProvisioningOutcome := none
  provisioningDetail : Option String := none
deriving DecidableEq

/-! ### The local state -/

/-- An observable step of a run. -/
inductive BootstrapEvent where
  /-- The journal was created. -/
  | created (call : ℕ)
  /-- `bootstrap_call` was invoked, for an operation. -/
  | engine (call : ℕ) (operationId : String)
  /-- `run_bootstrap` returned. -/
  | returned (call : ℕ) (result : BootstrapResult)
deriving DecidableEq

/-- The call that made an event. -/
def BootstrapEvent.call : BootstrapEvent → ℕ
  | created call | engine call _ | returned call _ => call

/-- What the calls on one namespace share. -/
structure LocalState where
  /-- The journal, its head, and their directory. -/
  files : Files
  /-- The lock file. -/
  lock : Option File
  /-- The call that holds the `flock`. -/
  holder : Option ℕ
  /-- The custody file of the service key. -/
  custody : Option File
  /-- The calls whose process has died. -/
  dead : ℕ → Bool
  trace : List BootstrapEvent

namespace LocalState

/-- A live process holds the `flock`. -/
def held (s : LocalState) : Bool := s.holder.any fun call => !s.dead call

/-- An event is recorded. -/
def record (s : LocalState) (event : BootstrapEvent) : LocalState :=
  { s with trace := s.trace ++ [event] }

/-- The process of a call dies. -/
def kill (s : LocalState) (call : ℕ) : LocalState :=
  { s with dead := Function.update s.dead call true }

/-- The content of the lock file is replaced. -/
def setLock (s : LocalState) (content : Bytes) : LocalState :=
  { s with lock := s.lock.map fun file => { file with content := content } }

end LocalState

/-- What the environment answers at a step. -/
structure BootstrapAnswers where
  /-- How a call of the operating system ends. -/
  answer : OperationJournal.Answer
  /-- Another process inspects the lock at this moment. -/
  contended : Bool
  /-- `operation_id_factory()`. -/
  operationId : String
  /-- `now()`. -/
  now : String
  /-- `check_pfrest_read_only_call()`. -/
  readOnly : PfRestReadOnlyStatus
  /-- `bootstrap_call()`. -/
  engine : Except Error ProvisioningResult

/-- Code on the local state. -/
abbrev BootstrapOp := Procedure LocalState BootstrapAnswers Error

/-- The end of a process that has died; no handler catches it. -/
def killed : Error := ⟨.other "SIGKILL", "Killed"⟩

/-- One step of a call, unless its process has died. -/
def step {α : Type} (call : ℕ)
    (f : BootstrapAnswers → LocalState → LocalState × Except Error α) : BootstrapOp α :=
  .atom (fun i s => if s.dead call then s else (f i s).1) fun i s =>
    if s.dead call then .raise killed else ofExcept (f i s).2

/-- A step that changes nothing. -/
def observe {α : Type} (call : ℕ) (f : BootstrapAnswers → LocalState → Except Error α) :
    BootstrapOp α :=
  step call fun i s => (s, f i s)

/-- A call of the operating system with an effect, which may fail. -/
def system (call : ℕ) (f : LocalState → LocalState) : BootstrapOp Unit :=
  step call fun i s =>
    if i.answer.failed then (s, .error (OperationJournal.osError "OSError" "Input/output error"))
    else (f s, .ok ())

/-- A write of some data, which may fail. A write that is not complete is the last thing that its
process does. -/
def write (call : ℕ) (data : Bytes) (put : Bytes → LocalState → LocalState) : BootstrapOp Unit :=
  step call fun i s =>
    if i.answer.failed then (s, .error (OperationJournal.osError "OSError" "Input/output error"))
    else match i.answer.written with
      | some n => ((put (data.take n) s).kill call, .error killed)
      | none => (put data s, .ok ())

/-- The record that the journal was created, if it was. -/
def creation (call : ℕ) (before after : Files) : List BootstrapEvent :=
  if before.journal = none ∧ after.journal ≠ none then [.created call] else []

/-- Code on the files of the journal. A write that is not complete is the last thing that its
process does. -/
def onFiles {α : Type} (call : ℕ) : OperationJournal.FileOp α → BootstrapOp α
  | .ret a => .ret a
  | .raise e => .raise e
  | .atom u k => .atom
    (fun i s =>
      if s.dead call then s
      else
        let files := u i.answer s.files
        let s' := { s with files, trace := s.trace ++ creation call s.files files }
        if i.answer.written.isSome then s'.kill call else s')
    fun i s =>
      if s.dead call ∨ i.answer.written.isSome then .raise killed
      else onFiles call (k i.answer s.files)

/-- A `try` block: an exception becomes a value, except for the end of the process. -/
def catching {α : Type} (p : BootstrapOp α) : BootstrapOp (Except Error α) := do
  let result ← p.attempt
  match result with
  | .ok a => return .ok a
  | .error e => if e = killed then .raise e else return .error e

/-- The call returns a result. -/
def returns (call : ℕ) (result : BootstrapResult) : BootstrapOp Unit :=
  step call fun _ s => (s.record (.returned call result), .ok ())

/-- `now()`. -/
def now (call : ℕ) : BootstrapOp String := observe call fun i _ => .ok i.now

/-! ### The context -/

/-- `AdminTargetBinding`. -/
structure AdminTargetBinding where
  targetOrigin : String
  targetIdentity : String
  accountIdentity : String
  approvedProfile : String
  schemaVersion : String
  schemaEvidenceDigest : String
deriving DecidableEq

/-- `AdministrativeContext`; the journal and the lock have one directory and one key. -/
structure AdministrativeContext where
  binding : AdminTargetBinding
  journal : OperationJournal
  lockPath : String
  serviceApiKeyFile : String
  /-- `urlsplit`, on an origin. -/
  split : String → Except Error OperationJournal.SplitOrigin

/-- `_MAX_SECRET_BYTES`. -/
def maxSecretBytes : ℕ := 16 * 1024

namespace AdministrativeContext

/-- `new_operation_binding`, for a bootstrap. -/
def newOperationBinding (context : AdministrativeContext) (operationId : String) :
    OperationBinding where
  operationId := operationId
  operationType := .bootstrap
  targetIdentity := context.binding.targetIdentity
  targetOrigin := context.binding.targetOrigin
  accountIdentity := context.binding.accountIdentity
  approvedProfile := context.binding.approvedProfile
  schemaVersion := context.binding.schemaVersion
  schemaEvidenceDigest := context.binding.schemaEvidenceDigest
  startingAuthMethods := ["KeyAuth"]

/-- Whether a record is about the target, account, profile and schema of the context. -/
def trusts (context : AdministrativeContext) (record : JournalRecord) : Bool :=
  record.binding.targetOrigin = context.binding.targetOrigin ∧
    record.binding.targetIdentity = context.binding.targetIdentity ∧
    record.binding.accountIdentity = context.binding.accountIdentity ∧
    record.binding.approvedProfile = context.binding.approvedProfile ∧
    record.binding.schemaVersion = context.binding.schemaVersion ∧
    record.binding.schemaEvidenceDigest = context.binding.schemaEvidenceDigest ∧
    record.binding.startingAuthMethods = ["KeyAuth"]

/-- `_observe_local_artifacts`. -/
def observeLocalArtifacts (context : AdministrativeContext) (custody : Option File) :
    LocalArtifactObservation :=
  if custody = none then ⟨true, false⟩
  else match readSecure context.serviceApiKeyFile custody maxSecretBytes with
    | .error _ => ⟨false, false⟩
    | .ok _ => ⟨true, true⟩

end AdministrativeContext

/-! ### The lock -/

section

variable [Platform] [Conversions] (context : AdministrativeContext) (call : ℕ)

/-- The error of `acquire` when the lock cannot be taken. -/
def contention : Error :=
  ⟨lockError, "Another ADR-033 administrative operation holds the local lock"⟩

omit [Conversions] in
/-- `_write_metadata`. -/
def writeMetadata (operationId timestamp : String) (active : Bool) : BootstrapOp Unit := do
  system call fun s => s.setLock []
  write call (lockText context.journal.integrityKey operationId timestamp active)
    fun data s => s.setLock data
  system call id

omit [Platform] [Conversions] in
/-- `os.open` with `O_CREAT`. -/
def openLock : BootstrapOp Unit :=
  step call fun i s =>
    if i.answer.failed then (s, .error contention)
    else ({ s with lock := some (s.lock.getD (.created [])) }, .ok ())

omit [Platform] [Conversions] in
/-- `validate_descriptor`. -/
def validateLock : BootstrapOp Unit :=
  observe call fun _ s =>
    match readSecure context.lockPath s.lock maxMetadataBytes with
    | .error _ => .error contention
    | .ok _ => .ok ()

omit [Platform] [Conversions] in
/-- `flock(LOCK_EX | LOCK_NB)`. -/
def flockLock : BootstrapOp Unit :=
  step call fun i s =>
    if i.answer.failed ∨ i.contended ∨ s.held then (s, .error contention)
    else ({ s with holder := some call }, .ok ())

omit [Platform] [Conversions] in
/-- `flock(LOCK_UN)` and `os.close`. -/
def unlock : BootstrapOp Unit := step call fun _ s => ({ s with holder := none }, .ok ())

/-- `_read_metadata`, on the lock that is held. -/
def readLock : BootstrapOp (Option LockMetadata) :=
  observe call fun i s =>
    if i.answer.failed then .error (OperationJournal.osError "OSError" "Input/output error")
    else readMetadata context.journal.integrityKey ((s.lock.map File.content).getD [])

/-- `ExclusiveOperationLock.acquire`. -/
def acquire (operationId timestamp : String) : BootstrapOp Unit := do
  require (operationId ≠ "") ⟨lockError, "Operation id must not be empty"⟩
  observe call fun _ s => context.journal.validateParent s.files
  openLock call
  validateLock context call
  flockLock call
  let existing ← readLock context call
  if existing.any LockMetadata.isActive then do
    unlock call
    .raise ⟨lockError, "Stale or ambiguous active lock metadata requires restart classification"⟩
  else writeMetadata context call operationId timestamp true

omit [Conversions] in
/-- `ExclusiveOperationLock.release`, after which the call returns a result: the last two are one
step. -/
def releaseAndReturn (operationId timestamp : String) (result : BootstrapResult) :
    BootstrapOp Unit := do
  writeMetadata context call operationId timestamp false
  step call fun _ s =>
    ({ s with holder := none, trace := s.trace ++ [.returned call result] }, .ok ())

/-! ### Classification -/

/-- `_load_bound_journal`: the last record, and whether it is trusted. The journal and the head are
read one after the other. -/
def loadBoundJournal : BootstrapOp (Option JournalRecord × Bool) := do
  let first ← observe call fun _ s => .ok s.files
  if first.journal = none then return (none, true)
  else do
    let second ← observe call fun _ s => .ok s.files
    match context.journal.load { first with head := second.head } with
    | .error e => if e.cls = journalError then return (none, false) else .raise e
    | .ok records =>
      match records.getLast? with
      | some latest => return (some latest, context.trusts latest)
      | none => .raise ⟨.other "IndexError", "tuple index out of range"⟩

/-- `AdministrativeStatusService.classify`. -/
def classify (authoritative : Option AuthoritativeRestartObservation) :
    BootstrapOp RestartDecision := do
  let (latest, trusted) ← loadBoundJournal context call
  let lock ← observe call fun i s =>
    .ok (inspect context.journal.integrityKey context.lockPath s.lock (i.contended || s.held))
  let artifacts ← observe call fun _ s => .ok (context.observeLocalArtifacts s.custody)
  return classifyRestart latest trusted lock artifacts authoritative

/-! ### The attempt -/

omit [Platform] [Conversions] in
/-- `_derive_transaction_state`. -/
def deriveTransactionState (result : ProvisioningResult) : AdministrativeTransactionState :=
  match result.transaction with
  | some value => (AdministrativeTransactionState.ofValue value).getD .notStarted
  | none => if result.outcome ∈ cleanSuccessOutcomes then .verified else .notStarted

/-- `BootstrapOrchestrationError`. -/
def orchestrationError : ErrorClass := .other "BootstrapOrchestrationError"

omit [Platform] [Conversions] in
/-- `_write_custody_key_exclusive`: an incomplete file is removed. -/
def writeCustodyKeyExclusive (value : Bytes) : BootstrapOp Unit := do
  let path := context.serviceApiKeyFile
  step call fun i s =>
    if i.answer.failed ∨ s.custody ≠ none then
      (s, fail orchestrationError ("secure custody file could not be created: " ++ path))
    else ({ s with custody := some (.created []) }, .ok ())
  let result ← catching do
    write call value fun data s => { s with custody := OperationJournal.appendTo s.custody data }
    system call id
  match result with
  | .ok () => return ()
  | .error e => do
    let _ ← catching (system call fun s => { s with custody := none })
    .raise e

omit [Platform] [Conversions] in
/-- `_persist_service_api_key`. -/
def persistServiceApiKey (apiKey : String) : BootstrapOp Unit := do
  let result ← catching (writeCustodyKeyExclusive context call (Bytes.encodeUtf8 apiKey))
  match result with
  | .ok () => return ()
  | .error e =>
    if e.cls = orchestrationError then
      .raise ⟨orchestrationError, "Provisioning succeeded but the generated service API key could " ++
        "not be persisted to its custody path; treat this as a completed-but-unrecorded key and " ++
        "follow manual recovery guidance."⟩
    else .raise e

omit [Platform] [Conversions] in
/-- A key that was generated for a new account is persisted. -/
def persistGeneratedKey (result : ProvisioningResult) : BootstrapOp Unit :=
  match result.outcome, result.apiKey with
  | .completed, some apiKey => persistServiceApiKey context call apiKey
  | _, _ => return ()

/-- `context._journal.append`, for the mutation with index 1. -/
def appendState (pid : ℕ) (operationId : String) (state : DurableOperationState)
    (transactionState : AdministrativeTransactionState) : BootstrapOp Unit := do
  let timestamp ← now call
  let _ ← onFiles call (context.journal.append pid
    ⟨operationId, state, transactionState, 1, timestamp, none⟩)

omit [Platform] [Conversions] in
/-- `bootstrap_call()`. -/
def bootstrapCall (operationId : String) : BootstrapOp ProvisioningResult :=
  step call fun i s => (s.record (.engine call operationId), i.engine)

/-- `_READ_ONLY_BLOCKED_DETAIL`. -/
def readOnlyBlockedDetail : String :=
  "WRITE blocked — owner must disable Read Only in WebConfigurator. pfREST reports its global REST " ++
  "API Read Only setting is enabled; pfsense-mcp-server will never disable this automatically. " ++
  "Retry bootstrap once the owner has disabled it."

/-- `_READ_ONLY_UNVERIFIABLE_DETAIL`. -/
def readOnlyUnverifiableDetail : String :=
  "WRITE blocked — pfREST Read Only status could not be authoritatively verified before " ++
  "provisioning; treated as blocked (fail closed). Resolve connectivity/configuration to the " ++
  "target and retry."

/-- `_run_locked` after the call of the engine. -/
def concludeEngine (pid : ℕ) (operationId : String) :
    Except Error ProvisioningResult → BootstrapOp Unit
  | .error e => do
    appendState context call pid operationId .mutationResultUnknown .notStarted
    returns call {
      outcome := .provisioningFailed
      detail := "An unexpected error occurred during provisioning (" ++ e.cls.name ++
        "); the operation lock is held pending manual investigation."
      operationId := some operationId }
  | .ok result =>
    if result.outcome ∈ cleanSuccessOutcomes then do
      persistGeneratedKey context call result
      appendState context call pid operationId .finalVerificationPending
        (deriveTransactionState result)
      appendState context call pid operationId .completed (deriveTransactionState result)
      let timestamp ← now call
      releaseAndReturn context call operationId timestamp {
        outcome := .completed
        detail := result.detail
        operationId := some operationId
        provisioningOutcome := some result.outcome
        provisioningDetail := some result.detail }
    else do
      appendState context call pid operationId .mutationResultUnknown (deriveTransactionState result)
      returns call {
        outcome := if result.outcome = .derivationFailed then .preflightDerivationFailed
          else .provisioningFailed
        detail := result.detail
        operationId := some operationId
        provisioningOutcome := some result.outcome
        provisioningDetail := some result.detail }

/-- `_run_locked`. -/
def runLocked (pid : ℕ) (operationId timestamp : String) : BootstrapOp Unit := do
  let readOnlyStatus ← observe call fun i _ => .ok i.readOnly
  if readOnlyStatus ≠ .writable then do
    let released ← now call
    releaseAndReturn context call operationId released {
      outcome := .blockedReadOnlyMode
      detail := if readOnlyStatus = .blockedReadOnly then readOnlyBlockedDetail
        else readOnlyUnverifiableDetail }
  else do
    let _ ← onFiles call (context.journal.create context.split
      (context.newOperationBinding operationId) timestamp)
    appendState context call pid operationId .preSendReady .notStarted
    appendState context call pid operationId .mutationIntentRecorded .notStarted
    let outcome ← catching (bootstrapCall call operationId)
    concludeEngine context call pid operationId outcome

/-- `run_bootstrap` for a namespace that was classified as clean. -/
def startBootstrap (pid : ℕ) : BootstrapOp Unit := do
  let operationId ← observe call fun i _ => .ok i.operationId
  let timestamp ← now call
  let locked ← catching (acquire context call operationId timestamp)
  match locked with
  | .error e =>
    if e.cls = lockError then
      returns call { outcome := .blockedLockContention, detail := e.message }
    else .raise e
  | .ok () =>
    let ended ← catching (runLocked context call pid operationId timestamp)
    match ended with
    | .error e =>
      -- the lock is not released
      if e.cls = journalError then
        returns call {
          outcome := .blockedCorruptLocalState
          detail := "Operation journal error: " ++ e.message
          operationId := some operationId }
      else .raise e
    | .ok () => return ()

/-- `run_bootstrap`, in the process with a given number. -/
def runBootstrap (pid : ℕ) (authoritative : Option AuthoritativeRestartObservation) :
    BootstrapOp Unit := do
  let decision ← classify context call authoritative
  match decision.classification with
  | .cleanNoOperation => startBootstrap context call pid
  | .cleanCompleted =>
    returns call {
      outcome := .alreadyComplete
      detail := "A prior bootstrap operation for this target/account/profile is already recorded " ++
        "complete."
      operationId := decision.operationId
      restartDecision := some decision }
  | .corruptOrUntrustedLocalState =>
    returns call {
      outcome := .blockedCorruptLocalState
      detail := "Local journal, lock, or custody-artifact state is corrupt or untrusted; refusing " ++
        "to start."
      operationId := decision.operationId
      restartDecision := some decision }
  | classification =>
    returns call {
      outcome := .blockedPriorOperation
      detail := "A prior operation's state (" ++ classification.value ++ ") requires attention " ++
        "before a new bootstrap may start."
      operationId := decision.operationId
      restartDecision := some decision }

end

end Administration
