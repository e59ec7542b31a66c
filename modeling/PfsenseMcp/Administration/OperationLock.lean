import Mathlib.Data.Nat.Notation
import Mathlib.Tactic.SplitIfs
import PfsenseMcp.Administration.OperationJournal

/-!
# The operation lock and the classification of a restart

The metadata of `ExclusiveOperationLock`, what `inspect` makes of a lock file, and
`classify_restart`, of `security_operation_journal.py`.
-/

namespace Administration

open Python Tier1

/-! ### Lock metadata -/

/-- `OperationLockError`. -/
def lockError : ErrorClass := .other "OperationLockError"

/-- `_LOCK_DOMAIN`. -/
def lockDomain : Bytes := Bytes.encodeUtf8 "pfsense-mcp-adr033-operation-lock-v1" ++ [0]

/-- The metadata of a lock, as far as it is looked at. -/
structure LockMetadata where
  operationId : Json
  active : Json

/-- `existing.get("active") is True`. -/
def LockMetadata.isActive (metadata : LockMetadata) : Bool :=
  match metadata.active with
  | .bool active => active
  | _ => false

/-- Whether a text of a number is zero. -/
def isZeroText (text : String) : Bool :=
  (text.toList.takeWhile fun c => c ≠ 'e' ∧ c ≠ 'E').all fun c => c = '0' ∨ c = '.' ∨ c = '-'

/-- The truth value of what `json.loads` returns. -/
def isTruthy : Json → Bool
  | .null => false
  | .bool b => b
  | .int n => n ≠ 0
  | .float text => !isZeroText text
  | .str text => text ≠ ""
  | .arr items => !items.isEmpty
  | .obj fields => !fields.isEmpty

/-- The fields that are authenticated. -/
def lockFields (operationId timestamp : String) (active : Bool) : List (String × Json) :=
  [("operation_id", .str operationId), ("active", .bool active), ("timestamp", .str timestamp)]

section

variable [Platform]

/-- The authentication code of lock metadata. -/
def lockMac (key : Bytes) (fields : List (String × Json)) : String :=
  Platform.hmacSha256 key (lockDomain ++ canonical (.obj fields))

/-- What `_write_metadata` writes. -/
def lockText (key : Bytes) (operationId timestamp : String) (active : Bool) : Bytes :=
  let fields := lockFields operationId timestamp active
  canonical (.obj (fields ++ [("mac", .str (lockMac key fields))])) ++ [10]

variable [Conversions]

/-- The error of `_read_metadata`. -/
def malformedMetadata {α : Type} : Except Error α :=
  fail lockError "Operation lock metadata is malformed or unauthenticated"

/-- `_read_metadata`. -/
def readMetadata (key raw : Bytes) : Except Error (Option LockMetadata) :=
  let raw := raw.take (maxMetadataBytes + 1)
  if raw = [] then .ok none
  else match Bytes.decodeUtf8 raw >>= Json.parse with
    | some (.obj fields) =>
      if hasExactFields fields ["operation_id", "active", "timestamp", "mac"] then
        match getField fields "operation_id", getField fields "active", getField fields "mac" with
        | some operationId, some active, some mac =>
          match compareDigest (Conversions.str mac)
            (lockMac key (fields.filter fun field => field.1 ≠ "mac")) with
          | .ok true => .ok (some ⟨operationId, active⟩)
          | _ => malformedMetadata
        | _, _, _ => malformedMetadata
      else malformedMetadata
    | _ => malformedMetadata

end

/-! ### Observations -/

/-- `LockState`. -/
inductive LockState where
  | absent
  | released
  | activeHeld
  | activeStale
  | corrupt
deriving DecidableEq, Repr

/-- `LockObservation`. -/
structure LockObservation where
  state : LockState
  operationId : Option String := none
deriving DecidableEq

/-- `inspect`, on a lock file that another process holds or not. -/
def inspect [Platform] [Conversions] (key : Bytes) (lockPath : String) (file : Option File)
    (held : Bool) : LockObservation :=
  if file = none then ⟨.absent, none⟩
  else match readSecure lockPath file maxMetadataBytes with
    | .error _ => ⟨.corrupt, none⟩
    | .ok raw =>
      match readMetadata key raw with
      | .error _ => ⟨.corrupt, none⟩
      | .ok metadata =>
        if held then ⟨.activeHeld, metadata.map fun m => Conversions.str m.operationId⟩
        else match metadata with
          | none => ⟨.corrupt, none⟩
          | some m =>
            ⟨if isTruthy m.active then .activeStale else .released,
              some (Conversions.str m.operationId)⟩

/-- `LocalArtifactObservation`. -/
structure LocalArtifactObservation where
  trusted : Bool
  keyCustodyPresent : Bool := false
deriving DecidableEq

/-- `AuthoritativeServerState`. -/
inductive AuthoritativeServerState where
  | clean
  | expectedPartial
  | expectedCompleted
  | unknown
deriving DecidableEq, Repr

/-- `AuthoritativeRestartObservation`. -/
structure AuthoritativeRestartObservation where
  targetIdentity : String
  targetOrigin : String
  accountIdentity : String
  approvedProfile : String
  schemaVersion : String
  schemaEvidenceDigest : String
  authMethods : List String
  serverState : AuthoritativeServerState
  finalVerificationComplete : Bool := false
  applicableRecovery : Option RecoveryAction := none
deriving DecidableEq

/-- The observation is about the target, account, profile and schema of a binding. -/
def AuthoritativeRestartObservation.Matches (a : AuthoritativeRestartObservation)
    (binding : OperationBinding) : Prop :=
  a.targetIdentity = binding.targetIdentity ∧ a.targetOrigin = binding.targetOrigin ∧
    a.accountIdentity = binding.accountIdentity ∧ a.approvedProfile = binding.approvedProfile ∧
    a.schemaVersion = binding.schemaVersion ∧
    a.schemaEvidenceDigest = binding.schemaEvidenceDigest ∧
    a.authMethods = binding.startingAuthMethods

instance (a : AuthoritativeRestartObservation) (binding : OperationBinding) :
    Decidable (a.Matches binding) := by
  unfold AuthoritativeRestartObservation.Matches
  infer_instance

/-! ### Classification -/

/-- `RestartClassification`. -/
inductive RestartClassification where
  | cleanNoOperation
  | cleanCompleted
  | preSendResumable
  | mutationSentResultUnknown
  | partialServerState
  | recoveryRequired
  | completedNeedsFinalVerification
  | corruptOrUntrustedLocalState
deriving DecidableEq, Repr

/-- The value of a classification. -/
def RestartClassification.value : RestartClassification → String
  | cleanNoOperation => "clean_no_operation"
  | cleanCompleted => "clean_completed"
  | preSendResumable => "pre_send_resumable"
  | mutationSentResultUnknown => "mutation_sent_result_unknown"
  | partialServerState => "partial_server_state"
  | recoveryRequired => "recovery_required"
  | completedNeedsFinalVerification => "completed_needs_final_verification"
  | corruptOrUntrustedLocalState => "corrupt_or_untrusted_local_state"

/-- `RestartDecision`. -/
structure RestartDecision where
  classification : RestartClassification
  operationId : Option String
  recoveryAction : Option RecoveryAction := none
deriving DecidableEq

/-- The end of `classify_restart`, for a journal with matching authoritative evidence. -/
def classifyLatest (latest : JournalRecord) (a : AuthoritativeRestartObservation) :
    RestartDecision :=
  let operationId := some latest.binding.operationId
  match latest.state with
  | .completed =>
    if a.finalVerificationComplete = true ∧ a.serverState = .expectedCompleted then
      ⟨.cleanCompleted, operationId, none⟩
    else ⟨.completedNeedsFinalVerification, operationId, none⟩
  | .created | .preSendReady =>
    if a.serverState = .clean then ⟨.preSendResumable, operationId, none⟩
    else ⟨.partialServerState, operationId, a.applicableRecovery⟩
  | .mutationIntentRecorded | .mutationResultUnknown =>
    ⟨.mutationSentResultUnknown, operationId, none⟩
  | .finalVerificationPending => ⟨.completedNeedsFinalVerification, operationId, none⟩
  | .serverStatePartial => ⟨.partialServerState, operationId, a.applicableRecovery⟩
  | .recoveryRequired => ⟨.recoveryRequired, operationId, latest.recoveryAction⟩

/-- `classify_restart`, on the last record of the journal. -/
def classifyRestart (journal : Option JournalRecord) (journalTrusted : Bool)
    (lock : LockObservation) (artifacts : LocalArtifactObservation)
    (authoritative : Option AuthoritativeRestartObservation) : RestartDecision :=
  if journalTrusted = false ∨ artifacts.trusted = false ∨ lock.state = .corrupt then
    ⟨.corruptOrUntrustedLocalState, none, none⟩
  else match journal with
    | none =>
      if (lock.state ≠ .absent ∧ lock.state ≠ .released) ∨ artifacts.keyCustodyPresent = true then
        ⟨.corruptOrUntrustedLocalState, lock.operationId, none⟩
      else ⟨.cleanNoOperation, none, none⟩
    | some latest =>
      let operationId := some latest.binding.operationId
      if lock.operationId ≠ none ∧ lock.operationId ≠ operationId then
        ⟨.corruptOrUntrustedLocalState, operationId, none⟩
      else if lock.state = .activeHeld then ⟨.recoveryRequired, operationId, latest.recoveryAction⟩
      else match authoritative with
        | none => ⟨.recoveryRequired, operationId, latest.recoveryAction⟩
        | some a =>
          if ¬a.Matches latest.binding then
            ⟨.recoveryRequired, operationId, latest.recoveryAction⟩
          else classifyLatest latest a

/-- A journal is never classified as clean. -/
theorem classifyLatest_ne (latest : JournalRecord) (a : AuthoritativeRestartObservation) :
    (classifyLatest latest a).classification ≠ .cleanNoOperation := by
  unfold classifyLatest
  cases latest.state with
  | completed =>
    dsimp only
    split_ifs <;> exact nofun
  | created =>
    dsimp only
    split_ifs <;> exact nofun
  | preSendReady =>
    dsimp only
    split_ifs <;> exact nofun
  | _ => exact nofun

/-- What is seen in a namespace without an operation. -/
theorem artifacts_of_clean {journal : Option JournalRecord} {trusted : Bool}
    {lock : LockObservation} {artifacts : LocalArtifactObservation}
    {authoritative : Option AuthoritativeRestartObservation}
    (h : (classifyRestart journal trusted lock artifacts authoritative).classification =
      .cleanNoOperation) :
    journal = none ∧ artifacts.trusted = true ∧ artifacts.keyCustodyPresent = false := by
  unfold classifyRestart at h
  by_cases hcorrupt : trusted = false ∨ artifacts.trusted = false ∨ lock.state = .corrupt
  · rw [if_pos hcorrupt] at h
    cases h
  rw [if_neg hcorrupt] at h
  have htrusted : artifacts.trusted = true := by
    cases hartifacts : artifacts.trusted with
    | true => rfl
    | false => exact absurd (.inr (.inl hartifacts)) hcorrupt
  cases journal with
  | none =>
    refine ⟨rfl, htrusted, ?_⟩
    cases hpresent : artifacts.keyCustodyPresent with
    | false => rfl
    | true =>
      dsimp only at h
      rw [if_pos (.inr hpresent)] at h
      cases h
  | some latest =>
    exfalso
    dsimp only at h
    by_cases hid : lock.operationId ≠ none ∧ lock.operationId ≠ some latest.binding.operationId
    · rw [if_pos hid] at h
      cases h
    rw [if_neg hid] at h
    by_cases hheld : lock.state = .activeHeld
    · rw [if_pos hheld] at h
      cases h
    rw [if_neg hheld] at h
    cases authoritative with
    | none => cases h
    | some a =>
      dsimp only at h
      by_cases hmatches : a.Matches latest.binding
      · rw [if_neg (not_not.2 hmatches)] at h
        exact classifyLatest_ne latest a h
      · rw [if_pos hmatches] at h
        cases h

/-- A lock with the metadata of another operation is not trusted. -/
theorem corrupt_of_mismatch {latest : JournalRecord} {trusted : Bool} {lock : LockObservation}
    {operationId : String} (hlock : lock.operationId = some operationId)
    (hne : operationId ≠ latest.binding.operationId) (artifacts : LocalArtifactObservation)
    (authoritative : Option AuthoritativeRestartObservation) :
    (classifyRestart (some latest) trusted lock artifacts authoritative).classification =
      .corruptOrUntrustedLocalState := by
  unfold classifyRestart
  by_cases hcorrupt : trusted = false ∨ artifacts.trusted = false ∨ lock.state = .corrupt
  · rw [if_pos hcorrupt]
  · rw [if_neg hcorrupt, hlock]
    dsimp only
    rw [if_pos ⟨Option.some_ne_none _, fun h => hne (Option.some.inj h)⟩]

/-! ### Metadata read back -/

section

variable [Platform] {key : Bytes}

omit [Platform] in
theorem sortKeys_lockFields (operationId timestamp : String) (active : Bool) :
    Json.sortKeys (.obj (lockFields operationId timestamp active)) =
      .obj [("active", .bool active), ("operation_id", .str operationId),
        ("timestamp", .str timestamp)] := by
  simp [lockFields, Json.sortKeys, Json.sortFields, Json.insertField, Json.keyLt]

omit [Platform] in
theorem sortKeys_lockText (operationId timestamp code : String) (active : Bool) :
    Json.sortKeys (.obj (lockFields operationId timestamp active ++ [("mac", .str code)])) =
      .obj [("active", .bool active), ("mac", .str code), ("operation_id", .str operationId),
        ("timestamp", .str timestamp)] := by
  simp [lockFields, Json.sortKeys, Json.sortFields, Json.insertField, Json.keyLt]

/-- The code does not depend on the order of the fields. -/
theorem lockMac_sorted (operationId timestamp : String) (active : Bool) :
    lockMac key [("active", .bool active), ("operation_id", .str operationId),
      ("timestamp", .str timestamp)] = lockMac key (lockFields operationId timestamp active) := by
  rw [lockMac, lockMac, canonical, canonical, sortKeys_lockFields]
  simp [Json.sortKeys, Json.sortFields, Json.insertField, Json.keyLt]

theorem lockText_ne_nil (operationId timestamp : String) (active : Bool) :
    lockText key operationId timestamp active ≠ [] :=
  List.append_ne_nil_of_right_ne_nil _ (List.cons_ne_nil _ _)

variable [Conversions]

/-- Written metadata is read back, unless it is too long. -/
theorem readMetadata_lockText {operationId timestamp : String} {active : Bool}
    (h : (lockText key operationId timestamp active).length ≤ maxMetadataBytes) :
    readMetadata key (lockText key operationId timestamp active) =
      .ok (some ⟨.str operationId, .bool active⟩) := by
  let code := lockMac key (lockFields operationId timestamp active)
  have htext : lockText key operationId timestamp active = Bytes.encodeUtf8 (String.ofList
      (Json.dumpValue false (.obj [("active", .bool active), ("mac", .str code),
        ("operation_id", .str operationId), ("timestamp", .str timestamp)]) ++ ['\n'])) := by
    rw [lockText, canonical, sortKeys_lockText, Json.dumps, String.ofList_append]
    simp only [Bytes.encodeUtf8, String.toByteArray_append, ByteArray.data_append,
      Array.toList_append]
    rfl
  have hplain : Json.plain (.obj [("active", .bool active), ("mac", .str code),
      ("operation_id", .str operationId), ("timestamp", .str timestamp)]) = true := rfl
  have hdistinct : Json.Distinct (.obj [("active", .bool active), ("mac", .str code),
      ("operation_id", .str operationId), ("timestamp", .str timestamp)]) := by
    simp [Json.Distinct, Json.DistinctFields]
  have hhex : isHex64 code = true := Platform.isHex64_hmacSha256 _ _
  rw [readMetadata, List.take_of_length_le (Nat.le_succ_of_le h)]
  rw [if_neg (lockText_ne_nil _ _ _), htext, Bytes.decodeUtf8_encodeUtf8, Option.bind_eq_bind,
    Option.bind_some, Json.parse, Json.loads_dumps_append false hplain rfl, Option.map_some,
    Json.asDict_of_distinct _ hdistinct]
  simp [hasExactFields, getField, List.lookup_cons, Conversions.str_str, lockMac_sorted,
    compareDigest_of_isHex64 hhex hhex, code]

/-- A lock that was released. -/
theorem inspect_lockText {lockPath operationId timestamp : String} {file : File}
    (hsound : file.symlink = false ∧ file.regular = true ∧ file.owned = true ∧ file.shared = false)
    (hcontent : file.content = lockText key operationId timestamp false)
    (h : file.content.length ≤ maxMetadataBytes) :
    inspect key lockPath (some file) false = ⟨.released, some operationId⟩ := by
  have hread : readSecure lockPath (some file) maxMetadataBytes = .ok file.content := by
    obtain ⟨h₁, h₂, h₃, h₄⟩ := hsound
    simp only [readSecure, demand_of h₁, demand_of h₂, demand_of h₃, demand_of h₄, demand_of h,
      ok_bind]
  rw [hcontent] at h hread
  simp only [inspect, hread, readMetadata_lockText h, Conversions.str_str, isTruthy]
  rfl

end

end Administration
