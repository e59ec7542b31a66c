import PfsenseMcp.Administration.OperationJournal

/-!
# Stopping inside an append

What `load` makes of the files of a journal when a process stopped inside `append`. One append is
two writes to two files, the line of the record and the new head, and `load` insists that they
agree.

## Main results

* `OperationJournal.load_of_reachable`: `load` returns what the last call returned;
* `OperationJournal.load_of_stopped`: after a stop, `load` returns the records before the append if
  nothing of the line was written, refuses the journal if something of it was written and the head
  was not replaced, and returns the records after the append once the head was replaced.
-/

namespace Administration

open Python Concurrency Procedure Tier1

/-! ### Lines -/

/-- What follows a line feed starts a new line. -/
theorem splitLinesFrom_append (rest : Bytes) : ∀ (raw : Bytes) (afterReturn : Bool) (line : Bytes),
    splitLinesFrom afterReturn line (raw ++ 10 :: rest) =
      splitLinesFrom afterReturn line (raw ++ [10]) ++ splitLinesFrom false [] rest := by
  intro raw
  induction raw with
  | nil =>
    intro afterReturn line
    cases afterReturn <;> simp [splitLinesFrom]
  | cons b raw ih =>
    intro afterReturn line
    simp only [List.cons_append, splitLinesFrom, ih]
    split_ifs <;> rfl

/-- A text without line ends is one line. -/
theorem splitLinesFrom_line {text : Bytes} (h : ∀ b ∈ text, 32 ≤ b.toNat) : ∀ line : Bytes,
    splitLinesFrom false line (text ++ [10]) = [line ++ text] := by
  induction text with
  | nil =>
    intro line
    simp [splitLinesFrom]
  | cons b text ih =>
    intro line
    have hb := h b List.mem_cons_self
    have h10 : b ≠ 10 := by rintro rfl; exact absurd hb (by decide)
    have h13 : b ≠ 13 := by rintro rfl; exact absurd hb (by decide)
    rw [List.cons_append, splitLinesFrom, if_neg h10, if_neg h13,
      ih (fun c hc => h c (List.mem_cons_of_mem _ hc))]
    simp

/-- A line added at the end is the last line. -/
theorem splitLines_append {raw text : Bytes} (hraw : raw.getLast? = some 10)
    (htext : ∀ b ∈ text, 32 ≤ b.toNat) :
    splitLines (raw ++ (text ++ [10])) = splitLines raw ++ [text] := by
  obtain ⟨raw, rfl⟩ := List.getLast?_eq_some_iff.mp hraw
  rw [splitLines, List.append_assoc, List.singleton_append, splitLinesFrom_append,
    splitLinesFrom_line htext]
  rfl

theorem length_splitLinesFrom_le : ∀ (raw : Bytes) (afterReturn : Bool) (line : Bytes),
    (splitLinesFrom afterReturn line raw).length ≤ raw.length + line.length := by
  intro raw
  induction raw with
  | nil =>
    intro afterReturn line
    rw [splitLinesFrom]
    cases line <;> simp
  | cons b raw ih =>
    intro afterReturn line
    have h₁ := ih false []
    have h₂ := ih true []
    have h₃ := ih false (line ++ [b])
    simp only [List.length_nil, List.length_append, List.length_singleton] at h₁ h₂ h₃
    rw [splitLinesFrom]
    split_ifs <;> simp only [List.length_cons] <;> omega

/-! ### Records read back -/

theorem canonical_bytes {value : Json} (hplain : (Json.sortKeys value).plain = true) :
    ∀ b ∈ canonical value, 32 ≤ b.toNat := by
  refine Bytes.le_of_mem_encodeUtf8 fun c hc => ?_
  rw [Json.dumps, String.toList_ofList] at hc
  exact Json.le_of_mem_dumpValue false _ hplain c hc

/-- The fields of a binding in the order of their keys. -/
def bindingFieldList (binding : OperationBinding) : List (String × Json) :=
  [("account_identity", .str binding.accountIdentity),
    ("approved_profile", .str binding.approvedProfile),
    ("operation_id", .str binding.operationId),
    ("operation_type", .str binding.operationType.value),
    ("schema_evidence_digest", .str binding.schemaEvidenceDigest),
    ("schema_version", .str binding.schemaVersion),
    ("starting_auth_methods", .arr (binding.startingAuthMethods.map .str)),
    ("target_identity", .str binding.targetIdentity),
    ("target_origin", .str binding.targetOrigin)]

/-- The fields of a record in the order of their keys. -/
def recordFieldList (record : JournalRecord) : List (String × Json) :=
  [("binding", .obj (bindingFieldList record.binding)),
    ("mac", .str record.mac),
    ("mutation_index", .int record.mutationIndex),
    ("previous_mac", .str record.previousMac),
    ("recovery_action", recoveryValue record.recoveryAction),
    ("sequence", .int record.sequence),
    ("state", .str record.state.value),
    ("timestamp", .str record.timestamp),
    ("transaction_state", .str record.transactionState.value)]

theorem sortItems_str (texts : List String) :
    Json.sortItems (texts.map .str) = texts.map .str := by
  induction texts with
  | nil => rfl
  | cons text texts ih => simp only [List.map_cons, Json.sortItems, ih, Json.sortKeys]

theorem sortKeys_bindingDict (binding : OperationBinding) :
    Json.sortKeys (bindingDict binding) = .obj (bindingFieldList binding) := by
  simp [bindingDict, bindingFieldList, Json.sortKeys, Json.sortFields, Json.insertField, Json.keyLt,
    sortItems_str]

theorem sortKeys_record (record : JournalRecord) :
    Json.sortKeys (.obj (payloadFields record ++ [("mac", .str record.mac)])) =
      .obj (recordFieldList record) := by
  have hrecovery : Json.sortKeys (recoveryValue record.recoveryAction) =
      recoveryValue record.recoveryAction := by
    cases record.recoveryAction <;> rfl
  simp [payloadFields, recordFieldList, Json.sortKeys, Json.sortFields, Json.insertField, Json.keyLt,
    sortKeys_bindingDict, hrecovery]

theorem plain_recordFieldList (record : JournalRecord) :
    (Json.obj (recordFieldList record)).plain = true := by
  have hmethods : ∀ texts : List String, Json.plainItems (texts.map .str) = true := by
    intro texts
    induction texts with
    | nil => rfl
    | cons text texts ih => simp [Json.plainItems, Json.plain, ih]
  have hrecovery : (recoveryValue record.recoveryAction).plain = true := by
    cases record.recoveryAction <;> rfl
  simp [recordFieldList, bindingFieldList, Json.plain, Json.plainFields, hmethods, hrecovery]

theorem distinct_recordFieldList (record : JournalRecord) :
    (Json.obj (recordFieldList record)).Distinct := by
  have hmethods : ∀ texts : List String, Json.DistinctItems (texts.map .str) := by
    intro texts
    induction texts with
    | nil => trivial
    | cons text texts ih => exact ⟨trivial, ih⟩
  have hrecovery : (recoveryValue record.recoveryAction).Distinct := by
    cases record.recoveryAction <;> trivial
  simp [recordFieldList, bindingFieldList, Json.Distinct, Json.DistinctFields, hmethods, hrecovery]

theorem authMethods_map (texts : List String) : authMethods (texts.map .str) = .ok texts := by
  induction texts with
  | nil => rfl
  | cons text texts ih => simp only [List.map_cons, authMethods, ih, ok_bind]

theorem bindingFrom_bindingFieldList (binding : OperationBinding) :
    bindingFrom (bindingFieldList binding) = .ok binding := by
  simp [bindingFrom, bindingFieldList, bindingFieldNames, hasExactFields, getField, List.lookup_cons,
    bindingStr, authMethods_map, enumValue, demand_of, ok_bind]

theorem recordFrom_recordFieldList (record : JournalRecord) :
    recordFrom (recordFieldList record) = .ok record := by
  obtain ⟨sequence, binding, state, transactionState, mutationIndex, recoveryAction, timestamp,
    previousMac, mac⟩ := record
  cases recoveryAction <;>
  simp [recordFrom, recordFieldList, recordFieldNames, hasExactFields, getField, List.lookup_cons,
    recordInt, recordStr, recordOptionalStr, recoveryValue, recoveryActionFrom, enumValue,
    bindingFrom_bindingFieldList, demand_of, ok_bind, Except.map]

/-- The line of a record is read back as the record. -/
theorem recordOfLine_recordText (record : JournalRecord) :
    recordOfLine (recordText record) = .ok record := by
  have hparse : Json.parse (Json.dumps false (.obj (recordFieldList record))) =
      some (.obj (recordFieldList record)) :=
    Json.parse_dumps false (plain_recordFieldList record) (distinct_recordFieldList record)
  rw [recordOfLine, recordText, canonical, sortKeys_record, Bytes.decodeUtf8_encodeUtf8,
    Option.bind_eq_bind, Option.bind_some, hparse]
  exact recordFrom_recordFieldList record

/-- The line of a record has no line ends. -/
theorem recordText_bytes (record : JournalRecord) : ∀ b ∈ recordText record, 32 ≤ b.toNat := by
  refine canonical_bytes ?_
  rw [sortKeys_record]
  exact plain_recordFieldList record

theorem recordText_ne_nil (record : JournalRecord) : recordText record ≠ [] := by
  intro h
  have hread := recordOfLine_recordText record
  rw [h] at hread
  cases hread

/-! ### Loading -/

namespace OperationJournal

section Model

variable [Platform] {journal : OperationJournal}

/-- An authenticated record passes the check of its code. -/
theorem compareDigest_authenticated (record : JournalRecord) :
    compareDigest (journal.authenticated record).mac (journal.mac (journal.authenticated record)) =
      .ok true := by
  have hhex := Platform.isHex64_hmacSha256 journal.integrityKey
    (domain ++ canonical (payload record))
  have hmac : journal.mac (journal.authenticated record) = (journal.authenticated record).mac := rfl
  rw [hmac, authenticated, mac, compareDigest_of_isHex64 hhex hhex, beq_self_eq_true]

theorem loadLines_append (lines : List Bytes) (line : Bytes) : ∀ records : List JournalRecord,
    journal.loadLines records (lines ++ [line]) = (do
      let records ← journal.loadLines records lines
      journal.loadLine records line) := by
  induction lines with
  | nil =>
    intro records
    simp only [List.nil_append, loadLines, ok_bind]
    cases journal.loadLine records line <;> rfl
  | cons l lines ih =>
    intro records
    simp only [List.cons_append, loadLines, ih, bind_assoc]

/-- The last record has the last sequence number. -/
def Numbered (records : List JournalRecord) : Prop :=
  ∀ latest, records.getLast? = some latest → latest.sequence + 1 = records.length

theorem loadLine_eq_ok {records records' : List JournalRecord} {line : Bytes}
    (h : journal.loadLine records line = .ok records') :
    ∃ record : JournalRecord, records' = records ++ [record] ∧
      record.sequence = records.length := by
  simp only [loadLine, bind_eq_ok, demand_eq_ok] at h
  obtain ⟨record, -, _, hlink, _, -, _, -, h⟩ := h
  refine ⟨record, ?_, hlink.1⟩
  -- the check of the transition does not change the records
  cases hlast : records.getLast? with
  | none =>
    rw [hlast] at h
    cases h
    rfl
  | some previous =>
    rw [hlast] at h
    simp only [bind_eq_ok] at h
    obtain ⟨_, -, h⟩ := h
    cases h
    rfl

/-- Every line gives one record, and they are numbered. -/
theorem loadLines_eq_ok : ∀ (lines : List Bytes) (records records' : List JournalRecord),
    Numbered records → journal.loadLines records lines = .ok records' →
    Numbered records' ∧ records'.length = records.length + lines.length
  | [], records, records', hnum, h => by
    cases h
    exact ⟨hnum, rfl⟩
  | line :: lines, records, records', _, h => by
    simp only [loadLines, bind_eq_ok] at h
    obtain ⟨middle, hline, h⟩ := h
    obtain ⟨record, rfl, hsequence⟩ := loadLine_eq_ok hline
    have hnum : Numbered (records ++ [record]) := by
      intro latest hlatest
      rw [List.getLast?_append, List.getLast?_singleton] at hlatest
      cases hlatest
      rw [hsequence, List.length_append, List.length_singleton]
      rfl
    obtain ⟨hnum', hlength⟩ := loadLines_eq_ok lines _ _ hnum h
    refine ⟨hnum', ?_⟩
    rw [hlength, List.length_append, List.length_singleton, List.length_cons]
    omega

/-- The line of an admitted record is accepted after the records before it. -/
theorem loadLine_of_admit {records : List JournalRecord} {request : AppendRequest}
    {record : JournalRecord} (hnum : Numbered records)
    (hadmitted : journal.admitRecord records request = .ok record) :
    journal.loadLine records (recordText record) = .ok (records ++ [record]) := by
  unfold admitRecord at hadmitted
  cases hlast : records.getLast? with
  | none => rw [hlast] at hadmitted; cases hadmitted
  | some previous =>
    rw [hlast] at hadmitted
    simp only [bind_eq_ok, demand_eq_ok] at hadmitted
    obtain ⟨_, -, _, hvalid, h⟩ := hadmitted
    cases h
    have hmac : compareDigest (journal.candidate previous request).mac
        (journal.mac (journal.candidate previous request)) = .ok true :=
      compareDigest_authenticated _
    have hsequence : (journal.candidate previous request).sequence = records.length ∧
        (journal.candidate previous request).previousMac = previous.mac :=
      ⟨hnum previous hlast, rfl⟩
    simp only [loadLine, recordOfLine_recordText, ok_bind, hlast, demand_of hsequence, hmac,
      demand_of trivial, hvalid]

/-- The line of a first record is accepted at the beginning. -/
theorem loadLine_firstRecord (binding : OperationBinding) (timestamp : String) :
    journal.loadLine [] (recordText (journal.firstRecord binding timestamp)) =
      .ok [journal.firstRecord binding timestamp] := by
  have hmac : compareDigest (journal.firstRecord binding timestamp).mac
      (journal.mac (journal.firstRecord binding timestamp)) = .ok true :=
    compareDigest_authenticated _
  have hlink : (journal.firstRecord binding timestamp).sequence = ([] : List JournalRecord).length ∧
      (journal.firstRecord binding timestamp).previousMac = zeroMac := ⟨rfl, rfl⟩
  unfold loadLine
  refine bind_eq_ok.mpr ⟨_, recordOfLine_recordText _, ?_⟩
  refine bind_eq_ok.mpr ⟨(), demand_of hlink, bind_eq_ok.mpr ⟨true, hmac, ?_⟩⟩
  exact bind_eq_ok.mpr ⟨(), demand_of rfl, rfl⟩

/-! ### Files -/

omit [Platform] in
/-- What `_read_secure` requires of a file. -/
theorem readSecure_eq_ok {path : String} {file : Option File} {maximum : ℕ} {raw : Bytes} :
    readSecure path file maximum = .ok raw ↔
      ∃ f, file = some f ∧ f.symlink = false ∧ f.regular = true ∧ f.owned = true ∧
        f.shared = false ∧ f.content.length ≤ maximum ∧ f.content = raw := by
  cases file with
  | none => exact ⟨nofun, nofun⟩
  | some f =>
    simp only [readSecure, bind_eq_ok, demand_eq_ok, Except.ok.injEq, Option.some.injEq,
      exists_const, exists_eq_left']

omit [Platform] in
theorem readSecure_created (path : String) {content : Bytes} {maximum : ℕ}
    (h : content.length ≤ maximum) :
    readSecure path (some (.created content)) maximum = .ok content :=
  readSecure_eq_ok.mpr ⟨_, rfl, rfl, rfl, rfl, rfl, h, rfl⟩

/-! ### The head -/

omit [Platform] in
theorem sortKeys_head (sequence : ℤ) (recordMac mac : String) :
    Json.sortKeys (.obj [("sequence", .int sequence), ("record_mac", .str recordMac),
      ("mac", .str mac)]) =
      .obj [("mac", .str mac), ("record_mac", .str recordMac), ("sequence", .int sequence)] := by
  simp [Json.sortKeys, Json.sortFields, Json.insertField, Json.keyLt]

theorem length_headText_le {sequence : ℤ} {recordMac : String} (h₀ : 0 ≤ sequence)
    (h : sequence < 10 ^ 10) (hmac : isHex64 recordMac = true) :
    (journal.headText sequence recordMac).length ≤ maxMetadataBytes := by
  have hlen₁ := length_of_isHex64 hmac
  have hlen₂ : (journal.headMac sequence recordMac).toList.length = 64 :=
    length_of_isHex64 (Platform.isHex64_hmacSha256 _ _)
  have hint := Json.weight_int_le (by decide) h₀ h
  have hweight := Json.length_dumpValue_le false
    (.obj [("mac", .str (journal.headMac sequence recordMac)), ("record_mac", .str recordMac),
      ("sequence", .int sequence)])
  have hbytes := Bytes.length_encodeUtf8_le (Json.dumps false
    (.obj [("mac", .str (journal.headMac sequence recordMac)), ("record_mac", .str recordMac),
      ("sequence", .int sequence)]))
  simp only [Json.dumps, String.toList_ofList] at hbytes
  simp only [Json.weight, Json.weightFields] at hweight hint
  rw [headText, canonical, sortKeys_head, List.length_append, List.length_singleton, Json.dumps]
  have hkeys : "mac".toList.length = 3 ∧ "record_mac".toList.length = 10 ∧
      "sequence".toList.length = 8 := by decide
  unfold maxMetadataBytes
  omega

variable [Conversions]

/-- A written head is read back. -/
theorem decodeHead_headText (sequence : ℤ) (recordMac : String) :
    decodeHead (journal.headText sequence recordMac) =
      .ok (sequence, recordMac, journal.headMac sequence recordMac) := by
  have htext : journal.headText sequence recordMac = Bytes.encodeUtf8 (String.ofList
      (Json.dumpValue false (.obj [("mac", .str (journal.headMac sequence recordMac)),
        ("record_mac", .str recordMac), ("sequence", .int sequence)]) ++ ['\n'])) := by
    rw [headText, canonical, sortKeys_head, Json.dumps, String.ofList_append]
    simp only [Bytes.encodeUtf8, String.toByteArray_append, ByteArray.data_append,
      Array.toList_append]
    rfl
  have hplain : Json.plain (.obj [("mac", .str (journal.headMac sequence recordMac)),
      ("record_mac", .str recordMac), ("sequence", .int sequence)]) = true := rfl
  have hdistinct : Json.Distinct (.obj [("mac", .str (journal.headMac sequence recordMac)),
      ("record_mac", .str recordMac), ("sequence", .int sequence)]) := by
    simp [Json.Distinct, Json.DistinctFields]
  rw [decodeHead, htext, Bytes.decodeUtf8_encodeUtf8, Option.bind_eq_bind, Option.bind_some,
    Json.parse, Json.loads_dumps_append false hplain rfl, Option.map_some,
    Json.asDict_of_distinct _ hdistinct]
  simp [hasExactFields, getField, List.lookup_cons, Conversions.int_int, Conversions.str_str]

/-- The head of a record passes. -/
theorem verifyHead_headText {record : JournalRecord} (h₀ : 0 ≤ record.sequence)
    (h : record.sequence < 10 ^ 10) (hmac : isHex64 record.mac = true) :
    journal.verifyHead (some (.created (journal.headText record.sequence record.mac))) record =
      .ok () := by
  have hhex : isHex64 (journal.headMac record.sequence record.mac) = true :=
    Platform.isHex64_hmacSha256 _ _
  have hread : readSecure journal.headPath
      (some (.created (journal.headText record.sequence record.mac))) maxMetadataBytes =
      .ok (journal.headText record.sequence record.mac) := by
    exact readSecure_created _ (length_headText_le h₀ h hmac)
  simp only [verifyHead, hread, ok_bind, decodeHead_headText, compareDigest_of_isHex64 hhex hhex,
    beq_self_eq_true, demand_of trivial, and_self]

/-- A head that passed for one record does not pass for a record with another number. -/
theorem verifyHead_of_ne {head : Option File} {latest record : JournalRecord}
    (h : journal.verifyHead head latest = .ok ()) (hne : latest.sequence ≠ record.sequence) :
    ∃ e, journal.verifyHead head record = .error e ∧ e.cls = journalError := by
  simp only [verifyHead, bind_eq_ok, demand_eq_ok] at h
  obtain ⟨raw, hraw, ⟨sequence, recordMac, mac⟩, hdecode, authentic, hmac, _, hauthentic, hlatest⟩ := h
  obtain ⟨rfl, rfl⟩ := hlatest
  have hmismatch : ¬(latest.sequence = record.sequence ∧ latest.mac = record.mac) :=
    fun heq => hne heq.1
  refine ⟨⟨journalError, "Operation journal rollback or head mismatch detected"⟩, ?_, rfl⟩
  simp only [verifyHead, hraw, ok_bind, hdecode, hmac, hauthentic, demand_of trivial]
  exact if_neg hmismatch

/-! ### Journals that are accepted -/

/-- What `load` requires of the files. -/
structure Accepted (journal : OperationJournal) (s : Files) (file : File)
    (records : List JournalRecord) (latest : JournalRecord) : Prop where
  journal_eq : s.journal = some file
  symlink : file.symlink = false
  regular : file.regular = true
  owned : file.owned = true
  shared : file.shared = false
  length_le : file.content.length ≤ maxJournalBytes
  ends : file.content.getLast? = some 10
  lines : journal.loadLines [] (splitLines file.content) = .ok records
  last : records.getLast? = some latest
  head : journal.verifyHead s.head latest = .ok ()

theorem load_eq_ok {s : Files} {records : List JournalRecord} :
    journal.load s = .ok records ↔ ∃ file latest, Accepted journal s file records latest := by
  constructor
  · intro h
    simp only [load, bind_eq_ok, demand_eq_ok, readSecure_eq_ok] at h
    obtain ⟨raw, ⟨file, hfile, h₁, h₂, h₃, h₄, h₅, rfl⟩, _, hends, records', hlines, h⟩ := h
    cases hlast : records'.getLast? with
    | none => rw [hlast] at h; cases h
    | some latest =>
      rw [hlast] at h
      simp only [bind_eq_ok] at h
      obtain ⟨_, hhead, h⟩ := h
      cases h
      exact ⟨file, latest, hfile, h₁, h₂, h₃, h₄, h₅, hends, hlines, hlast, hhead⟩
  · rintro ⟨file, latest, h⟩
    have hread : readSecure journal.path s.journal maxJournalBytes = .ok file.content :=
      readSecure_eq_ok.mpr
        ⟨file, h.journal_eq, h.symlink, h.regular, h.owned, h.shared, h.length_le, rfl⟩
    simp only [load, hread, ok_bind, demand_of h.ends, h.lines, h.last, h.head]

/-- `load` looks at the journal and the head only. -/
theorem load_congr {s s' : Files} (hjournal : s'.journal = s.journal) (hhead : s'.head = s.head) :
    journal.load s' = journal.load s := by
  simp only [load, hjournal, hhead]

omit [Platform] [Conversions] in
theorem numbered_nil : Numbered [] := by
  intro latest h
  cases h

variable {s : Files} {file : File} {records : List JournalRecord} {latest : JournalRecord}

theorem Accepted.numbered (h : Accepted journal s file records latest) : Numbered records :=
  (loadLines_eq_ok _ _ _ numbered_nil h.lines).1

theorem Accepted.head_not_symlink (h : Accepted journal s file records latest) :
    s.head.map File.symlink ≠ some true := by
  have hhead := h.head
  simp only [verifyHead, bind_eq_ok, readSecure_eq_ok] at hhead
  obtain ⟨_, ⟨f, hf, hsymlink, -⟩, -⟩ := hhead
  rw [hf, Option.map_some, hsymlink]
  decide

theorem Accepted.openForAppend_eq (h : Accepted journal s file records latest) :
    journal.openForAppend s = .ok () := by
  have hread : readSecure journal.path s.journal maxJournalBytes = .ok file.content :=
    readSecure_eq_ok.mpr
      ⟨file, h.journal_eq, h.symlink, h.regular, h.owned, h.shared, h.length_le, rfl⟩
  simp only [openForAppend, h.journal_eq, h.symlink, Bool.false_eq_true, if_false]
  rw [← h.journal_eq, hread, ok_bind]

theorem Accepted.appendTo_eq (h : Accepted journal s file records latest) (data : Bytes) :
    appendTo s.journal data = some { file with content := file.content ++ data } := by
  rw [h.journal_eq]
  rfl

/-- There are fewer records than bytes. -/
theorem Accepted.length_records_le (h : Accepted journal s file records latest) :
    records.length ≤ maxJournalBytes := by
  have hlength := (loadLines_eq_ok _ _ _ numbered_nil h.lines).2
  have hlines := length_splitLinesFrom_le file.content false []
  have hle := h.length_le
  rw [List.length_nil] at hlength hlines
  rw [splitLines] at hlength
  omega

/-- The checks of `admitRecord` on the records of an accepted journal. -/
theorem Accepted.candidate_of_admit (h : Accepted journal s file records latest)
    {request : AppendRequest} {record : JournalRecord}
    (hadmitted : journal.admitRecord records request = .ok record) :
    record = journal.candidate latest request := by
  simp only [admitRecord, h.last, bind_eq_ok] at hadmitted
  obtain ⟨_, -, _, -, hrecord⟩ := hadmitted
  cases hrecord
  rfl

/-- The journal with the line of an admitted record has that record at its end. -/
theorem Accepted.lines_append (h : Accepted journal s file records latest)
    {request : AppendRequest} {record : JournalRecord}
    (hadmitted : journal.admitRecord records request = .ok record) :
    journal.loadLines [] (splitLines (file.content ++ (recordText record ++ [10]))) =
      .ok (records ++ [record]) := by
  rw [splitLines_append h.ends (recordText_bytes record), loadLines_append, h.lines, ok_bind]
  exact loadLine_of_admit h.numbered hadmitted

/-- Once the line is written and the head replaced, the journal has the new record. -/
theorem Accepted.replaced (h : Accepted journal s file records latest) {request : AppendRequest}
    {record : JournalRecord} (hadmitted : journal.admitRecord records request = .ok record) {s' : Files}
    (hjournal : s'.journal =
      some { file with content := file.content ++ (recordText record ++ [10]) })
    (hhead : s'.head = some (.created (journal.headText record.sequence record.mac)))
    (hlimit : (file.content ++ (recordText record ++ [10])).length ≤ maxJournalBytes) :
    journal.load s' = .ok (records ++ [record]) := by
  have hsequence : record.sequence = records.length := by
    rw [h.candidate_of_admit hadmitted]
    exact h.numbered latest h.last
  have hcount := h.length_records_le
  have hmac : isHex64 record.mac = true := by
    rw [h.candidate_of_admit hadmitted]
    exact Platform.isHex64_hmacSha256 _ _
  refine load_eq_ok.mpr ⟨_, record, hjournal, h.symlink, h.regular, h.owned, h.shared, hlimit, ?_,
    h.lines_append hadmitted, by simp, ?_⟩
  · simp
  · rw [hhead]
    refine verifyHead_headText ?_ ?_ hmac
    · omega
    · rw [hsequence]
      unfold maxJournalBytes at hcount
      omega

/-- A journal over the limit is not even read. -/
theorem Accepted.over_limit (h : Accepted journal s file records latest) {content : Bytes}
    {s' : Files} (hjournal : s'.journal = some { file with content := content })
    (hlimit : ¬content.length ≤ maxJournalBytes) :
    ∃ e, journal.load s' = .error e ∧ e.cls = journalError := by
  refine ⟨⟨journalError, "File exceeds the maximum allowed size: " ++ journal.path⟩, ?_, rfl⟩
  have hread : readSecure journal.path s'.journal maxJournalBytes =
      .error ⟨journalError, "File exceeds the maximum allowed size: " ++ journal.path⟩ := by
    rw [hjournal]
    simp only [readSecure, demand_of h.symlink, demand_of h.regular, demand_of h.owned,
      demand_of h.shared, ok_bind]
    rw [demand, if_neg hlimit]
    rfl
  rw [load, hread]
  rfl

/-- With the line written and the old head, the journal is refused. -/
theorem Accepted.unmatched (h : Accepted journal s file records latest) {request : AppendRequest}
    {record : JournalRecord} (hadmitted : journal.admitRecord records request = .ok record) {s' : Files}
    (hjournal : s'.journal =
      some { file with content := file.content ++ (recordText record ++ [10]) })
    (hhead : s'.head = s.head) : ∃ e, journal.load s' = .error e ∧ e.cls = journalError := by
  by_cases hlimit : (file.content ++ (recordText record ++ [10])).length ≤ maxJournalBytes
  · have hread : readSecure journal.path s'.journal maxJournalBytes =
        .ok (file.content ++ (recordText record ++ [10])) :=
      readSecure_eq_ok.mpr ⟨_, hjournal, h.symlink, h.regular, h.owned, h.shared, hlimit, rfl⟩
    have hends : (file.content ++ (recordText record ++ [10])).getLast? = some 10 := by simp
    have hne : latest.sequence ≠ record.sequence := by
      rw [h.candidate_of_admit hadmitted]
      intro heq
      have hnext : (journal.candidate latest request).sequence = latest.sequence + 1 := rfl
      omega
    obtain ⟨e, he, hcls⟩ := verifyHead_of_ne h.head hne
    refine ⟨e, ?_, hcls⟩
    have hlast : (records ++ [record]).getLast? = some record := by simp
    simp only [load, hread, ok_bind, demand_of hends, h.lines_append hadmitted, hlast, hhead, he]
    rfl
  · exact h.over_limit hjournal hlimit

/-- With part of the line written, the journal is refused. -/
theorem Accepted.torn (h : Accepted journal s file records latest) {part : Bytes}
    (hpart : part ≠ []) (hbytes : ∀ b ∈ part, 32 ≤ b.toNat) {s' : Files}
    (hjournal : s'.journal = some { file with content := file.content ++ part }) :
    ∃ e, journal.load s' = .error e ∧ e.cls = journalError := by
  by_cases hlimit : (file.content ++ part).length ≤ maxJournalBytes
  · have hread : readSecure journal.path s'.journal maxJournalBytes = .ok (file.content ++ part) :=
      readSecure_eq_ok.mpr ⟨_, hjournal, h.symlink, h.regular, h.owned, h.shared, hlimit, rfl⟩
    -- the last byte is one of the record
    have hends : ¬(file.content ++ part).getLast? = some 10 := by
      intro hlast
      rw [List.getLast?_append_of_ne_nil _ hpart] at hlast
      have hmem := hbytes 10 (List.mem_of_getLast? hlast)
      exact absurd hmem (by decide)
    refine ⟨⟨journalError, "Operation journal is empty or truncated"⟩, ?_, rfl⟩
    simp only [load, hread, ok_bind]
    rw [demand, if_neg hends]
    rfl
  · exact h.over_limit hjournal hlimit

/-! ### Where an append stops -/

omit [Platform] [Conversions] in
theorem stopped_look_bind {α β : Type} {f : Files → Except Error α} {g : α → FileOp β}
    {s s' : Files} : Stopped .complete (look f >>= g) s s' ↔
      s' = s ∨ Stopped .complete (ofExcept (f s) >>= g) s s' := by
  rw [look, atom_bind, stopped_atom]
  constructor
  · rintro (h | ⟨_, h⟩ | h)
    · exact .inl h
    · exact .inl h
    · exact .inr h
  · rintro (h | h)
    · exact .inl h
    · exact .inr (.inr h)

omit [Platform] [Conversions] in
/-- An effect may stop before it, with a part of its data, or after it. -/
theorem stopped_effect {β : Type} {data : Bytes} {f : Bytes → Files → Files}
    {next : Answer → Files → FileOp β} {s s' : Files}
    (h : Stopped .complete (.atom
      (fun answer s => if answer.failed then s else f (answer.part data) s) next) s s') :
    s' = s ∨ (∃ n, s' = f (data.take n) s) ∨ Stopped .complete (next .complete s) (f data s) s' := by
  rw [stopped_atom] at h
  rcases h with h | ⟨answer, h⟩ | h
  · exact .inl h
  · split_ifs at h with hfailed
    · exact .inl h
    · refine .inr (.inl ?_)
      cases hwritten : answer.written with
      | none => exact ⟨data.length, by rw [h, Answer.part, hwritten, List.take_length]⟩
      | some n => exact ⟨n, by rw [h, Answer.part, hwritten]⟩
  · exact .inr (.inr h)

omit [Platform] [Conversions] in
theorem stopped_effect_bind {β : Type} {data : Bytes} {f : Bytes → Files → Files}
    {g : ℕ → FileOp β} {s s' : Files} (h : Stopped .complete (effect data f >>= g) s s') :
    s' = s ∨ (∃ n, s' = f (data.take n) s) ∨ Stopped .complete (g data.length) (f data s) s' :=
  stopped_effect h

omit [Platform] [Conversions] in
theorem stopped_attempt_effect_bind {α β : Type} {data : Bytes} {f : Bytes → Files → Files}
    {k : ℕ → FileOp α} {g : Except Error α → FileOp β} {s s' : Files}
    (h : Stopped .complete ((effect data f >>= k).attempt >>= g) s s') :
    s' = s ∨ (∃ n, s' = f (data.take n) s) ∨
      Stopped .complete ((k data.length).attempt >>= g) (f data s) s' :=
  stopped_effect h

omit [Platform] [Conversions] in
theorem fsync_bind {β : Type} (k : Unit → FileOp β) :
    (fsync >>= k) = effect [] (fun _ s => s) >>= fun _ => k () := by
  rw [fsync, bind_assoc]
  rfl

/-- The journal and the head are as before. -/
def Kept (s s' : Files) : Prop := s'.journal = s.journal ∧ s'.head = s.head

omit [Conversions] in
/-- While the new head is written to the temporary file, journal and head are kept; then the head
is replaced. -/
theorem stopped_replaceHead {β : Type} {pid : ℕ} {sequence : ℤ} {recordMac : String}
    {g : Except Error Unit → FileOp β} {s s' : Files}
    (h : Stopped .complete ((journal.replaceHead pid sequence recordMac).attempt >>= g) s s') :
    Kept s s' ∨ (∃ e, Stopped .complete (g (.error e)) s s') ∨
      ∃ s₁ : Files, s₁.journal = s.journal ∧
        s₁.head = some (.created (journal.headText sequence recordMac)) ∧
        (s' = s₁ ∨ Stopped .complete (g (.ok ())) s₁ s') := by
  rw [replaceHead, openExclusive, atom_bind] at h
  rcases stopped_atom.mp h with rfl | ⟨answer, rfl⟩ | h
  · exact .inl ⟨rfl, rfl⟩
  · left
    split_ifs
    · exact ⟨rfl, rfl⟩
    · exact ⟨rfl, rfl⟩
  by_cases htemp : s.temp pid = none
  · -- the temporary file is there now, and empty
    simp only [Answer.complete, htemp, ne_eq, not_true_eq_false, Bool.false_eq_true, or_self,
      if_false, ret_bind] at h
    rcases stopped_attempt_effect_bind h with rfl | ⟨n, rfl⟩ | h
    · exact .inl ⟨rfl, rfl⟩
    · exact .inl ⟨rfl, rfl⟩
    rw [fsync_bind] at h
    rcases stopped_attempt_effect_bind h with rfl | ⟨n, rfl⟩ | h
    · exact .inl ⟨rfl, rfl⟩
    · exact .inl ⟨rfl, rfl⟩
    rcases stopped_attempt_effect_bind h with rfl | ⟨n, rfl⟩ | h
    · exact .inl ⟨rfl, rfl⟩
    · refine .inr (.inr ⟨_, ?_, ?_, .inl rfl⟩)
      · rfl
      · simp [appendTo, File.created]
    · refine .inr (.inr ⟨_, ?_, ?_, .inr h⟩)
      · rfl
      · simp [appendTo, File.created]
  · simp only [Answer.complete, htemp, ne_eq, not_false_eq_true, or_true, if_true,
      raise_bind] at h
    exact .inr (.inl ⟨_, h⟩)

omit [Platform] [Conversions] in
/-- Removing the temporary file keeps journal and head. -/
theorem stopped_cleanup {β : Type} {pid : ℕ} {result : Except Error Unit} {value : β}
    {s s' : Files}
    (h : Stopped .complete (do
      let _ ← effect [] fun _ s => { s with temp := Function.update s.temp pid none }
      let _ ← (ofExcept result : FileOp Unit)
      fsync
      pure value) s s') : Kept s s' := by
  rcases stopped_effect_bind h with rfl | ⟨n, rfl⟩ | h
  · exact ⟨rfl, rfl⟩
  · exact ⟨rfl, rfl⟩
  cases result with
  | error e =>
    rw [ofExcept_error, raise_bind, stopped_raise] at h
    subst h
    exact ⟨rfl, rfl⟩
  | ok u =>
    rw [ofExcept_ok, ret_bind, fsync_bind] at h
    rcases stopped_effect_bind h with rfl | ⟨n, rfl⟩ | h
    · exact ⟨rfl, rfl⟩
    · exact ⟨rfl, rfl⟩
    · rw [pure_eq_ret, stopped_ret] at h
      subst h
      exact ⟨rfl, rfl⟩

omit [Conversions] in
/-- Where the writing of a head and the final `fsync` stop. -/
theorem stopped_writeHead {β : Type} {pid : ℕ} {sequence : ℤ} {recordMac : String} {value : β}
    {s s' : Files} (hsymlink : s.head.map File.symlink ≠ some true)
    (h : Stopped .complete (do
      journal.writeHead pid sequence recordMac
      fsync
      pure value) s s') :
    Kept s s' ∨ s'.journal = s.journal ∧
      s'.head = some (.created (journal.headText sequence recordMac)) := by
  simp only [writeHead, bind_assoc] at h
  rw [stopped_look_bind, demand_of hsymlink, ofExcept_ok, ret_bind] at h
  rcases h with rfl | h
  · exact .inl ⟨rfl, rfl⟩
  rcases stopped_replaceHead h with hkept | ⟨e, h⟩ | ⟨s₁, hjournal, hhead, rfl | h⟩
  · exact .inl hkept
  · exact .inl (stopped_cleanup h)
  · exact .inr ⟨hjournal, hhead⟩
  · obtain ⟨hj, hh⟩ := stopped_cleanup h
    exact .inr ⟨hj.trans hjournal, hh.trans hhead⟩

/-- Where an append stops: the files are as before, or some of the line is written, or all of it
is written and the head is replaced. -/
theorem stopped_append {s s' : Files} {file : File} {records : List JournalRecord}
    {latest : JournalRecord} (h : Accepted journal s file records latest) {pid : ℕ}
    {request : AppendRequest}
    (hstop : Stopped .complete (journal.append pid request) s s') :
    Kept s s' ∨ ∃ record, journal.admitRecord records request = .ok record ∧
      ((∃ n, (recordText record ++ [10]).take n ≠ [] ∧
          s'.journal = some { file with
            content := file.content ++ (recordText record ++ [10]).take n } ∧
          s'.head = s.head) ∨
        (s'.journal = some { file with content := file.content ++ (recordText record ++ [10]) } ∧
          s'.head = some (.created (journal.headText record.sequence record.mac)))) := by
  have hload : journal.load s = .ok records := load_eq_ok.mpr ⟨file, latest, h⟩
  rw [append, stopped_look_bind, hload, ofExcept_ok, ret_bind] at hstop
  rcases hstop with rfl | hstop
  · exact .inl ⟨rfl, rfl⟩
  cases hadmitted : journal.admitRecord records request with
  | error e =>
    -- the request is refused before anything is written
    rw [hadmitted, ofExcept_error, raise_bind, stopped_raise] at hstop
    subst hstop
    exact .inl ⟨rfl, rfl⟩
  | ok record =>
    rw [hadmitted, ofExcept_ok, ret_bind, stopped_look_bind, h.openForAppend_eq, ofExcept_ok, ret_bind] at hstop
    rcases hstop with rfl | hstop
    · exact .inl ⟨rfl, rfl⟩
    have hwrite := h.appendTo_eq
    rcases stopped_effect_bind hstop with rfl | ⟨n, rfl⟩ | hstop
    · exact .inl ⟨rfl, rfl⟩
    · -- the line was written in part, or not at all
      by_cases hpart : (recordText record ++ [10]).take n = []
      · refine .inl ⟨?_, rfl⟩
        show appendTo s.journal _ = s.journal
        rw [hpart, hwrite, List.append_nil, h.journal_eq]
      · exact .inr ⟨record, rfl, .inl ⟨n, hpart, hwrite _, rfl⟩⟩
    · rw [require, if_pos rfl, ret_bind, fsync_bind] at hstop
      have hline : ∀ s₁ : Files, s₁.journal = appendTo s.journal (recordText record ++ [10]) →
          s₁.head = s.head → ∃ n, (recordText record ++ [10]).take n ≠ [] ∧
            s₁.journal = some { file with
              content := file.content ++ (recordText record ++ [10]).take n } ∧
            s₁.head = s.head := by
        intro s₁ hj hh
        refine ⟨(recordText record ++ [10]).length, ?_, ?_, hh⟩
        · rw [List.take_length]
          exact List.append_ne_nil_of_right_ne_nil _ (List.cons_ne_nil _ _)
        · rw [List.take_length, hj, hwrite]
      rcases stopped_effect_bind hstop with rfl | ⟨n, rfl⟩ | hstop
      · exact .inr ⟨record, rfl, .inl (hline _ rfl rfl)⟩
      · exact .inr ⟨record, rfl, .inl (hline _ rfl rfl)⟩
      · rcases stopped_writeHead (by exact h.head_not_symlink) hstop with ⟨hj, hh⟩ | ⟨hj, hh⟩
        · exact .inr ⟨record, rfl, .inl (hline _ hj hh)⟩
        · exact .inr ⟨record, rfl, .inr ⟨hj.trans (hwrite _), hh⟩⟩

/-- An append may stop after it has written its line. -/
theorem stopped_written (h : Accepted journal s file records latest) {pid : ℕ}
    {request : AppendRequest} {record : JournalRecord}
    (hadmitted : journal.admitRecord records request = .ok record) :
    Stopped .complete (journal.append pid request) s
      { s with journal := appendTo s.journal (recordText record ++ [10]) } := by
  have hload : journal.load s = .ok records := load_eq_ok.mpr ⟨file, latest, h⟩
  rw [append, stopped_look_bind, hload, ofExcept_ok, ret_bind, hadmitted, ofExcept_ok, ret_bind,
    stopped_look_bind, h.openForAppend_eq, ofExcept_ok, ret_bind]
  exact .inr (.inr (.last _ _ Answer.complete _))

/-- The journal that an append leaves when it stops after its line is refused. -/
theorem refused_written (h : Accepted journal s file records latest) {request : AppendRequest}
    {record : JournalRecord} (hadmitted : journal.admitRecord records request = .ok record) :
    ∃ e, journal.load { s with journal := appendTo s.journal (recordText record ++ [10]) } =
      .error e ∧ e.cls = journalError :=
  h.unmatched hadmitted (h.appendTo_eq _) rfl

/-! ### Calls that return -/

/-- The answers of an operating system that does all it is asked for. -/
def untroubled : ℕ → Answer := fun _ => .complete

omit [Platform] [Conversions] in
theorem run_look_bind {α β : Type} (f : Files → Except Error α) (g : α → FileOp β) (s : Files) :
    (look f >>= g).run untroubled s = (ofExcept (f s) >>= g).run untroubled s := rfl

omit [Platform] [Conversions] in
theorem run_effect_bind {β : Type} (data : Bytes) (f : Bytes → Files → Files) (g : ℕ → FileOp β)
    (s : Files) :
    (effect data f >>= g).run untroubled s = (g data.length).run untroubled (f data s) := rfl

omit [Conversions] in
/-- The head is replaced unless there is a temporary file already. -/
theorem run_replaceHead (pid : ℕ) (sequence : ℤ) (recordMac : String) (s : Files) :
    (journal.replaceHead pid sequence recordMac).run untroubled s =
      if s.temp pid = none then
        ⟨.ok (), { s with
          head := some (.created (journal.headText sequence recordMac))
          temp := Function.update s.temp pid none }, untroubled⟩
      else ⟨.error (osError "FileExistsError" "File exists"), s, untroubled⟩ := by
  rw [replaceHead, openExclusive, atom_bind, run_atom]
  by_cases htemp : s.temp pid = none
  · rw [if_pos htemp]
    simp only [untroubled, Answer.complete, htemp, ne_eq, not_true_eq_false, Bool.false_eq_true,
      or_self, if_false, ret_bind]
    show (effect _ _ >>= _).run untroubled _ = _
    rw [run_effect_bind, fsync_bind, run_effect_bind, run_effect_bind, pure_eq_ret, run_ret]
    simp [appendTo, File.created]
  · rw [if_neg htemp]
    simp only [untroubled, Answer.complete, htemp, ne_eq, not_false_eq_true, or_true, if_true,
      raise_bind]
    rfl

omit [Conversions] in
/-- The head is replaced and the temporary file removed. -/
theorem run_writeHead {pid : ℕ} {sequence : ℤ} {recordMac : String} {s : Files}
    (hsymlink : s.head.map File.symlink ≠ some true) :
    (journal.writeHead pid sequence recordMac).run untroubled s =
      ⟨if s.temp pid = none then .ok () else .error (osError "FileExistsError" "File exists"),
        { s with
          head := if s.temp pid = none then
            some (.created (journal.headText sequence recordMac)) else s.head
          temp := Function.update s.temp pid none }, untroubled⟩ := by
  rw [writeHead, run_look_bind, demand_of hsymlink, ofExcept_ok, ret_bind, run_bind, run_attempt,
    run_replaceHead]
  by_cases htemp : s.temp pid = none
  · simp only [if_pos htemp, run_effect_bind, ofExcept_ok, run_ret, Function.update_idem]
  · simp only [if_neg htemp, run_effect_bind, ofExcept_error, run_raise]

/-- An append to an accepted journal writes the line and the head. -/
theorem run_append (h : Accepted journal s file records latest) (pid : ℕ)
    {request : AppendRequest} {record : JournalRecord}
    (hadmitted : journal.admitRecord records request = .ok record) :
    (journal.append pid request).run untroubled s =
      ⟨if s.temp pid = none then .ok (records ++ [record])
        else .error (osError "FileExistsError" "File exists"),
        { s with
          journal := some { file with content := file.content ++ (recordText record ++ [10]) }
          head := if s.temp pid = none then
            some (.created (journal.headText record.sequence record.mac)) else s.head
          temp := Function.update s.temp pid none }, untroubled⟩ := by
  have hload : journal.load s = .ok records := load_eq_ok.mpr ⟨file, latest, h⟩
  rw [append, run_look_bind, hload, ofExcept_ok, ret_bind, hadmitted, ofExcept_ok, ret_bind,
    run_look_bind, h.openForAppend_eq, ofExcept_ok, ret_bind, run_effect_bind, require, if_pos rfl,
    ret_bind, fsync_bind, run_effect_bind, run_bind, run_writeHead (by exact h.head_not_symlink)]
  by_cases htemp : s.temp pid = none
  · simp only [if_pos htemp, fsync_bind, run_effect_bind, pure_eq_ret, run_ret, h.appendTo_eq]
  · simp only [if_neg htemp, h.appendTo_eq]

/-- An append that returns was admitted, and found no temporary file. -/
theorem admitted_of_append {pid : ℕ} {request : AppendRequest} {s : Files}
    {records' : List JournalRecord}
    (h : ((journal.append pid request).run untroubled s).result = .ok records') :
    ∃ file records latest record, Accepted journal s file records latest ∧
      journal.admitRecord records request = .ok record ∧ s.temp pid = none ∧
      records' = records ++ [record] := by
  cases hload : journal.load s with
  | error e =>
    rw [append, run_look_bind, hload] at h
    cases h
  | ok records =>
    obtain ⟨file, latest, haccepted⟩ := load_eq_ok.mp hload
    cases hadmitted : journal.admitRecord records request with
    | error e =>
      rw [append, run_look_bind, hload, ofExcept_ok, ret_bind, hadmitted] at h
      cases h
    | ok record =>
      rw [run_append haccepted _ hadmitted] at h
      refine ⟨file, records, latest, record, haccepted, hadmitted, ?_⟩
      by_cases htemp : s.temp pid = none
      · rw [if_pos htemp] at h
        cases h
        exact ⟨htemp, rfl⟩
      · rw [if_neg htemp] at h
        cases h

omit [Platform] [Conversions] in
/-- A new file is opened exclusively where there is none. -/
theorem run_openExclusive_bind {β : Type} (slot : Files → Option File)
    (put : Option File → Files → Files) (e : Error) (g : Unit → FileOp β) (s : Files) :
    (openExclusive slot put e >>= g).run untroubled s =
      if slot s = none then (g ()).run untroubled (put (some (.created [])) s)
      else ⟨.error e, s, untroubled⟩ := by
  rw [openExclusive, atom_bind, run_atom]
  by_cases hslot : slot s = none
  · simp only [untroubled, Answer.complete, hslot, ne_eq, not_true_eq_false, Bool.false_eq_true,
      or_self, if_false, ret_bind, if_true]
    rfl
  · simp only [untroubled, Answer.complete, hslot, ne_eq, not_false_eq_true, or_true, if_true,
      raise_bind, if_false, run_raise]
    rfl

omit [Conversions] in
/-- A creation writes the line of the first record and the head, where neither file exists. -/
theorem run_create (journal : OperationJournal) {split : String → Except Error SplitOrigin}
    {binding : OperationBinding} (timestamp : String) {s : Files}
    (hparent : journal.validateParent s = .ok ())
    (hbinding : validateBinding split binding = .ok ()) (hjournal : s.journal = none)
    (hhead : s.head = none) :
    (journal.create split binding timestamp).run untroubled s =
      ⟨.ok [journal.firstRecord binding timestamp], { s with
        journal := some (.created (recordText (journal.firstRecord binding timestamp) ++ [10]))
        head := some (.created (journal.headText (journal.firstRecord binding timestamp).sequence
          (journal.firstRecord binding timestamp).mac)) }, untroubled⟩ := by
  simp only [create, createHead, fchmod, bind_assoc]
  rw [run_look_bind, hparent, ofExcept_ok, ret_bind, hbinding, ofExcept_ok, ret_bind,
    run_openExclusive_bind, if_pos hjournal]
  simp only [run_effect_bind, fsync_bind, pure_eq_ret, ret_bind]
  rw [run_openExclusive_bind, if_pos hhead]
  simp only [run_effect_bind, run_ret, appendTo, File.created, Option.map_some, List.nil_append]

omit [Conversions] in
/-- A creation that returns passed its checks, and found neither file. -/
theorem checked_of_create {split : String → Except Error SplitOrigin} {binding : OperationBinding}
    {timestamp : String} {s : Files} {records : List JournalRecord}
    (h : ((journal.create split binding timestamp).run untroubled s).result = .ok records) :
    journal.validateParent s = .ok () ∧ validateBinding split binding = .ok () ∧
      s.journal = none ∧ s.head = none := by
  cases hparent : journal.validateParent s with
  | error e =>
    rw [create, run_look_bind, hparent] at h
    cases h
  | ok u =>
    cases hbinding : validateBinding split binding with
    | error e =>
      rw [create, run_look_bind, hparent, ofExcept_ok, ret_bind, hbinding] at h
      cases h
    | ok v =>
      refine ⟨rfl, rfl, ?_⟩
      simp only [create, createHead, fchmod, bind_assoc] at h
      rw [run_look_bind, hparent, ofExcept_ok, ret_bind, hbinding, ofExcept_ok, ret_bind,
        run_openExclusive_bind] at h
      by_cases hjournal : s.journal = none
      · rw [if_pos hjournal] at h
        simp only [run_effect_bind, fsync_bind, pure_eq_ret, ret_bind] at h
        rw [run_openExclusive_bind] at h
        by_cases hhead : s.head = none
        · exact ⟨hjournal, hhead⟩
        · rw [if_neg hhead] at h
          cases h
      · rw [if_neg hjournal] at h
        cases h

/-! ### Main results -/

/-- The journals that are reached by calls of `create` and `append` that returned, with the records
that the last of them returned. -/
inductive Reachable (journal : OperationJournal) : Files → List JournalRecord → Prop
  | create {split : String → Except Error SplitOrigin} {binding : OperationBinding}
    {timestamp : String} {s : Files} {records : List JournalRecord}
    (h : ((journal.create split binding timestamp).run untroubled s).result = .ok records) :
    Reachable journal ((journal.create split binding timestamp).run untroubled s).state records
  | append {pid : ℕ} {request : AppendRequest} {s : Files} {records records' : List JournalRecord}
    (hs : Reachable journal s records)
    (h : ((journal.append pid request).run untroubled s).result = .ok records') :
    Reachable journal ((journal.append pid request).run untroubled s).state records'

/-- The journal is within the size that `load` reads. -/
def WithinLimit (s : Files) : Prop :=
  ∀ file, s.journal = some file → file.content.length ≤ maxJournalBytes

/-- A journal that can be loaded is within the limit. -/
theorem withinLimit_of_load {s : Files} {records : List JournalRecord}
    (h : journal.load s = .ok records) : WithinLimit s := by
  obtain ⟨file, latest, haccepted⟩ := load_eq_ok.mp h
  intro file' hfile'
  rw [haccepted.journal_eq] at hfile'
  cases hfile'
  exact haccepted.length_le

/-- `load` returns what the last call returned. -/
theorem load_of_reachable {s : Files} {records : List JournalRecord}
    (h : Reachable journal s records) (hlimit : WithinLimit s) :
    journal.load s = .ok records := by
  cases h with
  | @create split binding timestamp s₀ _ h =>
    obtain ⟨hparent, hbinding, hjournal, hhead⟩ := checked_of_create h
    rw [run_create _ _ hparent hbinding hjournal hhead] at h hlimit ⊢
    cases h
    have hlines : journal.loadLines [] (splitLines
        (recordText (journal.firstRecord binding timestamp) ++ [10])) =
        .ok [journal.firstRecord binding timestamp] := by
      rw [splitLines, splitLinesFrom_line (recordText_bytes _), List.nil_append, loadLines,
        loadLine_firstRecord, ok_bind, loadLines]
    refine load_eq_ok.mpr ⟨_, journal.firstRecord binding timestamp, rfl, rfl, rfl, rfl, rfl,
      hlimit _ rfl, by simp [File.created], hlines, rfl, ?_⟩
    exact verifyHead_headText (show (0 : ℤ) ≤ 0 by decide) (show (0 : ℤ) < 10 ^ 10 by decide)
      (Platform.isHex64_hmacSha256 _ _)
  | @append pid request s₀ _ _ hs h =>
    obtain ⟨file, records₀, latest, record, haccepted, hadmitted, htemp, rfl⟩ := admitted_of_append h
    have hrun := run_append haccepted pid hadmitted
    rw [hrun] at hlimit ⊢
    exact haccepted.replaced hadmitted rfl (if_pos htemp) (hlimit _ rfl)

end Model

section

/-- What `load` makes of a journal when an append stopped. If nothing of the line was written, it
returns the records before the append; if some of it was written and the head was not replaced, it
refuses the journal; and once the head was replaced, it returns the records after the append. -/
theorem load_of_stopped [Platform] [Conversions] {journal : OperationJournal} {s s' : Files}
    {records : List JournalRecord} (h : Reachable journal s records) (hlimit : WithinLimit s)
    {pid : ℕ} {request : AppendRequest}
    (hstop : Stopped .complete (journal.append pid request) s s') :
    (s'.journal = s.journal → journal.load s' = .ok records) ∧
      (s'.journal ≠ s.journal → s'.head = s.head →
        ∃ e, journal.load s' = .error e ∧ e.cls = journalError) ∧
      (s'.head ≠ s.head → WithinLimit s' →
        ∃ record, journal.admitRecord records request = .ok record ∧
          journal.load s' = .ok (records ++ [record])) := by
  have hload := load_of_reachable h hlimit
  obtain ⟨file, latest, haccepted⟩ := load_eq_ok.mp hload
  rcases stopped_append haccepted hstop with ⟨hj, hh⟩ | ⟨record, hadmitted, hcase⟩
  · -- nothing was written
    refine ⟨fun _ => ?_, fun hne => absurd hj hne, fun hne => absurd hh hne⟩
    rwa [load_congr hj hh]
  rcases hcase with ⟨n, hpart, hj, hh⟩ | ⟨hj, hh⟩
  · have hne : s'.journal ≠ s.journal := by
      rw [hj, haccepted.journal_eq]
      intro heq
      exact hpart (List.append_right_eq_self.mp (congrArg File.content (Option.some.inj heq)))
    refine ⟨fun heq => absurd heq hne, fun _ _ => ?_, fun hne' => absurd hh hne'⟩
    by_cases hall : (recordText record ++ [10]).length ≤ n
    · rw [List.take_of_length_le hall] at hj
      exact haccepted.unmatched hadmitted hj hh
    · -- the line feed was not written
      rw [List.length_append, List.length_singleton] at hall
      rw [List.take_append_of_le_length (by omega)] at hj hpart
      exact haccepted.torn hpart (fun b hb => recordText_bytes record b (List.mem_of_mem_take hb)) hj
  · have hne : s'.journal ≠ s.journal := by
      rw [hj, haccepted.journal_eq]
      intro heq
      have hnil := List.append_right_eq_self.mp (congrArg File.content (Option.some.inj heq))
      exact List.append_ne_nil_of_right_ne_nil _ (List.cons_ne_nil _ _) hnil
    refine ⟨fun heq => absurd heq hne, fun _ hsame => ?_, fun _ hlimit' => ?_⟩
    · exact haccepted.unmatched hadmitted hj hsame
    · exact ⟨record, hadmitted, haccepted.replaced hadmitted hj hh (hlimit' _ hj)⟩

/-! ### A sample journal -/

attribute [local instance] Sample.platform

/-- The conversions of integers and texts. -/
@[reducible]
def sampleConversions : Conversions where
  int
    | .int n => .ok n
    | _ => fail (.other "TypeError") "int() argument must be a string or a number"
  str
    | .str text => text
    | _ => ""
  int_int _ := rfl
  str_str _ := rfl

attribute [local instance] sampleConversions

def sampleJournal : OperationJournal where
  parentPath := "/var/lib/pfsense-mcp"
  name := "journal"
  integrityKey := List.replicate 32 0
  key_length := by decide

def sampleBinding : OperationBinding where
  operationId := "operation-1"
  operationType := .bootstrap
  targetIdentity := "firewall"
  targetOrigin := "https://firewall"
  accountIdentity := "pfsense-mcp"
  approvedProfile := "write_protected"
  schemaVersion := "1"
  schemaEvidenceDigest := "digest"
  startingAuthMethods := ["KeyAuth"]

/-- The parts of the origin of the sample. -/
def sampleSplit : String → Except Error SplitOrigin := fun _ => .ok ⟨"https", some "firewall", none, none⟩

/-- A directory without a journal. -/
def emptyFiles : Files := ⟨some ⟨true, true, false⟩, none, none, fun _ => none⟩

/-- The journal after its creation. -/
def createdFiles : Files :=
  ((sampleJournal.create sampleSplit sampleBinding "2026-01-01").run untroubled emptyFiles).state

def sampleRequest : AppendRequest where
  operationId := "operation-1"
  state := .preSendReady
  transactionState := .notStarted
  mutationIndex := 1
  timestamp := "2026-01-02"
  recoveryAction := none

/-- The first record of the sample. -/
def sampleFirst : JournalRecord := sampleJournal.firstRecord sampleBinding "2026-01-01"

theorem run_create_sample :
    (sampleJournal.create sampleSplit sampleBinding "2026-01-01").run untroubled emptyFiles =
      ⟨.ok [sampleFirst], { emptyFiles with
        journal := some (.created (recordText sampleFirst ++ [10]))
        head := some (.created (sampleJournal.headText sampleFirst.sequence sampleFirst.mac)) },
        untroubled⟩ := by
  have hbinding : validateBinding sampleSplit sampleBinding = .ok () := by
    unfold validateBinding
    simp [sampleBinding, sampleSplit, demand_of, ok_bind]
  exact run_create _ _ (demand_of ⟨rfl, rfl, rfl⟩) hbinding rfl rfl

theorem reachable_sample : Reachable sampleJournal createdFiles [sampleFirst] :=
  .create (by rw [run_create_sample])

/-- The line of a record is no longer than four times the weight of its fields. -/
theorem length_recordText_le (record : JournalRecord) :
    (recordText record).length ≤ 4 * Json.weight (.obj (recordFieldList record)) := by
  have hbytes := Bytes.length_encodeUtf8_le (Json.dumps false (.obj (recordFieldList record)))
  have hweight := Json.length_dumpValue_le false (.obj (recordFieldList record))
  rw [Json.dumps, String.toList_ofList] at hbytes
  rw [recordText, canonical, sortKeys_record, Json.dumps]
  omega

theorem withinLimit_sample : WithinLimit createdFiles := by
  intro file hfile
  rw [createdFiles, run_create_sample] at hfile
  cases hfile
  have hweight : Json.weight (.obj (recordFieldList sampleFirst)) ≤ 10000 := by decide +kernel
  have hlength := length_recordText_le sampleFirst
  show (recordText sampleFirst ++ [10]).length ≤ maxJournalBytes
  rw [List.length_append, List.length_singleton]
  unfold maxJournalBytes
  omega

theorem admitRecord_sample : sampleJournal.admitRecord [sampleFirst] sampleRequest =
    .ok (sampleJournal.candidate sampleFirst sampleRequest) := by
  have hvalid : validateTransition sampleFirst (sampleJournal.candidate sampleFirst sampleRequest) =
      .ok () := by
    unfold validateTransition
    refine bind_eq_ok.mpr ⟨(), demand_of rfl, bind_eq_ok.mpr ⟨(), demand_of (by decide), ?_⟩⟩
    refine bind_eq_ok.mpr ⟨(), demand_of (by decide), bind_eq_ok.mpr ⟨(), demand_of (by decide), ?_⟩⟩
    refine bind_eq_ok.mpr ⟨(), demand_of (by decide), bind_eq_ok.mpr ⟨(), demand_of (by decide), ?_⟩⟩
    exact demand_of (by decide)
  have hoperation : sampleRequest.operationId = sampleFirst.binding.operationId := rfl
  simp only [admitRecord, List.getLast?_singleton, demand_of hoperation, ok_bind, hvalid]

/-- The files after the line of the second record was written. -/
def tornFiles : Files :=
  { createdFiles with
    journal := appendTo createdFiles.journal
      (recordText (sampleJournal.candidate sampleFirst sampleRequest) ++ [10]) }

/-- An append stops after it has written its line. -/
theorem stopped_sample :
    Stopped .complete (sampleJournal.append 1 sampleRequest) createdFiles tornFiles := by
  obtain ⟨file, latest, haccepted⟩ :=
    load_eq_ok.mp (load_of_reachable reachable_sample withinLimit_sample)
  exact stopped_written haccepted admitRecord_sample

theorem load_of_stopped_sample :
    (tornFiles.journal = createdFiles.journal → sampleJournal.load tornFiles = .ok [sampleFirst]) ∧
      (tornFiles.journal ≠ createdFiles.journal → tornFiles.head = createdFiles.head →
        ∃ e, sampleJournal.load tornFiles = .error e ∧ e.cls = journalError) ∧
      (tornFiles.head ≠ createdFiles.head → WithinLimit tornFiles →
        ∃ record, sampleJournal.admitRecord [sampleFirst] sampleRequest = .ok record ∧
          sampleJournal.load tornFiles = .ok ([sampleFirst] ++ [record])) :=
  load_of_stopped reachable_sample withinLimit_sample stopped_sample

/-- A journal is not always loaded as it was before or after an append that stopped: with the line
written and the old head, it is refused. -/
theorem not_before_or_after :
    ¬∀ (journal : OperationJournal) (s s' : Files) (records : List JournalRecord) (pid : ℕ)
      (request : AppendRequest), Reachable journal s records → WithinLimit s →
      Stopped .complete (journal.append pid request) s s' →
      journal.load s' = .ok records ∨
        ∃ after, ((journal.append pid request).run untroubled s).result = .ok after ∧
          journal.load s' = .ok after := by
  intro h
  obtain ⟨file, latest, haccepted⟩ :=
    load_eq_ok.mp (load_of_reachable reachable_sample withinLimit_sample)
  obtain ⟨e, hrefused, -⟩ := refused_written haccepted admitRecord_sample
  rcases h sampleJournal createdFiles tornFiles [sampleFirst] 1 sampleRequest reachable_sample
    withinLimit_sample stopped_sample with hbefore | ⟨after, -, hafter⟩
  · rw [tornFiles, hrefused] at hbefore
    cases hbefore
  · rw [tornFiles, hrefused] at hafter
    cases hafter

end

end OperationJournal

end Administration
