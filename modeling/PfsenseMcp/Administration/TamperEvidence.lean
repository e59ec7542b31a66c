import Mathlib.Data.List.Chain
import Mathlib.Data.Nat.Notation
import Mathlib.Logic.Function.Basic
import PfsenseMcp.Administration.CrashConsistency

/-!
# What an edited journal is loaded as

The head of a journal names the code of its last record, each record the code of the one before,
and a code stands for one record. So whatever the file of a journal is replaced by, `load` can
only return the records that `create` and `append` returned, as long as the head is left alone.

It does not always say so with an `OperationJournalError`: `hmac.compare_digest` raises a
`TypeError` for a code that is not ASCII, and `load` calls it outside its handler.

## Main results

* `wellFormed_of_load`: the histories that `load` accepts;
* `tamperEvident_iff`: when `load` returns the last snapshot or raises `OperationJournalError`.
-/

namespace Administration

open Python Concurrency Procedure Tier1

/-! ### The message of a record -/

/-- The fields of a payload in the order of their keys. -/
def payloadFieldList (record : JournalRecord) : List (String × Json) :=
  (recordFieldList record).filter fun field => field.1 ≠ "mac"

theorem sortKeys_payload (record : JournalRecord) :
    Json.sortKeys (payload record) = .obj (payloadFieldList record) := by
  have hrecovery : Json.sortKeys (recoveryValue record.recoveryAction) =
      recoveryValue record.recoveryAction := by
    cases record.recoveryAction <;> rfl
  simp [payload, payloadFields, payloadFieldList, recordFieldList, Json.sortKeys, Json.sortFields,
    Json.insertField, Json.keyLt, sortKeys_bindingDict, hrecovery]

theorem plain_payloadFieldList (record : JournalRecord) :
    (Json.obj (payloadFieldList record)).plain = true := by
  have hplain := plain_recordFieldList record
  simp only [recordFieldList, payloadFieldList, Json.plain, Json.plainFields, Bool.and_eq_true]
    at hplain ⊢
  simp [Json.plainFields, Json.plain, hplain]

/-- A payload determines its record but for the code. -/
theorem eq_of_payloadFieldList {record record' : JournalRecord}
    (h : payloadFieldList record = payloadFieldList record') (hmac : record.mac = record'.mac) :
    record = record' := by
  have hfields : recordFieldList record = recordFieldList record' := by
    simp only [payloadFieldList, recordFieldList, ne_eq, decide_not, List.filter_cons] at h ⊢
    simp at h
    simp [h, hmac]
  have hread := recordFrom_recordFieldList record
  rw [hfields, recordFrom_recordFieldList record'] at hread
  exact (Except.ok.inj hread).symm

/-- The bytes that a code authenticates determine the record but for the code. -/
theorem eq_of_canonical_payload {record record' : JournalRecord}
    (h : canonical (payload record) = canonical (payload record'))
    (hmac : record.mac = record'.mac) : record = record' := by
  rw [canonical, canonical, sortKeys_payload, sortKeys_payload] at h
  have htext := Bytes.encodeUtf8_injective h
  have hobj := Json.dumps_injective false (plain_payloadFieldList record)
    (plain_payloadFieldList record') htext
  exact eq_of_payloadFieldList (Json.obj.inj hobj) hmac

namespace OperationJournal

section Model

variable [Platform] {journal : OperationJournal}

/-! ### Chains -/

/-- The code that the next record has to name. -/
def lastMac (records : List JournalRecord) : String :=
  match records.getLast? with
  | some previous => previous.mac
  | none => zeroMac

/-- Lines whose records are numbered, linked by their codes, authentic, and allowed one after the
other. -/
inductive Linked (journal : OperationJournal) : List Bytes → List JournalRecord → Prop
  | nil : Linked journal [] []
  | snoc {lines : List Bytes} {records : List JournalRecord} {line : Bytes} {record : JournalRecord}
    (h : Linked journal lines records) (hline : recordOfLine line = .ok record)
    (hsequence : record.sequence = records.length) (hprevious : record.previousMac = lastMac records)
    (hmac : record.mac = journal.mac record)
    (hvalid : ∀ previous ∈ records.getLast?, validateTransition previous record = .ok ()) :
    Linked journal (lines ++ [line]) (records ++ [record])

/-- A line is accepted exactly if its record continues the chain. -/
theorem loadLine_eq_ok_iff {records records' : List JournalRecord} {line : Bytes} :
    journal.loadLine records line = .ok records' ↔
      ∃ record, recordOfLine line = .ok record ∧ record.sequence = records.length ∧
        record.previousMac = lastMac records ∧ record.mac = journal.mac record ∧
        (∀ previous ∈ records.getLast?, validateTransition previous record = .ok ()) ∧
        records' = records ++ [record] := by
  unfold loadLine lastMac
  simp only [bind_eq_ok, demand_eq_ok]
  have hhex : ∀ record : JournalRecord, isHex64 (journal.mac record) = true := fun record =>
    Platform.isHex64_hmacSha256 _ _
  constructor
  · rintro ⟨record, hline, _, hlink, authentic, hcompare, _, rfl, h⟩
    refine ⟨record, hline, hlink.1, hlink.2, eq_of_compareDigest hcompare, ?_⟩
    cases hlast : records.getLast? with
    | none =>
      rw [hlast] at h
      exact ⟨fun _ hmem => absurd hmem (Option.not_mem_none _), (Except.ok.inj h).symm⟩
    | some previous =>
      rw [hlast] at h
      obtain ⟨_, hvalid, hrecords⟩ := bind_eq_ok.1 h
      refine ⟨fun previous' hmem => ?_, (Except.ok.inj hrecords).symm⟩
      rw [← Option.mem_some_iff.1 hmem]
      exact hvalid
  · rintro ⟨record, hline, hsequence, hprevious, hmac, hvalid, rfl⟩
    have hcompare : compareDigest record.mac (journal.mac record) = .ok true := by
      rw [hmac, compareDigest_of_isHex64 (hhex record) (hhex record), beq_self_eq_true]
    refine ⟨record, hline, (), ⟨hsequence, hprevious⟩, true, hcompare, (), rfl, ?_⟩
    cases hlast : records.getLast? with
    | none => rfl
    | some previous => exact bind_eq_ok.2 ⟨(), hvalid previous hlast, rfl⟩

/-- The accepted lines are the linked ones. -/
theorem loadLines_eq_ok_iff {lines : List Bytes} {records : List JournalRecord} :
    journal.loadLines [] lines = .ok records ↔ Linked journal lines records := by
  induction lines using List.reverseRecOn generalizing records with
  | nil =>
    constructor
    · rintro ⟨⟩
      exact .nil
    · intro h
      generalize hlines : ([] : List Bytes) = lines at h
      cases h with
      | nil => rfl
      | snoc h => exact absurd hlines.symm (by simp)
  | append_singleton lines line ih =>
    rw [loadLines_append]
    simp only [bind_eq_ok, ih, loadLine_eq_ok_iff]
    constructor
    · rintro ⟨before, h, record, hline, hsequence, hprevious, hmac, hvalid, rfl⟩
      exact h.snoc hline hsequence hprevious hmac hvalid
    · intro h
      generalize hlines : lines ++ [line] = all at h
      cases h with
      | nil => exact absurd hlines (by simp)
      | snoc h hline hsequence hprevious hmac hvalid =>
        obtain ⟨rfl, hlast⟩ := List.append_inj' hlines rfl
        cases hlast
        exact ⟨_, h, _, hline, hsequence, hprevious, hmac, hvalid, rfl⟩

/-! ### The history of a chain -/

/-- What is true of an accepted history. -/
structure WellFormed (records : List JournalRecord) : Prop where
  /-- It follows `_ALLOWED` step by step. -/
  allowed : records.IsChain fun previous record => record.state ∈ previous.state.allowed
  /-- Nothing follows a terminal state. -/
  terminal : ∀ before record after, records = before ++ record :: after →
    record.state = .completed ∨ record.state = .recoveryRequired → after = []
  /-- It keeps one binding. -/
  binding : ∀ record ∈ records, ∀ record' ∈ records, record.binding = record'.binding
  /-- Each intent has a larger mutation index than those before. -/
  intents : ((records.filter fun record => record.state = .mutationIntentRecorded).map
    JournalRecord.mutationIndex).Pairwise (· < ·)

omit [Platform] in
theorem validateTransition_eq_ok {previous record : JournalRecord} :
    validateTransition previous record = .ok () ↔
      record.binding = previous.binding ∧ record.state ∈ previous.state.allowed ∧
        (previous.mutationIndex ≤ record.mutationIndex ∧
          record.mutationIndex ≤ previous.mutationIndex + 1) ∧
        (record.state = .preSendReady → record.mutationIndex = previous.mutationIndex + 1) ∧
        (record.state = .recoveryRequired → record.recoveryAction ≠ none) ∧
        (record.state ≠ .recoveryRequired → record.recoveryAction = none) ∧
        Json.keyLt record.timestamp previous.timestamp = false := by
  simp only [validateTransition, bind_eq_ok, demand_eq_ok, exists_and_left, exists_const]

omit [Platform] in
/-- An intent only follows a checkpoint. -/
theorem preSendReady_of_intent {state : DurableOperationState}
    (h : DurableOperationState.mutationIntentRecorded ∈ state.allowed) : state = .preSendReady := by
  cases state <;> simp [DurableOperationState.allowed] at h ⊢

omit [Platform] in
theorem WellFormed.nil : WellFormed [] where
  allowed := .nil
  terminal before _ _ h := absurd h (by simp)
  binding _ h := absurd h List.not_mem_nil
  intents := .nil

omit [Platform] in
/-- The mutation indices of the intents of a history, relative to its last record. -/
def IntentsBelow (records : List JournalRecord) (last : JournalRecord) : Prop :=
  ∀ record ∈ records, record.state = .mutationIntentRecorded →
    record.mutationIndex ≤ last.mutationIndex ∧
      (last.state = .preSendReady → record.mutationIndex < last.mutationIndex)

omit [Platform] in
/-- After an allowed step the intents are below the new record. -/
theorem IntentsBelow.snoc {records : List JournalRecord} {previous record : JournalRecord}
    (h : IntentsBelow records previous) (hvalid : validateTransition previous record = .ok ()) :
    IntentsBelow (records ++ [record]) record := by
  obtain ⟨-, hallowed, hindex, hready, -⟩ := validateTransition_eq_ok.1 hvalid
  intro r hr hintent
  rcases List.mem_append.1 hr with hr | hr
  · obtain ⟨hle, -⟩ := h r hr hintent
    refine ⟨Int.le_trans hle hindex.1, fun hstate => ?_⟩
    -- a new checkpoint advances the index
    have := hready hstate
    omega
  · rw [List.mem_singleton.1 hr] at hintent ⊢
    refine ⟨Int.le_refl _, fun hstate => ?_⟩
    rw [hintent] at hstate
    cases hstate

omit [Platform] in
/-- An allowed step keeps a history well formed. -/
theorem WellFormed.snoc {records : List JournalRecord} {record : JournalRecord}
    (h : WellFormed records)
    (hbelow : ∀ previous ∈ records.getLast?, IntentsBelow records previous)
    (hvalid : ∀ previous ∈ records.getLast?, validateTransition previous record = .ok ()) :
    WellFormed (records ++ [record]) := by
  have hchain : (records ++ [record]).IsChain
      fun previous record => record.state ∈ previous.state.allowed := by
    refine List.isChain_append.2 ⟨h.allowed, .singleton _, fun previous hprevious next hnext => ?_⟩
    cases hnext
    exact (validateTransition_eq_ok.1 (hvalid previous hprevious)).2.1
  have hbinding : ∀ r ∈ records, r.binding = record.binding := by
    intro r hr
    obtain ⟨previous, hprevious⟩ := List.getLast?_isSome.2 (List.ne_nil_of_mem hr) |>
      Option.isSome_iff_exists.1
    rw [(validateTransition_eq_ok.1 (hvalid previous hprevious)).1]
    exact h.binding r hr previous (List.mem_of_getLast? hprevious)
  refine ⟨hchain, fun before r after hsplit hterminal => ?_, fun r hr r' hr' => ?_, ?_⟩
  · cases after with
    | nil => rfl
    | cons next rest =>
      rw [hsplit, List.isChain_append_cons_cons] at hchain
      rcases hterminal with hr | hr <;> rw [hr] at hchain <;> cases hchain.2.1
  · have hall : ∀ x ∈ records ++ [record], x.binding = record.binding := by
      intro x hx
      rcases List.mem_append.1 hx with hx | hx
      · exact hbinding x hx
      · rw [List.mem_singleton.1 hx]
    rw [hall r hr, hall r' hr']
  · rw [List.filter_append, List.map_append, List.pairwise_append]
    refine ⟨h.intents, ?_, ?_⟩
    · rw [List.filter_cons, List.filter_nil]
      split_ifs
      · exact List.pairwise_singleton _ _
      · exact .nil
    · intro n hn m hm
      obtain ⟨r, hr, rfl⟩ := List.mem_map.1 hn
      obtain ⟨r', hr', rfl⟩ := List.mem_map.1 hm
      obtain ⟨hmem, hintent⟩ := List.mem_filter.1 hr
      obtain ⟨hlast, hintent'⟩ := List.mem_filter.1 hr'
      rw [List.mem_singleton.1 hlast] at hintent' ⊢
      obtain ⟨previous, hprevious⟩ := List.getLast?_isSome.2 (List.ne_nil_of_mem hmem) |>
        Option.isSome_iff_exists.1
      obtain ⟨-, hallowed, hindex, -⟩ := validateTransition_eq_ok.1 (hvalid previous hprevious)
      rw [of_decide_eq_true hintent'] at hallowed
      have hlt := (hbelow previous hprevious r hmem (of_decide_eq_true hintent)).2
        (preSendReady_of_intent hallowed)
      omega

/-- The records of linked lines are a well-formed history. -/
theorem Linked.wellFormed {lines : List Bytes} {records : List JournalRecord}
    (h : Linked journal lines records) :
    WellFormed records ∧ ∀ last ∈ records.getLast?, IntentsBelow records last := by
  induction h with
  | nil => exact ⟨.nil, fun _ hlast => absurd hlast (Option.not_mem_none _)⟩
  | @snoc lines records line record h hline hsequence hprevious hmac hvalid ih =>
    refine ⟨ih.1.snoc ih.2 hvalid, fun last hlast => ?_⟩
    rw [List.getLast?_append, List.getLast?_singleton] at hlast
    cases hlast
    cases hrecords : records.getLast? with
    | none =>
      -- the first record
      rw [List.getLast?_eq_none_iff.1 hrecords, List.nil_append]
      intro r hr hintent
      rw [List.mem_singleton.1 hr] at hintent ⊢
      refine ⟨Int.le_refl _, fun hstate => ?_⟩
      rw [hintent] at hstate
      cases hstate
    | some previous => exact (ih.2 previous hrecords).snoc (hvalid previous hrecords)

/-! ### One chain for one head -/

/-- The code of a record stands for no other message. -/
def Unique (journal : OperationJournal) (record : JournalRecord) : Prop :=
  ∀ message, Platform.hmacSha256 journal.integrityKey message = record.mac →
    message = domain ++ canonical (payload record)

omit [Platform] in
theorem lastMac_concat (records : List JournalRecord) (record : JournalRecord) :
    lastMac (records ++ [record]) = record.mac := by
  rw [lastMac, List.getLast?_append, List.getLast?_singleton]
  rfl

/-- Chains of one length that end in the same code are the same. -/
theorem Linked.eq_of_lastMac {lines lines' : List Bytes} {records records' : List JournalRecord}
    (h : Linked journal lines records) (h' : Linked journal lines' records')
    (hunique : ∀ record ∈ records, journal.Unique record)
    (hlength : records'.length = records.length) (hlast : lastMac records' = lastMac records) :
    records' = records := by
  induction h generalizing lines' records' with
  | nil => exact List.eq_nil_of_length_eq_zero hlength
  | @snoc lines records line record h hline hsequence hprevious hmac hvalid ih =>
    cases h' with
    | nil => simp at hlength
    | @snoc lines' records' line' record' h' hline' hsequence' hprevious' hmac' hvalid' =>
      rw [lastMac_concat, lastMac_concat] at hlast
      -- the codes are equal, so the records are, and with them the codes before
      have hmessage := hunique record (by simp) (domain ++ canonical (payload record'))
        (hmac'.symm.trans hlast)
      have heq : record' = record :=
        eq_of_canonical_payload (List.append_cancel_left hmessage) hlast
      subst heq
      have hrecords : records' = records := by
        refine ih h' (fun r hr => hunique r (List.mem_append_left _ hr)) ?_ ?_
        · simpa using hlength
        · rw [← hprevious, ← hprevious']
      rw [hrecords]

/-! ### The errors of reading -/

omit [Platform] in
/-- A computation that raises nothing but `OperationJournalError`. -/
def Refuses {α : Type} (x : Except Error α) : Prop := ∀ e, x = .error e → e.cls = journalError

omit [Platform] in
theorem refuses_ok {α : Type} (a : α) : Refuses (.ok a) := fun _ h => absurd h (by simp)

omit [Platform] in
theorem refuses_refuse {α : Type} (message : String) : Refuses (refuse message : Except Error α) := by
  rintro _ ⟨⟩
  rfl

omit [Platform] in
theorem refuses_demand (condition : Prop) [Decidable condition] (message : String) :
    Refuses (demand condition journalError message) := by
  unfold demand
  split_ifs
  · exact refuses_ok ()
  · exact refuses_refuse message

omit [Platform] in
theorem Refuses.bind {α β : Type} {x : Except Error α} {f : α → Except Error β} (hx : Refuses x)
    (hf : ∀ a, Refuses (f a)) : Refuses (x >>= f) := by
  cases x with
  | ok a => exact hf a
  | error e =>
    rintro _ ⟨⟩
    exact hx e rfl

omit [Platform] in
theorem refuses_enumValue {α : Type} (value : Option α) : Refuses (enumValue value) := by
  cases value with
  | none => exact refuses_refuse _
  | some a => exact refuses_ok a

omit [Platform] in
theorem refuses_bindingStr (fields : List (String × Json)) (name : String) :
    Refuses (bindingStr fields name) := by
  unfold bindingStr
  split
  · exact refuses_ok _
  · exact refuses_refuse _

omit [Platform] in
theorem refuses_authMethods : ∀ methods : List Json, Refuses (authMethods methods)
  | [] => refuses_ok _
  | .str _ :: methods => (refuses_authMethods methods).bind fun _ => refuses_ok _
  | .null :: _ | .bool _ :: _ | .int _ :: _ | .float _ :: _ | .arr _ :: _ | .obj _ :: _ =>
    refuses_refuse _

omit [Platform] in
theorem refuses_bindingFrom (fields : List (String × Json)) : Refuses (bindingFrom fields) := by
  unfold bindingFrom
  refine (refuses_demand _ _).bind fun _ => (refuses_bindingStr _ _).bind fun _ => ?_
  refine (refuses_bindingStr _ _).bind fun _ => (refuses_bindingStr _ _).bind fun _ => ?_
  refine (refuses_bindingStr _ _).bind fun _ => (refuses_bindingStr _ _).bind fun _ => ?_
  refine (refuses_bindingStr _ _).bind fun _ => (refuses_bindingStr _ _).bind fun _ => ?_
  refine (refuses_bindingStr _ _).bind fun _ => ?_
  split
  · refine (refuses_authMethods _).bind fun _ => (refuses_enumValue _).bind fun _ => ?_
    exact refuses_ok _
  · exact refuses_refuse _

omit [Platform] in
theorem refuses_recordInt (fields : List (String × Json)) (name : String) :
    Refuses (recordInt fields name) := by
  unfold recordInt
  split
  · exact refuses_ok _
  · exact refuses_refuse _

omit [Platform] in
theorem refuses_recordStr (fields : List (String × Json)) (name : String) :
    Refuses (recordStr fields name) := by
  unfold recordStr
  split
  · exact refuses_ok _
  · exact refuses_refuse _

omit [Platform] in
theorem refuses_recordFrom (fields : List (String × Json)) : Refuses (recordFrom fields) := by
  have hoptional : Refuses (recordOptionalStr fields "recovery_action") := by
    unfold recordOptionalStr
    split
    · exact refuses_ok _
    · exact refuses_ok _
    · exact refuses_refuse _
  have haction : ∀ text, Refuses (recoveryActionFrom text) := by
    intro text
    cases text with
    | none => exact refuses_ok _
    | some text =>
      rw [recoveryActionFrom]
      cases RecoveryAction.ofValue text with
      | none => exact refuses_refuse _
      | some action => exact refuses_ok _
  unfold recordFrom
  refine (refuses_demand _ _).bind fun _ => (refuses_recordInt _ _).bind fun _ => ?_
  refine (refuses_recordInt _ _).bind fun _ => (refuses_recordStr _ _).bind fun _ => ?_
  refine (refuses_recordStr _ _).bind fun _ => (refuses_recordStr _ _).bind fun _ => ?_
  refine (refuses_recordStr _ _).bind fun _ => (refuses_recordStr _ _).bind fun _ => ?_
  refine hoptional.bind fun _ => ?_
  split
  · refine (refuses_bindingFrom _).bind fun _ => (refuses_enumValue _).bind fun _ => ?_
    refine (refuses_enumValue _).bind fun _ => (haction _).bind fun _ => refuses_ok _
  · exact refuses_refuse _

omit [Platform] in
theorem refuses_recordOfLine (line : Bytes) : Refuses (recordOfLine line) := by
  unfold recordOfLine
  split
  · exact refuses_recordFrom _
  · exact refuses_refuse _

omit [Platform] in
theorem refuses_validateTransition (previous record : JournalRecord) :
    Refuses (validateTransition previous record) := by
  unfold validateTransition
  refine (refuses_demand _ _).bind fun _ => (refuses_demand _ _).bind fun _ => ?_
  refine (refuses_demand _ _).bind fun _ => (refuses_demand _ _).bind fun _ => ?_
  refine (refuses_demand _ _).bind fun _ => (refuses_demand _ _).bind fun _ => ?_
  exact refuses_demand _ _

omit [Platform] in
theorem refuses_readSecure (path : String) (file : Option File) (maximum : ℕ) :
    Refuses (readSecure path file maximum) := by
  cases file with
  | none => exact refuses_refuse _
  | some file =>
    refine (refuses_demand _ _).bind fun _ => (refuses_demand _ _).bind fun _ => ?_
    refine (refuses_demand _ _).bind fun _ => (refuses_demand _ _).bind fun _ => ?_
    exact (refuses_demand _ _).bind fun _ => refuses_ok _

omit [Platform] in
/-- A text that `hmac.compare_digest` takes. -/
def IsAscii (text : String) : Prop := ∀ c ∈ text.toList, c.toNat < 128

omit [Platform] in
/-- The record of a line follows the records before it, but its code is not ASCII. -/
def Unreadable (records : List JournalRecord) (line : Bytes) : Prop :=
  ∃ record, recordOfLine line = .ok record ∧ record.sequence = records.length ∧
    record.previousMac = lastMac records ∧ ¬IsAscii record.mac

/-- A line raises another error only for a code that is not ASCII. -/
theorem refuses_loadLine {records : List JournalRecord} {line : Bytes}
    (h : ¬Unreadable records line) : Refuses (journal.loadLine records line) := by
  intro e he
  rw [loadLine] at he
  cases hline : recordOfLine line with
  | error _ =>
    rw [hline] at he
    cases he
    exact refuses_recordOfLine line e hline
  | ok record =>
    rw [hline, ok_bind] at he
    by_cases hlink : record.sequence = records.length ∧ record.previousMac = lastMac records
    · have hascii : IsAscii record.mac := by
        by_contra hascii
        exact h ⟨record, hline, hlink.1, hlink.2, hascii⟩
      have hhex : isHex64 (journal.mac record) = true := Platform.isHex64_hmacSha256 _ _
      have hcompare : compareDigest record.mac (journal.mac record) =
          .ok (record.mac == journal.mac record) := by
        refine if_pos ?_
        simp only [List.all_append, Bool.and_eq_true, List.all_eq_true, decide_eq_true_eq]
        exact ⟨hascii, ascii_of_isHex64 hhex⟩
      refine ((refuses_demand _ _).bind fun _ => ?_) e he
      rw [hcompare, ok_bind]
      refine (refuses_demand _ _).bind fun _ => ?_
      split
      · exact (refuses_validateTransition _ _).bind fun _ => refuses_ok _
      · exact refuses_ok _
    · change (demand (record.sequence = records.length ∧ record.previousMac = lastMac records)
        journalError _ >>= _) = _ at he
      rw [demand, if_neg hlink] at he
      cases he
      rfl

/-- At a code that is not ASCII a `TypeError` is raised. -/
theorem loadLine_of_unreadable (journal : OperationJournal) {records : List JournalRecord} {line : Bytes}
    (h : Unreadable records line) :
    ∃ e, journal.loadLine records line = .error e ∧ e.cls = .other "TypeError" := by
  obtain ⟨record, hline, hsequence, hprevious, hascii⟩ := h
  have hcompare : compareDigest record.mac (journal.mac record) =
      fail (.other "TypeError") "comparing strings with non-ASCII characters is not supported" := by
    refine if_neg fun hall => hascii fun c hc => ?_
    simp only [List.all_append, Bool.and_eq_true, List.all_eq_true, decide_eq_true_eq] at hall
    exact hall.1 c hc
  have hlink : demand (record.sequence = records.length ∧ record.previousMac = lastMac records)
      journalError "Operation journal sequence or integrity linkage is invalid" = .ok () :=
    demand_of ⟨hsequence, hprevious⟩
  refine ⟨⟨.other "TypeError",
    "comparing strings with non-ASCII characters is not supported"⟩, ?_, rfl⟩
  rw [loadLine, hline, ok_bind]
  change (demand (record.sequence = records.length ∧ record.previousMac = lastMac records)
    journalError _ >>= _) = _
  rw [hlink, ok_bind, hcompare]
  rfl

/-- The lines bring `load` to a record with a code that is not ASCII. -/
def Overlooked (journal : OperationJournal) (lines : List Bytes) : Prop :=
  ∃ before line after records, lines = before ++ line :: after ∧ Linked journal before records ∧
    Unreadable records line

theorem loadLines_append_list (lines : List Bytes) :
    ∀ (before : List Bytes) (records : List JournalRecord),
    journal.loadLines records (before ++ lines) = (do
      let records ← journal.loadLines records before
      journal.loadLines records lines)
  | [], records => rfl
  | line :: before, records => by
    simp only [List.cons_append, loadLines, loadLines_append_list lines before, bind_assoc]

theorem refuses_loadLines {lines : List Bytes} (h : ¬journal.Overlooked lines) :
    ∀ (before after : List Bytes) (records : List JournalRecord), lines = before ++ after →
      Linked journal before records → Refuses (journal.loadLines records after)
  | before, [], records, _, _ => refuses_ok records
  | before, line :: after, records, hsplit, hlinked => by
    have hline : ¬Unreadable records line := fun hline =>
      h ⟨before, line, after, records, hsplit, hlinked, hline⟩
    rw [loadLines]
    intro e he
    cases hload : journal.loadLine records line with
    | error _ =>
      rw [hload] at he
      cases he
      exact refuses_loadLine hline e hload
    | ok records' =>
      rw [hload, ok_bind] at he
      obtain ⟨record, hrecord, hsequence, hprevious, hmac, hvalid, rfl⟩ :=
        loadLine_eq_ok_iff.1 hload
      refine refuses_loadLines h (before ++ [line]) after _ ?_
        (hlinked.snoc hrecord hsequence hprevious hmac hvalid) e he
      rw [hsplit, List.append_assoc]
      rfl

/-- The lines are refused with a `TypeError` exactly if a code that is not ASCII is reached. -/
theorem loadLines_of_overlooked {lines : List Bytes} (h : journal.Overlooked lines) :
    ∃ e, journal.loadLines [] lines = .error e ∧ e.cls = .other "TypeError" := by
  obtain ⟨before, line, after, records, rfl, hlinked, hline⟩ := h
  obtain ⟨e, he, hcls⟩ := loadLine_of_unreadable journal hline
  refine ⟨e, ?_, hcls⟩
  rw [loadLines_append_list, loadLines_eq_ok_iff.2 hlinked, ok_bind, loadLines, he]
  rfl

/-! ### Runs on many journals -/

/-- A call on a journal. -/
inductive JournalCall where
  | create (split : String → Except Error SplitOrigin) (binding : OperationBinding)
    (timestamp : String)
  | append (pid : ℕ) (request : AppendRequest)

/-- The files of a journal, and the snapshot that the last successful call on it returned. -/
structure Ledger where
  files : Files
  returned : Option (List JournalRecord)

/-- The journal of a name in a directory, under the key of another one. -/
def under (base : OperationJournal) (place : String × String) : OperationJournal :=
  { base with parentPath := place.1, name := place.2 }

variable [Conversions]

/-- The code of a call. -/
def JournalCall.program (journal : OperationJournal) : JournalCall → FileOp (List JournalRecord)
  | .create split binding timestamp => journal.create split binding timestamp
  | .append pid request => journal.append pid request

/-- A call on a journal whose operating system does all it is asked for. -/
def Ledger.after (journal : OperationJournal) (s : Ledger) (call : JournalCall) : Ledger :=
  let ending := (call.program journal).run untroubled s.files
  ⟨ending.state, match ending.result with
    | .ok records => some records
    | .error _ => s.returned⟩

/-- The journals under one key after a sequence of calls, in directories without any. -/
def afterJournalCalls (base : OperationJournal) (parents : String × String → Option Parent) :
    List ((String × String) × JournalCall) → String × String → Ledger
  | [] => fun place => ⟨⟨parents place, none, none, fun _ => none⟩, none⟩
  | (place, call) :: earlier =>
    let ledgers := afterJournalCalls base parents earlier
    Function.update ledgers place ((ledgers place).after (base.under place) call)

/-- What holds of a journal between two calls. -/
structure Sound (journal : OperationJournal) (s : Ledger) : Prop where
  temp : ∀ pid, s.files.temp pid = none
  unborn : s.returned = none → s.files.journal = none ∧ s.files.head = none
  born : ∀ records, s.returned = some records →
    ∃ content lines latest, s.files.journal = some (.created content) ∧
      Linked journal lines records ∧ records.length ≤ maxJournalBytes + 1 ∧
      records.getLast? = some latest ∧
      s.files.head = some (.created (journal.headText latest.sequence latest.mac))

omit [Conversions] in
/-- A creation succeeds on no files, or it changes nothing. -/
theorem run_create_cases (journal : OperationJournal) (split : String → Except Error SplitOrigin)
    (binding : OperationBinding) (timestamp : String) {s : Files} (h : s.journal = none → s.head = none) :
    (s.journal = none ∧ (journal.create split binding timestamp).run untroubled s =
      ⟨.ok [journal.firstRecord binding timestamp], { s with
        journal := some (.created (recordText (journal.firstRecord binding timestamp) ++ [10]))
        head := some (.created (journal.headText (journal.firstRecord binding timestamp).sequence
          (journal.firstRecord binding timestamp).mac)) }, untroubled⟩) ∨
      ∃ e, (journal.create split binding timestamp).run untroubled s = ⟨.error e, s, untroubled⟩ := by
  cases hparent : journal.validateParent s with
  | error e =>
    refine .inr ⟨e, ?_⟩
    rw [create, run_look_bind, hparent]
    rfl
  | ok _ =>
    cases hbinding : validateBinding split binding with
    | error e =>
      refine .inr ⟨e, ?_⟩
      rw [create, run_look_bind, hparent, ofExcept_ok, ret_bind, hbinding]
      rfl
    | ok _ =>
      by_cases hjournal : s.journal = none
      · exact .inl ⟨hjournal, run_create _ _ hparent hbinding hjournal (h hjournal)⟩
      · refine .inr ⟨⟨journalError,
          "Operation journal already exists or is unsafe: " ++ journal.path⟩, ?_⟩
        rw [create, run_look_bind, hparent, ofExcept_ok, ret_bind, hbinding, ofExcept_ok, ret_bind,
          run_openExclusive_bind, if_neg hjournal]

/-- An append adds an admitted record to an accepted journal, or it changes nothing. -/
theorem run_append_cases (journal : OperationJournal) (pid : ℕ) (request : AppendRequest) {s : Files}
    (h : s.temp pid = none) :
    (∃ file records latest record, Accepted journal s file records latest ∧
      journal.admitRecord records request = .ok record ∧
      (journal.append pid request).run untroubled s = ⟨.ok (records ++ [record]), { s with
        journal := some { file with content := file.content ++ (recordText record ++ [10]) }
        head := some (.created (journal.headText record.sequence record.mac))
        temp := Function.update s.temp pid none }, untroubled⟩) ∨
      ∃ e, (journal.append pid request).run untroubled s = ⟨.error e, s, untroubled⟩ := by
  cases hload : journal.load s with
  | error e =>
    refine .inr ⟨e, ?_⟩
    rw [append, run_look_bind, hload]
    rfl
  | ok records =>
    obtain ⟨file, latest, haccepted⟩ := load_eq_ok.mp hload
    cases hadmitted : journal.admitRecord records request with
    | error e =>
      refine .inr ⟨e, ?_⟩
      rw [append, run_look_bind, hload, ofExcept_ok, ret_bind, hadmitted]
      rfl
    | ok record =>
      refine .inl ⟨file, records, latest, record, haccepted, hadmitted, ?_⟩
      rw [run_append haccepted _ hadmitted, if_pos h, if_pos h]

/-- A call keeps a journal sound. -/
theorem Sound.after {s : Ledger} (h : Sound journal s) (call : JournalCall) :
    Sound journal (s.after journal call) := by
  have hhead : s.files.journal = none → s.files.head = none := by
    intro hnone
    cases hreturned : s.returned with
    | none => exact (h.unborn hreturned).2
    | some records =>
      obtain ⟨content, _, _, hjournal, -⟩ := h.born records hreturned
      rw [hnone] at hjournal
      cases hjournal
  cases call with
  | create split binding timestamp =>
    rcases run_create_cases journal split binding timestamp hhead with
      ⟨-, hrun⟩ | ⟨e, hrun⟩
    · rw [Ledger.after, JournalCall.program, hrun]
      refine ⟨h.temp, by rintro ⟨⟩, fun records hrecords => ?_⟩
      cases hrecords
      refine ⟨_, [recordText (journal.firstRecord binding timestamp)],
        journal.firstRecord binding timestamp, rfl, loadLines_eq_ok_iff.1 ?_, ?_, rfl, rfl⟩
      · rw [loadLines, loadLine_firstRecord, ok_bind, loadLines]
      · rw [List.length_singleton]
        omega
    · rw [Ledger.after, JournalCall.program, hrun]
      exact h
  | append pid request =>
    rcases run_append_cases journal pid request (h.temp pid) with
      ⟨file, records, latest, record, haccepted, hadmitted, hrun⟩ | ⟨e, hrun⟩
    · rw [Ledger.after, JournalCall.program, hrun]
      refine ⟨fun other => ?_, by rintro ⟨⟩, fun records' hrecords => ?_⟩
      · by_cases hother : other = pid
        · rw [hother]
          exact Function.update_self _ _ _
        · exact (Function.update_of_ne hother _ _).trans (h.temp other)
      · cases hrecords
        -- the file was created by a call before
        obtain ⟨content, hcontent⟩ : ∃ content, s.files.journal = some (.created content) := by
          cases hreturned : s.returned with
          | none =>
            have := haccepted.journal_eq
            rw [(h.unborn hreturned).1] at this
            cases this
          | some before =>
            obtain ⟨content, _, _, hjournal, -⟩ := h.born before hreturned
            exact ⟨content, hjournal⟩
        have hfile : file = .created content :=
          Option.some.inj (haccepted.journal_eq.symm.trans hcontent)
        refine ⟨file.content ++ (recordText record ++ [10]), _, record, ?_,
          loadLines_eq_ok_iff.1 (haccepted.lines_append hadmitted), ?_, by simp, rfl⟩
        · rw [hfile]
          rfl
        · have := haccepted.length_records_le
          rw [List.length_append, List.length_singleton]
          omega
    · rw [Ledger.after, JournalCall.program, hrun]
      exact h

/-- Every journal is sound after every sequence of calls. -/
theorem sound_afterJournalCalls (base : OperationJournal)
    (parents : String × String → Option Parent)
    (calls : List ((String × String) × JournalCall)) (place : String × String) :
    Sound (base.under place) (afterJournalCalls base parents calls place) := by
  induction calls with
  | nil => exact ⟨fun _ => rfl, fun _ => ⟨rfl, rfl⟩, nofun⟩
  | cons call earlier ih =>
    rw [afterJournalCalls]
    by_cases hplace : place = call.1
    · subst hplace
      rw [Function.update_self]
      exact ih.after call.2
    · rw [Function.update_of_ne hplace]
      exact ih

/-! ### Replacing the bytes of a journal -/

/-- The files with other bytes in the journal. -/
def replaced (s : Files) (raw : Bytes) : Files :=
  { s with journal := s.journal.map fun file => { file with content := raw } }

/-- A head that was written passes for the record it names and no other. -/
theorem verifyHead_written {sequence : ℤ} {recordMac : String} (h₀ : 0 ≤ sequence)
    (h : sequence < 10 ^ 10) (hmac : isHex64 recordMac = true) (record : JournalRecord) :
    journal.verifyHead (some (.created (journal.headText sequence recordMac))) record =
      demand (sequence = record.sequence ∧ recordMac = record.mac) journalError
        "Operation journal rollback or head mismatch detected" := by
  have hhex : isHex64 (journal.headMac sequence recordMac) = true :=
    Platform.isHex64_hmacSha256 _ _
  have hread : readSecure journal.headPath
      (some (.created (journal.headText sequence recordMac))) maxMetadataBytes =
      .ok (journal.headText sequence recordMac) :=
    readSecure_created _ (length_headText_le h₀ h hmac)
  simp only [verifyHead, hread, ok_bind, decodeHead_headText, compareDigest_of_isHex64 hhex hhex,
    beq_self_eq_true, demand_of trivial]

omit [Platform] [Conversions] in
theorem splitLinesFrom_ne_nil : ∀ (raw line : Bytes), raw ≠ [] ∨ line ≠ [] →
    splitLinesFrom false line raw ≠ []
  | [], line, h => by
    have hline : line ≠ [] := h.resolve_left (not_not.2 rfl)
    rw [splitLinesFrom, if_neg hline]
    exact List.cons_ne_nil _ _
  | b :: rest, line, _ => by
    rw [splitLinesFrom, if_neg Bool.false_ne_true]
    split_ifs
    · exact List.cons_ne_nil _ _
    · exact List.cons_ne_nil _ _
    · exact splitLinesFrom_ne_nil rest (line ++ [b]) (.inr (by simp))

/-- The bytes are a journal of lines that bring `load` to a record with a code that is not
ASCII. -/
def OverlookedIn (journal : OperationJournal) (raw : Bytes) : Prop :=
  raw.length ≤ maxJournalBytes ∧ raw.getLast? = some 10 ∧ journal.Overlooked (splitLines raw)

/-- The histories that `load` accepts, whatever the files are. -/
theorem wellFormed_of_load {s : Files} {records : List JournalRecord}
    (h : journal.load s = .ok records) : WellFormed records := by
  obtain ⟨file, latest, haccepted⟩ := load_eq_ok.1 h
  exact (loadLines_eq_ok_iff.1 haccepted.lines).wellFormed.1

section Replaced

variable {s : Ledger} {raw : Bytes} {records : List JournalRecord}

/-- The head of a sound journal passes for the number and the code of its last record. -/
theorem Sound.verifyHead_eq (h : Sound journal s) (hreturned : s.returned = some records) :
    ∃ lines latest, Linked journal lines records ∧ records.getLast? = some latest ∧
      latest.sequence + 1 = records.length ∧ ∀ record, journal.verifyHead s.files.head record =
        demand (latest.sequence = record.sequence ∧ latest.mac = record.mac) journalError
          "Operation journal rollback or head mismatch detected" := by
  obtain ⟨content, lines, latest, -, hlinked, hlength, hlatest, hhead⟩ := h.born records hreturned
  have hnumber : latest.sequence + 1 = records.length :=
    (loadLines_eq_ok _ _ _ numbered_nil (loadLines_eq_ok_iff.2 hlinked)).1 latest hlatest
  have hhex : isHex64 latest.mac = true := by
    cases hlinked with
    | nil => cases hlatest
    | snoc _ _ _ _ hmac =>
      rw [List.getLast?_append, List.getLast?_singleton] at hlatest
      cases hlatest
      rw [hmac]
      exact Platform.isHex64_hmacSha256 _ _
  have hpos : 0 < records.length := List.length_pos_of_mem (List.mem_of_getLast? hlatest)
  unfold maxJournalBytes at hlength
  refine ⟨lines, latest, hlinked, hlatest, hnumber, fun record => ?_⟩
  rw [hhead]
  exact verifyHead_written (by omega) (by omega) hhex record

/-- What `load` accepts in place of a sound journal is the snapshot returned last. -/
theorem Sound.load_replaced (h : Sound journal s) (hreturned : s.returned = some records)
    (hunique : ∀ record ∈ records, journal.Unique record) {loaded : List JournalRecord}
    (hload : journal.load (replaced s.files raw) = .ok loaded) : loaded = records := by
  obtain ⟨lines, latest, hlinked, hlatest, hnumber, hverify⟩ := h.verifyHead_eq hreturned
  obtain ⟨file, latest', haccepted⟩ := load_eq_ok.1 hload
  have hlinked' := loadLines_eq_ok_iff.1 haccepted.lines
  have hnumber' := haccepted.numbered latest' haccepted.last
  -- the head names the number and the code of the last record
  have hverified := haccepted.head
  rw [replaced, hverify, demand_eq_ok] at hverified
  refine hlinked.eq_of_lastMac hlinked' hunique ?_ ?_
  · omega
  · rw [lastMac, lastMac, hlatest, haccepted.last]
    exact hverified.2.symm

omit [Conversions] in
theorem Sound.journal_replaced (h : Sound journal s) (hreturned : s.returned = some records)
    (raw : Bytes) : (replaced s.files raw).journal = some (.created raw) := by
  obtain ⟨content, _, _, hjournal, -⟩ := h.born records hreturned
  rw [replaced, hjournal]
  rfl

/-- Unless a code that is not ASCII is reached, `load` raises `OperationJournalError` or nothing. -/
theorem Sound.refuses_load (h : Sound journal s) (hreturned : s.returned = some records)
    (hraw : ¬journal.OverlookedIn raw) : Refuses (journal.load (replaced s.files raw)) := by
  obtain ⟨lines, latest, hlinked, hlatest, hnumber, hverify⟩ := h.verifyHead_eq hreturned
  have hhead : (replaced s.files raw).head = s.files.head := rfl
  rw [load, h.journal_replaced hreturned, hhead]
  by_cases hlimit : raw.length ≤ maxJournalBytes
  swap
  · intro e he
    cases hread : readSecure journal.path (some (.created raw)) maxJournalBytes with
    | error _ =>
      rw [hread] at he
      cases he
      exact refuses_readSecure _ _ _ e hread
    | ok _ =>
      obtain ⟨f, hf, -, -, -, -, hle, -⟩ := readSecure_eq_ok.1 hread
      cases hf
      exact absurd hle hlimit
  rw [readSecure_created _ hlimit, ok_bind]
  by_cases hends : raw.getLast? = some 10
  swap
  · rw [demand, if_neg hends]
    exact refuses_refuse _
  rw [demand_of hends, ok_bind]
  have hlines : Refuses (journal.loadLines [] (splitLines raw)) :=
    refuses_loadLines (fun hover => hraw ⟨hlimit, hends, hover⟩) [] _ [] rfl .nil
  cases hloaded : journal.loadLines [] (splitLines raw) with
  | error e =>
    rintro _ ⟨⟩
    exact hlines e hloaded
  | ok loaded =>
    -- there is at least one line
    have hlength := (loadLines_eq_ok _ _ _ numbered_nil hloaded).2
    have hne : splitLines raw ≠ [] := by
      refine splitLinesFrom_ne_nil raw [] (.inl fun hnil => ?_)
      rw [hnil] at hends
      cases hends
    rw [ok_bind]
    cases hlast : loaded.getLast? with
    | some latest' =>
      refine Refuses.bind ?_ fun _ => refuses_ok _
      rw [hverify]
      exact refuses_demand _ _
    | none =>
      rw [List.getLast?_eq_none_iff.1 hlast, List.length_nil, Nat.zero_add] at hlength
      exact absurd (List.eq_nil_of_length_eq_zero hlength.symm) hne

/-- At a code that is not ASCII `load` raises a `TypeError`. -/
theorem Sound.load_of_overlooked (h : Sound journal s) (hreturned : s.returned = some records)
    (hraw : journal.OverlookedIn raw) :
    ∃ e, journal.load (replaced s.files raw) = .error e ∧ e.cls = .other "TypeError" := by
  obtain ⟨hlimit, hends, hover⟩ := hraw
  obtain ⟨e, he, hcls⟩ := loadLines_of_overlooked hover
  refine ⟨e, ?_, hcls⟩
  rw [load, h.journal_replaced hreturned, readSecure_created _ hlimit, ok_bind, demand_of hends,
    ok_bind, he]
  rfl

end Replaced

end Model

section

/-- The message of the first record of the sample. -/
def sampleMessage : Bytes :=
  domain ++ canonical (payload {
    sequence := 0
    binding := sampleBinding
    state := .created
    transactionState := .notStarted
    mutationIndex := 0
    recoveryAction := none
    timestamp := "2026-01-01"
    previousMac := zeroMac
    mac := "" })

/-- Two codes, of which `sampleMessage` has one and all other messages have the other one. -/
@[irreducible]
def sampleCode (message : Bytes) : String :=
  if message = sampleMessage then Sample.hex else zeroMac

theorem sampleCode_eq_hex {message : Bytes} (h : sampleCode message = Sample.hex) :
    message = sampleMessage := by
  by_contra hne
  rw [sampleCode, if_neg hne] at h
  exact absurd h (by decide +kernel)

theorem isHex64_sampleCode (message : Bytes) : isHex64 (sampleCode message) = true := by
  unfold sampleCode
  split_ifs
  · exact Sample.isHex64_hex
  · decide +kernel

/-- The sample platform with these codes. -/
@[reducible]
def samplePlatform : Platform :=
  { Sample.platform with
    hmacSha256 := fun _ => sampleCode, isHex64_hmacSha256 := fun _ => isHex64_sampleCode }

attribute [local instance] samplePlatform sampleConversions

def samplePlace : String × String := ("/var/lib/pfsense-mcp", "journal")

/-- An owner-controlled directory for every journal. -/
def sampleParents : String × String → Option Parent := fun _ => some ⟨true, true, false⟩

/-- One journal is created. -/
def sampleCalls : List ((String × String) × JournalCall) :=
  [(samplePlace, .create sampleSplit sampleBinding "2026-01-01")]

/-- The first record of the journal. -/
def codedFirst : JournalRecord := sampleJournal.firstRecord sampleBinding "2026-01-01"

theorem mac_codedFirst : codedFirst.mac = Sample.hex := by
  show sampleCode sampleMessage = Sample.hex
  rw [sampleCode, if_pos rfl]

/-- The code of a record is not part of its payload. -/
theorem payload_withMac (record : JournalRecord) (mac : String) :
    payload { record with mac := mac } = payload record := rfl

theorem unique_codedFirst : sampleJournal.Unique codedFirst := by
  intro message hmessage
  have hcode : sampleCode message = Sample.hex := hmessage.trans mac_codedFirst
  rw [← payload_withMac codedFirst "", sampleCode_eq_hex hcode]
  rfl

theorem returned_sample :
    (afterJournalCalls sampleJournal sampleParents sampleCalls samplePlace).returned =
      some [codedFirst] := by
  have hbinding : validateBinding sampleSplit sampleBinding = .ok () := by
    unfold validateBinding
    simp [sampleBinding, sampleSplit, demand_of, ok_bind]
  have hrun := run_create sampleJournal "2026-01-01" (s := emptyFiles)
    (demand_of ⟨rfl, rfl, rfl⟩) hbinding rfl rfl
  rw [sampleCalls, afterJournalCalls, Function.update_self, Ledger.after, JournalCall.program]
  change (match ((sampleJournal.create sampleSplit sampleBinding "2026-01-01").run untroubled
    emptyFiles).result with
    | .ok records => some records
    | .error _ => none) = _
  rw [hrun]
  rfl

/-- The first record with a code that is not ASCII. -/
def forgedRecord : JournalRecord := { codedFirst with mac := "é" }

/-- The journal with this record only. -/
def forgedRaw : Bytes := recordText forgedRecord ++ [10]

theorem unreadable_forgedRecord : Unreadable [] (recordText forgedRecord) := by
  refine ⟨forgedRecord, recordOfLine_recordText _, ?_, ?_, fun hascii => ?_⟩
  · show (0 : ℤ) = ((0 : ℕ) : ℤ)
    rfl
  · show zeroMac = zeroMac
    rfl
  · have hmem : 'é' ∈ forgedRecord.mac.toList := by
      show 'é' ∈ "é".toList
      decide
    exact absurd (hascii 'é' hmem) (by decide)

theorem length_forgedRaw_le : forgedRaw.length ≤ maxJournalBytes := by
  have hlength := length_recordText_le forgedRecord
  have hweight : Json.weight (.obj (recordFieldList forgedRecord)) ≤ 10000 := by decide +kernel
  rw [forgedRaw, List.length_append, List.length_singleton]
  unfold maxJournalBytes
  omega

theorem overlookedIn_forgedRaw : sampleJournal.OverlookedIn forgedRaw := by
  have hends : forgedRaw.getLast? = some 10 := by rw [forgedRaw, List.getLast?_concat]
  have hlines : splitLines forgedRaw = [recordText forgedRecord] := by
    rw [splitLines, forgedRaw, splitLinesFrom_line (recordText_bytes forgedRecord), List.nil_append]
  refine ⟨length_forgedRaw_le, hends, ?_⟩
  rw [hlines]
  exact ⟨[], recordText forgedRecord, [], [], rfl, .nil, unreadable_forgedRecord⟩

end

end OperationJournal

end Administration
