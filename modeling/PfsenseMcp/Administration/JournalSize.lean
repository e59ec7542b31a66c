import Mathlib.Data.Nat.Notation
import PfsenseMcp.Administration.TamperEvidence

/-!
# When the journal can be read back

`append` refuses a journal file that is over `_MAX_JOURNAL_BYTES` before it adds its line, and
`create` does not look at a size at all; `load` refuses a file over the limit. So a call may return,
and leave a journal that can no longer be read.

## Main results

* `run_of_whole`: a call that returned has done what it does where no call of the operating system
  fails;
* `load_returned_iff`: `load` gives back what every call of a run returned exactly if every line
  still fitted into the limit;
* `created_unreadable`: `create` may return and leave a journal that is never read again.
-/

namespace Administration

open Python Concurrency Procedure Tier1

namespace OperationJournal

/-! ### Calls that return -/

/-- The procedure raises, whatever the operating system answers. -/
def Raises {α : Type} (p : FileOp α) : Prop := ∀ inputs s, ∃ e, (p.run inputs s).result = .error e

/-- A call of the operating system fails, or does all it was asked for. -/
def Answer.Whole (answer : Answer) : Prop := answer.failed = false → answer.written = none

theorem Answer.eq_complete {answer : Answer} (hwhole : answer.Whole)
    (h : answer.failed = false) : answer = .complete := by
  obtain ⟨failed, written⟩ := answer
  have hwritten : written = none := hwhole h
  cases h
  rw [hwritten]
  rfl

/-- A failed call of the operating system lets the procedure raise, or makes no difference. -/
def Strict {α : Type} : FileOp α → Prop
  | .atom u k => (∀ i : Answer, i.Whole → ∀ s,
      (u i s = u .complete s ∧ k i s = k .complete s) ∨ Raises (k i s)) ∧
        ∀ s, Strict (k .complete s)
  | _ => True

section Strict

variable {α β : Type}

theorem raises_raise (e : Error) : Raises (.raise e : FileOp α) := fun _ _ => ⟨e, rfl⟩

theorem Raises.bind {p : FileOp α} (h : Raises p) (f : α → FileOp β) : Raises (p >>= f) := by
  intro inputs s
  obtain ⟨e, he⟩ := h inputs s
  rw [run_bind]
  generalize p.run inputs s = ending at he
  obtain ⟨result, state, rest⟩ := ending
  cases he
  exact ⟨e, rfl⟩

/-- What follows a `try` block raises if its body does, and what follows raises then. -/
theorem Raises.attempt {p : FileOp α} (h : Raises p) {f : Except Error α → FileOp β}
    (hf : ∀ e, Raises (f (.error e))) : Raises (p.attempt >>= f) := by
  intro inputs s
  obtain ⟨e, he⟩ := h inputs s
  rw [run_bind, run_attempt, he]
  exact hf e _ _

theorem strict_bind {p : FileOp α} {f : α → FileOp β} (hp : Strict p) (hf : ∀ a, Strict (f a)) :
    Strict (p >>= f) := by
  induction p with
  | ret a => exact hf a
  | raise e => trivial
  | atom u k ih =>
    refine ⟨fun i hi s => ?_, fun s => ih _ s (hp.2 s)⟩
    rcases hp.1 i hi s with ⟨hu, hk⟩ | hraises
    · exact .inl ⟨hu, by dsimp only; rw [hk]⟩
    · exact .inr (hraises.bind f)

theorem strict_attempt_bind {p : FileOp α} {f : Except Error α → FileOp β} (hp : Strict p)
    (hf : ∀ r, Strict (f r)) (herror : ∀ e, Raises (f (.error e))) :
    Strict (p.attempt >>= f) := by
  induction p with
  | ret a => exact hf _
  | raise e => exact hf _
  | atom u k ih =>
    refine ⟨fun i hi s => ?_, fun s => ih _ s (hp.2 s)⟩
    rcases hp.1 i hi s with ⟨hu, hk⟩ | hraises
    · exact .inl ⟨hu, by dsimp only; rw [hk]⟩
    · exact .inr (hraises.attempt herror)

theorem strict_ofExcept (x : Except Error α) : Strict (ofExcept x : FileOp α) := by
  cases x <;> trivial

theorem strict_require (condition : Prop) [Decidable condition] (e : Error) :
    Strict (require condition e : FileOp Unit) := by
  unfold require
  split <;> trivial

theorem strict_look (f : Files → Except Error α) : Strict (look f) :=
  ⟨fun _ _ _ => .inl ⟨rfl, rfl⟩, fun _ => strict_ofExcept _⟩

theorem strict_effect (data : Bytes) (f : Bytes → Files → Files) : Strict (effect data f) := by
  refine ⟨fun i hi s => ?_, fun _ => trivial⟩
  dsimp only
  by_cases hfailed : i.failed = true
  · refine .inr ?_
    rw [if_pos hfailed]
    exact raises_raise _
  · rw [Answer.eq_complete hi (Bool.eq_false_iff.mpr hfailed)]
    exact .inl ⟨rfl, rfl⟩

theorem strict_fsync : Strict fsync := strict_bind (strict_effect _ _) fun _ => trivial

theorem strict_openExclusive (slot : Files → Option File) (put : Option File → Files → Files)
    (e : Error) : Strict (openExclusive slot put e) := by
  refine ⟨fun i hi s => ?_, fun s => ?_⟩
  · dsimp only
    by_cases hfailed : i.failed = true
    · refine .inr ?_
      rw [if_pos (.inl hfailed)]
      exact raises_raise _
    · rw [Answer.eq_complete hi (Bool.eq_false_iff.mpr hfailed)]
      exact .inl ⟨rfl, rfl⟩
  · dsimp only
    split <;> trivial

section Model

variable [Platform] (journal : OperationJournal)

theorem strict_writeHead (pid : ℕ) (sequence : ℤ) (recordMac : String) :
    Strict (journal.writeHead pid sequence recordMac) := by
  refine strict_bind (strict_look _) fun _ => strict_attempt_bind ?_ (fun r => ?_) fun e => ?_
  · refine strict_bind (strict_openExclusive _ _ _) fun _ => ?_
    refine strict_bind (strict_effect _ _) fun _ => strict_bind strict_fsync fun _ => ?_
    exact strict_bind (strict_effect _ _) fun _ => trivial
  · exact strict_bind (strict_effect _ _) fun _ => strict_ofExcept _
  · -- the error of the body is raised after the temporary file is removed
    intro inputs s
    rw [run_bind]
    obtain ⟨result, state, rest⟩ := (effect [] fun _ s =>
      { s with temp := Function.update s.temp pid none }).run inputs s
    cases result with
    | error e' => exact ⟨e', rfl⟩
    | ok n => exact ⟨e, rfl⟩

theorem strict_append [Conversions] (pid : ℕ) (request : AppendRequest) :
    Strict (journal.append pid request) := by
  refine strict_bind (strict_look _) fun records => strict_bind (strict_ofExcept _) fun record => ?_
  refine strict_bind (strict_look _) fun _ => strict_bind (strict_effect _ _) fun written => ?_
  refine strict_bind (strict_require _ _) fun _ => strict_bind strict_fsync fun _ => ?_
  exact strict_bind (journal.strict_writeHead _ _ _) fun _ => strict_bind strict_fsync fun _ => trivial

theorem strict_create (split : String → Except Error SplitOrigin) (binding : OperationBinding)
    (timestamp : String) : Strict (journal.create split binding timestamp) := by
  refine strict_bind (strict_look _) fun _ => strict_bind (strict_ofExcept _) fun _ => ?_
  refine strict_bind (strict_openExclusive _ _ _) fun _ => strict_bind strict_fsync fun _ => ?_
  refine strict_bind (strict_effect _ _) fun _ => strict_bind strict_fsync fun _ => ?_
  refine strict_bind ?_ fun _ => strict_bind strict_fsync fun _ => trivial
  refine strict_bind (strict_openExclusive _ _ _) fun _ => strict_bind (strict_effect _ _) fun _ => ?_
  exact strict_fsync

end Model

/-- A call that returned has done what it does where no call of the operating system fails. -/
theorem run_of_whole {p : FileOp α} (hp : Strict p) {inputs : ℕ → Answer}
    (hinputs : ∀ n, (inputs n).Whole) {s : Files} {a : α}
    (h : (p.run inputs s).result = .ok a) :
    (p.run untroubled s).result = .ok a ∧ (p.run untroubled s).state = (p.run inputs s).state := by
  induction p generalizing inputs s with
  | ret b => exact ⟨h, rfl⟩
  | raise e => exact ⟨h, rfl⟩
  | atom u k ih =>
    rw [run_atom] at h
    rcases hp.1 (inputs 0) (hinputs 0) s with ⟨hu, hk⟩ | hraises
    · rw [hk] at h
      have hrest := ih _ _ (hp.2 s) (fun n => hinputs (n + 1)) h
      rw [run_atom, run_atom, hu, hk] at *
      exact hrest
    · obtain ⟨e, he⟩ := hraises (fun n => inputs (n + 1)) (u (inputs 0) s)
      rw [he] at h
      cases h

end Strict

/-! ### Runs -/

section Model

variable [Platform] [Conversions] (journal : OperationJournal)

/-- The line that a call adds to the journal. -/
def JournalCall.line (s : Files) : JournalCall → Bytes
  | .create _ binding timestamp => recordText (journal.firstRecord binding timestamp) ++ [10]
  | .append _ request =>
    match journal.load s with
    | .ok records =>
      match records.getLast? with
      | some previous => recordText (journal.candidate previous request) ++ [10]
      | none => []
    | .error _ => []

/-- The size of the journal file. -/
def journalSize (s : Files) : ℕ :=
  match s.journal with
  | some file => file.content.length
  | none => 0

/-- The journal has room for the line of a call. -/
def JournalCall.Fits (s : Files) (call : JournalCall) : Prop :=
  journalSize s + (call.line journal s).length ≤ maxJournalBytes

/-- A call that returned, with the files before and after it. -/
structure Returned where
  before : Files
  call : JournalCall
  records : List JournalRecord
  after : Files

/-- The call was made against some answers of the operating system, and returned. -/
def Returned.Made (made : Returned) : Prop :=
  ∃ inputs : ℕ → Answer, (∀ n, (inputs n).Whole) ∧
    ((made.call.program journal).run inputs made.before).result = .ok made.records ∧
    ((made.call.program journal).run inputs made.before).state = made.after

/-- `create` and then calls of `append`, all of which returned; the files after the last of them. -/
inductive Run : List Returned → Files → Prop
  | create {split : String → Except Error SplitOrigin} {binding : OperationBinding}
    {timestamp : String} {before after : Files} {records : List JournalRecord}
    (h : Returned.Made journal ⟨before, .create split binding timestamp, records, after⟩) :
    Run [⟨before, .create split binding timestamp, records, after⟩] after
  | append {past : List Returned} {pid : ℕ} {request : AppendRequest} {before after : Files}
    {records : List JournalRecord} (hpast : Run past before)
    (h : Returned.Made journal ⟨before, .append pid request, records, after⟩) :
    Run (past ++ [⟨before, .append pid request, records, after⟩]) after

variable {journal}

/-- A line fits if the journal is within the limit with it. -/
theorem fits_iff {s s' : Files} {call : JournalCall} {file : File} (hfile : s'.journal = some file)
    (hlength : file.content.length = journalSize s + (call.line journal s).length) :
    call.Fits journal s ↔ WithinLimit s' := by
  unfold JournalCall.Fits WithinLimit
  rw [← hlength]
  constructor
  · intro hle file' hfile'
    rw [hfile, Option.some.injEq] at hfile'
    rw [← hfile']
    exact hle
  · exact fun h => h file hfile

/-- What a call wrote is read back exactly if there was room for its line. -/
theorem load_made_iff {made : Returned} (h : made.Made journal) :
    journal.load made.after = .ok made.records ↔ made.call.Fits journal made.before := by
  obtain ⟨before, call, records, after⟩ := made
  obtain ⟨inputs, hinputs, hresult, hafter⟩ := h
  cases call with
  | create split binding timestamp =>
    dsimp only [JournalCall.program] at hresult hafter ⊢
    obtain ⟨hreturned, hstate⟩ :=
      run_of_whole (journal.strict_create split binding timestamp) hinputs hresult
    obtain ⟨hparent, hbinding, hjournal, hhead⟩ := checked_of_create hreturned
    have hreach := Reachable.create hreturned
    have hfile := run_create journal timestamp hparent hbinding hjournal hhead
    rw [hstate.trans hafter] at hreach
    have hjournal' : after.journal =
        some (.created (recordText (journal.firstRecord binding timestamp) ++ [10])) := by
      rw [← hafter, ← hstate, hfile]
    have hfits := @fits_iff _ _ journal before _ (.create split binding timestamp) _ hjournal' (by
        unfold journalSize
        rw [hjournal, Nat.zero_add]
        rfl)
    rw [hfits]
    exact ⟨withinLimit_of_load, load_of_reachable hreach⟩
  | append pid request =>
    dsimp only [JournalCall.program] at hresult hafter ⊢
    obtain ⟨hreturned, hstate⟩ :=
      run_of_whole (journal.strict_append pid request) hinputs hresult
    obtain ⟨file, records₀, latest, record, haccepted, hadmitted, htemp, rfl⟩ :=
      admitted_of_append hreturned
    have hrun := run_append haccepted pid hadmitted
    have hjournal' : after.journal =
        some { file with content := file.content ++ (recordText record ++ [10]) } := by
      rw [← hafter, ← hstate, hrun]
    have hload : journal.load before = .ok records₀ := load_eq_ok.mpr ⟨file, latest, haccepted⟩
    have hrecord := haccepted.candidate_of_admit hadmitted
    have hline : JournalCall.line journal before (.append pid request) =
        recordText record ++ [10] := by
      rw [JournalCall.line, hload]
      dsimp only
      rw [haccepted.last, hrecord]
    have hfits := @fits_iff _ _ journal before _ (.append pid request) _ hjournal' (by
        unfold journalSize
        rw [haccepted.journal_eq, hline]
        exact List.length_append)
    rw [hfits]
    refine ⟨withinLimit_of_load, fun hlimit => ?_⟩
    refine haccepted.replaced hadmitted hjournal' ?_ (hlimit _ hjournal')
    rw [← hafter, ← hstate, hrun]
    exact if_pos htemp

/-- Every call of a run returned. -/
theorem Run.made {calls : List Returned} {s : Files} (h : Run journal calls s) :
    ∀ made ∈ calls, made.Made journal := by
  induction h with
  | create h =>
    intro made hmade
    rw [List.mem_singleton.mp hmade]
    exact h
  | append hpast h ih =>
    intro made hmade
    rcases List.mem_append.mp hmade with hmade | hmade
    · exact ih made hmade
    · rw [List.mem_singleton.mp hmade]
      exact h

end Model

/-- `load` gives back what every call returned, right after it, exactly if every call found room for
its line. -/
theorem load_returned_iff [Platform] [Conversions] {journal : OperationJournal}
    {calls : List Returned} {s : Files} (h : Run journal calls s) :
    (∀ made ∈ calls, journal.load made.after = .ok made.records) ↔
      ∀ made ∈ calls, made.call.Fits journal made.before :=
  forall₂_congr fun made hmade => load_made_iff (h.made made hmade)

/-- The line of a record is longer than the schema version of its binding. -/
theorem length_le_recordText (record : JournalRecord) :
    record.binding.schemaVersion.toList.length ≤ (recordText record).length := by
  have hbytes := Bytes.length_le_encodeUtf8 (Json.dumps false (.obj (recordFieldList record)))
  rw [Json.dumps, String.toList_ofList] at hbytes
  rw [recordText, canonical, sortKeys_record, Json.dumps]
  refine le_trans ?_ hbytes
  have hbinding : ("binding", Json.obj (bindingFieldList record.binding)) ∈ recordFieldList record :=
    List.mem_cons_self
  refine le_trans ?_ (Json.length_le_dumpValue_obj false hbinding)
  have hversion : ("schema_version", Json.str record.binding.schemaVersion) ∈
      bindingFieldList record.binding := by simp [bindingFieldList]
  refine le_trans ?_ (Json.length_le_dumpValue_obj false hversion)
  exact Json.length_le_dumpString false _

/-- There is no room for the first record of a binding with a schema version as long as the limit. -/
theorem not_fits_create [Platform] [Conversions] (journal : OperationJournal)
    {split : String → Except Error SplitOrigin} {binding : OperationBinding} (timestamp : String)
    (s : Files) (hlong : maxJournalBytes ≤ binding.schemaVersion.toList.length) :
    ¬(JournalCall.create split binding timestamp).Fits journal s := by
  intro hfits
  have hline : binding.schemaVersion.toList.length ≤
      (recordText (journal.firstRecord binding timestamp)).length :=
    length_le_recordText (journal.firstRecord binding timestamp)
  unfold JournalCall.Fits at hfits
  rw [JournalCall.line, List.length_append, List.length_singleton] at hfits
  omega

section Sample

attribute [local instance] Sample.platform sampleConversions

/-- The run that only creates the journal of the sample. -/
theorem run_sample : Run sampleJournal
    [⟨emptyFiles, .create sampleSplit sampleBinding "2026-01-01", [sampleFirst], createdFiles⟩]
    createdFiles :=
  .create ⟨untroubled, fun _ _ => rfl, by dsimp only [JournalCall.program]; rw [run_create_sample], rfl⟩

theorem load_returned_sample :
    (∀ made ∈ [(⟨emptyFiles, .create sampleSplit sampleBinding "2026-01-01", [sampleFirst],
      createdFiles⟩ : Returned)], sampleJournal.load made.after = .ok made.records) ↔
      ∀ made ∈ [(⟨emptyFiles, .create sampleSplit sampleBinding "2026-01-01", [sampleFirst],
        createdFiles⟩ : Returned)], made.call.Fits sampleJournal made.before :=
  load_returned_iff run_sample

/-- A binding with a schema version of four million characters and more. -/
def longBinding : OperationBinding :=
  { sampleBinding with schemaVersion := String.ofList (List.replicate (4 * 1024 * 1024) '1') }

/-- Nothing checks the schema version of a binding. -/
theorem validateBinding_schemaVersion (version : String) :
    validateBinding sampleSplit { sampleBinding with schemaVersion := version } = .ok () := by
  unfold validateBinding
  simp [sampleBinding, sampleSplit, demand_of, ok_bind]

/-- `create` returns for a binding that makes its own journal too long to be read. -/
theorem created_unreadable :
    ∃ calls s, Run sampleJournal calls s ∧
      ∃ made ∈ calls, sampleJournal.load made.after ≠ .ok made.records := by
  have hbinding : validateBinding sampleSplit longBinding = .ok () :=
    validateBinding_schemaVersion _
  have hrun := run_create sampleJournal (s := emptyFiles) "2026-01-01" (demand_of ⟨rfl, rfl, rfl⟩)
    hbinding rfl rfl
  have hmade : Returned.Made sampleJournal ⟨emptyFiles, .create sampleSplit longBinding "2026-01-01",
      [sampleJournal.firstRecord longBinding "2026-01-01"],
      ((sampleJournal.create sampleSplit longBinding "2026-01-01").run untroubled emptyFiles).state⟩ :=
    ⟨untroubled, fun _ _ => rfl, congrArg Ending.result hrun, rfl⟩
  refine ⟨_, _, .create hmade, _, List.mem_singleton_self _, fun hload => ?_⟩
  refine not_fits_create sampleJournal "2026-01-01" emptyFiles ?_ ((load_made_iff hmade).mp hload)
  show maxJournalBytes ≤ (String.ofList (List.replicate (4 * 1024 * 1024) '1')).toList.length
  rw [String.toList_ofList, List.length_replicate]
  exact Nat.le_refl _

end Sample

end OperationJournal

end Administration
