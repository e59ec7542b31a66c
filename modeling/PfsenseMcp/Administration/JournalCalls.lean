import PfsenseMcp.Administration.CrashConsistency

/-!
# Calls of the journal, whatever the operating system answers

Two facts about `create` and `append` that do not depend on the answers of the operating system.
A call only adds to the end of the journal; and a call that returns, and none of whose writes was
cut short, has done what it does when it is answered as it asked.

## Main results

* `OperationJournal.within_create`, `OperationJournal.within_append`: the journal only grows;
* `OperationJournal.returns_fill`, `OperationJournal.returns_append`: a call that returns is the
  call that is answered as it asks;
* `OperationJournal.written_of_fill`, `OperationJournal.written_of_append`: what such a call leaves.
-/

namespace Administration

open Python Concurrency Procedure Tier1

namespace OperationJournal

/-- The journal is still there, with something added at its end. -/
def Grows (s s' : Files) : Prop :=
  ∀ file, s.journal = some file →
    ∃ data, s'.journal = some { file with content := file.content ++ data }

theorem Grows.refl (s : Files) : Grows s s := by
  intro file h
  refine ⟨[], ?_⟩
  rw [List.append_nil]
  exact h

theorem grows_of_eq {s s' : Files} (h : s'.journal = s.journal) : Grows s s' := by
  intro file hfile
  refine ⟨[], ?_⟩
  rw [List.append_nil, h]
  exact hfile

theorem Grows.trans {s₁ s₂ s₃ : Files} (h : Grows s₁ s₂) (h' : Grows s₂ s₃) : Grows s₁ s₃ := by
  intro file hfile
  obtain ⟨data, hdata⟩ := h file hfile
  obtain ⟨data', hdata'⟩ := h' _ hdata
  refine ⟨data ++ data', ?_⟩
  rw [hdata', List.append_assoc]

/-! ### Every step adds to the journal -/

section Growth

variable {α : Type} {R : Files → Files → Prop}

theorem within_look (f : Files → Except Error α) (hR : ∀ s, R s s) : (look f).Within R :=
  fun _ s => ⟨hR s, within_ofExcept _⟩

theorem within_effect {data : Bytes} {f : Bytes → Files → Files} (hR : ∀ s, R s s)
    (h : ∀ part s, R s (f part s)) : (effect data f).Within R := by
  intro answer s
  dsimp only
  constructor
  · split_ifs
    · exact hR s
    · exact h _ s
  · split_ifs <;> trivial

theorem within_openExclusive {slot : Files → Option File} {put : Option File → Files → Files}
    {e : Error} (hR : ∀ s, R s s) (h : ∀ s, slot s = none → R s (put (some (.created [])) s)) :
    (openExclusive slot put e).Within R := by
  intro answer s
  dsimp only
  constructor
  · split_ifs with hslot
    · exact hR s
    · exact h s (by_contra fun hne => hslot (.inr hne))
  · split_ifs <;> trivial

theorem within_fsync (hR : ∀ s, R s s) : fsync.Within R :=
  within_bind (within_effect hR fun _ => hR) fun _ => trivial

theorem grows_appendTo (s : Files) (data : Bytes) :
    Grows s { s with journal := appendTo s.journal data } := by
  intro file h
  refine ⟨data, ?_⟩
  show appendTo s.journal data = _
  rw [h]
  rfl

variable [Platform] (journal : OperationJournal)

theorem within_replaceHead (pid : ℕ) (sequence : ℤ) (recordMac : String) :
    (journal.replaceHead pid sequence recordMac).Within Grows := by
  refine within_bind (within_openExclusive .refl fun _ _ => grows_of_eq rfl) fun _ => ?_
  refine within_bind (within_effect .refl fun _ _ => grows_of_eq rfl) fun _ => ?_
  refine within_bind (within_fsync .refl) fun _ => ?_
  exact within_bind (within_effect .refl fun _ _ => grows_of_eq rfl) fun _ => trivial

theorem within_writeHead (pid : ℕ) (sequence : ℤ) (recordMac : String) :
    (journal.writeHead pid sequence recordMac).Within Grows := by
  refine within_bind (within_look _ .refl) fun _ => ?_
  refine within_bind (within_attempt (within_replaceHead journal pid sequence recordMac)) fun _ => ?_
  exact within_bind (within_effect .refl fun _ _ => grows_of_eq rfl) fun _ => within_ofExcept _

/-- An append only adds to the journal. -/
theorem within_append [Conversions] (pid : ℕ) (request : AppendRequest) :
    (journal.append pid request).Within Grows := by
  refine within_bind (within_look _ .refl) fun _ => ?_
  refine within_bind (within_ofExcept _) fun record => ?_
  refine within_bind (within_look _ .refl) fun _ => ?_
  refine within_bind (within_effect .refl fun data s => grows_appendTo s data) fun _ => ?_
  refine within_bind (within_require _ _) fun _ => ?_
  refine within_bind (within_fsync .refl) fun _ => ?_
  refine within_bind (within_writeHead journal pid _ _) fun _ => ?_
  exact within_bind (within_fsync .refl) fun _ => trivial

/-- `create` after the journal was opened. -/
def fill (record : JournalRecord) : FileOp (List JournalRecord) := do
  fchmod
  let _ ← effect (recordText record ++ [10]) fun data s =>
    { s with journal := appendTo s.journal data }
  fsync
  journal.createHead record.sequence record.mac
  fsync
  return [record]

/-- `create` opens the journal and fills it. -/
theorem create_eq (split : String → Except Error SplitOrigin) (binding : OperationBinding)
    (timestamp : String) : journal.create split binding timestamp = (do
      look journal.validateParent
      ofExcept (validateBinding split binding)
      openExclusive Files.journal (fun file s => { s with journal := file })
        ⟨journalError, "Operation journal already exists or is unsafe: " ++ journal.path⟩
      journal.fill (journal.firstRecord binding timestamp)) := rfl

/-- Filling a journal only adds to it. -/
theorem within_fill (record : JournalRecord) : (journal.fill record).Within Grows := by
  refine within_bind (within_fsync .refl) fun _ => ?_
  refine within_bind (within_effect .refl fun data s => grows_appendTo s data) fun _ => ?_
  refine within_bind (within_fsync .refl) fun _ => ?_
  refine within_bind ?_ fun _ => within_bind (within_fsync .refl) fun _ => trivial
  refine within_bind (within_openExclusive .refl fun _ _ => grows_of_eq rfl) fun _ => ?_
  refine within_bind (within_effect .refl fun _ _ => grows_of_eq rfl) fun _ => ?_
  exact within_fsync .refl

/-- A creation only adds to the journal. -/
theorem within_create (split : String → Except Error SplitOrigin) (binding : OperationBinding)
    (timestamp : String) : (journal.create split binding timestamp).Within Grows := by
  rw [create_eq]
  refine within_bind (within_look _ .refl) fun _ => within_bind (within_ofExcept _) fun _ => ?_
  refine within_bind (within_openExclusive .refl fun s hnone file hfile => ?_) fun _ =>
    within_fill journal _
  rw [hnone] at hfile
  cases hfile

end Growth

/-! ### Calls that return -/

/-- A call alone, none of whose writes is cut short. -/
def whole : Context Files Answer :=
  ⟨fun _ => True, Eq, fun _ _ => True, fun answer _ _ => answer.written = none⟩

theorem wp_whole_atom {α : Type} {u : Answer → Files → Files} {k : Answer → Files → FileOp α}
    {post : Except Error α → Files → Prop} {s : Files} :
    wp whole (.atom u k) post s ↔
      ∀ answer : Answer, answer.written = none → wp whole (k answer s) post (u answer s) := by
  rw [wp_atom]
  constructor
  · intro h answer hwritten
    exact (h s trivial rfl answer hwritten).2.2
  · rintro h s' - rfl answer hwritten
    exact ⟨trivial, trivial, h answer hwritten⟩

/-- A call that returns is the call that is answered as it asks. -/
def Returns {α : Type} (p : FileOp α) : Prop :=
  ∀ s, wp whole p (fun r s' => ∀ a, r = .ok a → p.run untroubled s = ⟨.ok a, s', untroubled⟩) s

section Returns

variable {α β : Type}

theorem returns_ret (a : α) : Returns (ret a : FileOp α) := by
  intro s b h
  cases h
  rfl

theorem returns_raise (e : Error) : Returns (raise e : FileOp α) := by
  intro s b h
  cases h

theorem returns_ofExcept (x : Except Error α) : Returns (ofExcept x) := by
  cases x with
  | ok a => exact returns_ret a
  | error e => exact returns_raise e

theorem returns_require (condition : Prop) [Decidable condition] (e : Error) :
    Returns (require condition e) := by
  unfold require
  split_ifs
  · exact returns_ret ()
  · exact returns_raise e

theorem returns_bind {p : FileOp α} {f : α → FileOp β} (hp : Returns p)
    (hf : ∀ a, Returns (f a)) : Returns (p >>= f) := by
  intro s
  rw [wp_bind]
  refine wp_mono (hp s) fun r s' hr => ?_
  cases r with
  | error e =>
    intro b h
    cases h
  | ok a =>
    refine wp_mono (hf a s') fun r' s'' hr' b hb => ?_
    rw [run_bind, hr a rfl]
    exact hr' b hb

theorem returns_look (f : Files → Except Error α) : Returns (look f) := by
  intro s
  refine wp_whole_atom.2 fun answer _ => ?_
  rw [wp_ofExcept]
  intro a ha
  rw [look, run_atom, ha]
  rfl

theorem returns_effect (data : Bytes) (f : Bytes → Files → Files) : Returns (effect data f) := by
  intro s
  refine wp_whole_atom.2 fun answer hwritten => ?_
  have hpart : answer.part data = data := by rw [Answer.part, hwritten]
  by_cases hfailed : answer.failed = true
  · rw [if_pos hfailed]
    intro a ha
    cases ha
  · rw [if_neg hfailed, if_neg hfailed, hpart]
    intro a ha
    cases ha
    rfl

theorem returns_fsync : Returns fsync :=
  returns_bind (returns_effect _ _) fun _ => returns_ret ()

theorem returns_openExclusive (slot : Files → Option File) (put : Option File → Files → Files)
    (e : Error) : Returns (openExclusive slot put e) := by
  intro s
  refine wp_whole_atom.2 fun answer _ => ?_
  by_cases h : answer.failed ∨ slot s ≠ none
  · rw [if_pos h]
    intro a ha
    cases ha
  · rw [if_neg h, if_neg h]
    intro a ha
    have hslot : slot s = none := by_contra fun hne => h (.inr hne)
    have hrun := run_openExclusive_bind slot put e pure s
    rw [if_pos hslot, bind_pure] at hrun
    cases ha
    exact hrun

/-- A `try` block with a `finally`. -/
theorem returns_finally {p : FileOp α} {q : FileOp β} (hp : Returns p) (hq : Returns q) :
    Returns (p.attempt >>= fun r => q >>= fun _ => ofExcept r) := by
  intro s
  rw [wp_bind, wp_attempt]
  refine wp_mono (hp s) fun r s' hr => ?_
  rw [andThen_ok, wp_bind]
  refine wp_mono (hq s') fun r' s'' hr' => ?_
  cases r' with
  | error e =>
    intro a h
    cases h
  | ok b =>
    rw [andThen_ok, wp_ofExcept]
    intro a ha
    rw [run_bind, run_attempt, hr a ha]
    dsimp only
    rw [run_bind, hr' b rfl]
    rfl

variable [Platform] (journal : OperationJournal)

theorem returns_writeHead (pid : ℕ) (sequence : ℤ) (recordMac : String) :
    Returns (journal.writeHead pid sequence recordMac) := by
  refine returns_bind (returns_look _) fun _ => returns_finally ?_ (returns_effect _ _)
  refine returns_bind (returns_openExclusive _ _ _) fun _ => ?_
  refine returns_bind (returns_effect _ _) fun _ => ?_
  refine returns_bind returns_fsync fun _ => ?_
  exact returns_bind (returns_effect _ _) fun _ => returns_ret ()

theorem returns_append [Conversions] (pid : ℕ) (request : AppendRequest) :
    Returns (journal.append pid request) := by
  refine returns_bind (returns_look _) fun _ => ?_
  refine returns_bind (returns_ofExcept _) fun record => ?_
  refine returns_bind (returns_look _) fun _ => ?_
  refine returns_bind (returns_effect _ _) fun _ => ?_
  refine returns_bind (returns_require _ _) fun _ => ?_
  refine returns_bind returns_fsync fun _ => ?_
  refine returns_bind (returns_writeHead journal pid _ _) fun _ => ?_
  exact returns_bind returns_fsync fun _ => returns_ret _

theorem returns_fill (record : JournalRecord) : Returns (journal.fill record) := by
  refine returns_bind returns_fsync fun _ => ?_
  refine returns_bind (returns_effect _ _) fun _ => ?_
  refine returns_bind returns_fsync fun _ => ?_
  refine returns_bind ?_ fun _ => returns_bind returns_fsync fun _ => returns_ret _
  refine returns_bind (returns_openExclusive _ _ _) fun _ => ?_
  exact returns_bind (returns_effect _ _) fun _ => returns_fsync

end Returns

/-! ### What a returned call leaves -/

section Model

variable [Platform] [Conversions] {journal : OperationJournal}

/-- The text of a journal with some records. -/
def journalText (records : List JournalRecord) : Bytes :=
  (records.map fun record => recordText record ++ [10]).flatten

omit [Platform] [Conversions] in
theorem journalText_append (records : List JournalRecord) (record : JournalRecord) :
    journalText (records ++ [record]) = journalText records ++ (recordText record ++ [10]) := by
  simp [journalText]

/-- The journal has the text of some records, and they are what `load` returns unless the text is
too long. -/
structure Written (journal : OperationJournal) (s : Files) (records : List JournalRecord) : Prop where
  journal_eq : s.journal = some (.created (journalText records))
  load : WithinLimit s → journal.load s = .ok records

theorem Written.congr {s s' : Files} {records : List JournalRecord}
    (h : Written journal s records) (hjournal : s'.journal = s.journal) (hhead : s'.head = s.head) :
    Written journal s' records := by
  constructor
  · rw [hjournal]
    exact h.journal_eq
  · intro hlimit
    rw [load_congr hjournal hhead]
    refine h.load fun file hfile => hlimit file ?_
    rw [hjournal]
    exact hfile

theorem Written.withinLimit {s : Files} {records : List JournalRecord} (h : Written journal s records)
    (hlength : (journalText records).length ≤ maxJournalBytes) : WithinLimit s := by
  intro file hfile
  rw [h.journal_eq] at hfile
  cases hfile
  exact hlength

omit [Conversions] in
theorem journal_of_fill {record : JournalRecord} {s s' : Files} {records : List JournalRecord}
    (hopen : s.journal = some (.created []))
    (h : (journal.fill record).run untroubled s = ⟨.ok records, s', untroubled⟩) :
    s.head = none ∧ records = [record] ∧ s' = { s with
      journal := some (.created (recordText record ++ [10]))
      head := some (.created (journal.headText record.sequence record.mac)) } := by
  simp only [fill, createHead, fchmod, bind_assoc, run_effect_bind, fsync_bind, pure_eq_ret,
    ret_bind] at h
  rw [run_openExclusive_bind] at h
  by_cases hhead : s.head = none
  · rw [if_pos hhead] at h
    simp only [run_effect_bind, run_ret, appendTo, File.created, hopen, Option.map_some,
      List.nil_append] at h
    cases h
    exact ⟨hhead, rfl, rfl⟩
  · rw [if_neg hhead] at h
    cases h

/-- Filling a journal that was just opened writes its first record. -/
theorem written_of_fill {split : String → Except Error SplitOrigin} {binding : OperationBinding}
    {timestamp : String} {s s' : Files} {records : List JournalRecord}
    (hbinding : validateBinding split binding = .ok ()) (hopen : s.journal = some (.created []))
    (h : (journal.fill (journal.firstRecord binding timestamp)).run untroubled s =
      ⟨.ok records, s', untroubled⟩) :
    Written journal s' [journal.firstRecord binding timestamp] := by
  obtain ⟨hhead, -, rfl⟩ := journal_of_fill hopen h
  constructor
  · simp [journalText]
  · intro hlimit
    -- the same files, but for the directory, are left by a creation
    have hrun := run_create journal timestamp
      (s := { s with parent := some ⟨true, true, false⟩, journal := none }) rfl hbinding rfl hhead
    have hreach := Reachable.create (congrArg Ending.result hrun)
    rw [hrun] at hreach
    have hload := load_of_reachable hreach hlimit
    exact (load_congr rfl rfl).trans hload

/-- An append that returns adds an admitted record. -/
theorem written_of_append {pid : ℕ} {request : AppendRequest} {s s' : Files}
    {records records' : List JournalRecord} (hs : Written journal s records)
    (h : (journal.append pid request).run untroubled s = ⟨.ok records', s', untroubled⟩) :
    ∃ record, journal.admitRecord records request = .ok record ∧ records' = records ++ [record] ∧
      Written journal s' records' := by
  obtain ⟨file, loaded, latest, record, haccepted, hadmitted, htemp, rfl⟩ :=
    admitted_of_append (congrArg Ending.result h)
  have hload : journal.load s = .ok loaded := load_eq_ok.mpr ⟨file, latest, haccepted⟩
  -- what was loaded is what was written
  have hloaded : loaded = records := by
    rw [hs.load (withinLimit_of_load hload)] at hload
    exact (Except.ok.inj hload).symm
  subst hloaded
  have hfile : file = .created (journalText loaded) :=
    Option.some.inj (haccepted.journal_eq.symm.trans hs.journal_eq)
  rw [run_append haccepted _ hadmitted, if_pos htemp, if_pos htemp] at h
  have hstate := congrArg Ending.state h
  subst hstate
  refine ⟨record, hadmitted, rfl, ?_, fun hlimit => ?_⟩
  · rw [journalText_append, hfile]
    rfl
  · exact haccepted.replaced hadmitted rfl rfl (hlimit _ rfl)

end Model

end OperationJournal

end Administration
