import PfsenseMcp.Administration.BootstrapRuns

/-!
# A bootstrap attempt that is not disturbed

The steps of an attempt when its calls of the operating system do all they were asked for and no
other attempt gets in between: what each part of `run_bootstrap` does then, up to the whole attempt
on an empty namespace, and on a namespace where another operation has completed.

## Main results

* `runs_startBootstrap`: the operation completes, where nothing was there before;
* `runs_late`: the attempt is refused, where there is a journal already.
-/

namespace Administration

open Python Concurrency Procedure Tier1 OperationJournal

/-! ### Calls that run alone -/

section Alone

variable {permit : Permit} {i : BootstrapAnswers} {call : ℕ} {s s' : LocalState}

theorem runs_step {α : Type} {f : BootstrapAnswers → LocalState → LocalState × Except Error α}
    (s' : LocalState) {r : Except Error α} (hdead : s.dead call = false) (h : f i s = (s', r))
    (hi : permit i s s') : Runs permit i (step call f) s r s' := by
  have hstate : (if s.dead call = true then s else (f i s).1) = s' := by
    rw [hdead, h]
    rfl
  refine runs_atom ?_ ?_
  · rw [hstate]
    exact hi
  · rw [hstate]
    simp only [hdead, Bool.false_eq_true, if_false, h]
    exact runs_ofExcept r

theorem runs_catching {α : Type} {p : BootstrapOp α} {r : Except Error α}
    (h : Runs permit i p s r s') (hne : r ≠ .error killed) :
    Runs permit i (catching p) s (.ok r) s' := by
  refine h.attempt.bind ?_
  cases r with
  | ok a => exact runs_ret _
  | error e =>
    dsimp only
    rw [if_neg fun he => hne (congrArg Except.error he)]
    exact runs_ret _

theorem runs_onFiles_atom {α : Type} {u : Answer → Files → Files} {k : Answer → Files → FileOp α}
    {r : Except Error α} (hanswer : i.answer = .complete) (hdead : s.dead call = false)
    (hi : permit i s { s with
      files := u .complete s.files
      trace := s.trace ++ creation call s.files (u .complete s.files) })
    (h : Runs permit i (onFiles call (k .complete s.files)) { s with
      files := u .complete s.files
      trace := s.trace ++ creation call s.files (u .complete s.files) } r s') :
    Runs permit i (onFiles call (.atom u k)) s r s' := by
  refine runs_atom ?_ ?_
  · simp only [hdead, Bool.false_eq_true, if_false, hanswer, Answer.complete, Option.isSome_none]
    exact hi
  · simp only [hdead, Bool.false_eq_true, if_false, hanswer, Answer.complete, Option.isSome_none,
      or_self]
    exact h

variable (hpermit : ∀ i s s', earlySteps i s s' → permit i s s')

include hpermit

theorem permitted_of_holder (h : s'.holder = s.holder) : permit i s s' :=
  hpermit i s s' fun _ => .inl h

theorem runs_observe {α : Type} {f : BootstrapAnswers → LocalState → Except Error α}
    {r : Except Error α} (hdead : s.dead call = false) (h : f i s = r) :
    Runs permit i (observe call f) s r s :=
  runs_step s hdead (congrArg (Prod.mk s) h) (permitted_of_holder hpermit rfl)

/-- Code that adds to the journal, in the call that created it. -/
theorem runs_onFiles {α : Type} {p : FileOp α} {r : Except Error α} {f : Files}
    (hanswer : i.answer = .complete) (hdead : s.dead call = false) (hjournal : s.files.journal ≠ none)
    (hp : p.Within Grows) (h : p.run untroubled s.files = ⟨r, f, untroubled⟩) :
    Runs permit i (onFiles call p) s r { s with files := f } := by
  induction p generalizing s with
  | ret a =>
    cases h
    exact runs_ret a
  | raise e =>
    cases h
    exact runs_raise e
  | atom u k ih =>
    have hgrows : Grows s.files (u .complete s.files) := (hp .complete s.files).1
    refine runs_onFiles_atom hanswer hdead (permitted_of_holder hpermit rfl) ?_
    rw [creation_of_ne_none hjournal, List.append_nil]
    refine ih _ _ hdead ?_ (hp .complete s.files).2 h
    obtain ⟨file, hfile⟩ := Option.ne_none_iff_exists'.1 hjournal
    obtain ⟨data, hdata⟩ := hgrows file hfile
    rw [hdata]
    exact nofun

variable [Platform]

/-- The metadata of the lock is written by its holder. -/
theorem runs_writeMetadata (hanswer : i.answer = .complete) (hdead : s.dead call = false)
    {file : File} (hlock : s.lock = some file) (context : AdministrativeContext)
    (operationId timestamp : String) (active : Bool) :
    Runs permit i (writeMetadata context call operationId timestamp active) s (.ok ())
      { s with lock := some { file with
        content := lockText context.journal.integrityKey operationId timestamp active } } := by
  have hset : ∀ t : LocalState, t.lock = some file ∨ (∃ content, t.lock = some { file with content }) →
      ∀ data, t.setLock data = { t with lock := some { file with content := data } } := by
    rintro t (h | ⟨content, h⟩) data <;> rw [LocalState.setLock, h] <;> rfl
  let text := lockText context.journal.integrityKey operationId timestamp active
  refine (runs_step { s with lock := some { file with content := [] } } (r := .ok ()) hdead
    ?_ (permitted_of_holder hpermit rfl)).bind ?_
  · simp only [hanswer, Answer.complete, Bool.false_eq_true, if_false, hset s (.inl hlock)]
  let empty : LocalState := { s with lock := some { file with content := [] } }
  refine (runs_step { s with lock := some { file with content := text } } (s := empty)
    (r := .ok ()) hdead ?_ (permitted_of_holder hpermit rfl)).bind ?_
  · simp only [hanswer, Answer.complete, Bool.false_eq_true, if_false,
      hset empty (.inr ⟨[], rfl⟩)]
    rfl
  · refine runs_step _ (s := { s with lock := some { file with content := text } }) hdead ?_
      (permitted_of_holder hpermit rfl)
    rw [hanswer]
    rfl

/-- The lock is acquired when nobody holds it and it is not active. -/
theorem runs_acquire [Conversions] (file : File) (existing : Option LockMetadata) (hanswer : i.answer = .complete) (hcontended : i.contended = false)
    (hdead : s.dead call = false) {context : AdministrativeContext} {operationId timestamp : String}
    (hid : operationId ≠ "") (hparent : context.journal.validateParent s.files = .ok ())
    (hfile : s.lock.getD (.created []) = file) (hsecure : Secure file)
    (hlength : file.content.length ≤ maxMetadataBytes) (hfree : s.held = false)
    (hread : readMetadata context.journal.integrityKey file.content = .ok existing)
    (hinactive : existing.any LockMetadata.isActive = false)
    (htake : permit i { s with lock := some file }
      { s with lock := some file, holder := some call }) :
    Runs permit i (acquire context call operationId timestamp) s (.ok ())
      { s with
        lock := some { file with
          content := lockText context.journal.integrityKey operationId timestamp true }
        holder := some call } := by
  have hunlocked : i.answer.failed = false := by rw [hanswer]; rfl
  rw [acquire, require, if_pos hid]
  refine (runs_ret ()).bind ((runs_observe hpermit hdead hparent).bind ?_)
  refine (runs_step { s with lock := some file } (r := .ok ()) hdead ?_
    (permitted_of_holder hpermit rfl)).bind ?_
  · rw [hunlocked, hfile]
    rfl
  refine (runs_observe (s := { s with lock := some file }) hpermit hdead (r := .ok ()) ?_).bind ?_
  · have hvalid : readSecure context.lockPath (some file) maxMetadataBytes = .ok file.content :=
      readSecure_eq_ok.2
        ⟨file, rfl, hsecure.1, hsecure.2.1, hsecure.2.2.1, hsecure.2.2.2, hlength, rfl⟩
    dsimp only
    rw [hvalid]
  refine (runs_step { s with lock := some file, holder := some call }
    (s := { s with lock := some file }) (r := .ok ()) hdead ?_ htake).bind ?_
  · have hnot : ¬(i.answer.failed = true ∨ i.contended = true ∨
        LocalState.held { s with lock := some file } = true) := by
      show ¬(i.answer.failed = true ∨ i.contended = true ∨ s.held = true)
      rw [hunlocked, hcontended, hfree]
      simp
    rw [if_neg hnot]
  refine (runs_observe (s := { s with lock := some file, holder := some call }) hpermit hdead
    (r := .ok existing) ?_).bind ?_
  · rw [hunlocked]
    exact hread
  · rw [hinactive]
    exact runs_writeMetadata (s := { s with lock := some file, holder := some call }) hpermit hanswer
      hdead rfl _ _ _ _

omit hpermit in
/-- What fills a journal that was just opened is the rest of its creation. -/
theorem run_fill {journal : OperationJournal} {split : String → Except Error SplitOrigin}
    {binding : OperationBinding} {timestamp : String} {f : Files}
    (hparent : journal.validateParent f = .ok ()) (hbinding : validateBinding split binding = .ok ())
    (hjournal : f.journal = none) :
    (journal.fill (journal.firstRecord binding timestamp)).run untroubled
        { f with journal := some (.created []) } =
      (journal.create split binding timestamp).run untroubled f := by
  rw [create_eq, run_look_bind, hparent, ofExcept_ok, ret_bind, hbinding, ofExcept_ok, ret_bind,
    run_openExclusive_bind, if_pos hjournal]

/-- A journal is created where there is none. -/
theorem runs_create [Conversions] (timestamp : String) (hanswer : i.answer = .complete)
    (hdead : s.dead call = false) {journal : OperationJournal}
    {split : String → Except Error SplitOrigin} {binding : OperationBinding}
    (hparent : journal.validateParent s.files = .ok ())
    (hbinding : validateBinding split binding = .ok ()) (hjournal : s.files.journal = none)
    (hhead : s.files.head = none) :
    ∃ f, Runs permit i (onFiles call (journal.create split binding timestamp)) s
        (.ok [journal.firstRecord binding timestamp])
        { s with files := f, trace := s.trace ++ [.created call] } ∧
      Written journal f [journal.firstRecord binding timestamp] ∧ f.temp = s.files.temp ∧
      f.parent = s.files.parent := by
  have hrun := run_create journal timestamp hparent hbinding hjournal hhead
  let opened : LocalState := { s with
    files := { s.files with journal := some (.created []) }
    trace := s.trace ++ [.created call] }
  refine ⟨_, ?_, written_of_fill (s := opened.files) hbinding rfl
    ((run_fill hparent hbinding hjournal).trans hrun), rfl, rfl⟩
  rw [create_eq, onFiles_bind]
  have hlook : Runs permit i (onFiles call (look journal.validateParent)) s (.ok ()) s := by
    refine runs_onFiles_atom hanswer hdead (permitted_of_holder hpermit rfl) ?_
    have hnone : creation call s.files s.files = [] := if_neg fun h => h.2 h.1
    rw [hnone, List.append_nil, hparent]
    exact runs_ret ()
  refine hlook.bind ?_
  rw [hbinding, ofExcept_ok, ret_bind, onFiles_bind]
  have hopen : Runs permit i (onFiles call (openExclusive Files.journal
      (fun file s => { s with journal := file })
      ⟨journalError, "Operation journal already exists or is unsafe: " ++ journal.path⟩)) s (.ok ())
      opened := by
    have hopens : ¬(Answer.complete.failed = true ∨ s.files.journal ≠ none) := by
      rw [hjournal]
      exact nofun
    have hcreates : creation call s.files opened.files = [.created call] := if_pos ⟨hjournal, nofun⟩
    refine runs_onFiles_atom hanswer hdead (permitted_of_holder hpermit rfl) ?_
    rw [if_neg hopens, if_neg hopens, hcreates]
    exact runs_ret ()
  refine hopen.bind ?_
  exact runs_onFiles (s := opened) hpermit hanswer hdead nofun (within_fill journal _)
    ((run_fill hparent hbinding hjournal).trans hrun)

/-- A record that is admitted is appended. -/
theorem runs_appendState [Conversions] (hanswer : i.answer = .complete) (hdead : s.dead call = false)
    {context : AdministrativeContext} {records : List JournalRecord} {record : JournalRecord}
    (hwritten : Written context.journal s.files records) (hlimit : WithinLimit s.files) {pid : ℕ}
    (htemp : s.files.temp pid = none) {operationId : String} {state : DurableOperationState}
    {transactionState : AdministrativeTransactionState}
    (hadmitted : context.journal.admitRecord records
      ⟨operationId, state, transactionState, 1, i.now, none⟩ = .ok record) :
    ∃ f, Runs permit i (appendState context call pid operationId state transactionState) s (.ok ())
        { s with files := f } ∧
      Written context.journal f (records ++ [record]) ∧ f.temp pid = none ∧
      f.parent = s.files.parent := by
  obtain ⟨file, latest, haccepted⟩ := load_eq_ok.1 (hwritten.load hlimit)
  have hrun := run_append haccepted pid hadmitted
  rw [if_pos htemp, if_pos htemp] at hrun
  obtain ⟨_, hadmitted', -, hwritten'⟩ := written_of_append hwritten hrun
  refine ⟨_, ?_, hwritten', Function.update_self _ _ _, rfl⟩
  have hjournal : s.files.journal ≠ none := by
    rw [hwritten.journal_eq]
    exact nofun
  refine (runs_observe hpermit hdead (r := .ok i.now) rfl).bind ?_
  exact (runs_onFiles hpermit hanswer hdead hjournal (within_append _ _ _) hrun).bind (runs_ret ())

/-- The lock is released. -/
theorem runs_releaseAndReturn (hanswer : i.answer = .complete) (hdead : s.dead call = false)
    {file : File} (hlock : s.lock = some file) (context : AdministrativeContext)
    (operationId timestamp : String) (result : BootstrapResult) :
    Runs permit i (releaseAndReturn context call operationId timestamp result) s (.ok ())
      { s with
        lock := some { file with
          content := lockText context.journal.integrityKey operationId timestamp false }
        holder := none
        trace := s.trace ++ [.returned call result] } := by
  refine (runs_writeMetadata hpermit hanswer hdead hlock context operationId timestamp false).bind ?_
  exact runs_step _ (s := { s with lock := some { file with
    content := lockText context.journal.integrityKey operationId timestamp false } }) hdead rfl
    (hpermit _ _ _ fun _ => .inr rfl)

omit [Platform] in
/-- The engine is called. -/
theorem runs_bootstrapCall (hdead : s.dead call = false) (operationId : String) :
    Runs permit i (bootstrapCall call operationId) s i.engine
      (s.record (.engine call operationId)) :=
  runs_step _ hdead rfl (permitted_of_holder hpermit rfl)

variable (call) in
/-- An attempt that runs alone on an empty namespace completes its operation, when the engine
finds a clean account. -/
theorem runs_startBootstrap [Conversions] (context : AdministrativeContext) (pid : ℕ)
    (hanswer : i.answer = .complete)
    (hcontended : i.contended = false) (hdead : s.dead call = false) (hfree : s.held = false)
    (hwritable : i.readOnly = .writable)
    (hid : i.operationId ≠ "") (hparent : context.journal.validateParent s.files = .ok ())
    (hbinding : validateBinding context.split (context.newOperationBinding i.operationId) = .ok ())
    (hlock : s.lock = none) (hjournal : s.files.journal = none) (hhead : s.files.head = none)
    (htemp : s.files.temp pid = none) {result : ProvisioningResult} (hengine : i.engine = .ok result)
    (hclean : result.outcome ∈ cleanSuccessOutcomes) (hkey : result.apiKey = none)
    {first ready intent pending completed : JournalRecord}
    (hfirst : context.journal.firstRecord (context.newOperationBinding i.operationId) i.now = first)
    (hready : context.journal.admitRecord [first]
      ⟨i.operationId, .preSendReady, .notStarted, 1, i.now, none⟩ = .ok ready)
    (hintent : context.journal.admitRecord [first, ready]
      ⟨i.operationId, .mutationIntentRecorded, .notStarted, 1, i.now, none⟩ = .ok intent)
    (hpending : context.journal.admitRecord [first, ready, intent]
      ⟨i.operationId, .finalVerificationPending, deriveTransactionState result, 1, i.now, none⟩ =
        .ok pending)
    (hcompleted : context.journal.admitRecord [first, ready, intent, pending]
      ⟨i.operationId, .completed, deriveTransactionState result, 1, i.now, none⟩ = .ok completed)
    (hlength : (journalText [first, ready, intent, pending]).length ≤ maxJournalBytes) :
    ∃ f, Runs permit i (startBootstrap context call pid) s (.ok ())
        { s with
          files := f
          lock := some (.created (lockText context.journal.integrityKey i.operationId i.now false))
          holder := none
          trace := s.trace ++ [.created call] ++ [.engine call i.operationId] ++ [.returned call {
            outcome := .completed
            detail := result.detail
            operationId := some i.operationId
            provisioningOutcome := some result.outcome
            provisioningDetail := some result.detail }] } ∧
      Written context.journal f [first, ready, intent, pending, completed] ∧
      f.parent = s.files.parent := by
  -- every text before the last append is a part of the longest one
  have hlimit : ∀ {f : Files} (records rest : List JournalRecord),
      Written context.journal f records → [first, ready, intent, pending] = records ++ rest →
      WithinLimit f := by
    intro f records rest hwritten heq
    have hpart : journalText [first, ready, intent, pending] =
        journalText records ++ journalText rest := by
      rw [heq, journalText, journalText, journalText, List.map_append, List.flatten_append]
    rw [hpart, List.length_append] at hlength
    exact hwritten.withinLimit (Nat.le_trans (Nat.le_add_right _ _) hlength)
  let held : LocalState := { s with
    lock := some (.created (lockText context.journal.integrityKey i.operationId i.now true))
    holder := some call }
  have hacquire : Runs permit i (acquire context call i.operationId i.now) s (.ok ()) held := by
    refine runs_acquire hpermit (.created []) none hanswer hcontended hdead hid
      hparent ?_ ⟨rfl, rfl, rfl, rfl⟩ (Nat.zero_le _) hfree rfl rfl ?_
    · rw [hlock]
      rfl
    · exact hpermit _ _ _ fun hne => absurd hjournal hne
  subst hfirst
  obtain ⟨f₁, hcreate, hwritten₁, htemp₁, hparent₁⟩ := runs_create (s := held) hpermit i.now
    hanswer hdead hparent hbinding hjournal hhead
  let made : LocalState := { held with files := f₁, trace := s.trace ++ [.created call] }
  have htemp₁' : f₁.temp pid = none := by rw [htemp₁, htemp]
  obtain ⟨f₂, hrun₂, hwritten₂, htemp₂, hparent₂⟩ := runs_appendState (s := made) hpermit hanswer hdead hwritten₁
    (hlimit _ _ hwritten₁ rfl) htemp₁' hready
  obtain ⟨f₃, hrun₃, hwritten₃, htemp₃, hparent₃⟩ := runs_appendState (s := { made with files := f₂ }) hpermit
    hanswer hdead hwritten₂ (hlimit _ _ hwritten₂ rfl) htemp₂ hintent
  let asked : LocalState :=
    LocalState.record { made with files := f₃ } (.engine call i.operationId)
  obtain ⟨f₄, hrun₄, hwritten₄, htemp₄, hparent₄⟩ := runs_appendState (s := asked) hpermit hanswer hdead
    hwritten₃ (hlimit _ _ hwritten₃ rfl) htemp₃ hpending
  obtain ⟨f₅, hrun₅, hwritten₅, -, hparent₅⟩ := runs_appendState (s := { asked with files := f₄ }) hpermit
    hanswer hdead hwritten₄ (hlimit _ [] hwritten₄ rfl) htemp₄ hcompleted
  refine ⟨f₅, ?_, hwritten₅,
    hparent₅.trans (hparent₄.trans (hparent₃.trans (hparent₂.trans hparent₁)))⟩
  -- the parts of the attempt, one after the other
  refine (runs_observe hpermit hdead (r := .ok i.operationId) rfl).bind ?_
  refine (runs_observe hpermit hdead (r := .ok i.now) rfl).bind ?_
  refine (runs_catching hacquire (by simp)).bind ?_
  dsimp only
  refine Runs.bind (runs_catching (r := .ok ()) ?_ (by simp)) (runs_ret ())
  refine (runs_observe (s := held) hpermit hdead (r := .ok .writable)
    (congrArg Except.ok hwritable)).bind ?_
  rw [if_neg (not_not.2 rfl)]
  refine hcreate.bind (hrun₂.bind (hrun₃.bind ?_))
  have hcall := runs_bootstrapCall (i := i) (s := { made with files := f₃ }) hpermit hdead i.operationId
  rw [hengine] at hcall
  refine (runs_catching hcall (by simp)).bind ?_
  have hpersist : persistGeneratedKey context call result = .ret () := by
    rw [persistGeneratedKey, hkey]
    cases result.outcome <;> rfl
  rw [concludeEngine, if_pos hclean, hpersist, ret_bind]
  refine hrun₄.bind (hrun₅.bind ?_)
  refine (runs_observe (s := { asked with files := f₅ }) hpermit hdead (r := .ok i.now) rfl).bind ?_
  exact runs_releaseAndReturn (s := { asked with files := f₅ }) hpermit hanswer hdead rfl _ _ _ _

omit [Platform] in
/-- A call returns. -/
theorem runs_returns (hdead : s.dead call = false) (result : BootstrapResult) :
    Runs permit i (returns call result) s (.ok ()) (s.record (.returned call result)) :=
  runs_step _ hdead rfl (permitted_of_holder hpermit rfl)

/-- An empty namespace is classified as clean. -/
theorem runs_classify [Conversions] (hdead : s.dead call = false) (hjournal : s.files.journal = none)
    (hlock : s.lock = none) (hcustody : s.custody = none) (context : AdministrativeContext)
    (authoritative : Option AuthoritativeRestartObservation) :
    Runs permit i (classify context call authoritative) s (.ok ⟨.cleanNoOperation, none, none⟩) s := by
  have hbound : Runs permit i (loadBoundJournal context call) s (.ok (none, true)) s := by
    refine (runs_observe hpermit hdead (r := .ok s.files) rfl).bind ?_
    rw [if_pos hjournal]
    exact runs_ret _
  refine hbound.bind ?_
  refine (runs_observe hpermit hdead (r := .ok ⟨.absent, none⟩) ?_).bind ?_
  · rw [hlock]
    rfl
  refine (runs_observe hpermit hdead (r := .ok ⟨true, false⟩) ?_).bind (runs_ret _)
  rw [hcustody]
  rfl

variable (call) in
/-- An attempt that starts after another one has completed takes over the lock, and ends when it
cannot create the journal. -/
theorem runs_late [Conversions] (context : AdministrativeContext) (htake : ∀ s s', permit i s s') (hanswer : i.answer = .complete)
    (hcontended : i.contended = false) (hdead : s.dead call = false) (hfree : s.held = false)
    (hwritable : i.readOnly = .writable) (pid : ℕ)
    (hid : i.operationId ≠ "") (hparent : context.journal.validateParent s.files = .ok ())
    (hbinding : validateBinding context.split (context.newOperationBinding i.operationId) = .ok ())
    {operationId timestamp : String}
    (hlock : s.lock = some (.created (lockText context.journal.integrityKey operationId timestamp false)))
    (hlength : (lockText context.journal.integrityKey operationId timestamp false).length ≤
      maxMetadataBytes) (hjournal : s.files.journal ≠ none) :
    Runs permit i (startBootstrap context call pid) s (.ok ()) { s with
      lock := some (.created (lockText context.journal.integrityKey i.operationId i.now true))
      holder := some call
      trace := s.trace ++ [.returned call {
        outcome := .blockedCorruptLocalState
        detail := "Operation journal error: " ++ ("Operation journal already exists or is unsafe: " ++
          context.journal.path)
        operationId := some i.operationId }] } := by
  let held : LocalState := { s with
    lock := some (.created (lockText context.journal.integrityKey i.operationId i.now true))
    holder := some call }
  have hacquire : Runs permit i (acquire context call i.operationId i.now) s (.ok ()) held := by
    refine runs_acquire hpermit
      (.created (lockText context.journal.integrityKey operationId timestamp false))
      (some ⟨.str operationId, .bool false⟩) hanswer hcontended hdead hid hparent ?_ ⟨rfl, rfl, rfl, rfl⟩ hlength hfree
      (readMetadata_lockText hlength) rfl (htake _ _)
    rw [hlock]
    rfl
  obtain ⟨message, hmessage⟩ : ∃ message, message =
      "Operation journal already exists or is unsafe: " ++ context.journal.path := ⟨_, rfl⟩
  have hrefused : (context.journal.create context.split
      (context.newOperationBinding i.operationId) i.now).run untroubled s.files =
        ⟨.error ⟨journalError, message⟩, s.files, untroubled⟩ := by
    rw [create_eq, run_look_bind, hparent, ofExcept_ok, ret_bind, hbinding, ofExcept_ok, ret_bind,
      run_openExclusive_bind, if_neg hjournal, hmessage]
  have hcreate := runs_onFiles (i := i) (s := held) hpermit hanswer hdead hjournal
    (within_create _ _ _ _) hrefused
  have hlocked : Runs permit i (runLocked context call pid i.operationId i.now) held
      (.error ⟨journalError, message⟩) held := by
    refine (runs_observe (s := held) hpermit hdead (r := .ok .writable)
      (congrArg Except.ok hwritable)).bind ?_
    rw [if_neg (not_not.2 rfl)]
    exact hcreate.bind_error
  have hne : (Except.error ⟨journalError, message⟩ : Except Error Unit) ≠ .error killed := by
    simp [killed, journalError]
  rw [← hmessage]
  refine (runs_observe hpermit hdead (r := .ok i.operationId) rfl).bind ?_
  refine (runs_observe hpermit hdead (r := .ok i.now) rfl).bind ?_
  refine (runs_catching hacquire (by simp)).bind ((runs_catching hlocked hne).bind ?_)
  dsimp only
  rw [if_pos rfl]
  exact runs_returns (s := held) hpermit hdead _

end Alone

/-! ### A sample -/

section

attribute [local instance] Sample.platform sampleConversions

def sampleContext : AdministrativeContext where
  binding := ⟨"https://firewall", "firewall", "pfsense-mcp", "write_protected", "1", "digest"⟩
  journal := sampleJournal
  lockPath := "/var/lib/pfsense-mcp/lock"
  serviceApiKeyFile := "/var/lib/pfsense-mcp/key"
  split := sampleSplit

/-- An empty namespace. -/
def sampleState : LocalState := ⟨emptyFiles, none, none, none, fun _ => false, []⟩

def sampleResult : ProvisioningResult := ⟨.alreadySatisfied, "already satisfied", none, none⟩

/-- An environment without failures, for an operation. -/
def sampleAnswers (operationId : String) : BootstrapAnswers :=
  ⟨.complete, false, operationId, "2026-01-01", .writable, .ok sampleResult⟩

/-- The record that the sample appends to another one. -/
def sampleNext (previous : JournalRecord) (state : DurableOperationState)
    (transactionState : AdministrativeTransactionState) : JournalRecord :=
  sampleJournal.candidate previous ⟨"op-1", state, transactionState, 1, "2026-01-01", none⟩

def sampleCreated : JournalRecord :=
  sampleJournal.firstRecord (sampleContext.newOperationBinding "op-1") "2026-01-01"

def sampleReady : JournalRecord := sampleNext sampleCreated .preSendReady .notStarted

def sampleIntent : JournalRecord := sampleNext sampleReady .mutationIntentRecorded .notStarted

def samplePending : JournalRecord := sampleNext sampleIntent .finalVerificationPending .verified

def sampleCompleted : JournalRecord := sampleNext samplePending .completed .verified

/-- A record of the sample is admitted if it follows the one before it. -/
theorem admitRecord_next {records : List JournalRecord} {previous : JournalRecord}
    {state : DurableOperationState} {transactionState : AdministrativeTransactionState}
    (hlast : records.getLast? = some previous) (hid : previous.binding.operationId = "op-1")
    (hallowed : state ∈ previous.state.allowed)
    (hindex : previous.mutationIndex ≤ 1 ∧ 1 ≤ previous.mutationIndex + 1)
    (hready : state = .preSendReady → 1 = previous.mutationIndex + 1)
    (hrecovery : state ≠ .recoveryRequired) (htime : previous.timestamp = "2026-01-01") :
    sampleJournal.admitRecord records ⟨"op-1", state, transactionState, 1, "2026-01-01", none⟩ =
      .ok (sampleNext previous state transactionState) := by
  have hvalid : validateTransition previous (sampleNext previous state transactionState) =
      .ok () := by
    unfold validateTransition
    refine bind_eq_ok.mpr ⟨(), demand_of rfl, bind_eq_ok.mpr ⟨(), demand_of hallowed, ?_⟩⟩
    refine bind_eq_ok.mpr ⟨(), demand_of hindex, bind_eq_ok.mpr ⟨(), demand_of hready, ?_⟩⟩
    refine bind_eq_ok.mpr ⟨(), demand_of fun h => absurd h hrecovery, ?_⟩
    refine bind_eq_ok.mpr ⟨(), demand_of fun _ => rfl, demand_of ?_⟩
    rw [htime]
    exact (by decide : Json.keyLt "2026-01-01" "2026-01-01" = false)
  simp only [admitRecord, hlast, demand_of hid.symm, ok_bind]
  exact bind_eq_ok.mpr ⟨(), hvalid, rfl⟩

/-- The text of a journal is no longer than the weights of its records allow. -/
theorem length_journalText_le (records : List JournalRecord) :
    (journalText records).length ≤
      (records.map fun record => 4 * Json.weight (.obj (recordFieldList record)) + 1).sum := by
  induction records with
  | nil => exact Nat.le_refl 0
  | cons record records ih =>
    have hrecord := length_recordText_le record
    simp only [journalText, List.map_cons, List.flatten_cons, List.length_append,
      List.length_singleton, List.sum_cons] at ih ⊢
    omega

theorem length_sampleText_le :
    (journalText [sampleCreated, sampleReady, sampleIntent, samplePending, sampleCompleted]).length ≤
      maxJournalBytes := by
  refine Nat.le_trans (length_journalText_le _) ?_
  decide +kernel

/-- What the lock of the sample contains. -/
def sampleLock (operationId : String) (active : Bool) : Bytes :=
  lockText sampleContext.journal.integrityKey (sampleAnswers operationId).operationId
    (sampleAnswers operationId).now active

theorem length_sampleLock_le :
    (sampleLock "op-1" false).length ≤ maxMetadataBytes ∧
      (sampleLock "op-2" true).length ≤ maxMetadataBytes := by
  decide +kernel

theorem validateParent_sample : sampleJournal.validateParent emptyFiles = .ok () :=
  demand_of ⟨rfl, rfl, rfl⟩

theorem validateBinding_sample (operationId : String) (h : operationId ≠ "") :
    validateBinding sampleSplit (sampleContext.newOperationBinding operationId) = .ok () := by
  unfold validateBinding
  simp [sampleContext, AdministrativeContext.newOperationBinding, sampleSplit, demand_of, ok_bind, h]

def sampleReturned : BootstrapResult where
  outcome := .completed
  detail := sampleResult.detail
  operationId := some (sampleAnswers "op-1").operationId
  provisioningOutcome := some sampleResult.outcome
  provisioningDetail := some sampleResult.detail

/-- The state of the sample after the attempt of a call. -/
def sampleFinal (call : ℕ) (files : Files) : LocalState where
  files := files
  lock := some (.created (sampleLock "op-1" false))
  holder := none
  custody := none
  dead := fun _ => false
  trace := sampleState.trace ++ [.created call] ++ [.engine call (sampleAnswers "op-1").operationId] ++
    [.returned call sampleReturned]

/-- The first operation of the sample completes. -/
theorem runs_sample {permit : Permit} (hpermit : ∀ i s s', earlySteps i s s' → permit i s s')
    (call : ℕ) : ∃ files, Runs permit (sampleAnswers "op-1") (runBootstrap sampleContext call 1 none)
      sampleState (.ok ()) (sampleFinal call files) ∧
    Written sampleJournal files
      [sampleCreated, sampleReady, sampleIntent, samplePending, sampleCompleted] ∧
    WithinLimit files ∧ files.parent = emptyFiles.parent := by
  have hlength : (journalText [sampleCreated, sampleReady, sampleIntent, samplePending]).length ≤
      maxJournalBytes := by
    have htext : (journalText ([sampleCreated, sampleReady, sampleIntent, samplePending] ++
        [sampleCompleted])).length ≤ maxJournalBytes := length_sampleText_le
    rw [journalText_append, List.length_append] at htext
    exact Nat.le_trans (Nat.le_add_right _ _) htext
  have hready : sampleJournal.admitRecord [sampleCreated]
      ⟨"op-1", .preSendReady, .notStarted, 1, "2026-01-01", none⟩ = .ok sampleReady :=
    admitRecord_next rfl rfl (by decide) (by decide) (fun _ => by decide) (by decide) rfl
  have hintent : sampleJournal.admitRecord [sampleCreated, sampleReady]
      ⟨"op-1", .mutationIntentRecorded, .notStarted, 1, "2026-01-01", none⟩ = .ok sampleIntent :=
    admitRecord_next rfl rfl (by decide) (by decide) (by decide) (by decide) rfl
  have hpending : sampleJournal.admitRecord [sampleCreated, sampleReady, sampleIntent]
      ⟨"op-1", .finalVerificationPending, .verified, 1, "2026-01-01", none⟩ = .ok samplePending :=
    admitRecord_next rfl rfl (by decide) (by decide) (by decide) (by decide) rfl
  have hcompleted : sampleJournal.admitRecord [sampleCreated, sampleReady, sampleIntent, samplePending]
      ⟨"op-1", .completed, .verified, 1, "2026-01-01", none⟩ = .ok sampleCompleted :=
    admitRecord_next rfl rfl (by decide) (by decide) (by decide) (by decide) rfl
  obtain ⟨files, hrun, hwritten, hparent⟩ := runs_startBootstrap (i := sampleAnswers "op-1")
    (s := sampleState) call hpermit sampleContext 1 rfl rfl rfl rfl rfl (by decide) validateParent_sample
    (validateBinding_sample "op-1" (by decide)) rfl rfl rfl rfl rfl (by decide) rfl
    rfl hready hintent hpending hcompleted hlength
  refine ⟨files, ?_, hwritten, hwritten.withinLimit length_sampleText_le, hparent⟩
  exact Runs.bind (runs_classify hpermit rfl rfl rfl rfl sampleContext none) hrun

/-- The first operation of the sample is the whole run. -/
theorem exists_sample (permit : Permit) (hpermit : ∀ i s s', earlySteps i s s' → permit i s s') :
    ∃ cfg, (bootstrapSystem (fun _ => sampleContext) permit).Reachable cfg ∧
      (∃ files, cfg.shared = sampleFinal 0 files) ∧ WithinSizes cfg.shared := by
  obtain ⟨files, hrun, hwritten, hlimit, -⟩ := runs_sample hpermit 0
  have hstart : (bootstrapSystem (fun _ => sampleContext) permit).Reachable (.start sampleState) :=
    .start ⟨rfl, rfl⟩
  obtain ⟨cfg, hreach, hshared, -⟩ := System.reachable_call (fun _ => sampleAnswers "op-1") hstart
    hrun.permitted (.inl ⟨1, none, rfl⟩)
  have hfinal : cfg.shared = sampleFinal 0 files := by
    rw [hshared]
    exact congrArg Ending.state hrun.run
  refine ⟨cfg, hreach, ⟨files, hfinal⟩, ?_⟩
  rw [hfinal]
  refine ⟨hlimit, fun file hfile => ?_, fun file hfile => absurd hfile (Option.not_mem_none file)⟩
  cases hfile
  exact length_sampleLock_le.1

end

end Administration
