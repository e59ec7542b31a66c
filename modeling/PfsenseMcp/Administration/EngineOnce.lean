import PfsenseMcp.Administration.BootstrapAlone

/-!
# At most one call of the engine

What the code of a bootstrap attempt does by the rules of `BootstrapRuns`, and what follows for
every run of any number of attempts.

## Main results

* `engine_once`: the engine is called at most once, after the intent was recorded; what a call
  leaves that completed the bootstrap, or that was refused because the appliance is read-only.
-/

namespace Administration

open Python Concurrency Procedure Tier1 OperationJournal

section

variable [Platform] [Conversions] {contexts : ℕ → AdministrativeContext} {permit : Permit}
  {call : ℕ} {s s' : LocalState}

/-! ### Where a call is -/

/-- The events of a call so far, what it knows of the files if it created the journal, what it knows
of the lock, which it holds unless it died, and that there was no custody file. -/
structure Stage (call : ℕ) (events : List BootstrapEvent) (knows : Files → Option File → Prop)
    (locks : File → Prop) (s : LocalState) : Prop where
  own : s.own call = events
  files : .created call ∈ events → knows s.files s.custody
  clean : (∀ c, .created c ∉ s.trace) → s.custody = none
  held : s.dead call = true ∨
    ∃ file, s.holder = some call ∧ s.lock = some file ∧ Secure file ∧ locks file

section Stage

variable {events : List BootstrapEvent} {knows : Files → Option File → Prop} {locks : File → Prop}

section

omit [Platform] [Conversions]

theorem Stage.respects (h : Stage call events knows locks s) (hrely : Respects call s s') :
    Stage call events knows locks s' := by
  refine ⟨hrely.own.trans h.own, fun hcreated => ?_, fun hnone => ?_, ?_⟩
  · have hmem : .created call ∈ s.own call := h.own ▸ hcreated
    rw [hrely.files (mem_own.1 hmem).1, hrely.custody (.inl (mem_own.1 hmem).1)]
    exact h.files hcreated
  · rw [hrely.custody (.inr hnone)]
    exact h.clean fun c hc => hnone c (hrely.trace _ hc)
  · rcases h.held with hdead | ⟨file, hholder, hlock, hfile⟩
    · exact .inl (hrely.dead hdead)
    · rcases hrely.lock hholder (by rw [hlock]; exact nofun) with hdead | ⟨hholder', hlock'⟩
      · exact .inl hdead
      · exact .inr ⟨file, hholder', hlock'.trans hlock, hfile⟩

/-- A live call holds the lock. -/
theorem Stage.holds (h : Stage call events knows locks s) (hdead : s.dead call = false) :
    ∃ file, s.holder = some call ∧ s.lock = some file ∧ Secure file ∧ locks file := by
  refine h.held.resolve_left fun h => ?_
  rw [hdead] at h
  cases h

/-- Whether the call created the journal, and whether it has returned. -/
theorem mem_trace_of_own (hown : s.own call = events) {event : BootstrapEvent}
    (hevent : event.call = call) : event ∈ s.trace ↔ event ∈ events := by
  rw [← hown, mem_own, and_iff_left hevent]

end

/-- A step that reads the clock, or asks something. -/
theorem Stage.wp_observe {α : Type} {f : BootstrapAnswers → LocalState → Except Error α}
    (h : Stage call events knows locks s) :
    wp (bootstrapContext contexts permit call) (observe call f)
      (Returning fun _ => Stage call events knows locks) s :=
  Administration.wp_observe fun _ hrely _ _ _ => h.respects hrely

omit [Platform] [Conversions] in
/-- The holder of the lock replaces its content. -/
theorem Stage.setLock (h : Stage call events knows locks s) (hdead : s.dead call = false)
    (data : Bytes) : Advance call [] s (s.setLock data) ∧
      Advance call [] s ((s.setLock data).kill call) ∧
      Stage call events knows (fun file => file.content = data) (s.setLock data) := by
  obtain ⟨file, hholder, hlock, hsecure, -⟩ := h.holds hdead
  have hset : (s.setLock data).lock = some { file with content := data } := by
    rw [LocalState.setLock, hlock]
    rfl
  refine ⟨advance_of_holder hholder hlock data hset (List.append_nil _).symm
    (fun _ h => absurd h List.not_mem_nil) fun _ => id, advance_of_holder hholder hlock data hset
    (List.append_nil _).symm (fun _ h => absurd h List.not_mem_nil) fun c hc => dead_kill call hc,
    h.own, h.files, h.clean, .inr ⟨_, hholder, hset, hsecure, rfl⟩⟩

/-- A call of the operating system that is of no consequence. -/
theorem Stage.wp_system (h : Stage call events knows locks s) :
    wp (bootstrapContext contexts permit call) (system call id)
      (Returning fun _ => Stage call events knows locks) s := by
  refine wp_unrecorded (fun _ => trivial) fun s' hrely _ i => ?_
  by_cases hfailed : i.answer.failed = true
  · rw [if_pos hfailed]
    exact ⟨rfl, .inl rfl, advance_of_eq rfl rfl rfl fun _ => id, trivial⟩
  · rw [if_neg hfailed]
    exact ⟨rfl, .inl rfl, advance_of_eq rfl rfl rfl fun _ => id, h.respects hrely⟩

/-- The metadata that is written is in the lock. -/
theorem Stage.wp_writeMetadata (h : Stage call events knows locks s)
    (context : AdministrativeContext) (operationId timestamp : String) (active : Bool) :
    wp (bootstrapContext contexts permit call)
      (writeMetadata context call operationId timestamp active)
      (Returning fun _ => Stage call events knows fun file =>
        file.content = lockText context.journal.integrityKey operationId timestamp active) s := by
  refine wp_seq (Q := fun _ => Stage call events knows fun file => file.content = [])
    (wp_unrecorded (fun _ => trivial) fun s' hrely hdead i => ?_) fun _ s h => ?_
  · obtain ⟨hstep, -, hstage⟩ := (h.respects hrely).setLock hdead []
    by_cases hfailed : i.answer.failed = true
    · rw [if_pos hfailed]
      exact ⟨rfl, .inl rfl, advance_of_eq rfl rfl rfl fun _ => id, trivial⟩
    · rw [if_neg hfailed]
      exact ⟨rfl, .inl rfl, hstep, hstage⟩
  refine wp_seq (Q := fun _ => Stage call events knows fun file =>
    file.content = lockText context.journal.integrityKey operationId timestamp active)
    (wp_unrecorded (fun _ => trivial) fun s' hrely hdead i => ?_) fun _ s h => h.wp_system
  have hset := fun data => (h.respects hrely).setLock hdead data
  by_cases hfailed : i.answer.failed = true
  · rw [if_pos hfailed]
    exact ⟨rfl, .inl rfl, advance_of_eq rfl rfl rfl fun _ => id, trivial⟩
  · rw [if_neg hfailed]
    cases hwritten : i.answer.written with
    | some n => exact ⟨rfl, .inl rfl, (hset _).2.1, trivial⟩
    | none => exact ⟨rfl, .inl rfl, (hset _).1, (hset _).2.2⟩

end Stage

/-! ### The journal of a call -/

omit [Platform] [Conversions] in
theorem Recorded.grows {f f' : Files} {operationId : String} {state : DurableOperationState}
    (h : Recorded f operationId state) (hgrows : Grows f f') : Recorded f' operationId state := by
  obtain ⟨file, records, rest, hfile, hcontent, hrecord⟩ := h
  obtain ⟨data, hdata⟩ := hgrows file hfile
  refine ⟨_, records, rest ++ data, hdata, ?_, hrecord⟩
  rw [← List.append_assoc, ← hcontent]

/-- A call that has not returned may add to the journal. -/
theorem Course.grows {context : AdministrativeContext} {f f' : Files} {events : List BootstrapEvent}
    (h : Course context call f events) (hopen : ∀ result, .returned call result ∉ events)
    (hgrows : Grows f f') : Course context call f' events := by
  cases h with
  | called => exact .called
  | created => exact .created
  | engaged h => exact .engaged (h.grows hgrows)
  | @returned events result =>
    exact absurd (List.mem_append_right events List.mem_cons_self) (hopen result)

section Journal

variable {events : List BootstrapEvent} {locks : File → Prop} {kept : Option File → Prop}

/-- An atom on the files of the journal. -/
theorem wp_onFiles_atom {α : Type} {u : Answer → Files → Files} {k : Answer → Files → FileOp α}
    {Q : α → LocalState → Prop}
    (h : ∀ s', Invariant contexts permit s' → Respects call s s' → ∀ answer : Answer,
      let files := u answer s'.files
      let new := creation call s'.files files
      (s'.files.journal ≠ none → files.journal ≠ none) ∧
      (files = s'.files ∨ .created call ∈ s'.trace ++ new) ∧
      Course (contexts call) call files (s'.own call ++ new) ∧
      (answer.written = none → wp (bootstrapContext contexts permit call)
        (onFiles call (k answer s'.files)) (Returning Q)
        { s' with files := files, trace := s'.trace ++ new })) :
    wp (bootstrapContext contexts permit call) (onFiles call (.atom u k)) (Returning Q) s := by
  intro s' hs' hrely i hi
  obtain ⟨hjournal, hfiles, hcourse, hnext⟩ := h s' hs' hrely i.answer
  have hcreation : .created call ∈ creation call s'.files (u i.answer s'.files) →
      s'.files.journal = none ∧ (u i.answer s'.files).journal ≠ none := by
    unfold creation
    split_ifs with hcreated
    · exact fun _ => hcreated
    · exact fun h => absurd h List.not_mem_nil
  have hmem : ∀ event ∈ creation call s'.files (u i.answer s'.files), event = .created call := by
    unfold creation
    split_ifs
    · exact fun _ => List.mem_singleton.1
    · exact fun _ h => absurd h List.not_mem_nil
  -- whatever becomes of the process, this is what the step does
  have hstate : ∀ dead : ℕ → Bool, (∀ c, s'.dead c = true → dead c = true) →
      let t := { s' with
        files := u i.answer s'.files
        trace := s'.trace ++ creation call s'.files (u i.answer s'.files)
        dead := dead }
      permit i s' t → Invariant contexts permit t ∧ Guarantees contexts call s' t := by
    intro dead hdead t hi
    have hstep : Advance call (creation call s'.files (u i.answer s'.files)) s' t := by
      refine ⟨rfl, fun event hevent => ?_, hdead, fun file hfile => ⟨file.content, hfile⟩, ?_,
        fun _ _ => rfl⟩
      · rw [hmem event hevent]
        rfl
      · exact fun c _ hc _ => .inr ⟨hc, rfl⟩
    have howned : Owned call (creation call s'.files (u i.answer s'.files)) s' t := by
      refine ⟨fun hc c hc' => hs'.journal c hc' (hcreation hc).1, fun hc => ?_, hfiles, .inl rfl⟩
      exact hc.elim hjournal fun hc => (hcreation hc).2
    have hjustified : ∀ event ∈ creation call s'.files (u i.answer s'.files),
        Justified contexts s' t event := by
      intro event hevent
      rw [hmem event hevent]
      trivial
    exact ⟨hstep.invariant hs' howned hcourse hjustified hi, hstep.guarantees hs' howned hjustified⟩
  cases hdead : s'.dead call with
  | true =>
    simp only [hdead, if_true, true_or]
    exact ⟨hs', guarantees_refl hs', trivial⟩
  | false =>
    simp only [hdead, Bool.false_eq_true, if_false, false_or] at hi ⊢
    cases hwritten : i.answer.written with
    | some n =>
      simp only [hwritten, Option.isSome_some, if_true] at hi ⊢
      obtain ⟨h₁, h₂⟩ := hstate _ (fun c hc => dead_kill call hc) hi
      exact ⟨h₁, h₂, trivial⟩
    | none =>
      simp only [hwritten, Option.isSome_none, Bool.false_eq_true, if_false] at hi ⊢
      obtain ⟨h₁, h₂⟩ := hstate s'.dead (fun _ => id) hi
      exact ⟨h₁, h₂, hnext hwritten⟩

variable (kept) in
/-- The call that created the journal runs code that adds to it. -/
theorem Stage.wp_onFiles {α : Type} {p : FileOp α} {Q : Except Error α → Files → Prop}
    (hcreated : .created call ∈ events) (hopen : ∀ result, .returned call result ∉ events)
    (hp : p.Within Grows)
    (h : Stage call events (fun files custody => wp whole p Q files ∧ kept custody) locks s) :
    wp (bootstrapContext contexts permit call) (onFiles call p)
      (Returning fun a =>
        Stage call events (fun files custody => Q (.ok a) files ∧ kept custody) locks) s := by
  induction p generalizing s with
  | ret a => exact h
  | raise e => trivial
  | atom u k ih =>
    refine wp_onFiles_atom fun s' hs' hrely answer => ?_
    have h' := h.respects hrely
    have hmem : .created call ∈ s'.trace := (mem_trace_of_own h'.own rfl).2 hcreated
    have hjournal := hs'.journal call hmem
    have hgrows : Grows s'.files (u answer s'.files) := (hp answer s'.files).1
    dsimp only
    rw [creation_of_ne_none hjournal, List.append_nil, List.append_nil]
    refine ⟨fun _ => ?_, .inr hmem, ?_, fun hwritten => ?_⟩
    · obtain ⟨file, hfile⟩ := Option.ne_none_iff_exists'.1 hjournal
      obtain ⟨data, hdata⟩ := hgrows file hfile
      rw [hdata]
      exact nofun
    · refine (hs'.course call).grows (fun result => ?_) hgrows
      rw [h'.own]
      exact hopen result
    · refine ih _ _ (hp answer s'.files).2 ⟨h'.own, fun _ => ⟨?_, (h'.files hcreated).2⟩,
        h'.clean, h'.held⟩
      exact wp_whole_atom.1 (h'.files hcreated).1 answer hwritten

/-- A look at the files of the journal. -/
theorem Stage.wp_look {α : Type} {f : Files → Except Error α}
    {knows : Files → Option File → Prop}
    (h : Stage call events knows locks s) :
    wp (bootstrapContext contexts permit call) (onFiles call (look f))
      (Returning fun _ => Stage call events knows locks) s := by
  refine wp_onFiles_atom fun s' hs' hrely answer => ?_
  have hcreation : creation call s'.files s'.files = [] := if_neg fun h => h.2 h.1
  dsimp only
  rw [hcreation, List.append_nil, List.append_nil]
  refine ⟨id, .inl rfl, hs'.course call, fun _ => ?_⟩
  cases hresult : f s'.files with
  | ok a => exact h.respects hrely
  | error e => trivial

/-- The journal is opened exclusively. -/
theorem Stage.wp_open {knows : Files → Option File → Prop} (e : Error)
    (h : Stage call [] knows locks s) :
    wp (bootstrapContext contexts permit call)
      (onFiles call (openExclusive Files.journal (fun file s => { s with journal := file }) e))
      (Returning fun _ => Stage call [.created call]
        (fun files custody => files.journal = some (.created []) ∧ custody = none) locks) s := by
  refine wp_onFiles_atom fun s' hs' hrely answer => ?_
  have h' := h.respects hrely
  dsimp only
  by_cases hopen : answer.failed = true ∨ s'.files.journal ≠ none
  · have hcreation : creation call s'.files s'.files = [] := if_neg fun h => h.2 h.1
    rw [if_pos hopen, if_pos hopen, hcreation, List.append_nil, List.append_nil]
    exact ⟨id, .inl rfl, hs'.course call, fun _ => trivial⟩
  · have hjournal : s'.files.journal = none := by_contra fun hne => hopen (.inr hne)
    have hcreation : creation call s'.files { s'.files with journal := some (.created []) } =
        [.created call] := if_pos ⟨hjournal, nofun⟩
    have hown : s'.own call = [] := h'.own
    rw [if_neg hopen, if_neg hopen, hcreation, hown]
    have hcustody : s'.custody = none := h'.clean fun c hc => hs'.journal c hc hjournal
    refine ⟨fun h => absurd hjournal h, .inr ?_, .created,
      fun _ => ⟨?_, fun _ => ⟨rfl, hcustody⟩, fun _ => hcustody, h'.held⟩⟩
    · exact List.mem_append_right _ List.mem_cons_self
    · show (s'.trace ++ [BootstrapEvent.created call]).filter _ = _
      rw [List.filter_append]
      show s'.own call ++ _ = _
      rw [hown]
      simp [BootstrapEvent.call]

/-- The call creates the journal, or fails. -/
theorem Stage.wp_create {knows : Files → Option File → Prop} (h : Stage call [] knows locks s)
    (journal : OperationJournal) (split : String → Except Error SplitOrigin)
    (binding : OperationBinding) (timestamp : String) :
    wp (bootstrapContext contexts permit call) (onFiles call (journal.create split binding timestamp))
      (Returning fun _ => Stage call [.created call]
        (fun files custody => Ends journal binding .created files ∧ custody = none) locks) s := by
  rw [create_eq, onFiles_bind]
  refine wp_seq h.wp_look fun _ s h => ?_
  rw [onFiles_bind]
  cases hbinding : validateBinding split binding with
  | error e => trivial
  | ok _ =>
    refine wp_seq (Q := fun _ => Stage call [] knows locks) h fun _ s h => ?_
    rw [onFiles_bind]
    refine wp_seq (h.wp_open _) fun _ s h => ?_
    -- the rest only adds to the journal that was opened
    refine wp_mono (Stage.wp_onFiles (Q := Returning fun _ => Ends journal binding .created)
      (fun custody => custody = none) List.mem_cons_self (fun result hmem => ?_)
      (within_fill journal _) ⟨h.own, fun hcreated => ⟨?_, (h.files hcreated).2⟩, h.clean, h.held⟩)
      fun r s hr => ?_
    · exact absurd (List.mem_singleton.1 hmem) nofun
    · refine wp_mono (returns_fill journal _ s.files) fun r files hr => ?_
      cases r with
      | error e => trivial
      | ok records =>
        exact ⟨[], _, written_of_fill hbinding (h.files hcreated).1 (hr records rfl), rfl, rfl⟩
    · cases r with
      | error e => trivial
      | ok records => exact hr

/-- What is asked of `append` in a call of `admitRecord` that returns. -/
theorem ends_of_append {journal : OperationJournal} {binding : OperationBinding}
    {state : DurableOperationState} {pid : ℕ} {request : AppendRequest} {f f' : Files}
    {records : List JournalRecord} (h : Ends journal binding state f)
    (hreturn : (journal.append pid request).run untroubled f = ⟨.ok records, f', untroubled⟩) :
    Ends journal binding request.state f' := by
  obtain ⟨before, latest, hwritten, rfl, -⟩ := h
  obtain ⟨record, hadmitted, rfl, hwritten'⟩ := written_of_append hwritten hreturn
  refine ⟨_, record, hwritten', ?_⟩
  simp only [admitRecord, List.getLast?_append, List.getLast?_singleton, Option.some_or, bind_eq_ok] at hadmitted
  obtain ⟨_, -, _, -, hrecord⟩ := hadmitted
  cases hrecord
  exact ⟨rfl, rfl⟩

variable (kept) in
/-- The call appends a record to its journal, or fails. -/
theorem Stage.wp_appendState {context : AdministrativeContext} {binding : OperationBinding}
    {before : DurableOperationState} (hcreated : .created call ∈ events)
    (hopen : ∀ result, .returned call result ∉ events)
    (h : Stage call events
      (fun files custody => Ends context.journal binding before files ∧ kept custody) locks s)
    (pid : ℕ)
    (operationId : String) (state : DurableOperationState)
    (transactionState : AdministrativeTransactionState) :
    wp (bootstrapContext contexts permit call)
      (appendState context call pid operationId state transactionState)
      (Returning fun _ => Stage call events
        (fun files custody => Ends context.journal binding state files ∧ kept custody) locks) s := by
  refine wp_seq h.wp_observe fun timestamp s h => ?_
  refine wp_seq (Stage.wp_onFiles
    (Q := Returning fun _ => Ends context.journal binding state) kept hcreated hopen
    (within_append _ pid _) ⟨h.own, fun _ => ⟨?_, (h.files hcreated).2⟩, h.clean, h.held⟩)
    fun _ s h => h
  refine wp_mono (returns_append context.journal pid _ s.files) fun r files hr => ?_
  cases r with
  | error e => trivial
  | ok records => exact ends_of_append (h.files hcreated).1 (hr records rfl)

variable (kept) in
/-- The call of the engine, after the intent was recorded. -/
theorem Stage.wp_bootstrapCall {journal : OperationJournal} {binding : OperationBinding}
    (h : Stage call [.created call] (fun files custody =>
      Ends journal binding .mutationIntentRecorded files ∧ kept custody) locks s) :
    wp (bootstrapContext contexts permit call) (catching (bootstrapCall call binding.operationId))
      (Returning fun _ => Stage call [.created call, .engine call binding.operationId]
        (fun files custody => Ends journal binding .mutationIntentRecorded files ∧ kept custody)
        locks) s := by
  refine wp_catching (wp_step (fun _ h => absurd rfl h) fun s' hs' hrely _ i hi => ?_)
  have h' := h.respects hrely
  have hstep : Advance call [.engine call binding.operationId] s'
      (s'.record (.engine call binding.operationId)) := advance_record rfl
  have howned : Owned call [.engine call binding.operationId] s'
      (s'.record (.engine call binding.operationId)) := owned_of_event rfl rfl nofun
  have hrecorded : Recorded s'.files binding.operationId .mutationIntentRecorded := by
    obtain ⟨records, record, hwritten, hbinding, hstate⟩ := (h'.files List.mem_cons_self).1
    refine ⟨_, records ++ [record], [], hwritten.journal_eq, (List.append_nil _).symm, record,
      List.mem_append_right _ List.mem_cons_self, hstate, ?_⟩
    rw [hbinding]
  have hjustified : ∀ event ∈ [BootstrapEvent.engine call binding.operationId],
      Justified contexts s' (s'.record (.engine call binding.operationId)) event := by
    intro event hevent
    rw [List.mem_singleton.1 hevent]
    exact hrecorded
  refine ⟨hstep.invariant hs' howned ?_ hjustified hi, hstep.guarantees hs' howned hjustified,
    fun _ => ⟨?_, fun _ => h'.files List.mem_cons_self, fun hnone => ?_, h'.held⟩⟩
  · rw [h'.own]
    exact .engaged hrecorded
  · rw [hstep.own_self, h'.own]
    rfl
  · exact h'.clean fun c hc => hnone c (List.mem_append_left _ hc)

end Journal

/-! ### The end of a call -/

section Conclusion

variable {events : List BootstrapEvent} {knows : Files → Option File → Prop} {locks : File → Prop}

/-- A result that says nothing about the journal. -/
theorem wp_returns {result : BootstrapResult} (hcompleted : result.outcome ≠ .completed)
    (hreadOnly : result.outcome ≠ .blockedReadOnlyMode) :
    wp (bootstrapContext contexts permit call) (returns call result) (Returning fun _ _ => True) s := by
  refine wp_step (fun _ => trivial) fun s' hs' _ _ i hi => ?_
  have hstep : Advance call [.returned call result] s' (s'.record (.returned call result)) :=
    advance_record rfl
  have howned : Owned call [.returned call result] s' (s'.record (.returned call result)) :=
    owned_of_event rfl rfl nofun
  have hjustified : ∀ event ∈ [BootstrapEvent.returned call result],
      Justified contexts s' (s'.record (.returned call result)) event := by
    intro event hevent
    rw [List.mem_singleton.1 hevent]
    exact fun h => absurd h hcompleted
  refine ⟨hstep.invariant hs' howned ?_ hjustified hi, hstep.guarantees hs' howned hjustified,
    trivial⟩
  exact .returned (hs'.course call) (fun h => absurd h hcompleted) fun h => absurd h hreadOnly

/-- The lock is released. -/
theorem Stage.wp_releaseAndReturn {operationId timestamp : String} {result : BootstrapResult}
    (h : Stage call events knows locks s)
    (hcompleted : result.outcome = .completed → .created call ∈ events ∧
      result.operationId = some operationId ∧
        ∀ f custody, knows f custody → Completed (contexts call) f operationId ∧ Kept custody)
    (hreadOnly : result.outcome = .blockedReadOnlyMode → events = []) :
    wp (bootstrapContext contexts permit call)
      (releaseAndReturn (contexts call) call operationId timestamp result)
      (Returning fun _ _ => True) s := by
  refine wp_seq (h.wp_writeMetadata _ _ _ _) fun _ s h => ?_
  refine wp_step (fun _ => trivial) fun s' hs' hrely hdead i hi => ?_
  have h' := h.respects hrely
  obtain ⟨file, hholder, hlock, hsecure, hcontent⟩ := h'.holds hdead
  dsimp only at hi ⊢
  let t : LocalState := { s' with holder := none, trace := s'.trace ++ [.returned call result] }
  have hstep : Advance call [.returned call result] s' t := by
    refine advance_of_holder hholder hlock file.content hlock rfl (fun event hevent => ?_)
      fun _ => id
    rw [List.mem_singleton.1 hevent]
    rfl
  have howned : Owned call [.returned call result] s' t := owned_of_event rfl rfl nofun
  have hreleased : Released (contexts call) t operationId := by
    refine ⟨rfl, file, timestamp, hlock, hcontent, fun hlength => ?_⟩
    show inspect _ _ s'.lock false = _
    rw [hlock]
    exact inspect_lockText hsecure hcontent hlength
  have hjustified : ∀ event ∈ [BootstrapEvent.returned call result],
      Justified contexts s' t event := by
    intro event hevent
    rw [List.mem_singleton.1 hevent]
    intro h
    obtain ⟨hcreated, hid, hknows⟩ := hcompleted h
    obtain ⟨hcomplete, hkept⟩ := hknows _ _ (h'.files hcreated)
    exact ⟨operationId, hid, hcomplete, hreleased, hkept⟩
  refine ⟨hstep.invariant hs' howned ?_ hjustified hi, hstep.guarantees hs' howned hjustified,
    trivial⟩
  refine .returned (hs'.course call) (fun h => ?_) fun h => ?_
  · obtain ⟨hcreated, hid, hknows⟩ := hcompleted h
    rw [h'.own]
    exact ⟨hcreated, operationId, hid, (hknows _ _ (h'.files hcreated)).1⟩
  · rw [h'.own]
    exact hreadOnly h

/-- A step by which the call that created the journal changes the custody file. -/
theorem Stage.wp_custody {f : BootstrapAnswers → LocalState → LocalState × Except Error Unit}
    {ends : Files → Prop} {kept : Option File → Prop} (kept' : Option File → Prop)
    (hcreated : .created call ∈ events)
    (hopen : ∀ result, .returned call result ∉ events)
    (h : Stage call events (fun files custody => ends files ∧ kept custody) locks s)
    (hf : ∀ i s, ∃ custody dead, (f i s).1 = { s with custody := custody, dead := dead } ∧
      (∀ c, s.dead c = true → dead c = true) ∧
      ((f i s).2 = .ok () → dead = s.dead ∧ (kept s.custody → kept' custody))) :
    wp (bootstrapContext contexts permit call) (step call f)
      (fun r s => r ≠ .error killed → s.own call = events ∧ (r = .ok () →
        Stage call events (fun files custody => ends files ∧ kept' custody) locks s)) s := by
  refine wp_unrecorded (fun _ h => absurd rfl h) fun s' hrely _ i => ?_
  obtain ⟨custody, dead, heq, hdead, hresult⟩ := hf i s'
  have h' := h.respects hrely
  have hmem : .created call ∈ s'.trace := (mem_trace_of_own h'.own rfl).2 hcreated
  rw [heq]
  refine ⟨rfl, .inr ⟨hmem, fun result hreturned => ?_⟩, advance_of_eq rfl rfl rfl hdead,
    fun _ => ⟨h'.own, fun hok => ?_⟩⟩
  · exact hopen result ((mem_trace_of_own h'.own rfl).1 hreturned)
  · obtain ⟨rfl, hkept⟩ := hresult hok
    obtain ⟨hends, hbefore⟩ := h'.files hcreated
    exact ⟨h'.own, fun _ => ⟨hends, hkept hbefore⟩, fun hnone => absurd hmem (hnone call), h'.held⟩

/-- A `try` block whose body returns. -/
theorem wp_catching_returning {α : Type} {p : BootstrapOp α} {Q : α → LocalState → Prop}
    (h : wp (bootstrapContext contexts permit call) p (Returning Q) s) :
    wp (bootstrapContext contexts permit call) (catching p)
      (Returning fun r s => ∀ a, r = .ok a → Q a s) s := by
  refine wp_catching (wp_mono h fun r s hr _ a ha => ?_)
  rw [ha] at hr
  exact hr

/-- The key is written to a new file, or the call raises. -/
theorem Stage.wp_writeCustodyKeyExclusive {ends : Files → Prop} (hcreated : .created call ∈ events)
    (hopen : ∀ result, .returned call result ∉ events)
    (h : Stage call events (fun files custody => ends files ∧ custody = none) locks s)
    (context : AdministrativeContext) (value : Bytes) :
    wp (bootstrapContext contexts permit call) (writeCustodyKeyExclusive context call value)
      (Returning fun _ => Stage call events (fun files custody => ends files ∧ Kept custody) locks)
      s := by
  refine wp_seq (Q := fun _ => Stage call events
    (fun files custody => ends files ∧ custody = some (.created [])) locks)
    (wp_mono (h.wp_custody (fun custody => custody = some (.created [])) hcreated hopen
      fun i s => ?_) fun r s hr => ?_) fun _ s h => ?_
  · split_ifs
    · exact ⟨s.custody, s.dead, rfl, fun _ => id, nofun⟩
    · exact ⟨_, s.dead, rfl, fun _ => id, fun _ => ⟨rfl, fun _ => rfl⟩⟩
  · cases r with
    | ok _ => exact (hr nofun).2 rfl
    | error e => trivial
  -- the content; whatever goes wrong, the file is removed
  refine wp_seq (wp_catching (Q := fun r s => s.own call = events ∧ (r = .ok () →
    Stage call events (fun files custody => ends files ∧ Kept custody) locks s)) ?_)
    fun result s h => ?_
  · rw [wp_bind]
    refine wp_mono (h.wp_custody Kept hcreated hopen fun i s => ?_) fun r s hr => ?_
    · have hkept : ∀ data, s.custody = some (.created []) →
          Kept (appendTo s.custody data) := fun data hcustody => by
        rw [hcustody]
        exact .inr ⟨_, rfl⟩
      split_ifs
      · exact ⟨s.custody, s.dead, rfl, fun _ => id, nofun⟩
      · cases i.answer.written with
        | some n => exact ⟨_, _, rfl, fun c hc => dead_kill call hc, nofun⟩
        | none => exact ⟨_, s.dead, rfl, fun _ => id, fun _ => ⟨rfl, hkept _⟩⟩
    · cases r with
      | error e => exact fun hne => ⟨(hr hne).1, nofun⟩
      | ok _ =>
        refine ((hr nofun).2 rfl).wp_custody _ hcreated hopen fun i s => ?_
        split_ifs
        · exact ⟨s.custody, s.dead, rfl, fun _ => id, nofun⟩
        · exact ⟨s.custody, s.dead, rfl, fun _ => id, fun _ => ⟨rfl, id⟩⟩
  · cases result with
    | ok _ => exact h.2 rfl
    | error e =>
      refine wp_seq (Q := fun _ _ => True) (wp_catching ?_) fun _ _ _ => trivial
      refine wp_unrecorded (fun _ _ => trivial) fun s' hrely _ i => ?_
      have hown : s'.own call = events := hrely.own.trans h.1
      have hremove : .created call ∈ s'.trace ∧ ∀ result, .returned call result ∉ s'.trace :=
        ⟨(mem_trace_of_own hown rfl).2 hcreated,
          fun result hmem => hopen result ((mem_trace_of_own hown rfl).1 hmem)⟩
      split_ifs
      · exact ⟨rfl, .inl rfl, advance_of_eq rfl rfl rfl fun _ => id, fun _ => trivial⟩
      · exact ⟨rfl, .inr hremove, advance_of_eq rfl rfl rfl fun _ => id, fun _ => trivial⟩

/-- The key is persisted, or the call raises. -/
theorem Stage.wp_persistServiceApiKey {ends : Files → Prop} (hcreated : .created call ∈ events)
    (hopen : ∀ result, .returned call result ∉ events)
    (h : Stage call events (fun files custody => ends files ∧ custody = none) locks s)
    (context : AdministrativeContext) (apiKey : String) :
    wp (bootstrapContext contexts permit call) (persistServiceApiKey context call apiKey)
      (Returning fun _ => Stage call events (fun files custody => ends files ∧ Kept custody) locks)
      s := by
  refine wp_seq (wp_catching_returning (h.wp_writeCustodyKeyExclusive hcreated hopen context _))
    fun result s h => ?_
  cases result with
  | ok _ => exact h () rfl
  | error e =>
    dsimp only
    split_ifs <;> trivial

theorem Stage.wp_persistGeneratedKey {ends : Files → Prop} (hcreated : .created call ∈ events)
    (hopen : ∀ result, .returned call result ∉ events)
    (h : Stage call events (fun files custody => ends files ∧ custody = none) locks s)
    (context : AdministrativeContext) (result : ProvisioningResult) :
    wp (bootstrapContext contexts permit call) (persistGeneratedKey context call result)
      (Returning fun _ => Stage call events (fun files custody => ends files ∧ Kept custody) locks)
      s := by
  unfold persistGeneratedKey
  split
  · exact h.wp_persistServiceApiKey hcreated hopen _ _
  · exact ⟨h.own, fun hmem => ⟨(h.files hmem).1, .inl (h.files hmem).2⟩, h.clean, h.held⟩

/-- The end of an attempt whose engine was called. -/
theorem Stage.wp_concludeEngine {operationId : String}
    (h : Stage call [.created call, .engine call operationId] (fun files custody =>
      Ends (contexts call).journal ((contexts call).newOperationBinding operationId)
        .mutationIntentRecorded files ∧ custody = none) locks s) (pid : ℕ)
    (outcome : Except Error ProvisioningResult) :
    wp (bootstrapContext contexts permit call)
      (concludeEngine (contexts call) call pid operationId outcome)
      (Returning fun _ _ => True) s := by
  have hcreated : .created call ∈ [.created call, BootstrapEvent.engine call operationId] :=
    List.mem_cons_self
  have hopen : ∀ result, .returned call result ∉
      [.created call, BootstrapEvent.engine call operationId] := by
    intro result hmem
    rcases List.mem_cons.1 hmem with h | h
    · cases h
    · cases List.mem_singleton.1 h
  cases outcome with
  | error e =>
    refine wp_seq (h.wp_appendState (fun custody => custody = none) hcreated hopen pid _ _ _)
      fun _ s _ => ?_
    refine wp_returns ?_ ?_
    · rintro ⟨⟩
    · rintro ⟨⟩
  | ok result =>
    rw [concludeEngine]
    by_cases hclean : result.outcome ∈ cleanSuccessOutcomes
    · rw [if_pos hclean]
      refine wp_seq (h.wp_persistGeneratedKey hcreated hopen _ _) fun _ s h => ?_
      refine wp_seq (h.wp_appendState Kept hcreated hopen pid _ _ _) fun _ s h => ?_
      refine wp_seq (h.wp_appendState Kept hcreated hopen pid _ _ _) fun _ s h => ?_
      refine wp_seq h.wp_observe fun timestamp s h => ?_
      exact h.wp_releaseAndReturn (fun _ => ⟨hcreated, rfl, fun _ _ => id⟩) (by rintro ⟨⟩)
    · rw [if_neg hclean]
      refine wp_seq (h.wp_appendState (fun custody => custody = none) hcreated hopen pid
        _ _ _) fun _ s _ => ?_
      refine wp_returns ?_ ?_
      · split_ifs <;> rintro ⟨⟩
      · split_ifs <;> rintro ⟨⟩

/-- An attempt under the lock. -/
theorem Stage.wp_runLocked (h : Stage call [] knows locks s) (pid : ℕ)
    (operationId timestamp : String) :
    wp (bootstrapContext contexts permit call)
      (runLocked (contexts call) call pid operationId timestamp) (Returning fun _ _ => True) s := by
  refine wp_seq h.wp_observe fun readOnlyStatus s h => ?_
  by_cases hreadOnly : readOnlyStatus ≠ .writable
  · rw [if_pos hreadOnly]
    refine wp_seq h.wp_observe fun released s h => ?_
    exact h.wp_releaseAndReturn nofun fun _ => rfl
  · rw [if_neg hreadOnly]
    have hopen : ∀ result, .returned call result ∉ [BootstrapEvent.created call] :=
      fun result hmem => absurd (List.mem_singleton.1 hmem) nofun
    refine wp_seq (h.wp_create _ _ _ _) fun _ s h => ?_
    refine wp_seq (h.wp_appendState (fun custody => custody = none) List.mem_cons_self hopen
      pid _ _ _) fun _ s h => ?_
    refine wp_seq (h.wp_appendState (fun custody => custody = none) List.mem_cons_self hopen
      pid _ _ _) fun _ s h => ?_
    refine wp_seq (Stage.wp_bootstrapCall (fun custody => custody = none) h)
      fun outcome s h => ?_
    exact h.wp_concludeEngine pid outcome

end Conclusion

/-! ### The beginning of a call -/

/-- A call that has done nothing that is recorded, and has seen that there was no custody file. -/
structure Begun (call : ℕ) (s : LocalState) : Prop where
  own : s.own call = []
  clean : (∀ c, .created c ∉ s.trace) → s.custody = none

omit [Platform] [Conversions] in
theorem Begun.respects (h : Begun call s) (hrely : Respects call s s') : Begun call s' := by
  refine ⟨hrely.own.trans h.own, fun hnone => ?_⟩
  rw [hrely.custody (.inr hnone)]
  exact h.clean fun c hc => hnone c (hrely.trace _ hc)

theorem Begun.wp_observe {α : Type} {f : BootstrapAnswers → LocalState → Except Error α}
    (h : Begun call s) :
    wp (bootstrapContext contexts permit call) (observe call f) (Returning fun _ => Begun call) s :=
  Administration.wp_observe fun _ hrely _ _ _ => h.respects hrely

/-- The lock is opened. -/
theorem Begun.wp_openLock (h : Begun call s) :
    wp (bootstrapContext contexts permit call) (openLock call) (Returning fun _ => Begun call) s := by
  refine wp_unrecorded (fun _ => trivial) fun s' hrely _ i => ?_
  have h' := h.respects hrely
  have hlock : ∀ file, s'.lock = some file →
      some (s'.lock.getD (.created [])) = some file := fun file hfile => by rw [hfile]; rfl
  split_ifs
  · exact ⟨rfl, .inl rfl, advance_of_eq rfl rfl rfl fun _ => id, trivial⟩
  · refine ⟨rfl, .inl rfl, ⟨(List.append_nil _).symm, fun _ h => absurd h List.not_mem_nil,
      fun _ => id, fun file hfile => ⟨file.content, hlock file hfile⟩, fun c _ hc hne =>
      .inr ⟨hc, ?_⟩, fun _ hne => ?_⟩, ⟨h'.own, h'.clean⟩⟩
    · obtain ⟨file, hfile⟩ := Option.ne_none_iff_exists'.1 hne
      exact (hlock file hfile).trans hfile.symm
    · obtain ⟨file, hfile⟩ := Option.ne_none_iff_exists'.1 hne
      exact (hlock file hfile).trans hfile.symm

/-- The checks of the descriptor. -/
theorem Begun.wp_validateLock (h : Begun call s) (context : AdministrativeContext) :
    wp (bootstrapContext contexts permit call) (validateLock context call)
      (Returning fun _ s => Begun call s ∧ ∃ file, s.lock = some file ∧ Secure file) s := by
  refine Administration.wp_observe fun s' hrely i a ha => ⟨h.respects hrely, ?_⟩
  cases hread : readSecure context.lockPath s'.lock maxMetadataBytes with
  | error e =>
    rw [hread] at ha
    cases ha
  | ok raw =>
    obtain ⟨file, hfile, h₁, h₂, h₃, h₄, -⟩ := readSecure_eq_ok.1 hread
    exact ⟨file, hfile, h₁, h₂, h₃, h₄⟩

/-- The lock is taken if no live call holds it. -/
theorem Begun.wp_flockLock (h : Begun call s) {file : File} (hfile : s.lock = some file)
    (hsecure : Secure file) :
    wp (bootstrapContext contexts permit call) (flockLock call)
      (Returning fun _ => Stage call [] (fun _ _ => True) fun _ => True) s := by
  refine wp_unrecorded (fun _ => trivial) fun s' hrely _ i => ?_
  have h' := h.respects hrely
  obtain ⟨content, hcontent⟩ := hrely.secure file hfile
  split_ifs with hheld
  · exact ⟨rfl, .inl rfl, advance_of_eq rfl rfl rfl fun _ => id, trivial⟩
  · refine ⟨rfl, .inl rfl, ⟨(List.append_nil _).symm, fun _ h => absurd h List.not_mem_nil,
      fun _ => id, fun file hfile => ⟨file.content, hfile⟩, fun c _ hc _ => .inl ?_, fun _ _ => rfl⟩,
      h'.own, fun _ => trivial, h'.clean, .inr ⟨_, rfl, hcontent, hsecure, trivial⟩⟩
    -- the process of another holder has died
    have hnot : ¬s'.held = true := fun h => hheld (.inr (.inr h))
    rw [LocalState.held, hc] at hnot
    simpa using hnot

/-- The lock is acquired, or the call fails. -/
theorem Begun.wp_acquire (h : Begun call s) (context : AdministrativeContext)
    (operationId timestamp : String) :
    wp (bootstrapContext contexts permit call) (acquire context call operationId timestamp)
      (Returning fun _ => Stage call [] (fun _ _ => True) fun file => file.content =
        lockText context.journal.integrityKey operationId timestamp true) s := by
  refine wp_seq (Q := fun _ => Begun call) ?_ fun _ s h => ?_
  · unfold require
    split_ifs
    · exact h
    · trivial
  refine wp_seq h.wp_observe fun _ s h => ?_
  refine wp_seq h.wp_openLock fun _ s h => ?_
  refine wp_seq (h.wp_validateLock context) fun _ s h => ?_
  obtain ⟨hbegun, file, hfile, hsecure⟩ := h
  refine wp_seq (hbegun.wp_flockLock hfile hsecure) fun _ s h => ?_
  refine wp_seq h.wp_observe fun existing s h => ?_
  split_ifs
  · refine wp_seq (Q := fun _ _ => True) (wp_unrecorded (fun _ => trivial) fun s' hrely hdead i => ?_)
      fun _ _ _ => trivial
    obtain ⟨file, hholder, hlock, -⟩ := (h.respects hrely).holds hdead
    exact ⟨rfl, .inl rfl, advance_of_holder hholder hlock file.content hlock (List.append_nil _).symm
      (fun _ h => absurd h List.not_mem_nil) fun _ => id, trivial⟩
  · exact h.wp_writeMetadata _ _ _ _

/-- An attempt in a namespace that was classified as clean. -/
theorem Begun.wp_startBootstrap (h : Begun call s) (pid : ℕ) :
    wp (bootstrapContext contexts permit call) (startBootstrap (contexts call) call pid)
      (Returning fun _ _ => True) s := by
  refine wp_seq h.wp_observe fun operationId s h => ?_
  refine wp_seq h.wp_observe fun timestamp s h => ?_
  refine wp_seq (wp_catching_returning (h.wp_acquire _ _ _)) fun locked s h => ?_
  cases locked with
  | error e =>
    dsimp only
    split_ifs
    · exact wp_returns nofun nofun
    · trivial
  | ok _ =>
    refine wp_seq (wp_catching_returning ((h () rfl).wp_runLocked pid _ _)) fun ended s _ => ?_
    cases ended with
    | error e =>
      dsimp only
      split_ifs
      · exact wp_returns nofun nofun
      · trivial
    | ok _ => trivial

theorem wp_observe_own {α : Type} {f : BootstrapAnswers → LocalState → Except Error α}
    (h : s.own call = []) :
    wp (bootstrapContext contexts permit call) (observe call f)
      (Returning fun _ s => s.own call = []) s :=
  wp_observe fun _ hrely _ _ _ => hrely.own.trans h

omit [Platform] [Conversions] in
/-- A namespace is not clean if there is a custody file. -/
theorem custody_of_clean {journal : Option JournalRecord} {trusted : Bool} {lock : LockObservation}
    {custody : Option File} {context : AdministrativeContext}
    {authoritative : Option AuthoritativeRestartObservation}
    (h : (classifyRestart journal trusted lock (context.observeLocalArtifacts custody)
      authoritative).classification = .cleanNoOperation) : custody = none := by
  by_contra hne
  obtain ⟨-, htrusted, habsent⟩ := artifacts_of_clean h
  unfold AdministrativeContext.observeLocalArtifacts at htrusted habsent
  rw [if_neg hne] at htrusted habsent
  cases hread : readSecure context.serviceApiKeyFile custody maxSecretBytes with
  | error e =>
    rw [hread] at htrusted
    cases htrusted
  | ok raw =>
    rw [hread] at habsent
    cases habsent

/-- The classification only looks. -/
theorem wp_classify (h : s.own call = []) (context : AdministrativeContext)
    (authoritative : Option AuthoritativeRestartObservation) :
    wp (bootstrapContext contexts permit call) (classify context call authoritative)
      (Returning fun decision s => s.own call = [] ∧
        (decision.classification = .cleanNoOperation → Begun call s)) s := by
  refine wp_seq (Q := fun _ s => s.own call = []) ?_ fun loaded s h => ?_
  · refine wp_seq (wp_observe_own h) fun first s h => ?_
    split_ifs
    · exact h
    refine wp_seq (wp_observe_own h) fun second s h => ?_
    split
    · split_ifs
      · exact h
      · trivial
    · split
      · exact h
      · trivial
  refine wp_seq (wp_observe_own h) fun lock s h => ?_
  refine wp_seq (Q := fun artifacts s => s.own call = [] ∧
    artifacts = context.observeLocalArtifacts s.custody)
    (Administration.wp_observe fun s' hrely i a ha => ⟨hrely.own.trans h, ?_⟩) fun artifacts s h => ?_
  · exact (Except.ok.inj ha).symm
  · obtain ⟨hown, rfl⟩ := h
    exact ⟨hown, fun hclean => ⟨hown, fun _ => custody_of_clean hclean⟩⟩

/-- A call of `run_bootstrap`. -/
theorem wp_runBootstrap (h : s.own call = []) (pid : ℕ)
    (authoritative : Option AuthoritativeRestartObservation) :
    wp (bootstrapContext contexts permit call) (runBootstrap (contexts call) call pid authoritative)
      (Returning fun _ _ => True) s := by
  refine wp_seq (wp_classify h _ _) fun decision s h => ?_
  split
  · next hclean => exact (h.2 hclean).wp_startBootstrap pid
  · exact wp_returns nofun nofun
  · exact wp_returns nofun nofun
  · exact wp_returns nofun nofun

/-! ### Every run -/

/-- What holds in every run of bootstrap calls. -/
def bootstrapCertificate (contexts : ℕ → AdministrativeContext) (permit : Permit) :
    System.Certificate (bootstrapSystem contexts permit) where
  inv := Invariant contexts permit
  rely := Respects
  guar := Guarantees contexts
  fresh c s := s.own c = []
  post _ _ _ := True
  rely_refl := Respects.refl
  rely_trans _ := Respects.trans
  rely_of_guar hne _ h := h.1 _ hne.symm
  fresh_of_guar hne h hfresh := (h.1 _ hne.symm).own.trans hfresh
  post_stable _ _ _ _ := trivial
  of_init := by
    rintro s ⟨htrace, -⟩
    have hown : ∀ c, s.own c = [] := by
      intro c
      rw [LocalState.own, htrace]
      rfl
    have hnone : ∀ event, event ∉ s.trace := by
      intro event
      rw [htrace]
      exact List.not_mem_nil
    refine ⟨⟨fun c _ hc => absurd hc (hnone _), fun c hc => absurd hc (hnone _), fun c => ?_,
      fun _ c _ hc => absurd hc (hnone _)⟩, hown⟩
    rw [hown]
    exact .called
  sound := by
    rintro c p s (⟨pid, authoritative, rfl⟩ | ⟨victim, rfl⟩) hs hfresh
    · exact wp_mono (wp_runBootstrap hfresh pid authoritative) fun _ _ _ => trivial
    · rintro s' hs' - i hi
      have hstep : Advance c [] s' (s'.kill victim) :=
        advance_of_eq rfl rfl rfl fun c hc => dead_kill victim hc
      obtain ⟨h₁, h₂⟩ := hstep.unrecorded hs' rfl (.inl rfl) hi
      exact ⟨h₁, h₂, trivial⟩

omit [Platform] [Conversions] in
/-- How often the engine was called. -/
def LocalState.engineCalls (s : LocalState) : ℕ :=
  s.trace.countP fun event => match event with
    | .engine _ _ => true
    | _ => false

theorem Course.countP_engine_le {context : AdministrativeContext} {f : Files}
    {events : List BootstrapEvent} (h : Course context call f events) :
    (events.countP fun event => match event with
      | .engine _ _ => true
      | _ => false) ≤ 1 := by
  induction h with
  | called => exact Nat.zero_le 1
  | created => exact Nat.zero_le 1
  | engaged => exact Nat.le_refl 1
  | returned _ _ _ ih =>
    rw [List.countP_append]
    exact ih

theorem Course.created_of_engine {context : AdministrativeContext} {f : Files}
    {events : List BootstrapEvent} (h : Course context call f events) {operationId : String}
    (hmem : .engine call operationId ∈ events) : .created call ∈ events := by
  induction h with
  | called => exact absurd hmem List.not_mem_nil
  | created => exact absurd (List.mem_singleton.1 hmem) nofun
  | engaged => exact List.mem_cons_self
  | returned _ _ _ ih =>
    rcases List.mem_append.1 hmem with hmem | hmem
    · exact List.mem_append_left _ (ih hmem)
    · exact absurd (List.mem_singleton.1 hmem) nofun

/-- All calls of the engine are made by the call that created the journal. -/
theorem Invariant.engineCalls_le (h : Invariant contexts permit s) : s.engineCalls ≤ 1 := by
  by_cases hengine : ∃ c operationId, .engine c operationId ∈ s.trace
  · obtain ⟨c, operationId, hmem⟩ := hengine
    have hcreated := fun c' op (hmem' : .engine c' op ∈ s.trace) =>
      (mem_own.1 ((h.course c').created_of_engine (mem_own.2 ⟨hmem', rfl⟩))).1
    have hown : s.engineCalls = (s.own c).countP fun event => match event with
        | .engine _ _ => true
        | _ => false := by
      rw [LocalState.own, List.countP_filter]
      refine List.countP_congr fun event hevent => ?_
      cases event with
      | engine c' op =>
        have := h.creator c' c (hcreated c' op hevent) (hcreated c operationId hmem)
        simp [BootstrapEvent.call, this]
      | created c' => simp
      | returned c' result => simp
    rw [hown]
    exact (h.course c).countP_engine_le
  · refine Nat.le_trans (Nat.le_of_eq ?_) (Nat.zero_le 1)
    rw [LocalState.engineCalls, List.countP_eq_zero]
    intro event hevent
    cases event with
    | engine c operationId => exact absurd ⟨c, operationId, hevent⟩ hengine
    | created c => exact nofun
    | returned c result => exact nofun

theorem Course.of_returned {context : AdministrativeContext} {f : Files}
    {events : List BootstrapEvent} (h : Course context call f events) {result : BootstrapResult}
    (hmem : .returned call result ∈ events) :
    (result.outcome = .completed → ∃ operationId, result.operationId = some operationId ∧
      Completed context f operationId) ∧
    (result.outcome = .blockedReadOnlyMode → .created call ∉ events ∧
      ∀ operationId, .engine call operationId ∉ events) := by
  induction h with
  | called => exact absurd hmem List.not_mem_nil
  | created => exact absurd (List.mem_singleton.1 hmem) nofun
  | engaged =>
    rcases List.mem_cons.1 hmem with hmem | hmem
    · cases hmem
    · exact absurd (List.mem_singleton.1 hmem) nofun
  | @returned events last _ hcompleted hreadOnly ih =>
    have hlast : ∀ event : BootstrapEvent, event ≠ .returned call last → event ∉ events →
        event ∉ events ++ [.returned call last] := by
      intro event hne hnot hmem
      rcases List.mem_append.1 hmem with hmem | hmem
      · exact hnot hmem
      · exact hne (List.mem_singleton.1 hmem)
    have hcreated : BootstrapEvent.created call ≠ .returned call last := by simp
    have hengine : ∀ operationId, BootstrapEvent.engine call operationId ≠ .returned call last := by
      simp
    rcases List.mem_append.1 hmem with hmem | hmem
    · refine ⟨(ih hmem).1, fun h => ⟨hlast _ hcreated ((ih hmem).2 h).1, fun operationId => ?_⟩⟩
      exact hlast _ (hengine operationId) (((ih hmem).2 h).2 operationId)
    · rw [List.mem_singleton, BootstrapEvent.returned.injEq] at hmem
      rw [hmem.2]
      refine ⟨fun h => (hcompleted h).2, fun h => ?_⟩
      have hnil := hreadOnly h
      rw [hnil] at hlast ⊢
      exact ⟨hlast _ hcreated List.not_mem_nil,
        fun operationId => hlast _ (hengine operationId) List.not_mem_nil⟩

end

/-! ### Main result -/

/-- Over every run of bootstrap calls on one journal, whatever dies when:
* the engine is called at most once;
* a call that returned that it completed an operation left the journal ending in that record, and
  so it still does;
* a call that returned that the appliance is read-only neither created a journal nor called the
  engine;
* at every step that calls the engine the intent of the operation is already in the journal;
* at every step that returns that an operation is completed the lock is released. -/
theorem engine_once [Platform] [Conversions] {contexts : ℕ → AdministrativeContext}
    {cfg : Config LocalState BootstrapAnswers Error}
    (h : (bootstrapSystem contexts fun _ _ _ => True).Reachable cfg) :
    cfg.shared.engineCalls ≤ 1 ∧
      (∀ c result, .returned c result ∈ cfg.shared.trace →
        (result.outcome = .completed → ∃ operationId, result.operationId = some operationId ∧
          Completed (contexts c) cfg.shared.files operationId) ∧
        (result.outcome = .blockedReadOnlyMode → .created c ∉ cfg.shared.trace ∧
          ∀ operationId, .engine c operationId ∉ cfg.shared.trace)) ∧
      ∀ cfg', (bootstrapSystem contexts fun _ _ _ => True).Step cfg cfg' →
        (∀ c operationId, .engine c operationId ∈ cfg'.shared.trace →
          .engine c operationId ∉ cfg.shared.trace →
          Recorded cfg.shared.files operationId .mutationIntentRecorded) ∧
        ∀ c result, .returned c result ∈ cfg'.shared.trace →
          .returned c result ∉ cfg.shared.trace → result.outcome = .completed →
          ∃ operationId, result.operationId = some operationId ∧
            Completed (contexts c) cfg'.shared.files operationId ∧
            Released (contexts c) cfg'.shared operationId := by
  have hinv := ((bootstrapCertificate contexts fun _ _ _ => True).reachable h).inv
  refine ⟨hinv.engineCalls_le, fun c result hmem => ?_, fun cfg' hstep => ?_⟩
  · have hown := fun {event : BootstrapEvent} (hcall : event.call = c) =>
      fun (hnot : event ∉ cfg.shared.own c) (hevent : event ∈ cfg.shared.trace) =>
        hnot (mem_own.2 ⟨hevent, hcall⟩)
    obtain ⟨hcompleted, hreadOnly⟩ := (hinv.course c).of_returned (mem_own.2 ⟨hmem, rfl⟩)
    refine ⟨hcompleted, fun h => ⟨hown rfl (hreadOnly h).1, fun operationId => ?_⟩⟩
    exact hown rfl ((hreadOnly h).2 operationId)
  · rcases (bootstrapCertificate contexts fun _ _ _ => True).guar_of_step h hstep with heq | ⟨c, -, haccounted⟩
    · rw [heq]
      exact ⟨fun _ _ hmem hnot => absurd hmem hnot, fun _ _ hmem hnot => absurd hmem hnot⟩
    · refine ⟨fun c operationId hmem hnot => ?_, fun c result hmem hnot => ?_⟩
      · exact (haccounted.engine c operationId hmem).resolve_left hnot
      · exact (haccounted.completed c result hmem).resolve_left hnot

section

attribute [local instance] Sample.platform sampleConversions

theorem engine_once_sample :
    ∃ cfg, (bootstrapSystem (fun _ => sampleContext) fun _ _ _ => True).Reachable cfg ∧
      cfg.shared.engineCalls ≤ 1 ∧ .engine 0 "op-1" ∈ cfg.shared.trace ∧
      ∃ operationId, some operationId = some "op-1" ∧
        Completed sampleContext cfg.shared.files operationId := by
  obtain ⟨cfg, hreach, ⟨files, hfinal⟩, -⟩ := exists_sample (fun _ _ _ => True)
    fun _ _ _ _ => trivial
  obtain ⟨hcalls, hreturned, -⟩ := engine_once hreach
  refine ⟨cfg, hreach, hcalls, ?_, ?_⟩
  · rw [hfinal]
    exact List.mem_append_left _ (List.mem_append_right _ (List.mem_singleton.2 rfl))
  · have hmem : .returned 0 sampleReturned ∈ cfg.shared.trace := by
      rw [hfinal]
      exact List.mem_append_right _ (List.mem_singleton.2 rfl)
    obtain ⟨operationId, hid, hcompleted⟩ := (hreturned 0 sampleReturned hmem).1 rfl
    exact ⟨operationId, hid.symm, hcompleted⟩

end

end Administration
