import PfsenseMcp.Administration.Bootstrap
import PfsenseMcp.Administration.JournalCalls
import PfsenseMcp.Concurrency.Pool

/-!
# Interleaved bootstrap attempts

Any number of calls of `run_bootstrap` on the local state of one namespace, in processes that may
die at any time. What holds the calls apart is not the lock but the exclusive creation of the
journal: the call that created it is the only one that writes to it, and the only one that gets to
the call of the engine.

This file has the relations between the states of a run and the rules for single steps; what the
code of a call does by them is in `EngineOnce`.
-/

namespace Administration

open Python Concurrency Procedure Tier1 OperationJournal

/-! ### The system -/

/-- The death of a process. -/
def die (victim : ℕ) : BootstrapOp Unit := .atom (fun _ s => s.kill victim) fun _ _ => .ret ()

/-- The steps that are considered, by what the environment answers, the state before and after. -/
abbrev Permit := BootstrapAnswers → LocalState → LocalState → Prop

/-- The calls of `run_bootstrap` on one namespace, each in its own context, from any local state
that no process holds. -/
def bootstrapSystem [Platform] [Conversions] (contexts : ℕ → AdministrativeContext)
    (permit : Permit) : System LocalState BootstrapAnswers Error where
  init s := s.trace = [] ∧ s.holder = none
  program call p :=
    (∃ pid authoritative, p = runBootstrap (contexts call) call pid authoritative) ∨
      ∃ victim, p = die victim
  permit := permit

/-- No call takes the lock once there is a journal. -/
def Permit.Early (permit : Permit) : Prop :=
  ∀ i s s', permit i s s' → s.files.journal ≠ none → s'.holder = s.holder ∨ s'.holder = none

/-- The steps of runs in which no call takes the lock once there is a journal. -/
def earlySteps : Permit := fun _ s s' =>
  s.files.journal ≠ none → s'.holder = s.holder ∨ s'.holder = none

theorem early_earlySteps : earlySteps.Early := fun _ _ _ h => h

/-- The events of a call. -/
def LocalState.own (s : LocalState) (call : ℕ) : List BootstrapEvent :=
  s.trace.filter fun event => event.call = call

/-- A complete line of the journal records that an operation is in a state. -/
def Recorded (s : Files) (operationId : String) (state : DurableOperationState) : Prop :=
  ∃ file records rest, s.journal = some file ∧ file.content = journalText records ++ rest ∧
    ∃ record ∈ records, record.state = state ∧ record.binding.operationId = operationId

/-- The custody file is absent, or one of the calls wrote it. -/
def Kept (custody : Option File) : Prop :=
  custody = none ∨ ∃ content, custody = some (.created content)

/-- A file that the checks of descriptors accept, but for its size. -/
def Secure (file : File) : Prop :=
  file.symlink = false ∧ file.regular = true ∧ file.owned = true ∧ file.shared = false

/-- The files are no longer than what is read of them. -/
structure WithinSizes (s : LocalState) : Prop where
  journal : WithinLimit s.files
  lock : ∀ file, s.lock = some file → file.content.length ≤ maxMetadataBytes
  custody : ∀ file, s.custody = some file → file.content.length ≤ maxSecretBytes

/-- What a call can rely on between two of its steps. -/
structure Respects (call : ℕ) (s s' : LocalState) : Prop where
  trace : ∀ event ∈ s.trace, event ∈ s'.trace
  own : s'.own call = s.own call
  dead : s.dead call = true → s'.dead call = true
  files : .created call ∈ s.trace → s'.files = s.files
  custody : .created call ∈ s.trace ∨ (∀ c, .created c ∉ s'.trace) → s'.custody = s.custody
  secure : ∀ file, s.lock = some file → ∃ content, s'.lock = some { file with content := content }
  lock : s.holder = some call → s.lock ≠ none →
    s'.dead call = true ∨ s'.holder = some call ∧ s'.lock = s.lock

theorem mem_own {s : LocalState} {event : BootstrapEvent} {call : ℕ} :
    event ∈ s.own call ↔ event ∈ s.trace ∧ event.call = call := by
  simp [LocalState.own]

theorem Respects.refl (call : ℕ) (s : LocalState) : Respects call s s :=
  ⟨fun _ => id, rfl, id, fun _ => rfl, fun _ => rfl, fun file h => ⟨file.content, h⟩,
    fun h _ => .inr ⟨h, rfl⟩⟩

theorem Respects.trans {call : ℕ} {s₁ s₂ s₃ : LocalState} (h : Respects call s₁ s₂)
    (h' : Respects call s₂ s₃) : Respects call s₁ s₃ := by
  refine ⟨fun event hevent => h'.trace event (h.trace event hevent), h'.own.trans h.own,
    fun hdead => h'.dead (h.dead hdead), fun hcreated => ?_, fun hcustody => ?_,
    fun file hfile => ?_, fun hholder hlock => ?_⟩
  · rw [h'.files (h.trace _ hcreated), h.files hcreated]
  · rcases hcustody with hcreated | hnone
    · rw [h'.custody (.inl (h.trace _ hcreated)), h.custody (.inl hcreated)]
    · rw [h'.custody (.inr hnone), h.custody (.inr fun c hc => hnone c (h'.trace _ hc))]
  · obtain ⟨content, hcontent⟩ := h.secure file hfile
    exact h'.secure { file with content := content } hcontent
  · rcases h.lock hholder hlock with hdead | ⟨hholder', hlock'⟩
    · exact .inl (h'.dead hdead)
    · rw [← hlock'] at hlock ⊢
      exact h'.lock hholder' hlock

/-! ### Code on the files of the journal -/

theorem onFiles_bind {α β : Type} {call : ℕ} (p : FileOp α) (f : α → FileOp β) :
    onFiles call (p >>= f) = onFiles call p >>= fun a => onFiles call (f a) := by
  induction p with
  | ret a => rfl
  | raise e => rfl
  | atom u k ih =>
    refine congrArg (Procedure.atom _) (funext fun i => funext fun s => ?_)
    dsimp only
    split_ifs
    · rfl
    · exact ih _ _

theorem creation_of_ne_none {call : ℕ} {f f' : Files} (h : f.journal ≠ none) : creation call f f' = [] :=
  if_neg fun h' => h h'.1

section

variable [Platform] [Conversions]

/-- The last record of the journal has a binding and a state. -/
def Ends (journal : OperationJournal) (binding : OperationBinding) (state : DurableOperationState)
    (s : Files) : Prop :=
  ∃ records record, Written journal s (records ++ [record]) ∧ record.binding = binding ∧
    record.state = state

/-- The journal ends in the record that an operation of the context is completed. -/
def Completed (context : AdministrativeContext) (s : Files) (operationId : String) : Prop :=
  Ends context.journal (context.newOperationBinding operationId) .completed s

/-- The lock is released by an operation, and nobody holds it. -/
def Released (context : AdministrativeContext) (s : LocalState) (operationId : String) : Prop :=
  s.holder = none ∧ ∃ file timestamp, s.lock = some file ∧
    file.content = lockText context.journal.integrityKey operationId timestamp false ∧
    (file.content.length ≤ maxMetadataBytes →
      inspect context.journal.integrityKey context.lockPath s.lock s.held =
        ⟨.released, some operationId⟩)

/-! ### What a call does -/

/-- The events of a call, one after the other. -/
inductive Course (context : AdministrativeContext) (call : ℕ) (s : Files) :
    List BootstrapEvent → Prop
  | called : Course context call s []
  | created : Course context call s [.created call]
  | engaged {operationId : String} (h : Recorded s operationId .mutationIntentRecorded) :
    Course context call s [.created call, .engine call operationId]
  | returned {events : List BootstrapEvent} {result : BootstrapResult}
    (h : Course context call s events)
    (hcompleted : result.outcome = .completed → .created call ∈ events ∧
      ∃ operationId, result.operationId = some operationId ∧
        Completed context s operationId)
    (hreadOnly : result.outcome = .blockedReadOnlyMode → events = []) :
    Course context call s (events ++ [.returned call result])

/-- A call that did not create the journal does not depend on it. -/
theorem Course.of_not_created {context : AdministrativeContext} {call : ℕ} {s s' : Files}
    {events : List BootstrapEvent} (h : Course context call s events)
    (hnot : .created call ∉ events) : Course context call s' events := by
  induction h with
  | called => exact .called
  | created => exact absurd List.mem_cons_self hnot
  | engaged => exact absurd List.mem_cons_self hnot
  | returned _ hcompleted hreadOnly ih =>
    have hnot' := fun hmem => hnot (List.mem_append_left _ hmem)
    exact .returned (ih hnot') (fun h => absurd (hcompleted h).1 hnot') hreadOnly

/-- The shared invariant. -/
structure Invariant (contexts : ℕ → AdministrativeContext) (permit : Permit) (s : LocalState) :
    Prop where
  creator : ∀ c c', .created c ∈ s.trace → .created c' ∈ s.trace → c = c'
  journal : ∀ c, .created c ∈ s.trace → s.files.journal ≠ none
  course : ∀ c, Course (contexts c) c s.files (s.own c)
  settled : permit.Early → ∀ c result, .returned c result ∈ s.trace →
    result.outcome = .completed → ∃ operationId, result.operationId = some operationId ∧
      Released (contexts c) s operationId ∧ Kept s.custody

/-- A released lock stays released while nobody touches it. -/
theorem Released.congr {context : AdministrativeContext} {s s' : LocalState} {operationId : String}
    (h : Released context s operationId) (hlock : s'.lock = s.lock) (hholder : s'.holder = none) :
    Released context s' operationId := by
  obtain ⟨hnone, file, timestamp, hfile, hcontent, hinspect⟩ := h
  refine ⟨hholder, file, timestamp, hlock.trans hfile, hcontent, fun hlength => ?_⟩
  have hheld : s'.held = s.held := by
    rw [LocalState.held, LocalState.held, hholder, hnone]
    rfl
  rw [hlock, hheld]
  exact hinspect hlength

/-- What a step makes true when it calls the engine or returns a result. -/
structure Accounted (contexts : ℕ → AdministrativeContext) (s s' : LocalState) : Prop where
  engine : ∀ c operationId, .engine c operationId ∈ s'.trace → .engine c operationId ∈ s.trace ∨
    Recorded s.files operationId .mutationIntentRecorded
  completed : ∀ c result, .returned c result ∈ s'.trace → .returned c result ∈ s.trace ∨
    (result.outcome = .completed → ∃ operationId, result.operationId = some operationId ∧
      Completed (contexts c) s'.files operationId ∧ Released (contexts c) s' operationId)

/-- What a step of a call guarantees. -/
def Guarantees (contexts : ℕ → AdministrativeContext) (call : ℕ) (s s' : LocalState) : Prop :=
  (∀ c ≠ call, Respects c s s') ∧ Accounted contexts s s'

/-! ### Steps -/

variable {contexts : ℕ → AdministrativeContext} {permit : Permit} {call : ℕ} {s s' : LocalState}

/-- The context in which a call is verified. -/
def bootstrapContext (contexts : ℕ → AdministrativeContext) (permit : Permit) (call : ℕ) :
    Context LocalState BootstrapAnswers :=
  ⟨Invariant contexts permit, Respects call, Guarantees contexts call, permit⟩

omit [Platform] [Conversions] in
/-- Who is dead stays dead. -/
theorem dead_kill (victim : ℕ) {c : ℕ} (h : s.dead c = true) : (s.kill victim).dead c = true := by
  by_cases hc : c = victim
  · rw [hc]
    exact Function.update_self _ _ _
  · exact (Function.update_of_ne hc _ _).trans h

/-- A step of a call that records some events of its own, and touches the lock only if no other live
call holds it. -/
structure Advance (call : ℕ) (new : List BootstrapEvent) (s s' : LocalState) : Prop where
  trace : s'.trace = s.trace ++ new
  own : ∀ event ∈ new, event.call = call
  dead : ∀ c, s.dead c = true → s'.dead c = true
  secure : ∀ file, s.lock = some file → ∃ content, s'.lock = some { file with content := content }
  lock : ∀ c ≠ call, s.holder = some c → s.lock ≠ none →
    s'.dead c = true ∨ s'.holder = some c ∧ s'.lock = s.lock
  free : s.holder = none → s.lock ≠ none → s'.lock = s.lock

/-- The files of the journal, and the custody file, are left alone by all but the call that created
the journal, and by that one once it has returned. -/
structure Owned (call : ℕ) (new : List BootstrapEvent) (s s' : LocalState) : Prop where
  created : .created call ∈ new → ∀ c, .created c ∉ s.trace
  journal : s.files.journal ≠ none ∨ .created call ∈ new → s'.files.journal ≠ none
  files : s'.files = s.files ∨ .created call ∈ s.trace ++ new
  custody : s'.custody = s.custody ∨
    .created call ∈ s.trace ∧ ∀ result, .returned call result ∉ s.trace

section Advance

variable {new : List BootstrapEvent}

omit [Platform] [Conversions]

theorem Advance.own_self (h : Advance call new s s') : s'.own call = s.own call ++ new := by
  have hnew : new.filter (fun event => event.call = call) = new :=
    List.filter_eq_self.2 fun event hevent => decide_eq_true (h.own event hevent)
  rw [LocalState.own, h.trace, List.filter_append, hnew]
  rfl

theorem Advance.own_of_ne (h : Advance call new s s') {c : ℕ} (hc : c ≠ call) :
    s'.own c = s.own c := by
  have hnew : new.filter (fun event => event.call = c) = [] := by
    rw [List.filter_eq_nil_iff]
    intro event hevent heq
    exact hc ((of_decide_eq_true heq).symm.trans (h.own event hevent))
  rw [LocalState.own, h.trace, List.filter_append, hnew, List.append_nil]
  rfl

/-- Nothing is recorded and the lock is not touched. -/
theorem advance_of_eq (htrace : s'.trace = s.trace) (hlock : s'.lock = s.lock)
    (hholder : s'.holder = s.holder) (hdead : ∀ c, s.dead c = true → s'.dead c = true) :
    Advance call [] s s' := by
  refine ⟨by rw [htrace, List.append_nil], fun _ h => absurd h List.not_mem_nil, hdead, ?_, ?_,
    fun _ _ => hlock⟩
  · intro file hfile
    exact ⟨file.content, hlock.trans hfile⟩
  · intro c _ hc _
    exact .inr ⟨hholder.trans hc, hlock⟩

/-- A call records an event and does nothing else. -/
theorem advance_record {event : BootstrapEvent} (hevent : event.call = call) :
    Advance call [event] s (s.record event) := by
  refine ⟨rfl, fun event' hevent' => ?_, fun _ => id, fun file h => ⟨file.content, h⟩, ?_,
    fun _ _ => rfl⟩
  · rw [List.mem_singleton.1 hevent']
    exact hevent
  · exact fun c _ hc _ => .inr ⟨hc, rfl⟩

/-- The holder of the lock may do with it what it wants. -/
theorem advance_of_holder {file : File} (hholder : s.holder = some call)
    (hlock : s.lock = some file) (content : Bytes)
    (hlock' : s'.lock = some { file with content := content }) (htrace : s'.trace = s.trace ++ new)
    (hnew : ∀ event ∈ new, event.call = call) (hdead : ∀ c, s.dead c = true → s'.dead c = true) :
    Advance call new s s' := by
  refine ⟨htrace, hnew, hdead, fun other hother => ?_, fun c hc hholder' _ => ?_, fun hnone => ?_⟩
  · rw [hlock] at hother
    cases hother
    exact ⟨content, hlock'⟩
  · rw [hholder] at hholder'
    exact absurd (Option.some.inj hholder').symm hc
  · rw [hholder] at hnone
    cases hnone

theorem owned_of_event {event : BootstrapEvent} (hfiles : s'.files = s.files)
    (hcustody : s'.custody = s.custody) (hevent : event ≠ .created call) :
    Owned call [event] s s' := by
  have hnot : .created call ∉ [event] := fun h => hevent (List.mem_singleton.1 h).symm
  refine ⟨fun h => absurd h hnot, fun h => ?_, .inl hfiles, .inl hcustody⟩
  rw [hfiles]
  exact h.resolve_right hnot

theorem owned_of_eq (hfiles : s'.files = s.files)
    (hcustody : s'.custody = s.custody ∨
      .created call ∈ s.trace ∧ ∀ result, .returned call result ∉ s.trace) :
    Owned call [] s s' := by
  refine ⟨fun h => absurd h List.not_mem_nil, fun h => ?_, .inl hfiles, hcustody⟩
  rw [hfiles]
  exact h.resolve_right List.not_mem_nil

/-- No other call created the journal if the files change. -/
theorem Owned.not_created (h : Owned call new s s')
    (hcreator : ∀ c c', .created c ∈ s.trace → .created c' ∈ s.trace → c = c')
    (hne : s'.files ≠ s.files) {c : ℕ} (hc : c ≠ call) : .created c ∉ s.trace := by
  intro hmem
  rcases List.mem_append.1 (h.files.resolve_left hne) with hself | hself
  · exact hc (hcreator c call hmem hself)
  · exact h.created hself c hmem

end Advance

section Invariance

variable {new : List BootstrapEvent}

/-- What is to be shown of an event that is recorded. -/
def Justified (contexts : ℕ → AdministrativeContext) (s s' : LocalState) : BootstrapEvent → Prop
  | .created _ => True
  | .engine _ operationId => Recorded s.files operationId .mutationIntentRecorded
  | .returned c result => result.outcome = .completed →
      ∃ operationId, result.operationId = some operationId ∧
        Completed (contexts c) s'.files operationId ∧ Released (contexts c) s' operationId ∧
        Kept s'.custody

theorem Course.created_of_completed {context : AdministrativeContext} {f : Files}
    {events : List BootstrapEvent} (h : Course context call f events) {result : BootstrapResult}
    (hmem : .returned call result ∈ events) (hcompleted : result.outcome = .completed) :
    .created call ∈ events := by
  induction h with
  | called => exact absurd hmem List.not_mem_nil
  | created => exact List.mem_cons_self
  | engaged => exact List.mem_cons_self
  | @returned events last _ hlast _ ih =>
    rcases List.mem_append.1 hmem with hmem | hmem
    · exact List.mem_append_left _ (ih hmem)
    · rw [List.mem_singleton, BootstrapEvent.returned.injEq] at hmem
      rw [hmem.2] at hcompleted
      exact List.mem_append_left _ (hlast hcompleted).1

/-- The courses of all calls after a step. -/
theorem Advance.course (h : Advance call new s s') (hs : Invariant contexts permit s)
    (howned : Owned call new s s')
    (hcourse : Course (contexts call) call s'.files (s.own call ++ new)) (c : ℕ) :
    Course (contexts c) c s'.files (s'.own c) := by
  by_cases hc : c = call
  · subst hc
    rw [h.own_self]
    exact hcourse
  · rw [h.own_of_ne hc]
    by_cases hfiles : s'.files = s.files
    · rw [hfiles]
      exact hs.course c
    · refine (hs.course c).of_not_created fun hmem => ?_
      exact howned.not_created hs.creator hfiles hc (mem_own.1 hmem).1

/-- What completed calls left after a step. -/
theorem Advance.settled (h : Advance call new s s') (hs : Invariant contexts permit s)
    (howned : Owned call new s s') (hjustified : ∀ event ∈ new, Justified contexts s s' event)
    {i : BootstrapAnswers} (hi : permit i s s') (early : permit.Early) (c : ℕ)
    (result : BootstrapResult) (hmem : .returned c result ∈ s'.trace)
    (hcompleted : result.outcome = .completed) :
    ∃ operationId, result.operationId = some operationId ∧
      Released (contexts c) s' operationId ∧ Kept s'.custody := by
  rw [h.trace] at hmem
  rcases List.mem_append.1 hmem with hmem | hmem
  · obtain ⟨operationId, hid, hreleased, hkept⟩ := hs.settled early c result hmem hcompleted
    have hcreated : .created c ∈ s.trace := (mem_own.1
      ((hs.course c).created_of_completed (mem_own.2 ⟨hmem, rfl⟩) hcompleted)).1
    have hholder : s'.holder = none := by
      rcases early i s s' hi (hs.journal c hcreated) with hsame | hnone
      · exact hsame.trans hreleased.1
      · exact hnone
    have hlock : s'.lock = s.lock := by
      refine h.free hreleased.1 ?_
      obtain ⟨-, file, -, hfile, -⟩ := hreleased
      rw [hfile]
      exact nofun
    refine ⟨operationId, hid, hreleased.congr hlock hholder, ?_⟩
    rcases howned.custody with hsame | ⟨hself, hnot⟩
    · rw [hsame]
      exact hkept
    · -- the call that writes has not returned
      obtain rfl := hs.creator c call hcreated hself
      exact absurd hmem (hnot result)
  · obtain ⟨operationId, hid, -, hreleased, hkept⟩ := hjustified _ hmem hcompleted
    exact ⟨operationId, hid, hreleased, hkept⟩

theorem Advance.invariant (h : Advance call new s s') (hs : Invariant contexts permit s)
    (howned : Owned call new s s')
    (hcourse : Course (contexts call) call s'.files (s.own call ++ new))
    (hjustified : ∀ event ∈ new, Justified contexts s s' event) {i : BootstrapAnswers}
    (hi : permit i s s') : Invariant contexts permit s' := by
  have hnew : ∀ c, .created c ∈ new → c = call := fun c hc => h.own _ hc
  refine ⟨fun c c' hc hc' => ?_, fun c hc => ?_, h.course hs howned hcourse,
    h.settled hs howned hjustified hi⟩
  · rw [h.trace] at hc hc'
    rcases List.mem_append.1 hc with hc | hc <;> rcases List.mem_append.1 hc' with hc' | hc'
    · exact hs.creator c c' hc hc'
    · obtain rfl := hnew c' hc'
      exact absurd hc (howned.created hc' c)
    · obtain rfl := hnew c hc
      exact absurd hc' (howned.created hc c')
    · exact (hnew c hc).trans (hnew c' hc').symm
  · rw [h.trace] at hc
    rcases List.mem_append.1 hc with hc | hc
    · exact howned.journal (.inl (hs.journal c hc))
    · obtain rfl := hnew c hc
      exact howned.journal (.inr hc)

theorem Advance.guarantees (h : Advance call new s s') (hs : Invariant contexts permit s)
    (howned : Owned call new s s') (hjustified : ∀ event ∈ new, Justified contexts s s' event) :
    Guarantees contexts call s s' := by
  constructor
  · intro c hc
    refine ⟨fun event hevent => ?_, h.own_of_ne hc, h.dead c, fun hmem => ?_, fun hmem => ?_,
      h.secure, h.lock c hc⟩
    · rw [h.trace]
      exact List.mem_append_left _ hevent
    · by_contra hfiles
      exact howned.not_created hs.creator hfiles hc hmem
    · refine howned.custody.resolve_right fun hself => ?_
      rcases hmem with hmem | hnone
      · exact hc (hs.creator c call hmem hself.1)
      · refine hnone call ?_
        rw [h.trace]
        exact List.mem_append_left _ hself.1
  · constructor
    · intro c operationId hmem
      rw [h.trace] at hmem
      exact (List.mem_append.1 hmem).imp_right fun hmem => hjustified (.engine c operationId) hmem
    · intro c result hmem
      rw [h.trace] at hmem
      refine (List.mem_append.1 hmem).imp_right fun hmem hcompleted => ?_
      obtain ⟨operationId, hid, hcomplete, hreleased, -⟩ :=
        hjustified (.returned c result) hmem hcompleted
      exact ⟨operationId, hid, hcomplete, hreleased⟩

/-- A step that records nothing and leaves the files of the journal alone. -/
theorem Advance.unrecorded (h : Advance call [] s s') (hs : Invariant contexts permit s)
    (hfiles : s'.files = s.files)
    (hcustody : s'.custody = s.custody ∨
      .created call ∈ s.trace ∧ ∀ result, .returned call result ∉ s.trace)
    {i : BootstrapAnswers} (hi : permit i s s') :
    Invariant contexts permit s' ∧ Guarantees contexts call s s' := by
  have howned : Owned call [] s s' := owned_of_eq hfiles hcustody
  have hjustified : ∀ event ∈ ([] : List BootstrapEvent), Justified contexts s s' event :=
    fun _ h => absurd h List.not_mem_nil
  refine ⟨h.invariant hs howned ?_ hjustified hi, h.guarantees hs howned hjustified⟩
  rw [hfiles, List.append_nil]
  exact hs.course call

/-- Nothing happens. -/
theorem guarantees_refl (hs : Invariant contexts permit s) : Guarantees contexts call s s := by
  have hstep : Advance call [] s s := advance_of_eq rfl rfl rfl fun _ => id
  exact hstep.guarantees hs (owned_of_eq rfl (.inl rfl)) fun _ h => absurd h List.not_mem_nil

end Invariance

/-! ### Rules -/

/-- A step of a call whose process may have died. -/
theorem wp_step {α : Type} {f : BootstrapAnswers → LocalState → LocalState × Except Error α}
    {post : Except Error α → LocalState → Prop} (hkilled : ∀ s', post (.error killed) s')
    (h : ∀ s', Invariant contexts permit s' → Respects call s s' → s'.dead call = false → ∀ i,
      permit i s' (f i s').1 → Invariant contexts permit (f i s').1 ∧
        Guarantees contexts call s' (f i s').1 ∧ post (f i s').2 (f i s').1) :
    wp (bootstrapContext contexts permit call) (step call f) post s := by
  intro s' hs' hrely i hi
  dsimp only at hi ⊢
  cases hdead : s'.dead call with
  | true => exact ⟨hs', guarantees_refl hs', hkilled s'⟩
  | false =>
    simp only [hdead, Bool.false_eq_true, if_false] at hi ⊢
    obtain ⟨h₁, h₂, h₃⟩ := h s' hs' hrely hdead i hi
    rw [wp_ofExcept]
    exact ⟨h₁, h₂, h₃⟩

/-- A step that is not recorded, and leaves the files alone. -/
theorem wp_unrecorded {α : Type} {f : BootstrapAnswers → LocalState → LocalState × Except Error α}
    {post : Except Error α → LocalState → Prop} (hkilled : ∀ s', post (.error killed) s')
    (h : ∀ s', Respects call s s' → s'.dead call = false → ∀ i, (f i s').1.files = s'.files ∧
      ((f i s').1.custody = s'.custody ∨
        .created call ∈ s'.trace ∧ ∀ result, .returned call result ∉ s'.trace) ∧
      Advance call [] s' (f i s').1 ∧ post (f i s').2 (f i s').1) :
    wp (bootstrapContext contexts permit call) (step call f) post s := by
  refine wp_step hkilled fun s' hs' hrely hdead i hi => ?_
  obtain ⟨hfiles, hcustody, hstep, hpost⟩ := h s' hrely hdead i
  obtain ⟨h₁, h₂⟩ := hstep.unrecorded hs' hfiles hcustody hi
  exact ⟨h₁, h₂, hpost⟩

/-- A step that changes nothing. -/
theorem wp_observe {α : Type} {f : BootstrapAnswers → LocalState → Except Error α}
    {Q : α → LocalState → Prop} (h : ∀ s', Respects call s s' → ∀ i a, f i s' = .ok a → Q a s') :
    wp (bootstrapContext contexts permit call) (observe call f) (Returning Q) s := by
  refine wp_unrecorded (fun _ => trivial) fun s' hrely _ i =>
    ⟨rfl, .inl rfl, advance_of_eq rfl rfl rfl fun _ => id, ?_⟩
  cases hresult : f i s' with
  | ok a => exact h s' hrely i a hresult
  | error e => trivial

/-- A `try` block. -/
theorem wp_catching {α : Type} {p : BootstrapOp α} {Q : Except Error α → LocalState → Prop}
    (h : wp (bootstrapContext contexts permit call) p (fun r s => r ≠ .error killed → Q r s) s) :
    wp (bootstrapContext contexts permit call) (catching p) (Returning Q) s := by
  rw [catching, wp_bind, wp_attempt]
  refine wp_mono h fun r s hr => ?_
  rw [andThen_ok]
  cases r with
  | ok a => exact hr nofun
  | error e =>
    dsimp only
    split_ifs with he
    · trivial
    · exact hr fun heq => he (Except.error.inj heq)

end

end Administration
