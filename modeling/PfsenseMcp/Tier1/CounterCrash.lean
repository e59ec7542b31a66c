import PfsenseMcp.Concurrency.CutOff
import PfsenseMcp.Python.JsonRemainder
import PfsenseMcp.Tier1.CounterFile

/-!
# Crashes of the nonce counter

Counters are opened and asked for values one after another, and a crash may cut off any of these
calls. `_write` truncates the file in place before it writes, so that a crash leaves a part of the
new content. The closing brace is the last character of a content and stands nowhere else in it, and
no JSON object is read from a text without one. A file that was torn is therefore refused by every
counter, for good.

## Main results

* `decode_torn`: no counter reads a proper prefix of what a counter wrote;
* `crash_safe`: the values that are returned increase, and a torn file makes every later call raise
  `KeyMaterialError`.
-/

namespace Tier1

open Python Concurrency Procedure

/-! ### Prefixes of ASCII texts -/

/-- A text of ASCII characters is encoded character by character. -/
theorem encodeUtf8_ofList {cs : List Char} (h : ∀ c ∈ cs, c.toNat < 128) :
    Bytes.encodeUtf8 (String.ofList cs) = cs.map fun c => UInt8.ofNat c.toNat := by
  have hs : (String.ofList cs).toByteArray = cs.utf8Encode := by simp
  rw [Bytes.encodeUtf8, hs]
  clear hs
  induction cs with
  | nil => rfl
  | cons c cs ih =>
    rw [List.forall_mem_cons] at h
    have hval : c.val.toNat < 128 := h.1
    have hone : ([c] : List Char).utf8Encode.data.toList = [UInt8.ofNat c.toNat] := by
      rw [List.utf8Encode_singleton]
      simp only [String.utf8EncodeChar]
      rw [if_pos (Nat.le_of_lt_succ hval)]
      rfl
    rw [List.utf8Encode_cons, ByteArray.data_append, Array.toList_append, hone, ih h.2]
    rfl

/-- A prefix of an encoded ASCII text is an encoded prefix of the text. -/
theorem exists_take_of_prefix {cs : List Char} (h : ∀ c ∈ cs, c.toNat < 128) {part : Bytes}
    (hpart : part <+: Bytes.encodeUtf8 (String.ofList cs)) :
    part = Bytes.encodeUtf8 (String.ofList (cs.take part.length)) := by
  have htake : ∀ c ∈ cs.take part.length, c.toNat < 128 := fun c hc => h c (List.mem_of_mem_take hc)
  rw [encodeUtf8_ofList htake, List.map_take, ← encodeUtf8_ofList h]
  exact (List.prefix_iff_eq_take.mp hpart)

namespace NonceCounter

/-! ### Torn files -/

/-- The content that `_write` leaves. -/
def content (counter : NonceCounter) (value : ℕ) : Bytes := Bytes.encodeUtf8 (counter.text value)

/-- Something that a counter was to write breaks off before its end. -/
def Torn (raw : Bytes) : Prop :=
  ∃ (counter : NonceCounter) (value : ℕ), raw <+: counter.content value ∧
    raw ≠ counter.content value

variable (counter : NonceCounter)

/-- A value is read, or `KeyMaterialError` is raised. -/
theorem decode_cases (raw : Bytes) :
    (∃ n, counter.decode raw = .ok n) ∨ ∃ message, counter.decode raw = counter.refuse message := by
  unfold decode
  split_ifs
  · exact .inr ⟨_, rfl⟩
  split
  · exact .inr ⟨_, rfl⟩
  · split
    · split_ifs
      · exact .inl ⟨_, rfl⟩
      · exact .inr ⟨_, rfl⟩
    · exact .inr ⟨_, rfl⟩
  · exact .inr ⟨_, rfl⟩

/-- What is read is an object. -/
theorem exists_obj_of_decode {raw : Bytes} {n : ℕ} (h : counter.decode raw = .ok n) :
    ∃ text fields, Bytes.decodeUtf8 raw = some text ∧
      Json.loads (Bytes.strip text) = some (.obj fields) := by
  unfold decode at h
  split_ifs at h
  · cases h
  split at h
  · cases h
  · rename_i fields hparse
    simp only [Option.bind_eq_bind, Option.bind_eq_some_iff, Option.map_eq_some_iff] at hparse
    obtain ⟨_, ⟨text, htext, rfl⟩, hparse⟩ := hparse
    obtain ⟨value, hloads, hdict⟩ := Option.map_eq_some_iff.mp hparse
    -- Only an object becomes a dictionary.
    rcases value with - | b | n | t | t | items | loaded
    iterate 6 exact absurd hdict (by simp [Json.asDict])
    exact ⟨text, loaded, htext, hloads⟩
  · cases h

/-- The text of a value without its closing brace. -/
def openText (value : ℕ) : List Char :=
  '{' :: (Json.dumpString true "key_id" ++ ':' :: ' ' :: (Json.dumpString true counter.keyId ++
    ',' :: ' ' :: (Json.dumpString true "counter" ++ ':' :: ' ' :: Json.dumpNat value)))

theorem toList_text (value : ℕ) :
    (counter.text value).toList = counter.openText value ++ ['}'] := by
  simp [text, openText]

/-- The closing brace stands at the end of the text only. -/
theorem closing_notMem (value : ℕ) : '}' ∉ counter.openText value := by
  have hkey : '}' ∉ Json.dumpString true counter.keyId := by
    have hchars : '}' ∉ counter.keyId.toList := fun hmem =>
      absurd (bounds_of_isIdentifier counter.isIdentifier_keyId hmem).2.1 (by decide)
    rw [dumpString_of_plain fun d hd => escapeChar_of_isIdentifier counter.isIdentifier_keyId hd]
    simp [hchars]
  have hdigits : '}' ∉ Json.dumpNat value := fun hmem =>
    absurd (isDigit_of_mem_dumpNat hmem) (by decide)
  have hname : '}' ∉ Json.dumpString true "key_id" := by decide
  have hvalue : '}' ∉ Json.dumpString true "counter" := by decide
  simp [openText, hkey, hdigits, hname, hvalue]

theorem mem_of_mem_strip {text : String} {c : Char} (h : c ∈ (Bytes.strip text).toList) :
    c ∈ text.toList := by
  rw [Bytes.strip, String.toList_ofList, List.mem_reverse] at h
  have hleft := List.mem_reverse.mp ((List.dropWhile_suffix _).mem h)
  exact (List.dropWhile_suffix _).mem hleft

/-- No counter reads a proper prefix of what a counter wrote. -/
theorem decode_torn {raw : Bytes} (h : Torn raw) : ∃ message,
    counter.decode raw = counter.refuse message := by
  obtain ⟨writer, value, hpart, hne⟩ := h
  refine (counter.decode_cases raw).resolve_left ?_
  rintro ⟨n, hdecode⟩
  obtain ⟨text, fields, htext, hloads⟩ := counter.exists_obj_of_decode hdecode
  have hascii : ∀ c ∈ (writer.text value).toList, c.toNat < 128 :=
    fun c hc => writer.toNat_lt_of_mem_text hc
  rw [content, ← String.ofList_toList (s := writer.text value)] at hpart hne
  -- The prefix is shorter than the content, so the closing brace is not in it.
  have hlength : raw.length ≤ (writer.openText value).length := by
    have hle := hpart.length_le
    have hneLength : raw.length ≠
        (Bytes.encodeUtf8 (String.ofList (writer.text value).toList)).length :=
      fun heq => hne (hpart.eq_of_length heq)
    rw [length_encodeUtf8_ofList hascii, toList_text, List.length_append] at hle hneLength
    simp only [List.length_singleton] at hle hneLength
    omega
  have hraw := exists_take_of_prefix hascii hpart
  rw [toList_text, List.take_append_of_le_length hlength] at hraw
  rw [hraw, Bytes.decodeUtf8_encodeUtf8] at htext
  obtain rfl := Option.some.inj htext
  have hclosing := mem_of_mem_strip (Json.mem_of_loads_obj hloads)
  rw [String.toList_ofList] at hclosing
  exact writer.closing_notMem value (List.mem_of_mem_take hclosing)

/-- What a counter wrote is read as the value that was written, by whatever counter. -/
theorem eq_of_decode_content {writer : NonceCounter} {value n : ℕ}
    (h : counter.decode (writer.content value) = .ok n) : n = value := by
  rw [content, decode_written] at h
  split_ifs at h
  · cases h
  · exact (Except.ok.inj h).symm
  · cases h

/-- A part of what a counter wrote is read as the value that was written, or is not read. -/
theorem eq_of_decode_prefix {writer : NonceCounter} {value n : ℕ} {part : Bytes}
    (hpart : part <+: writer.content value) (h : counter.decode part = .ok n) : n = value := by
  by_cases hwhole : part = writer.content value
  · rw [hwhole] at h
    exact counter.eq_of_decode_content h
  · obtain ⟨message, hrefuse⟩ := counter.decode_torn ⟨writer, value, hpart, hwhole⟩
    rw [hrefuse] at h
    cases h

end NonceCounter

/-! ### Calls and crashes -/

/-- A call on a counter object. -/
inductive CounterCall where
  | construct
  | next

/-- The code of a call: the value that it returns, if it is one of `next()`. -/
def CounterCall.code (counter : NonceCounter) (call : ℕ) : CounterCall → CounterOp (Option ℕ)
  | construct => do
    counter.prepare call
    return none
  | next => do
    let value ← counter.next call
    return some value

/-- A crash during a write leaves a part of the content that was to be written. -/
def TornWrite (s s' crashed : CounterWorld) : Prop :=
  ∃ call value content part, s'.trace = s.trace ++ [.wrote call value] ∧ s'.file = some content ∧
    part <+: content ∧ crashed = { s with file := some part }

/-- How a call ended. -/
inductive CounterOutcome where
  /-- It returned or raised. -/
  | completed (result : Except Error (Option ℕ))
  /-- It was cut off. -/
  | crashed

/-- The value that a call returned. -/
def CounterOutcome.value : CounterOutcome → Option ℕ
  | completed (.ok value) => value
  | _ => none

/-- Calls one after another on one file, with their outcomes. -/
inductive CounterRun (start : CounterWorld) : List CounterOutcome → CounterWorld → Prop
  | start : CounterRun start [] start
  | completed {outcomes : List CounterOutcome} {s : CounterWorld} (h : CounterRun start outcomes s)
    (counter : NonceCounter) (op : CounterCall) (call : ℕ) :
    CounterRun start
      (outcomes ++ [.completed ((op.code counter call).run (fun _ => untroubled) s).result])
      ((op.code counter call).run (fun _ => untroubled) s).state
  | crashed {outcomes : List CounterOutcome} {s s' : CounterWorld}
    (h : CounterRun start outcomes s) (counter : NonceCounter) (op : CounterCall) (call : ℕ)
    (hcut : CutOff TornWrite untroubled (op.code counter call) s s') :
    CounterRun start (outcomes ++ [.crashed]) s'

/-! ### What a call does -/

section Call

variable (counter : NonceCounter) (call : ℕ) (trace : List CounterEvent)

/-- A counter is opened where no file is. -/
theorem run_construct_absent :
    (CounterCall.construct.code counter call).run (fun _ => untroubled) ⟨none, trace⟩ =
      ⟨.ok none, ⟨some (counter.content 0), trace ++ [.looked call, .wrote call 0]⟩,
        fun _ => untroubled⟩ := by
  simp [CounterCall.code, NonceCounter.prepare, NonceCounter.look, NonceCounter.write, untroubled,
    NonceCounter.content]

/-- A counter is opened on a file that it refuses or reads. -/
theorem run_construct_present (raw : Bytes) :
    (CounterCall.construct.code counter call).run (fun _ => untroubled) ⟨some raw, trace⟩ =
      ⟨(counter.decode raw).map fun _ => none,
        ⟨some raw, trace ++ [.looked call, .looked call]⟩, fun _ => untroubled⟩ := by
  rcases hdecode : counter.decode raw with e | n
  · simp [CounterCall.code, NonceCounter.prepare, NonceCounter.look, NonceCounter.read, untroubled,
      hdecode, Except.map]
  · simp [CounterCall.code, NonceCounter.prepare, NonceCounter.look, NonceCounter.read, untroubled,
      hdecode, Except.map]

/-- `next()` raises where no file is. -/
theorem run_next_absent : ∃ message,
    (CounterCall.next.code counter call).run (fun _ => untroubled) ⟨none, trace⟩ =
      ⟨counter.refuse message, ⟨none, trace ++ [.looked call]⟩, fun _ => untroubled⟩ := by
  refine ⟨"File could not be opened: ", ?_⟩
  simp [CounterCall.code, NonceCounter.next, NonceCounter.look, NonceCounter.read, untroubled,
    NonceCounter.refuse, fail]

/-- `next()` raises on a file that it refuses. -/
theorem run_next_refused {raw : Bytes} {e : Error} (h : counter.decode raw = .error e) :
    (CounterCall.next.code counter call).run (fun _ => untroubled) ⟨some raw, trace⟩ =
      ⟨.error e, ⟨some raw, trace ++ [.looked call]⟩, fun _ => untroubled⟩ := by
  simp [CounterCall.code, NonceCounter.next, NonceCounter.look, NonceCounter.read, untroubled, h]

/-- `next()` raises when the counter is exhausted. -/
theorem run_next_exhausted {raw : Bytes} {n : ℕ} (h : counter.decode raw = .ok n)
    (hn : ¬n < maxNonceCounter) : ∃ e,
    (CounterCall.next.code counter call).run (fun _ => untroubled) ⟨some raw, trace⟩ =
      ⟨.error e, ⟨some raw, trace ++ [.looked call]⟩, fun _ => untroubled⟩ := by
  refine ⟨⟨.other "KeyExhaustedError",
    "Key '" ++ counter.keyId ++ "' has exhausted its nonce counter."⟩, ?_⟩
  simp [CounterCall.code, NonceCounter.next, NonceCounter.look, NonceCounter.read,
    NonceCounter.advance, untroubled, h, demand, if_neg hn, fail]

/-- `next()` writes and returns the value after the one that it reads. -/
theorem run_next_advances {raw : Bytes} {n : ℕ} (h : counter.decode raw = .ok n)
    (hn : n < maxNonceCounter) :
    (CounterCall.next.code counter call).run (fun _ => untroubled) ⟨some raw, trace⟩ =
      ⟨.ok (some (n + 1)), ⟨some (counter.content (n + 1)),
        trace ++ [.looked call, .wrote call (n + 1), .returned call (n + 1)]⟩,
        fun _ => untroubled⟩ := by
  simp [CounterCall.code, NonceCounter.next, NonceCounter.look, NonceCounter.read,
    NonceCounter.advance, NonceCounter.write, NonceCounter.record, untroubled, h, demand, if_pos hn,
    NonceCounter.content]

end Call

/-- What a call that is not cut off does to the file, and the value that it returns: nothing, or a
new file is made, or the next value is written and returned. -/
theorem completed_cases (counter : NonceCounter) (op : CounterCall) (call : ℕ) (s : CounterWorld) :
    let ending := (op.code counter call).run (fun _ => untroubled) s
    let value := (CounterOutcome.completed ending.result).value
    (ending.state.file = s.file ∧ value = none) ∨
      (s.file = none ∧ ending.state.file = some (counter.content 0) ∧ value = none) ∨
      ∃ raw n, s.file = some raw ∧ counter.decode raw = .ok n ∧
        ending.state.file = some (counter.content (n + 1)) ∧ value = some (n + 1) := by
  obtain ⟨file, trace⟩ := s
  dsimp only
  rcases op with - | -
  · rcases file with - | raw
    · rw [run_construct_absent]
      exact .inr (.inl ⟨rfl, rfl, rfl⟩)
    · rw [run_construct_present]
      refine .inl ⟨rfl, ?_⟩
      rcases counter.decode raw with e | n <;> rfl
  · rcases file with - | raw
    · obtain ⟨message, hrun⟩ := run_next_absent counter call trace
      rw [hrun]
      exact .inl ⟨rfl, rfl⟩
    · rcases hdecode : counter.decode raw with e | n
      · rw [run_next_refused counter call trace hdecode]
        exact .inl ⟨rfl, rfl⟩
      · by_cases hn : n < maxNonceCounter
        · rw [run_next_advances counter call trace hdecode hn]
          exact .inr (.inr ⟨raw, n, rfl, hdecode, rfl, rfl⟩)
        · obtain ⟨e, hrun⟩ := run_next_exhausted counter call trace hdecode hn
          rw [hrun]
          exact .inl ⟨rfl, rfl⟩

/-! ### What a crash leaves -/

section Crash

variable {counter : NonceCounter} {call : ℕ} {s s' : CounterWorld}

theorem file_of_cutOff_look {α : Type} {f : Option Bytes → Except Error α}
    (h : CutOff TornWrite untroubled (NonceCounter.look call f) s s') : s'.file = s.file := by
  rw [NonceCounter.look, cutOff_atom] at h
  rcases h with rfl | ⟨call', value, content, part, htrace, -⟩ | h
  · rfl
  · exact absurd (List.append_cancel_left htrace) (by simp)
  · rw [cutOff_ofExcept.mp h]

/-- A write that is cut off leaves the file, or a part of the content. -/
theorem file_of_cutOff_write {value : ℕ}
    (h : CutOff TornWrite untroubled (counter.write call value) s s') :
    s'.file = s.file ∨ ∃ part, part <+: counter.content value ∧ s'.file = some part := by
  rw [NonceCounter.write, cutOff_atom] at h
  rcases h with rfl | ⟨call', value', content, part, -, hfile, hpart, rfl⟩ | h
  · exact .inl rfl
  · obtain rfl : counter.content value = content := Option.some.inj hfile
    exact .inr ⟨part, hpart, rfl⟩
  · obtain rfl := cutOff_ret.mp h
    exact .inr ⟨counter.content value, List.prefix_rfl, rfl⟩

theorem run_look {α : Type} (f : Option Bytes → Except Error α) :
    (NonceCounter.look call f).run (fun _ => untroubled) s =
      ⟨f s.file, { s with trace := s.trace ++ [.looked call] }, fun _ => untroubled⟩ := by
  show (ofExcept (f s.file) : CounterOp α).run _ _ = _
  rcases f s.file with e | a <;> rfl

theorem file_of_cutOff_read (h : CutOff TornWrite untroubled (counter.read call) s s') :
    s'.file = s.file := file_of_cutOff_look h

/-- A `next()` that is cut off leaves the file, or a part of the content for the next value. -/
theorem file_of_cutOff_next (h : CutOff TornWrite untroubled (counter.next call) s s') :
    s'.file = s.file ∨ ∃ raw n part, s.file = some raw ∧ counter.decode raw = .ok n ∧
      part <+: counter.content (n + 1) ∧ s'.file = some part := by
  rw [NonceCounter.next, cutOff_bind] at h
  rcases h with h | ⟨n, t, hrun, h⟩
  · exact .inl (file_of_cutOff_read h)
  rw [NonceCounter.read, run_look] at hrun
  obtain ⟨hread, rfl⟩ : _ ∧ _ = t := by simpa using hrun
  obtain ⟨raw, hraw, hdecode⟩ : ∃ raw, s.file = some raw ∧ counter.decode raw = .ok n := by
    rcases hfile : s.file with - | raw
    · rw [hfile] at hread
      cases hread
    · rw [hfile] at hread
      exact ⟨raw, rfl, hread⟩
  -- The value is below the limit, or the call raises.
  by_cases hn : n < maxNonceCounter
  · rw [NonceCounter.advance, demand_of hn, ofExcept_ok, ret_bind, cutOff_bind] at h
    rcases h with h | ⟨_, t, hrun, h⟩
    · rcases file_of_cutOff_write h with hfile | ⟨part, hpart, hfile⟩
      · exact .inl hfile
      · exact .inr ⟨raw, n, part, hraw, hdecode, hpart, hfile⟩
    · refine .inr ⟨raw, n, _, hraw, hdecode, List.prefix_rfl, ?_⟩
      unfold NonceCounter.write at hrun
      rw [run_atom] at hrun
      obtain rfl : _ = t := by simpa [untroubled] using hrun
      rw [pure_eq_ret, cutOff_map, NonceCounter.record, cutOff_atom] at h
      rcases h with rfl | ⟨call', value, content, part, htrace, hfile, hpart, rfl⟩ | h
      · rfl
      · exact absurd (List.append_cancel_left htrace) (by simp)
      · rw [cutOff_ret.mp h]
        rfl
  · rw [NonceCounter.advance, demand, if_neg hn, fail, ofExcept_error, raise_bind,
      cutOff_raise] at h
    rw [h]
    exact .inl rfl

/-- A construction that is cut off leaves the file, or a part of the content for 0 where no file
was. -/
theorem file_of_cutOff_prepare (h : CutOff TornWrite untroubled (counter.prepare call) s s') :
    s'.file = s.file ∨
      s.file = none ∧ ∃ part, part <+: counter.content 0 ∧ s'.file = some part := by
  rw [NonceCounter.prepare, cutOff_bind] at h
  rcases h with h | ⟨present, t, hrun, h⟩
  · exact .inl (file_of_cutOff_look h)
  rw [run_look] at hrun
  obtain ⟨hpresent, rfl⟩ : _ = present ∧ _ = t := by simpa using hrun
  rcases hfile : s.file with - | raw
  · rw [← hpresent, hfile] at h
    rcases file_of_cutOff_write h with hsame | hpart
    · exact .inl hsame
    · exact .inr ⟨rfl, hpart⟩
  · rw [← hpresent, hfile] at h
    have hread : CutOff TornWrite untroubled (counter.read call) _ s' := cutOff_map.mp h
    exact .inl (file_of_cutOff_read hread)

/-- What a call that is cut off does to the file: nothing, or it leaves a part of what it was to
write. -/
theorem crashed_cases {op : CounterCall}
    (h : CutOff TornWrite untroubled (op.code counter call) s s') :
    s'.file = s.file ∨
      (s.file = none ∧ ∃ part, part <+: counter.content 0 ∧ s'.file = some part) ∨
      ∃ raw n part, s.file = some raw ∧ counter.decode raw = .ok n ∧
        part <+: counter.content (n + 1) ∧ s'.file = some part := by
  rcases op with - | -
  · exact (file_of_cutOff_prepare (cutOff_map.mp h)).imp_right .inl
  · exact (file_of_cutOff_next (cutOff_map.mp h)).imp_right .inr

end Crash

/-! ### Runs -/

/-- The values that have been returned increase, and no counter reads a smaller one. -/
structure Increasing (values : List ℕ) (file : Option Bytes) : Prop where
  pairwise : values.Pairwise (· < ·)
  le_of_decode : ∀ (counter : NonceCounter) raw n, file = some raw → counter.decode raw = .ok n →
    ∀ v ∈ values, v ≤ n
  absent : file = none → values = []

/-- A part of a content that no returned value exceeds. -/
theorem Increasing.of_part {values : List ℕ} {writer : NonceCounter} {value : ℕ} {part : Bytes}
    (hvalues : values.Pairwise (· < ·)) (hle : ∀ v ∈ values, v ≤ value)
    (hpart : part <+: writer.content value) : Increasing values (some part) where
  pairwise := hvalues
  le_of_decode counter raw n hfile hdecode v hv := by
    obtain rfl := Option.some.inj hfile
    rw [counter.eq_of_decode_prefix hpart hdecode]
    exact hle v hv
  absent h := nomatch h

/-- The invariant of a run. -/
theorem CounterRun.increasing {start s : CounterWorld} {outcomes : List CounterOutcome}
    (h : CounterRun start outcomes s) :
    Increasing (outcomes.filterMap CounterOutcome.value) s.file := by
  induction h with
  | start => exact ⟨.nil, fun _ _ _ _ _ _ hv => (List.not_mem_nil hv).elim, fun _ => rfl⟩
  | @completed outcomes s _ counter op call ih =>
    have hcases := completed_cases counter op call s
    dsimp only at hcases
    rw [List.filterMap_append]
    rcases hcases with ⟨hfile, hvalue⟩ | ⟨hnone, hfile, hvalue⟩ |
      ⟨raw, n, hraw, hdecode, hfile, hvalue⟩
    · rw [hfile, List.filterMap_cons_none hvalue, List.filterMap_nil, List.append_nil]
      exact ih
    · rw [hfile, List.filterMap_cons_none hvalue, List.filterMap_nil, List.append_nil]
      rw [ih.absent hnone]
      exact .of_part .nil (fun _ hv => (List.not_mem_nil hv).elim) List.prefix_rfl
    · rw [hfile, List.filterMap_cons_some hvalue, List.filterMap_nil]
      have hle := ih.le_of_decode counter raw n hraw hdecode
      apply Increasing.of_part _ _ List.prefix_rfl
      · rw [List.pairwise_append]
        refine ⟨ih.pairwise, List.pairwise_singleton _ _, fun v hv w hw => ?_⟩
        rw [List.mem_singleton.mp hw]
        exact Nat.lt_succ_of_le (hle v hv)
      · intro v hv
        rcases List.mem_append.mp hv with hv | hv
        · exact (hle v hv).trans (Nat.le_succ n)
        · exact (List.mem_singleton.mp hv).le
  | crashed _ counter op call hcut ih =>
    have hnone : CounterOutcome.crashed.value = none := rfl
    rw [List.filterMap_append, List.filterMap_cons_none hnone, List.filterMap_nil, List.append_nil]
    rcases crashed_cases hcut with hfile | ⟨habsent, part, hpart, hfile⟩ |
      ⟨raw, n, part, hraw, hdecode, hpart, hfile⟩
    · rw [hfile]
      exact ih
    · rw [hfile, ih.absent habsent]
      exact .of_part .nil (fun _ hv => (List.not_mem_nil hv).elim) hpart
    · rw [hfile]
      exact .of_part ih.pairwise
        (fun v hv => (ih.le_of_decode counter raw n hraw hdecode v hv).trans (Nat.le_succ n)) hpart

/-- The call was cut off, or raised `KeyMaterialError`. -/
def CounterOutcome.Refused : CounterOutcome → Prop
  | completed (.error e) => e.cls = .other "KeyMaterialError"
  | completed (.ok _) => False
  | crashed => True

/-- A call on a torn file raises, and the file stays torn. -/
theorem refused_of_torn (counter : NonceCounter) (op : CounterCall) (call : ℕ) {s : CounterWorld}
    {raw : Bytes} (hfile : s.file = some raw) (h : NonceCounter.Torn raw) :
    let ending := (op.code counter call).run (fun _ => untroubled) s
    (CounterOutcome.completed ending.result).Refused ∧ ending.state.file = some raw := by
  obtain ⟨file, trace⟩ := s
  obtain rfl : file = some raw := hfile
  obtain ⟨message, hdecode⟩ := counter.decode_torn h
  dsimp only
  rcases op with - | -
  · rw [run_construct_present, hdecode]
    exact ⟨rfl, rfl⟩
  · rw [run_next_refused counter call trace hdecode]
    exact ⟨rfl, rfl⟩

/-- Every call after the file was torn raises, and the file stays torn. -/
theorem CounterRun.refused {s s' : CounterWorld} {outcomes : List CounterOutcome} {raw : Bytes}
    (hrun : CounterRun s outcomes s') (hfile : s.file = some raw) (h : NonceCounter.Torn raw) :
    (∀ outcome ∈ outcomes, outcome.Refused) ∧ s'.file = some raw := by
  induction hrun with
  | start => exact ⟨List.forall_mem_nil _, hfile⟩
  | completed _ counter op call ih =>
    obtain ⟨hoverall, hraw⟩ := ih
    obtain ⟨hrefused, hstay⟩ := refused_of_torn counter op call hraw h
    exact ⟨List.forall_mem_append.mpr ⟨hoverall, List.forall_mem_singleton.mpr hrefused⟩, hstay⟩
  | crashed _ counter op call hcut ih =>
    obtain ⟨hoverall, hraw⟩ := ih
    refine ⟨List.forall_mem_append.mpr ⟨hoverall, List.forall_mem_singleton.mpr trivial⟩, ?_⟩
    rcases crashed_cases hcut with hsame | ⟨hnone, -⟩ | ⟨raw', n, part, hraw', hdecode, -⟩
    · exact hsame.trans hraw
    · rw [hnone] at hraw
      cases hraw
    · obtain rfl : raw' = raw := Option.some.inj (hraw'.symm.trans hraw)
      obtain ⟨message, hrefuse⟩ := counter.decode_torn h
      rw [hrefuse] at hdecode
      cases hdecode

/-- Whatever calls are made one after another, and wherever crashes cut them off, every value that
`next()` returns is greater than those before it; and once the file breaks off inside of what was to
be written, every later call raises `KeyMaterialError`. -/
theorem crash_safe {start s : CounterWorld} {outcomes : List CounterOutcome}
    (h : CounterRun start outcomes s) :
    (outcomes.filterMap CounterOutcome.value).Pairwise (· < ·) ∧
      ∀ raw, s.file = some raw → NonceCounter.Torn raw → ∀ later s', CounterRun s later s' →
        (∀ outcome ∈ later, outcome.Refused) ∧ s'.file = some raw :=
  ⟨h.increasing.pairwise, fun _ hfile htorn _ _ hlater => hlater.refused hfile htorn⟩

/-- A counter is opened and returns 1, and a crash then leaves an empty file. -/
theorem crash_safe_sample : ∃ s,
    CounterRun {} [.completed (.ok none), .completed (.ok (some 1)), .crashed] s ∧
      s.file = some [] ∧ NonceCounter.Torn [] ∧
      [.completed (.ok none), .completed (.ok (some 1)), .crashed].filterMap
        CounterOutcome.value = [1] ∧
      ∀ later s', CounterRun s later s' →
        (∀ outcome ∈ later, outcome.Refused) ∧ s'.file = some [] := by
  have hdecode : ∀ value < 10, sampleCounter.decode (sampleCounter.content value) = .ok value :=
    fun _ => decode_sample
  have hopened := CounterRun.completed (.start : CounterRun {} [] _) sampleCounter .construct 0
  rw [run_construct_absent] at hopened
  have hfirst := CounterRun.completed hopened sampleCounter .next 1
  dsimp only at hfirst
  rw [run_next_advances sampleCounter 1 _ (hdecode 0 (by decide)) (by decide)] at hfirst
  have htorn : NonceCounter.Torn [] := by
    refine ⟨sampleCounter, 2, List.nil_prefix, fun hempty => ?_⟩
    have hread := hdecode 2 (by decide)
    rw [← hempty] at hread
    exact absurd hread (by decide +kernel)
  -- The write of 2 is torn before its first byte.
  have hcut : ∀ trace, CutOff TornWrite untroubled (CounterCall.next.code sampleCounter 2)
      ⟨some (sampleCounter.content 1), trace⟩ ⟨some [], trace ++ [.looked 2]⟩ := by
    intro trace
    apply cutOff_map.mpr
    apply cutOff_bind.mpr
    refine .inr ⟨1, ⟨some (sampleCounter.content 1), trace ++ [.looked 2]⟩, ?_, ?_⟩
    · rw [NonceCounter.read, run_look]
      dsimp only
      rw [hdecode 1 (by decide)]
    · rw [NonceCounter.advance, demand_of (by decide), ofExcept_ok, ret_bind]
      apply cutOff_bind.mpr
      exact .inl (.during ⟨2, 2, sampleCounter.content 2, [], rfl, rfl, List.nil_prefix, rfl⟩)
  have hrun := CounterRun.crashed hfirst sampleCounter .next 2 (hcut _)
  exact ⟨_, hrun, rfl, htorn, rfl, (crash_safe hrun).2 [] rfl htorn⟩

end Tier1
