import Mathlib.Data.List.Nodup
import Mathlib.Data.List.Range
import Mathlib.Data.Nat.Notation
import PfsenseMcp.Concurrency.Pool
import PfsenseMcp.Python.Json
import PfsenseMcp.Tier1.Canonical

/-!
# The nonce counter

`NonceCounter` of `tier1/key_lifecycle.py` and `build_nonce` of `tier1/crypto.py`. Any number of
counter objects share one file. A call of `next()` takes two steps on it, a reading and a writing,
and the steps of different calls may interleave.

Opening a counter looks whether the file exists, and writes 0 if it does not.

## Main results

* `nodup_of_reachable`: in a run in which no call writes after another call has written since it
  looked, no value is returned twice and no nonce is used twice;
* `not_nodup_sample`: two calls that interleave return the same value.
-/

namespace Tier1

open Python Concurrency Procedure

/-- `MAX_NONCE_COUNTER`. -/
def maxNonceCounter : ℕ := 2 ^ 32

/-- `_COUNTER_FILE_MAX_BYTES`. -/
def counterFileMaxBytes : ℕ := 64

/-! ### The file and its events -/

/-- An observable step of a run of calls on one counter file. -/
inductive CounterEvent where
  /-- A call looked at the file. -/
  | looked (call : ℕ)
  /-- A call wrote a value. -/
  | wrote (call value : ℕ)
  /-- A call failed to write, and left the file empty. -/
  | truncated (call : ℕ)
  /-- A call of `next()` returned a value. -/
  | returned (call value : ℕ)
  /-- A call encrypted an artifact with a nonce. -/
  | encrypted (call : ℕ) (nonce : Bytes)

namespace CounterEvent

/-- The call that made an event. -/
def call : CounterEvent → ℕ
  | looked call | wrote call _ | truncated call | returned call _ | encrypted call _ => call

/-- The event changed the file. -/
def Modifies : CounterEvent → Prop
  | wrote _ _ | truncated _ => True
  | _ => False

/-- The value that an event wrote. -/
def written : CounterEvent → Option ℕ
  | wrote _ value => some value
  | _ => none

/-- The value that an event returned. -/
def result : CounterEvent → Option ℕ
  | returned _ value => some value
  | _ => none

/-- The nonce that an event used. -/
def nonce : CounterEvent → Option Bytes
  | encrypted _ nonce => some nonce
  | _ => none

end CounterEvent

/-- The file, and what has happened so far. -/
structure CounterWorld where
  file : Option Bytes := none
  trace : List CounterEvent := []

/-- What the operating system does in one step. -/
structure FileAnswer where
  /-- The exception it raises. -/
  failure : Option Error
  /-- Whether a failed write has truncated the file before. -/
  truncated : Bool

/-- Code that runs on the file. -/
abbrev CounterOp (α : Type) := Procedure CounterWorld FileAnswer Error α

/-! ### The counter -/

/-- `NonceCounter`: all objects on one file with one key identifier are alike. -/
structure NonceCounter where
  path : String
  keyId : String
  isIdentifier_keyId : isIdentifier keyId = true

namespace NonceCounter

variable (counter : NonceCounter)

/-- `KeyMaterialError`, with the path in its message. -/
def refuse {α : Type} (message : String) : Except Error α :=
  fail (.other "KeyMaterialError") (message ++ counter.path)

/-- The text that `_write` writes, `json.dumps` of the key identifier and the value. -/
def text (value : ℕ) : String :=
  String.ofList ('{' :: (Json.dumpString true "key_id" ++ ':' :: ' ' ::
    (Json.dumpString true counter.keyId ++ ',' :: ' ' :: (Json.dumpString true "counter" ++
      ':' :: ' ' :: (Json.dumpNat value ++ ['}'])))))

/-- The checks of `_read` on the content of the file. -/
def decode (raw : Bytes) : Except Error ℕ :=
  if counterFileMaxBytes < raw.length then
    counter.refuse "File exceeds the maximum allowed size: "
  else
    match (Bytes.decodeUtf8 raw).map Bytes.strip >>= Json.parse with
    | none => counter.refuse "Nonce counter file is corrupted: "
    | some (.obj fields) =>
      match fields.lookup "key_id", fields.lookup "counter", fields.length with
      | some (.str keyId), some (.int value), 2 =>
        if keyId = counter.keyId ∧ 0 ≤ value then .ok value.toNat
        else counter.refuse "Nonce counter file does not match this key: "
      | _, _, _ => counter.refuse "Nonce counter file does not match this key: "
    | some _ => counter.refuse "Nonce counter file does not match this key: "

/-- A look at the file. -/
def look {α : Type} (call : ℕ) (f : Option Bytes → Except Error α) : CounterOp α :=
  .atom (fun _ s => { s with trace := s.trace ++ [.looked call] }) fun i s =>
    .ofExcept (match i.failure with
      | some e => .error e
      | none => f s.file)

/-- `_read`. -/
def read (call : ℕ) : CounterOp ℕ :=
  look call fun file => match file with
    | none => counter.refuse "File could not be opened: "
    | some raw => counter.decode raw

/-- `_write`. -/
def write (call value : ℕ) : CounterOp Unit :=
  .atom (fun i s => match i.failure, i.truncated with
    | none, _ => ⟨some (Bytes.encodeUtf8 (counter.text value)), s.trace ++ [.wrote call value]⟩
    | some _, true => ⟨some [], s.trace ++ [.truncated call]⟩
    | some _, false => s) fun i _ => match i.failure with
      | none => .ret ()
      | some e => .raise e

/-- An observation that leaves the file alone. -/
def record (event : CounterEvent) : CounterOp Unit :=
  .atom (fun _ s => { s with trace := s.trace ++ [event] }) fun _ _ => .ret ()

/-- `__init__` with `_prepare`. -/
def prepare (call : ℕ) : CounterOp Unit := do
  let present ← look call fun file => .ok file.isSome
  match present with
  | false => counter.write call 0
  | true => do
    let _ ← counter.read call
    pure ()

/-- What `next` does with the value it has read. -/
def advance (call current : ℕ) : CounterOp ℕ := do
  .ofExcept (demand (current < maxNonceCounter) (.other "KeyExhaustedError")
    ("Key '" ++ counter.keyId ++ "' has exhausted its nonce counter."))
  counter.write call (current + 1)
  record (.returned call (current + 1))
  return current + 1

/-- `next`. -/
def next (call : ℕ) : CounterOp ℕ := do
  let current ← counter.read call
  counter.advance call current

end NonceCounter

/-- `build_nonce`. -/
def buildNonce (epoch counter : ℕ) : Except Error Bytes := do
  demand (epoch < 2 ^ 32) .artifactDecryption "Nonce epoch is invalid."
  demand (counter < 2 ^ 64) .artifactDecryption "Nonce counter is invalid."
  .ok (Bytes.bigEndian 4 epoch ++ Bytes.bigEndian 8 counter)

/-- `_encrypt` of an execution core, under a key record with the given epoch, as far as it chooses
the nonce that it hands to `encrypt_artifact`. -/
def encryptWithFreshNonce (counter : NonceCounter) (epoch call : ℕ) : CounterOp Unit := do
  let value ← counter.next call
  let nonce ← .ofExcept (buildNonce epoch value)
  NonceCounter.record (.encrypted call nonce)

/-- What a call may do. -/
inductive CounterOperation where
  | prepare
  | next
  | encrypt

/-- The code of a call. -/
def CounterOperation.code (counter : NonceCounter) (epoch call : ℕ) :
    CounterOperation → CounterOp Unit
  | prepare => counter.prepare call
  | next => do
    let _ ← counter.next call
    pure ()
  | encrypt => encryptWithFreshNonce counter epoch call

/-- The runs of calls on one counter file that is not there yet. -/
def counterSystem (counter : NonceCounter) (epoch : ℕ) (ops : ℕ → CounterOperation)
    (permit : FileAnswer → CounterWorld → CounterWorld → Prop) :
    System CounterWorld FileAnswer Error where
  init s := s = {}
  program call p := p = (ops call).code counter epoch call
  permit := permit

/-- No other call has changed the file since this one looked at it. -/
def Undisturbed (call : ℕ) (trace : List CounterEvent) : Prop :=
  ∀ past rest, trace = past ++ .looked call :: rest → ∀ e ∈ rest, e.Modifies → e.call = call

/-- A step that changes the file is made by a call that is not disturbed. -/
def Exclusive (s s' : CounterWorld) : Prop :=
  ∀ e, s'.trace = s.trace ++ [e] → e.Modifies → Undisturbed e.call s.trace

/-! ### Reading back -/

section Spaced

variable {k : String} {v : Json} (hv : Json.plain v = true) {r : List Char} {n : ℕ}

include hv

theorem skipSpace_space_dumpValue : Json.skipSpace (' ' :: (Json.dumpValue true v ++ r)) =
    Json.dumpValue true v ++ r :=
  Json.skipSpace_dumpValue true hv r

/-- The last field of an object that is written with a space after its colon. -/
theorem readFields_spaced_last
    (hn : 2 * (Json.dumpString true k ++ ':' :: ' ' :: (Json.dumpValue true v ++ '}' :: r)).length ≤
      n) :
    Json.readFields (n + 1)
        (Json.dumpString true k ++ ':' :: ' ' :: (Json.dumpValue true v ++ '}' :: r)) =
      some ([(k, v)], r) := by
  have hkey := Json.readChars_dumpChars true k.toList
    (':' :: ' ' :: (Json.dumpValue true v ++ '}' :: r)) (n := n) (by
      simp [Json.dumpString] at hn ⊢; omega)
  have hvalue := Json.readValue_dumpValue true v hv ('}' :: r) (by simp [Json.Ends]) n
    (by simp at hn ⊢; omega)
  rw [Json.dumpString, List.cons_append, Json.readFields, hkey]
  simp only [Option.bind_eq_bind, Option.bind_some, Json.skipSpace_cons (c := ':') rfl,
    skipSpace_space_dumpValue hv, hvalue, String.ofList_toList]
  rw [Json.skipSpace_cons rfl]
  rfl

/-- A field of an object that is written with spaces after its colon and its comma. -/
theorem readFields_spaced_cons {fs : List (String × Json)} {r' : List Char} (hr : Json.skipSpace r = r)
    (hn : 2 * (Json.dumpString true k ++ ':' :: ' ' ::
      (Json.dumpValue true v ++ ',' :: ' ' :: r)).length ≤ n)
    (hrest : Json.readFields n r = some (fs, r')) :
    Json.readFields (n + 1)
        (Json.dumpString true k ++ ':' :: ' ' :: (Json.dumpValue true v ++ ',' :: ' ' :: r)) =
      some ((k, v) :: fs, r') := by
  have hkey := Json.readChars_dumpChars true k.toList
    (':' :: ' ' :: (Json.dumpValue true v ++ ',' :: ' ' :: r)) (n := n) (by
      simp [Json.dumpString] at hn ⊢; omega)
  have hvalue := Json.readValue_dumpValue true v hv (',' :: ' ' :: r) (by simp [Json.Ends]) n
    (by simp at hn ⊢; omega)
  have hspace : Json.skipSpace (' ' :: r) = r := hr
  rw [Json.dumpString, List.cons_append, Json.readFields, hkey]
  simp only [Option.bind_eq_bind, Option.bind_some, Json.skipSpace_cons (c := ':') rfl,
    skipSpace_space_dumpValue hv, hvalue, String.ofList_toList]
  rw [Json.skipSpace_cons rfl]
  change ((Json.readFields n (Json.skipSpace (' ' :: r))).bind fun a =>
    pure ((k, v) :: a.1, a.2)) = _
  rw [hspace, hrest]
  rfl

end Spaced

/-- The text of an object whose fields can be read. -/
theorem loads_of_readFields {r : List Char} {fs : List (String × Json)}
    (h : Json.readFields (2 * ('"' :: r).length + 2) ('"' :: r) = some (fs, [])) :
    Json.loads (String.ofList ('{' :: '"' :: r)) = some (.obj fs) := by
  have hvalue : Json.readValue (2 * ('"' :: r).length + 2 + 1) ('{' :: '"' :: r) =
      some (.obj fs, []) := by
    rw [Json.readValue, if_neg (by decide), if_pos rfl, Json.skipSpace_cons rfl]
    change ((Json.readFields (2 * ('"' :: r).length + 2) ('"' :: r)).bind fun x =>
      pure (Json.obj x.1, x.2)) = _
    rw [h]
    rfl
  rw [Json.loads, String.toList_ofList, Json.skipSpace_cons rfl]
  have hlength : 2 * ('{' :: '"' :: r).length + 1 = 2 * ('"' :: r).length + 2 + 1 := by
    simp only [List.length_cons]
    omega
  dsimp only
  rw [hlength, hvalue]
  rfl

namespace NonceCounter

variable (counter : NonceCounter)

/-- The text of a value is read back as the two fields it was written from. -/
theorem loads_text (value : ℕ) : Json.loads (counter.text value) =
    some (.obj [("key_id", .str counter.keyId), ("counter", .int value)]) := by
  have hfields : ∀ n, 2 * (Json.dumpString true "key_id" ++ ':' :: ' ' ::
      (Json.dumpValue true (.str counter.keyId) ++ ',' :: ' ' :: (Json.dumpString true "counter" ++
        ':' :: ' ' :: (Json.dumpValue true (.int value) ++ ['}'])))).length ≤ n →
      Json.readFields (n + 1) (Json.dumpString true "key_id" ++ ':' :: ' ' ::
        (Json.dumpValue true (.str counter.keyId) ++ ',' :: ' ' :: (Json.dumpString true "counter" ++
          ':' :: ' ' :: (Json.dumpValue true (.int value) ++ ['}'])))) =
        some ([("key_id", .str counter.keyId), ("counter", .int value)], []) := by
    intro n hn
    obtain ⟨m, rfl⟩ : ∃ m, n = m + 1 := ⟨n - 1, by simp [Json.dumpString] at hn; omega⟩
    refine readFields_spaced_cons rfl rfl hn (readFields_spaced_last rfl ?_)
    simp at hn ⊢
    omega
  exact loads_of_readFields (hfields _ (Nat.le_succ _))

/-- The text of a value is parsed as the object it was written from. -/
theorem parse_text (value : ℕ) : Json.parse (Bytes.strip (counter.text value)) =
    some (.obj [("key_id", .str counter.keyId), ("counter", .int value)]) := by
  have hstrip : Bytes.strip (counter.text value) = counter.text value := by
    have htext : counter.text value = String.ofList ('{' :: ((Json.dumpString true "key_id" ++
        ':' :: ' ' :: (Json.dumpString true counter.keyId ++ ',' :: ' ' ::
          (Json.dumpString true "counter" ++ ':' :: ' ' :: Json.dumpNat value))) ++ ['}'])) := by
      simp [text]
    rw [htext]
    exact Bytes.strip_of_ends (by decide) (by decide)
  rw [hstrip, Json.parse, loads_text]
  rfl

/-- What a counter reads from the content that a counter wrote for a value. -/
theorem decode_written (writer : NonceCounter) (value : ℕ) :
    counter.decode (Bytes.encodeUtf8 (writer.text value)) =
      if counterFileMaxBytes < (Bytes.encodeUtf8 (writer.text value)).length then
        counter.refuse "File exceeds the maximum allowed size: "
      else if writer.keyId = counter.keyId then .ok value
      else counter.refuse "Nonce counter file does not match this key: " := by
  unfold decode
  split_ifs with hsize hkey
  · rfl
  all_goals
    have hname : List.lookup "key_id" [("key_id", Json.str writer.keyId),
        ("counter", Json.int value)] = some (.str writer.keyId) := by simp
    have hvalue : List.lookup "counter" [("key_id", Json.str writer.keyId),
        ("counter", Json.int value)] = some (.int value) := by simp [List.lookup_cons]
    rw [Bytes.decodeUtf8_encodeUtf8, Option.map_some, Option.bind_eq_bind, Option.bind_some,
      parse_text]
    dsimp only
    rw [hname, hvalue]
  · exact if_pos ⟨hkey, Int.natCast_nonneg value⟩
  · exact if_neg fun h => hkey h.1

/-- The content that was written for a value is read as that value, if it is short enough. -/
theorem decode_text (value : ℕ) : counter.decode (Bytes.encodeUtf8 (counter.text value)) =
    if counterFileMaxBytes < (Bytes.encodeUtf8 (counter.text value)).length then
      counter.refuse "File exceeds the maximum allowed size: "
    else .ok value := by
  rw [decode_written, if_pos rfl]

theorem eq_of_decode_text {value n : ℕ}
    (h : counter.decode (Bytes.encodeUtf8 (counter.text value)) = .ok n) : n = value := by
  rw [decode_text] at h
  split_ifs at h
  · cases h
  · exact (Except.ok.inj h).symm

end NonceCounter

/-! ### What the calls keep -/

/-- The events of one call. -/
def ownEvents (call : ℕ) (trace : List CounterEvent) : List CounterEvent :=
  trace.filter fun e => e.call = call

/-- The values that have been written, the oldest first. -/
def writtenValues (trace : List CounterEvent) : List ℕ := trace.filterMap CounterEvent.written

/-- The values that have been returned by calls of `next()`. -/
def returnedValues (trace : List CounterEvent) : List ℕ := trace.filterMap CounterEvent.result

/-- The nonces that have been used. -/
def usedNonces (trace : List CounterEvent) : List Bytes := trace.filterMap CounterEvent.nonce

/-- Nothing has been issued twice. -/
structure Issued (epoch : ℕ) (trace : List CounterEvent) : Prop where
  returned : (returnedValues trace).Nodup
  /-- A call returns what it has written. -/
  written_of_returned : ∀ {c v}, .returned c v ∈ trace → .wrote c v ∈ trace
  used : (usedNonces trace).Nodup
  /-- A call uses the nonce of what has been returned to it. -/
  returned_of_used : ∀ {c nonce}, .encrypted c nonce ∈ trace →
    ∃ v, .returned c v ∈ trace ∧ buildNonce epoch v = .ok nonce

/-- The invariant of the runs in which nothing is disturbed: the values are written one after the
other, and the file holds the last of them, or nothing that can be read. -/
structure Counting (counter : NonceCounter) (epoch : ℕ) (s : CounterWorld) : Prop where
  consecutive : ∃ n, writtenValues s.trace = List.range n
  absent : s.file = none → writtenValues s.trace = []
  current : ∀ raw n, s.file = some raw → counter.decode raw = .ok n →
    writtenValues s.trace = List.range (n + 1)
  issued : Issued epoch s.trace

/-- Two entries of a log with one image that occurs once are the same entry. -/
theorem eq_of_nodup_filterMap {α β : Type} {f : α → Option β} {l : List α}
    (h : (l.filterMap f).Nodup) {x y : α} {b : β} (hx : x ∈ l) (hy : y ∈ l) (hfx : f x = some b)
    (hfy : f y = some b) : x = y := by
  induction l with
  | nil => cases hx
  | cons a l ih =>
    have hmem : ∀ {z}, z ∈ l → f z = some b → b ∈ l.filterMap f :=
      fun hz hfz => List.mem_filterMap.mpr ⟨_, hz, hfz⟩
    rw [List.mem_cons] at hx hy
    rcases hx with rfl | hx <;> rcases hy with rfl | hy
    · rfl
    · rw [List.filterMap_cons_some hfx, List.nodup_cons] at h
      exact absurd (hmem hy hfy) h.1
    · rw [List.filterMap_cons_some hfy, List.nodup_cons] at h
      exact absurd (hmem hx hfx) h.1
    · refine ih ?_ hx hy
      cases ha : f a with
      | none => rwa [List.filterMap_cons_none ha] at h
      | some c => exact (List.nodup_cons.mp (by rwa [List.filterMap_cons_some ha] at h)).2

section Calls

variable {counter : NonceCounter} {epoch : ℕ}

/-- What the other calls may do between two steps of a call: append events of their own. -/
def OthersAppend (call : ℕ) (s s' : CounterWorld) : Prop :=
  ∃ events, s'.trace = s.trace ++ events ∧ ∀ e ∈ events, e.call ≠ call

/-- What a call may do in one step: nothing, or append one event of its own. -/
def Appends (call : ℕ) (s s' : CounterWorld) : Prop :=
  s' = s ∨ ∃ e, e.call = call ∧ s'.trace = s.trace ++ [e]

theorem ownEvents_append (call : ℕ) (trace rest : List CounterEvent) :
    ownEvents call (trace ++ rest) = ownEvents call trace ++ ownEvents call rest :=
  List.filter_append ..

theorem OthersAppend.own {call : ℕ} {s s' : CounterWorld} (h : OthersAppend call s s') :
    ownEvents call s'.trace = ownEvents call s.trace := by
  obtain ⟨events, htrace, hevents⟩ := h
  have hnil : ownEvents call events = [] := by
    rw [ownEvents, List.filter_eq_nil_iff]
    intro e he
    simpa using hevents e he
  rw [htrace, ownEvents_append, hnil, List.append_nil]

/-- The context in which a call is verified. -/
def counterContext (counter : NonceCounter) (epoch call : ℕ) :
    Context CounterWorld FileAnswer where
  inv := Counting counter epoch
  rely := OthersAppend call
  guar := Appends call
  permit _ := Exclusive

/-- A call has looked at the file when `n` values had been written, and has done nothing since. -/
structure Seen (call n : ℕ) (s : CounterWorld) : Prop where
  own : ownEvents call s.trace = [.looked call]
  past : ∃ past rest, s.trace = past ++ .looked call :: rest ∧ (∀ e ∈ rest, e.call ≠ call) ∧
    writtenValues past = List.range n

theorem Seen.of_rely {call n : ℕ} {s s' : CounterWorld} (h : Seen call n s)
    (hrely : OthersAppend call s s') : Seen call n s' := by
  refine ⟨hrely.own.trans h.own, ?_⟩
  obtain ⟨events, htrace, hevents⟩ := hrely
  obtain ⟨past, rest, hs, hrest, hpast⟩ := h.past
  refine ⟨past, rest ++ events, by rw [htrace, hs]; simp, fun e he => ?_, hpast⟩
  rcases List.mem_append.mp he with he | he
  · exact hrest e he
  · exact hevents e he

/-- If nothing is disturbed, what a call has seen is still so. -/
theorem Seen.written {call n : ℕ} {s : CounterWorld} (h : Seen call n s)
    (hfree : Undisturbed call s.trace) : writtenValues s.trace = List.range n := by
  obtain ⟨past, rest, hs, hown, hpast⟩ := h.past
  have hrest : writtenValues rest = [] := by
    rw [writtenValues, List.filterMap_eq_nil_iff]
    intro e he
    cases e with
    | wrote c v => exact absurd (hfree past rest hs _ he trivial) (hown _ he)
    | _ => rfl
  rw [hs, writtenValues, List.filterMap_append, List.filterMap_cons_none rfl]
  rw [writtenValues] at hpast hrest
  rw [hpast, hrest, List.append_nil]

/-! One step at a time: the invariant, and what the call then knows. -/

theorem filterMap_append_none {α β : Type} {f : α → Option β} {a : α} (l : List α)
    (h : f a = none) : (l ++ [a]).filterMap f = l.filterMap f := by
  rw [List.filterMap_append, List.filterMap_cons_none h, List.filterMap_nil, List.append_nil]

theorem filterMap_append_some {α β : Type} {f : α → Option β} {a : α} {b : β} (l : List α)
    (h : f a = some b) : (l ++ [a]).filterMap f = l.filterMap f ++ [b] := by
  rw [List.filterMap_append, List.filterMap_cons_some h, List.filterMap_nil]

/-- A look or a write issues nothing. -/
theorem Issued.append {trace : List CounterEvent} (h : Issued epoch trace) {e : CounterEvent}
    (hresult : e.result = none) (hnonce : e.nonce = none) : Issued epoch (trace ++ [e]) := by
  have hmem : ∀ {x}, x ∈ trace ++ [e] → x ≠ e → x ∈ trace := by
    intro x hx hne
    simpa [hne] using hx
  constructor
  · rw [returnedValues, filterMap_append_none trace hresult]
    exact h.returned
  · intro c v hcv
    refine List.mem_append_left _ (h.written_of_returned (hmem hcv ?_))
    rintro rfl
    cases hresult
  · rw [usedNonces, filterMap_append_none trace hnonce]
    exact h.used
  · intro c nonce hc
    have hne : CounterEvent.encrypted c nonce ≠ e := by
      rintro rfl
      cases hnonce
    obtain ⟨v, hv, hv'⟩ := h.returned_of_used (hmem hc hne)
    exact ⟨v, List.mem_append_left _ hv, hv'⟩

/-- An event that writes nothing changes nothing that is counted. -/
theorem Counting.append {s : CounterWorld} (h : Counting counter epoch s) {e : CounterEvent}
    (he : e.written = none) (hissued : Issued epoch (s.trace ++ [e])) :
    Counting counter epoch { s with trace := s.trace ++ [e] } := by
  have hwritten : writtenValues (s.trace ++ [e]) = writtenValues s.trace :=
    filterMap_append_none s.trace he
  refine ⟨?_, ?_, ?_, hissued⟩
  · rw [hwritten]
    exact h.consecutive
  · rw [hwritten]
    exact h.absent
  · rw [hwritten]
    exact h.current

/-- A failed write leaves nothing that can be read. -/
theorem Counting.truncated {s : CounterWorld} (h : Counting counter epoch s) (call : ℕ) :
    Counting counter epoch ⟨some [], s.trace ++ [.truncated call]⟩ := by
  have hwritten : writtenValues (s.trace ++ [.truncated call]) = writtenValues s.trace :=
    filterMap_append_none s.trace rfl
  refine ⟨?_, nofun, ?_, h.issued.append rfl rfl⟩
  · rw [hwritten]
    exact h.consecutive
  · rintro raw n ⟨⟩ hdecode
    cases hdecode

/-- A call that writes the number of the values before it continues the count. -/
theorem Counting.wrote {s : CounterWorld} (h : Counting counter epoch s) (call : ℕ) {n : ℕ}
    (hn : writtenValues s.trace = List.range n) :
    Counting counter epoch
      ⟨some (Bytes.encodeUtf8 (counter.text n)), s.trace ++ [.wrote call n]⟩ := by
  have hwritten : writtenValues (s.trace ++ [.wrote call n]) = List.range (n + 1) := by
    rw [List.range_succ, ← hn]
    exact filterMap_append_some s.trace rfl
  refine ⟨⟨n + 1, hwritten⟩, nofun, ?_, h.issued.append rfl rfl⟩
  rintro raw m ⟨⟩ hdecode
  rw [counter.eq_of_decode_text hdecode]
  exact hwritten

/-- A call that has written a value and has not returned it returns a new one. -/
theorem Counting.returned {s : CounterWorld} (h : Counting counter epoch s) {call v : ℕ}
    (hown : ownEvents call s.trace = [.looked call, .wrote call v]) :
    Counting counter epoch { s with trace := s.trace ++ [.returned call v] } := by
  have hmem : ∀ {e}, e ∈ ownEvents call s.trace ↔ e ∈ s.trace ∧ e.call = call := by
    simp [ownEvents]
  have hwrote : CounterEvent.wrote call v ∈ s.trace := by
    refine (hmem.mp ?_).1
    rw [hown]
    simp
  have hreturned : returnedValues (s.trace ++ [.returned call v]) =
      returnedValues s.trace ++ [v] := filterMap_append_some s.trace rfl
  have hnodup : (writtenValues s.trace).Nodup := by
    obtain ⟨n, hn⟩ := h.consecutive
    rw [hn]
    exact List.nodup_range
  have hnew : v ∉ returnedValues s.trace := by
    intro hv
    obtain ⟨e, he, hev⟩ := List.mem_filterMap.mp hv
    cases e with
    | returned c w =>
      cases hev
      -- the other call has written the value, too, so it is this one
      have hsame := eq_of_nodup_filterMap hnodup (h.issued.written_of_returned he) hwrote rfl rfl
      cases hsame
      have hmine := hmem.mpr ⟨he, rfl⟩
      rw [hown] at hmine
      simp at hmine
    | _ => cases hev
  refine h.append rfl ⟨?_, ?_, ?_, ?_⟩
  · rw [hreturned, List.nodup_append]
    refine ⟨h.issued.returned, List.nodup_singleton v, fun a ha b hb hab => ?_⟩
    rw [List.mem_singleton.mp hb] at hab
    exact hnew (hab ▸ ha)
  · intro c w hcw
    rcases List.mem_append.mp hcw with hcw | hcw
    · exact List.mem_append_left _ (h.issued.written_of_returned hcw)
    · cases List.mem_singleton.mp hcw
      exact List.mem_append_left _ hwrote
  · rw [usedNonces, filterMap_append_none s.trace rfl]
    exact h.issued.used
  · intro c nonce hc
    have hc : CounterEvent.encrypted c nonce ∈ s.trace := by simpa using hc
    obtain ⟨w, hw, hnonce⟩ := h.issued.returned_of_used hc
    exact ⟨w, List.mem_append_left _ hw, hnonce⟩

theorem buildNonce_inj {v w : ℕ} {nonce : Bytes} (hv : buildNonce epoch v = .ok nonce)
    (hw : buildNonce epoch w = .ok nonce) : v = w := by
  simp only [buildNonce, bind_eq_ok, demand_eq_ok] at hv hw
  obtain ⟨_, -, _, hv, hnonce⟩ := hv
  obtain ⟨_, -, _, hw, hnonce'⟩ := hw
  cases hnonce
  have hbytes := List.append_cancel_left (Except.ok.inj hnonce')
  exact (Bytes.bigEndian_inj (by simpa using hw) (by simpa using hv) hbytes).symm

/-- A call that has returned a value and has not used its nonce uses a new one. -/
theorem Counting.encrypted {s : CounterWorld} (h : Counting counter epoch s) {call v : ℕ}
    {nonce : Bytes} (hnonce : buildNonce epoch v = .ok nonce)
    (hown : ownEvents call s.trace = [.looked call, .wrote call v, .returned call v]) :
    Counting counter epoch { s with trace := s.trace ++ [.encrypted call nonce] } := by
  have hmem : ∀ {e}, e ∈ ownEvents call s.trace ↔ e ∈ s.trace ∧ e.call = call := by
    simp [ownEvents]
  have hreturned : CounterEvent.returned call v ∈ s.trace := by
    refine (hmem.mp ?_).1
    rw [hown]
    simp
  have hused : usedNonces (s.trace ++ [.encrypted call nonce]) = usedNonces s.trace ++ [nonce] :=
    filterMap_append_some s.trace rfl
  have hnew : nonce ∉ usedNonces s.trace := by
    intro hn
    obtain ⟨e, he, hen⟩ := List.mem_filterMap.mp hn
    cases e with
    | encrypted c m =>
      cases hen
      -- the other call was returned the same value, so it is this one
      obtain ⟨w, hw, hnonce'⟩ := h.issued.returned_of_used he
      cases buildNonce_inj hnonce hnonce'
      have hsame := eq_of_nodup_filterMap h.issued.returned hw hreturned rfl rfl
      cases hsame
      have hmine := hmem.mpr ⟨he, rfl⟩
      rw [hown] at hmine
      simp at hmine
    | _ => cases hen
  refine h.append rfl ⟨?_, ?_, ?_, ?_⟩
  · rw [returnedValues, filterMap_append_none s.trace rfl]
    exact h.issued.returned
  · intro c w hcw
    have hcw : CounterEvent.returned c w ∈ s.trace := by simpa using hcw
    exact List.mem_append_left _ (h.issued.written_of_returned hcw)
  · rw [hused, List.nodup_append]
    refine ⟨h.issued.used, List.nodup_singleton nonce, fun a ha b hb hab => ?_⟩
    rw [List.mem_singleton.mp hb] at hab
    exact hnew (hab ▸ ha)
  · intro c m hc
    rcases List.mem_append.mp hc with hc | hc
    · obtain ⟨w, hw, hm⟩ := h.issued.returned_of_used hc
      exact ⟨w, List.mem_append_left _ hw, hm⟩
    · cases List.mem_singleton.mp hc
      exact ⟨v, List.mem_append_left _ hreturned, hnonce⟩

/-! The code of the calls. -/

variable {call : ℕ} {s : CounterWorld}

/-- A call that has done nothing looks at the file. -/
theorem look_spec {α : Type} {f : Option Bytes → Except Error α}
    {post : Except Error α → CounterWorld → Prop}
    (h : ∀ (s₁ : CounterWorld) (i : FileAnswer), Counting counter epoch s₁ →
      OthersAppend call s s₁ → post (match i.failure with
        | some e => .error e
        | none => f s₁.file) { s₁ with trace := s₁.trace ++ [.looked call] }) :
    wp (counterContext counter epoch call) (NonceCounter.look call f) post s := by
  intro s₁ hs₁ hrely i _
  refine ⟨hs₁.append rfl (hs₁.issued.append rfl rfl), .inr ⟨.looked call, rfl, rfl⟩, ?_⟩
  exact (wp_ofExcept _ _ _).mpr (h s₁ i hs₁ hrely)

/-- What a call knows that has looked when `n` values had been written. -/
theorem seen_of_look {n : ℕ} {s₁ : CounterWorld} (hown : ownEvents call s.trace = [])
    (hrely : OthersAppend call s s₁) (hwritten : writtenValues s₁.trace = List.range n) :
    Seen call n { s₁ with trace := s₁.trace ++ [.looked call] } := by
  refine ⟨?_, s₁.trace, [], rfl, nofun, hwritten⟩
  rw [ownEvents_append, hrely.own, hown]
  simp [ownEvents, CounterEvent.call]

/-- A call that has seen `n` values writes the next one. -/
theorem write_spec {n : ℕ} {post : Except Error Unit → CounterWorld → Prop} (hseen : Seen call n s)
    (hok : ∀ s', Counting counter epoch s' →
      ownEvents call s'.trace = [.looked call, .wrote call n] → post (.ok ()) s')
    (herr : ∀ s' e, post (.error e) s') :
    wp (counterContext counter epoch call) (counter.write call n) post s := by
  rintro s₁ hs₁ hrely ⟨failure, truncated⟩ hi
  have hseen₁ := hseen.of_rely hrely
  cases failure with
  | none =>
    have hfree : Undisturbed call s₁.trace := hi (.wrote call n) rfl trivial
    have hcount := hs₁.wrote call (hseen₁.written hfree)
    refine ⟨hcount, .inr ⟨.wrote call n, rfl, rfl⟩, hok _ hcount ?_⟩
    rw [ownEvents_append, hseen₁.own]
    simp [ownEvents, CounterEvent.call]
  | some e =>
    cases truncated with
    | true => exact ⟨hs₁.truncated call, .inr ⟨.truncated call, rfl, rfl⟩, herr _ e⟩
    | false => exact ⟨hs₁, .inl rfl, herr _ e⟩

/-- A call of `next()` leaves the count, and knows what it has done. -/
theorem next_spec {post : Except Error ℕ → CounterWorld → Prop}
    (hown : ownEvents call s.trace = [])
    (hok : ∀ s' v, ownEvents call s'.trace = [.looked call, .wrote call v, .returned call v] →
      post (.ok v) s')
    (herr : ∀ s' e, post (.error e) s') :
    wp (counterContext counter epoch call) (counter.next call) post s := by
  refine (wp_bind _ _ _ _).mpr (look_spec ?_)
  rintro s₁ ⟨failure, _⟩ hs₁ hrely
  cases failure with
  | some e => exact herr _ e
  | none =>
    cases hfile : s₁.file with
    | none => exact herr _ _
    | some raw =>
      dsimp only
      cases hdecode : counter.decode raw with
      | error e => exact herr _ e
      | ok current =>
        rw [andThen_ok]
        have hseen := seen_of_look hown hrely (hs₁.current raw current hfile hdecode)
        rw [hfile] at hseen
        unfold NonceCounter.advance demand
        split_ifs with hlimit
        · rw [ofExcept_ok, ret_bind]
          refine (wp_bind _ _ _ _).mpr (write_spec hseen (fun s₂ hs₂ hown₂ => ?_) herr)
          rw [andThen_ok]
          intro s₃ hs₃ hrely₃ _ _
          have hown₃ := hrely₃.own.trans hown₂
          refine ⟨hs₃.returned hown₃, .inr ⟨.returned call (current + 1), rfl, rfl⟩, hok _ _ ?_⟩
          rw [ownEvents_append, hown₃]
          simp [ownEvents, CounterEvent.call]
        · exact herr _ _

/-- Every call keeps the count. -/
theorem code_spec (op : CounterOperation) (hown : ownEvents call s.trace = []) :
    wp (counterContext counter epoch call) (op.code counter epoch call) (fun _ _ => True) s := by
  cases op with
  | prepare =>
    refine (wp_bind _ _ _ _).mpr (look_spec ?_)
    rintro s₁ ⟨failure, _⟩ hs₁ hrely
    cases failure with
    | some e => trivial
    | none =>
      cases hfile : s₁.file with
      | none =>
        have hseen := seen_of_look (n := 0) hown hrely (hs₁.absent hfile)
        rw [hfile] at hseen
        exact write_spec hseen (fun _ _ _ => trivial) fun _ _ => trivial
      | some raw =>
        refine (wp_bind _ _ _ _).mpr (look_spec fun s₂ j _ _ => ?_)
        cases (match j.failure with
          | some e => .error e
          | none => match s₂.file with
            | none => counter.refuse "File could not be opened: "
            | some raw => counter.decode raw : Except Error ℕ) <;> trivial
  | next =>
    exact (wp_bind _ _ _ _).mpr (next_spec hown (fun _ _ _ => trivial) fun _ _ => trivial)
  | encrypt =>
    refine (wp_bind _ _ _ _).mpr (next_spec hown (fun s' v hown' => ?_) fun _ _ => trivial)
    rw [andThen_ok]
    cases hnonce : buildNonce epoch v with
    | error e => trivial
    | ok nonce =>
      intro s₁ hs₁ hrely _ _
      exact ⟨hs₁.encrypted hnonce (hrely.own.trans hown'), .inr ⟨.encrypted call nonce, rfl, rfl⟩,
        trivial⟩

end Calls

/-! ### Runs -/

theorem Appends.others {call call' : ℕ} {s s' : CounterWorld} (h : Appends call s s')
    (hne : call ≠ call') : OthersAppend call' s s' := by
  rcases h with rfl | ⟨e, hcall, htrace⟩
  · exact ⟨[], by rw [List.append_nil], nofun⟩
  · refine ⟨[e], htrace, fun e' he' => ?_⟩
    rw [List.mem_singleton.mp he', hcall]
    exact hne

/-- In the runs in which nothing is disturbed, every call keeps the count. -/
def counting (counter : NonceCounter) (epoch : ℕ) (ops : ℕ → CounterOperation) :
    System.Certificate (counterSystem counter epoch ops fun _ => Exclusive) where
  inv := Counting counter epoch
  rely := OthersAppend
  guar := Appends
  fresh c s := ownEvents c s.trace = []
  post _ _ _ := True
  rely_refl _ s := ⟨[], by rw [List.append_nil], nofun⟩
  rely_trans := by
    rintro c s₁ s₂ s₃ ⟨events, htrace, hevents⟩ ⟨events', htrace', hevents'⟩
    refine ⟨events ++ events', by rw [htrace', htrace, List.append_assoc], fun e he => ?_⟩
    rcases List.mem_append.mp he with he | he
    · exact hevents e he
    · exact hevents' e he
  rely_of_guar hne _ h := h.others hne
  fresh_of_guar hne h hown := (h.others hne).own.trans hown
  post_stable _ _ _ _ := trivial
  of_init := by
    rintro s rfl
    exact ⟨⟨⟨0, rfl⟩, fun _ => rfl, nofun, .nil, nofun, .nil, nofun⟩, fun _ => rfl⟩
  sound := by
    rintro c p s rfl _ hown
    exact code_spec (ops c) hown

/-- A counter for the examples. -/
def sampleCounter : NonceCounter := ⟨"/etc/counter.json", "key-1", by decide +kernel⟩

/-- A call that does not fail. -/
def untroubled : FileAnswer := ⟨none, false⟩

theorem decode_sample {value : ℕ} (h : value < 10) :
    sampleCounter.decode (Bytes.encodeUtf8 (sampleCounter.text value)) = .ok value := by
  rw [NonceCounter.decode_text, if_neg]
  revert value
  decide +kernel

/-- A call made alone is not disturbed. -/
theorem undisturbed_append {call : ℕ} {trace : List CounterEvent}
    (h : ∀ e ∈ trace, e.call ≠ call) : Undisturbed call (trace ++ [.looked call]) := by
  intro past rest htrace
  rcases List.eq_nil_or_concat rest with rfl | ⟨rest, e, rfl⟩
  · exact nofun
  · rw [List.concat_eq_append, ← List.cons_append, ← List.append_assoc] at htrace
    obtain ⟨hpast, -⟩ := List.append_inj' htrace rfl
    have hmem : CounterEvent.looked call ∈ trace := by
      rw [hpast]
      exact List.mem_append_right _ List.mem_cons_self
    exact absurd rfl (h _ hmem)

theorem exclusive_of_append {s s' : CounterWorld} {e : CounterEvent}
    (htrace : s'.trace = s.trace ++ [e]) (h : e.Modifies → Undisturbed e.call s.trace) :
    Exclusive s s' := by
  intro e' htrace'
  rw [htrace] at htrace'
  cases List.singleton_inj.mp (List.append_cancel_left htrace')
  exact h

/-- The nonce of a value under epoch 0. -/
def sampleNonce (value : ℕ) : Bytes := Bytes.bigEndian 4 0 ++ Bytes.bigEndian 8 value

/-- A call made alone on the sample counter encrypts with the next nonce. -/
theorem encrypt_alone (call : ℕ) {value : ℕ} (hvalue : value < 9) {trace : List CounterEvent}
    (htrace : ∀ e ∈ trace, e.call ≠ call) :
    (CounterOperation.encrypt.code sampleCounter 0 call).Permitted (fun _ => Exclusive)
        (fun _ => untroubled) ⟨some (Bytes.encodeUtf8 (sampleCounter.text value)), trace⟩ ∧
      ((CounterOperation.encrypt.code sampleCounter 0 call).run (fun _ => untroubled)
        ⟨some (Bytes.encodeUtf8 (sampleCounter.text value)), trace⟩).state =
        ⟨some (Bytes.encodeUtf8 (sampleCounter.text (value + 1))),
          trace ++ [.looked call, .wrote call (value + 1), .returned call (value + 1),
            .encrypted call (sampleNonce (value + 1))]⟩ := by
  have hdecode : sampleCounter.decode (Bytes.encodeUtf8 (sampleCounter.text value)) = .ok value :=
    decode_sample (by omega)
  have hlimit : demand (value < maxNonceCounter) (.other "KeyExhaustedError")
      ("Key '" ++ sampleCounter.keyId ++ "' has exhausted its nonce counter.") = .ok () :=
    demand_of (by unfold maxNonceCounter; omega)
  have hnonce : buildNonce 0 (value + 1) = .ok (sampleNonce (value + 1)) := by
    rw [buildNonce, demand_of (by decide), ok_bind, demand_of (by omega), ok_bind]
    rfl
  simp [CounterOperation.code, encryptWithFreshNonce, NonceCounter.next, NonceCounter.read,
    NonceCounter.advance, NonceCounter.look, NonceCounter.write, NonceCounter.record, untroubled, hdecode, hlimit, hnonce,
    Permitted]
  refine ⟨exclusive_of_append rfl nofun, exclusive_of_append (e := .wrote call (value + 1)) (by simp)
    fun _ => undisturbed_append htrace,
    exclusive_of_append (e := .returned call (value + 1)) (by simp) nofun,
    exclusive_of_append (e := .encrypted call (sampleNonce (value + 1))) (by simp) nofun⟩

/-- The first call makes the file. -/
theorem reachable_prepared_file {permit : FileAnswer → CounterWorld → CounterWorld → Prop}
    (hpermit : (CounterOperation.prepare.code sampleCounter 0 0).Permitted permit
      (fun _ => untroubled) {}) (ops : ℕ → CounterOperation) (hops : ops 0 = .prepare) :
    ∃ cfg, (counterSystem sampleCounter 0 ops permit).Reachable cfg ∧
      cfg.shared = ⟨some (Bytes.encodeUtf8 (sampleCounter.text 0)), [.looked 0, .wrote 0 0]⟩ ∧
      cfg.next = 1 := by
  have hstart : (counterSystem sampleCounter 0 ops permit).Reachable (.start {}) := .start rfl
  obtain ⟨cfg, hreach, hshared, hnext, -⟩ := System.reachable_call (fun _ => untroubled) hstart
    hpermit (by rw [← hops]; rfl)
  exact ⟨cfg, hreach, hshared, hnext⟩

/-- In a run in which no call writes to the file after another call has written to it since it
looked, no value is returned twice, and no nonce is used twice. -/
theorem nodup_of_reachable {counter : NonceCounter} {epoch : ℕ} {ops : ℕ → CounterOperation}
    {cfg : Config CounterWorld FileAnswer Error}
    (h : (counterSystem counter epoch ops fun _ => Exclusive).Reachable cfg) :
    (returnedValues cfg.shared.trace).Nodup ∧ (usedNonces cfg.shared.trace).Nodup := by
  have hissued := ((counting counter epoch ops).reachable h).inv.issued
  exact ⟨hissued.returned, hissued.used⟩

/-- The first call makes the file, and the others encrypt. -/
def encryptions : ℕ → CounterOperation
  | 0 => .prepare
  | _ => .encrypt

/-- Two calls made one after the other. -/
theorem nodup_of_reachable_sample :
    ∃ cfg, (counterSystem sampleCounter 0 encryptions fun _ => Exclusive).Reachable cfg ∧
      returnedValues cfg.shared.trace = [1, 2] ∧ (usedNonces cfg.shared.trace).Nodup := by
  have hprepare : (CounterOperation.prepare.code sampleCounter 0 0).Permitted
      (fun _ => Exclusive) (fun _ => untroubled) {} := by
    refine ⟨exclusive_of_append rfl nofun, exclusive_of_append (e := .wrote 0 0) rfl fun _ => ?_,
      trivial⟩
    have hempty : ∀ e ∈ ([] : List CounterEvent), e.call ≠ 0 := nofun
    exact undisturbed_append hempty
  obtain ⟨cfg₁, hreach₁, hshared₁, hnext₁⟩ := reachable_prepared_file hprepare encryptions rfl
  have htrace₁ : ∀ e ∈ [CounterEvent.looked 0, .wrote 0 0], e.call ≠ 1 := by
    simp [CounterEvent.call]
  obtain ⟨hpermit₁, hstate₁⟩ := encrypt_alone 1 (show 0 < 9 by decide) htrace₁
  rw [← hshared₁] at hpermit₁ hstate₁
  obtain ⟨cfg₂, hreach₂, hshared₂, hnext₂, -⟩ :=
    System.reachable_call (fun _ => untroubled) hreach₁ hpermit₁ (by rw [hnext₁]; rfl)
  rw [hstate₁] at hshared₂
  have htrace₂ : ∀ e ∈ [CounterEvent.looked 0, .wrote 0 0] ++ [.looked 1, .wrote 1 1,
      .returned 1 1, .encrypted 1 (sampleNonce 1)], e.call ≠ 2 := by
    simp [CounterEvent.call]
  obtain ⟨hpermit₂, hstate₂⟩ := encrypt_alone 2 (show 1 < 9 by decide) htrace₂
  rw [← hshared₂] at hpermit₂ hstate₂
  obtain ⟨cfg₃, hreach₃, hshared₃, -⟩ :=
    System.reachable_call (fun _ => untroubled) hreach₂ hpermit₂ (by rw [hnext₂, hnext₁]; rfl)
  refine ⟨cfg₃, hreach₃, ?_, (nodup_of_reachable hreach₃).2⟩
  rw [hshared₃, hstate₂]
  rfl

/-- The first call makes the file, and the others ask for a value. -/
def nexts : ℕ → CounterOperation
  | 0 => .prepare
  | _ => .next

/-- A call of `next()` looks at a file that holds 0. -/
theorem exists_look {cfg : Config CounterWorld FileAnswer Error} {call : ℕ}
    (h : (counterSystem sampleCounter 0 nexts fun _ _ _ => True).Reachable cfg)
    (hcall : cfg.calls call = some (CounterOperation.next.code sampleCounter 0 call))
    (hfile : cfg.shared.file = some (Bytes.encodeUtf8 (sampleCounter.text 0))) :
    ∃ cfg', (counterSystem sampleCounter 0 nexts fun _ _ _ => True).Reachable cfg' ∧
      cfg'.shared = { cfg.shared with trace := cfg.shared.trace ++ [.looked call] } ∧
      cfg'.calls = Function.update cfg.calls call
        (some (sampleCounter.advance call 0 >>= fun _ => pure ())) := by
  have hdecode : sampleCounter.decode (Bytes.encodeUtf8 (sampleCounter.text 0)) = .ok 0 :=
    decode_sample (by decide)
  have hatom : CounterOperation.next.code sampleCounter 0 call =
      .atom (fun _ s => { s with trace := s.trace ++ [.looked call] }) fun i s =>
        (ofExcept (match i.failure with
          | some e => .error e
          | none => match s.file with
            | none => sampleCounter.refuse "File could not be opened: "
            | some raw => sampleCounter.decode raw) >>= sampleCounter.advance call) >>=
          fun _ => pure () := rfl
  rw [hatom] at hcall
  obtain ⟨cfg', hreach, hshared, -, hcalls⟩ := System.exists_atom untroubled h hcall trivial
  refine ⟨cfg', hreach, hshared, ?_⟩
  rw [hcalls, hfile]
  dsimp only [untroubled]
  rw [hdecode, ofExcept_ok, ret_bind]

/-- Two calls that look at the file before either has written return the same value. -/
theorem not_nodup_sample :
    ∃ cfg, (counterSystem sampleCounter 0 nexts fun _ _ _ => True).Reachable cfg ∧
      ¬ (returnedValues cfg.shared.trace).Nodup := by
  have hpermitted : ∀ (p : CounterOp Unit) s,
      p.Permitted (fun _ _ _ => True) (fun _ => untroubled) s :=
    fun p s => permitted_of_forall p _ (fun _ _ _ => trivial) s
  -- the file is made, and two calls look at it
  obtain ⟨cfg₁, hreach₁, hshared₁, hnext₁⟩ := reachable_prepared_file (hpermitted _ _) nexts rfl
  obtain ⟨cfg₂, hreach₂, hshared₂, hnext₂, hcalls₂⟩ := System.exists_start hreach₁ rfl
  obtain ⟨cfg₃, hreach₃, hshared₃, -, hcalls₃⟩ := System.exists_start hreach₂ rfl
  rw [hnext₂, hnext₁, hcalls₂, hnext₁] at hcalls₃
  rw [hshared₂, hshared₁] at hshared₃
  have hfirst : cfg₃.calls 1 = some (CounterOperation.next.code sampleCounter 0 1) := by
    rw [hcalls₃]
    rfl
  obtain ⟨cfg₄, hreach₄, hshared₄, hcalls₄⟩ := exists_look hreach₃ hfirst (by rw [hshared₃])
  have hsecond : cfg₄.calls 2 = some (CounterOperation.next.code sampleCounter 0 2) := by
    rw [hcalls₄, hcalls₃]
    rfl
  obtain ⟨cfg₅, hreach₅, hshared₅, hcalls₅⟩ :=
    exists_look hreach₄ hsecond (by rw [hshared₄, hshared₃])
  -- each of them writes what it has seen, plus one
  have hrest₁ : cfg₅.calls 1 = some (sampleCounter.advance 1 0 >>= fun _ => pure ()) := by
    rw [hcalls₅, hcalls₄]
    rfl
  obtain ⟨cfg₆, hreach₆, hshared₆, -, -, hothers⟩ :=
    System.reachable_run _ (fun _ => untroubled) hreach₅ (hpermitted _ _) hrest₁
  have hrest₂ : cfg₆.calls 2 = some (sampleCounter.advance 2 0 >>= fun _ => pure ()) := by
    rw [hothers 2 (by decide), hcalls₅]
    rfl
  obtain ⟨cfg₇, hreach₇, hshared₇, -⟩ :=
    System.reachable_run _ (fun _ => untroubled) hreach₆ (hpermitted _ _) hrest₂
  refine ⟨cfg₇, hreach₇, ?_⟩
  have htrace : cfg₇.shared.trace = [.looked 0, .wrote 0 0, .looked 1, .looked 2, .wrote 1 1,
      .returned 1 1, .wrote 2 1, .returned 2 1] := by
    rw [hshared₇, hshared₆, hshared₅, hshared₄, hshared₃]
    rfl
  rw [htrace]
  decide

end Tier1
