import Mathlib.Data.List.Basic
import Mathlib.Data.Nat.Notation
import PfsenseMcp.Tier1.NonceCounter
import PfsenseMcp.Tier1.World
import PfsenseMcp.Witness.Daemon

/-!
# The guest side of the witness

`TpmHostWitnessAnchor` of `tier1/anti_rollback_tpm_witness.py` talks to the daemon over HTTP, and
`HighWaterMark.before_executing_transition` talks to it. A request may be lost, the daemon may die
over it, and its answer may be lost; other clients may advance the counter meanwhile.

## Main results

* `accepted_of_through`: what an accepted transition has done to the counter and the mark;
* `marks_of_attempts`: over any attempts of any stores, a mark that a transition was accepted with
  is never accepted again if unknown increments have happened;
* `gate_refines_anchorOf`: then the gate of a store is that of the store model.
-/

namespace WitnessDaemon

open Python Concurrency Procedure
open Tier1 (AntiRollbackAnchor Error fail)

/-! ### The client -/

/-- How an exchange fails for `httpx`. -/
inductive Failure where
  /-- `httpx.ConnectError`. -/
  | connect
  /-- `httpx.TimeoutException`. -/
  | timeout
  /-- Any other `httpx.TransportError`. -/
  | transport
deriving DecidableEq, Repr

/-- How an exchange ends for `httpx`. -/
inductive Outcome where
  | failed (failure : Failure)
  | response (statusCode : ℕ) (content : Bytes)

/-- What `TpmHostWitnessAnchor` gets from `httpx` and its certificate. -/
structure Client where
  /-- The fingerprint of the client certificate. -/
  fingerprint : String
  /-- `response.json()`; `none` is a `ValueError`. -/
  json : Bytes → Option Json
  /-- The body for `json={"expected_current": expected_current}`. -/
  content : ℕ → Bytes

/-- What is relied on of `httpx`: it reads JSON texts and writes them. -/
structure Client.Conforms (client : Client) : Prop where
  json : ∀ text value, Json.parse text = some value →
    client.json (Bytes.encodeUtf8 text) = some value
  content : ∀ n, (Bytes.decodeUtf8 (client.content n) >>= Json.parse) =
    some (.obj [("expected_current", .int n)])

namespace TpmHostWitnessAnchor

variable (client : Client)

/-- `AnchorUnavailableError`. -/
def unavailable {α : Type} (message : String) : Except Error α := fail .anchorUnavailable message

/-- `_decode_value`. -/
def decodeValue (content : Bytes) : Except Error ℕ :=
  match client.json content with
  | some (.obj fields) =>
    match fields.lookup "value" with
    | none => unavailable "Witness service returned a malformed response body."
    | some (.int value) =>
      if value < 0 then
        unavailable "Witness service returned a non-integer or negative anchor value."
      else .ok value.toNat
    | some _ => unavailable "Witness service returned a non-integer or negative anchor value."
  | _ => unavailable "Witness service returned a malformed response body."

/-- The exception for a failed exchange. -/
def failure {α : Type} : Failure → Except Error α
  | .connect => unavailable "Could not connect to the anchor witness service."
  | .timeout => unavailable "Anchor witness service request timed out."
  | .transport => unavailable "Anchor witness service transport failed."

/-- The request of `read`. -/
def readRequest : Request where
  method := .get
  path := "/anchor/read"
  fingerprint := some client.fingerprint
  contentLength := none
  body := []

/-- The request of `advance`. -/
def advanceRequest (expectedCurrent : ℕ) : Request where
  method := .post
  path := "/anchor/advance"
  fingerprint := some client.fingerprint
  contentLength := some (some ((client.content expectedCurrent).length : ℤ))
  body := client.content expectedCurrent

/-- `read`, by how its exchange ends. -/
def read : Outcome → Except Error ℕ
  | .failed e => failure e
  | .response statusCode content =>
    if statusCode ≠ 200 then
      unavailable s!"Anchor witness service returned status {statusCode} for read."
    else decodeValue client content

/-- `advance`, by how its exchange ends. -/
def advance : Outcome → Except Error ℕ
  | .failed e => failure e
  | .response statusCode content =>
    if statusCode = 409 then
      fail .anchorConflict "Anchor witness service reported a conflicting current value."
    else if statusCode ≠ 200 then
      unavailable s!"Anchor witness service returned status {statusCode} for advance."
    else decodeValue client content

end TpmHostWitnessAnchor

/-! ### Answers read back -/

/-- The text of an object with one field, with a space after its colon. -/
def spaced (key : String) (value : Json) : String :=
  String.ofList ('{' :: (Json.dumpString true key ++ ':' :: ' ' ::
    (Json.dumpValue true value ++ ['}'])))

theorem parse_spaced {key : String} {value : Json} (hplain : Json.plain value = true)
    (hdistinct : Json.Distinct value) :
    Json.parse (spaced key value) = some (.obj [(key, value)]) := by
  have hfields := Tier1.readFields_spaced_last (k := key) hplain (r := []) (Nat.le_succ
    (2 * (Json.dumpString true key ++ ':' :: ' ' :: (Json.dumpValue true value ++ ['}'])).length))
  have hloads : Json.loads (spaced key value) = some (.obj [(key, value)]) :=
    Tier1.loads_of_readFields hfields
  have hdistinct : Json.Distinct (.obj [(key, value)]) := by
    simpa [Json.Distinct, Json.DistinctFields] using hdistinct
  rw [Json.parse, hloads, Option.map_some, Json.asDict_of_distinct _ hdistinct]

/-- The JSON value of a payload. -/
def Payload.json : Payload → Json
  | .error message => .obj [("error", .str message)]
  | .value n => .obj [("value", .int n)]

theorem parse_text (payload : Payload) : Json.parse payload.text = some payload.json := by
  cases payload with
  | error message =>
    exact @parse_spaced "error" (.str message) rfl trivial
  | value n =>
    exact @parse_spaced "value" (.int n) rfl trivial

namespace TpmHostWitnessAnchor

variable {client : Client}

/-- The value of an answer of the daemon is decoded. -/
theorem decodeValue_value (h : client.Conforms) {response : Response} {value : ℕ}
    (hpayload : response.payload = .value value) :
    decodeValue client response.body = .ok value := by
  have hjson : client.json response.body = some response.payload.json :=
    h.json _ _ (parse_text response.payload)
  rw [decodeValue, hjson, hpayload]
  have hnonneg : ¬((value : ℤ) < 0) := Int.not_lt.2 (Int.natCast_nonneg value)
  change (if (value : ℤ) < 0 then _ else Except.ok (value : ℤ).toNat) = _
  rw [if_neg hnonneg, Int.toNat_natCast]

/-- What is decoded from an answer of the daemon is the value in it. -/
theorem decodeValue_body (h : client.Conforms) {response : Response} {value : ℕ}
    (hvalue : decodeValue client response.body = .ok value) : response.payload = .value value := by
  cases hpayload : response.payload with
  | error message =>
    have hjson : client.json response.body = some response.payload.json :=
      h.json _ _ (parse_text response.payload)
    rw [decodeValue, hjson, hpayload] at hvalue
    cases hvalue
  | value n =>
    rw [decodeValue_value h hpayload] at hvalue
    cases hvalue
    rfl

theorem ok_of_decodeValue (h : client.Conforms) {response : Response} {value : ℕ}
    (hstatus : response.status = 200) (hvalue : decodeValue client response.body = .ok value) :
    response = ⟨200, .value value⟩ := by
  have hpayload := decodeValue_body h hvalue
  cases response
  exact congr (congrArg Response.mk hstatus) hpayload

theorem ok_of_read (h : client.Conforms) {response : Response} {value : ℕ}
    (hvalue : read client (.response response.status response.body) = .ok value) :
    response = ⟨200, .value value⟩ := by
  rw [read] at hvalue
  by_cases hstatus : response.status = 200
  · rw [if_neg (not_not.2 hstatus)] at hvalue
    exact ok_of_decodeValue h hstatus hvalue
  · rw [if_pos hstatus] at hvalue
    cases hvalue

theorem ok_of_advance (h : client.Conforms) {response : Response} {value : ℕ}
    (hvalue : advance client (.response response.status response.body) = .ok value) :
    response = ⟨200, .value value⟩ := by
  rw [advance] at hvalue
  by_cases hconflict : response.status = 409
  · rw [if_pos hconflict] at hvalue
    cases hvalue
  rw [if_neg hconflict] at hvalue
  by_cases hstatus : response.status = 200
  · rw [if_neg (not_not.2 hstatus)] at hvalue
    exact ok_of_decodeValue h hstatus hvalue
  · rw [if_pos hstatus] at hvalue
    cases hvalue

end TpmHostWitnessAnchor

/-! ### An exchange with the daemon -/

/-- A request of the guest meets the daemon. Others may advance the counter before it is handled,
the handler may be cut off, and the answer of a handler that ends may be lost. -/
def Exchanged (permit : Tools → ℕ → ℕ → Prop) (server : WitnessHTTPServer) (request : Request)
    (counter : ℕ) (outcome : Outcome) (counter' : ℕ) : Prop :=
  ∃ met rest, counter ≤ met ∧ Goes permit (server.handle request) met rest counter' ∧
    ((∃ failure, outcome = .failed failure) ∨
      ∃ response : Response, rest = .ret response ∧
        outcome = .response response.status response.body)

/-- The anchor is `TpmHostWitnessAnchor`, before this daemon. -/
structure Through (permit : Tools → ℕ → ℕ → Prop) (server : WitnessHTTPServer) (client : Client)
    (anchor : AntiRollbackAnchor ℕ) : Prop where
  read : ∀ counter, ∃ outcome,
    Exchanged permit server (TpmHostWitnessAnchor.readRequest client) counter outcome
      (anchor.read counter).2 ∧
    (anchor.read counter).1 = TpmHostWitnessAnchor.read client outcome
  advance : ∀ expected counter, ∃ outcome,
    Exchanged permit server (TpmHostWitnessAnchor.advanceRequest client expected) counter outcome
      (anchor.advance expected counter).2 ∧
    (anchor.advance expected counter).1 = TpmHostWitnessAnchor.advance client outcome

section Through

open TpmHostWitnessAnchor WitnessHTTPServer

variable {permit : Tools → ℕ → ℕ → Prop} {server : WitnessHTTPServer} {client : Client}
  {anchor : AntiRollbackAnchor ℕ} {counter counter' : ℕ}

theorem failure_ne_ok {f : Failure} {value : ℕ} : (failure f : Except Error ℕ) ≠ .ok value := by
  cases f <;> exact fun h => by cases h

/-- An exchange leaves the counter where the handler left it. -/
theorem le_of_exchanged (hpermit : Conforming permit) {request : Request} {outcome : Outcome}
    (h : Exchanged permit server request counter outcome counter') : counter ≤ counter' := by
  obtain ⟨met, rest, hle, hgoes, -⟩ := h
  exact hle.trans (le_of_goes hpermit hgoes)

/-- A value that is read is the counter that the exchange leaves. -/
theorem read_of_through (hclient : client.Conforms) (hpermit : Conforming permit)
    (h : Through permit server client anchor) (counter : ℕ) :
    counter ≤ (anchor.read counter).2 ∧
      ∀ value, (anchor.read counter).1 = .ok value → value = (anchor.read counter).2 := by
  obtain ⟨outcome, hexchanged, hread⟩ := h.read counter
  refine ⟨le_of_exchanged hpermit hexchanged, fun value hvalue => ?_⟩
  obtain ⟨met, rest, -, hgoes, ⟨f, rfl⟩ | ⟨response, rfl, rfl⟩⟩ := hexchanged
  · exact absurd (hread.symm.trans hvalue) failure_ne_ok
  · obtain rfl := ok_of_read hclient (hread.symm.trans hvalue)
    obtain ⟨hsame, hcounter⟩ := goes_doGET hpermit hgoes
    rw [hsame]
    exact hcounter value rfl

/-- The daemon reads what the guest has written. -/
theorem eq_of_authorize_advanceRequest (hclient : client.Conforms) {expected value : ℕ}
    (h : server.authorize (advanceRequest client expected) = .ok value) : value = expected := by
  obtain ⟨-, -, length, hlength, -, -, hvalue⟩ := of_authorize h
  cases hlength
  change expectedCurrent ((client.content expected).take (client.content expected).length) = _
    at hvalue
  have hnonneg : ¬((expected : ℤ) < 0) := Int.not_lt.2 (Int.natCast_nonneg expected)
  rw [List.take_length, expectedCurrent, hclient.content expected] at hvalue
  change (if (expected : ℤ) < 0 then _ else Except.ok (expected : ℤ).toNat) = _ at hvalue
  rw [if_neg hnonneg, Int.toNat_natCast] at hvalue
  exact (Except.ok.inj hvalue).symm

/-- An accepted advance leaves the counter at its answer, which is the expected value or the next
one. -/
theorem advance_of_through (hclient : client.Conforms) (hpermit : Conforming permit)
    (h : Through permit server client anchor) (expected counter : ℕ) :
    counter ≤ (anchor.advance expected counter).2 ∧
      ∀ value, (anchor.advance expected counter).1 = .ok value →
        value = (anchor.advance expected counter).2 ∧
        (value = expected ∨ value = expected + 1) ∧ counter ≤ expected ∧
        (Determined permit → value = expected + 1) := by
  obtain ⟨outcome, hexchanged, hadvance⟩ := h.advance expected counter
  refine ⟨le_of_exchanged hpermit hexchanged, fun value hvalue => ?_⟩
  obtain ⟨met, rest, hle, hgoes, ⟨f, rfl⟩ | ⟨response, rfl, rfl⟩⟩ := hexchanged
  · exact absurd (hadvance.symm.trans hvalue) failure_ne_ok
  · obtain rfl := ok_of_advance hclient (hadvance.symm.trans hvalue)
    rcases goes_doPOST hpermit hgoes with ⟨-, hnone⟩ | ⟨asked, hauthorize, hmoves, hanswer⟩
    · exact absurd rfl (hnone value)
    · obtain rfl := eq_of_authorize_advanceRequest hclient hauthorize
      obtain ⟨rfl, hleft, hcertain⟩ := hanswer value rfl
      rw [← hleft] at hmoves hcertain ⊢
      exact ⟨rfl, hmoves.imp id And.right, hle, hcertain⟩

end Through

/-! ### The mark of a store -/

open Tier1 (StoreIdentity Database)

section Marks

variable [Tier1.Platform] {permit : Tools → ℕ → ℕ → Prop} {server : WitnessHTTPServer}
  {client : Client} {anchor : AntiRollbackAnchor ℕ} {store : StoreIdentity} {db : Database}
  {counter : ℕ}

/-- An attempt never takes the counter back. -/
theorem le_beforeExecutingTransition (hclient : client.Conforms) (hpermit : Conforming permit)
    (h : Through permit server client anchor) :
    counter ≤ (Tier1.HighWaterMark.beforeExecutingTransition store anchor db counter).2 := by
  unfold Tier1.HighWaterMark.beforeExecutingTransition
  cases Tier1.HighWaterMark.read store db with
  | error e => exact Nat.le_refl _
  | ok mark =>
    have hread := (read_of_through hclient hpermit h counter).1
    generalize anchor.read counter = answer at hread
    obtain ⟨answer, met⟩ := answer
    cases answer with
    | error e => exact hread
    | ok current =>
      dsimp only
      split
      · have hadvance := (advance_of_through hclient hpermit h current met).1
        generalize anchor.advance current met = answer at hadvance
        obtain ⟨answer, left⟩ := answer
        cases answer with
        | error e => exact hread.trans hadvance
        | ok advanced => exact hread.trans hadvance
      · exact hread

/-- An accepted attempt has found the counter at the mark, and leaves both at one value, the same
one or the next. -/
theorem accepted_of_through (hclient : client.Conforms) (hpermit : Conforming permit)
    (h : Through permit server client anchor) {db' : Database} {counter' : ℕ}
    (haccepted : Tier1.HighWaterMark.beforeExecutingTransition store anchor db counter =
      (.ok db', counter')) :
    ∃ mark, Tier1.HighWaterMark.read store db = .ok mark ∧ counter ≤ mark ∧
      Tier1.HighWaterMark.read store db' = .ok counter' ∧ (counter' = mark ∨ counter' = mark + 1) ∧
      (Determined permit → counter' = mark + 1) := by
  obtain ⟨mark, met, advanced, hmark, hread, hadvance, hpersist⟩ :=
    Tier1.HighWaterMark.beforeExecutingTransition_ok haccepted
  obtain ⟨hle, hvalue⟩ := read_of_through hclient hpermit h counter
  rw [hread] at hle hvalue
  obtain rfl := hvalue mark rfl
  obtain ⟨-, hvalue⟩ := advance_of_through hclient hpermit h mark mark
  rw [hadvance] at hvalue
  obtain ⟨rfl, hnext, -, hcertain⟩ := hvalue advanced rfl
  exact ⟨mark, hmark, hle, Tier1.HighWaterMark.read_persist hpersist, hnext, hcertain⟩

/-- Where unknown increments have happened, the witness is an anchor of the store model, which
others have advanced before. -/
theorem refines_anchorOf (hclient : client.Conforms) (hpermit : Conforming permit)
    (hcertain : Determined permit) (h : Through permit server client anchor) (i : Tier1.Answers) :
    ∃ anchorRead anchorAdvance past,
      Tier1.HighWaterMark.beforeExecutingTransition store anchor db counter =
        Tier1.HighWaterMark.beforeExecutingTransition store (Tier1.anchorOf
          { i with anchorRead := anchorRead, anchorAdvance := anchorAdvance }) db
          (counter + past) := by
  unfold Tier1.HighWaterMark.beforeExecutingTransition Tier1.anchorOf
  cases Tier1.HighWaterMark.read store db with
  | error e => exact ⟨none, .advanced 0, 0, rfl⟩
  | ok mark =>
    obtain ⟨hle, hvalue⟩ := read_of_through hclient hpermit h counter
    generalize anchor.read counter = answer at hle hvalue
    obtain ⟨answer, met⟩ := answer
    obtain ⟨past, rfl⟩ := Nat.exists_eq_add_of_le hle
    cases answer with
    | error e => exact ⟨some e, .advanced 0, past, rfl⟩
    | ok current =>
      have hcurrent : current = counter + past := hvalue current rfl
      subst hcurrent
      obtain ⟨hle, hvalue⟩ := advance_of_through hclient hpermit h (counter + past) (counter + past)
      dsimp only
      by_cases hmark : counter + past = mark
      · rw [if_pos hmark]
        generalize anchor.advance (counter + past) (counter + past) = answer at hle hvalue ⊢
        obtain ⟨answer, left⟩ := answer
        cases answer with
        | error e =>
          obtain ⟨moved, hmoved⟩ := Nat.exists_eq_add_of_le hle
          have hmoved : left = counter + past + moved := hmoved
          subst hmoved
          refine ⟨none, .failed e moved, past, ?_⟩
          dsimp only
          rw [if_pos hmark, if_pos rfl]
        | ok advanced =>
          obtain ⟨hadvanced, -, -, hnext⟩ := hvalue advanced rfl
          have hleft : advanced = left := hadvanced
          have hnext : advanced = counter + past + 1 := hnext hcertain
          subst hleft
          subst hnext
          refine ⟨none, .advanced 0, past, ?_⟩
          dsimp only
          rw [if_pos hmark, if_pos rfl]
      · rw [if_neg hmark]
        refine ⟨none, .advanced 0, past, ?_⟩
        dsimp only
        rw [if_neg hmark]

/-! ### Any attempts -/

/-- An attempt to pass the gate of a transition: `before_executing_transition` on a store, which may
be a copy of another one. -/
structure Attempt where
  store : StoreIdentity
  db : Database
  result : Except Error Database

/-- The attempt has been accepted, with the given mark. -/
def Attempt.Accepts (a : Attempt) (mark : ℕ) : Prop :=
  Tier1.HighWaterMark.read a.store a.db = .ok mark ∧ ∃ db', a.result = .ok db'

/-- Attempts of any stores through any clients of one daemon, and the counter before and after. -/
inductive Attempts (permit : Tools → ℕ → ℕ → Prop) (server : WitnessHTTPServer) (counter : ℕ) :
    List Attempt → ℕ → Prop
  | start : Attempts permit server counter [] counter
  /-- Others advance the counter. -/
  | others {log : List Attempt} {c c' : ℕ} (h : Attempts permit server counter log c)
    (hle : c ≤ c') : Attempts permit server counter log c'
  | attempt {log : List Attempt} {c : ℕ} (h : Attempts permit server counter log c)
    (store : StoreIdentity) (db : Database) {client : Client} (hclient : client.Conforms)
    {anchor : AntiRollbackAnchor ℕ} (hanchor : Through permit server client anchor) :
    Attempts permit server counter
      (log ++ [⟨store, db, (Tier1.HighWaterMark.beforeExecutingTransition store anchor db c).1⟩])
      (Tier1.HighWaterMark.beforeExecutingTransition store anchor db c).2

/-- An accepted attempt leaves the next mark, and the counter beyond the old one. -/
def Attempt.Passed (a : Attempt) (counter : ℕ) : Prop :=
  ∀ mark, a.Accepts mark → mark < counter ∧
    ∀ db', a.result = .ok db' → Tier1.HighWaterMark.read a.store db' = .ok (mark + 1)

theorem attempts_pairwise (hpermit : Conforming permit) (hcertain : Determined permit)
    {log : List Attempt} {counter' : ℕ} (h : Attempts permit server counter log counter') :
    log.Pairwise (fun a a' => ∀ mark mark', a.Accepts mark → a'.Accepts mark' → mark < mark') ∧
      ∀ a ∈ log, a.Passed counter' := by
  induction h with
  | start => exact ⟨.nil, fun a ha => absurd ha List.not_mem_nil⟩
  | others _ hle ih =>
    exact ⟨ih.1, fun a ha mark hmark =>
      ⟨(ih.2 a ha mark hmark).1.trans_le hle, (ih.2 a ha mark hmark).2⟩⟩
  | @attempt log c _ store db client hclient anchor hanchor ih =>
    obtain ⟨hpairwise, hpassed⟩ := ih
    have hle : c ≤ (Tier1.HighWaterMark.beforeExecutingTransition store anchor db c).2 :=
      le_beforeExecutingTransition hclient hpermit hanchor
    generalize hattempt : Tier1.HighWaterMark.beforeExecutingTransition store anchor db c = answer
      at hle ⊢
    obtain ⟨result, left⟩ := answer
    -- the attempt is accepted only at a mark that the counter has not left
    have hnew : ∀ mark, Attempt.Accepts ⟨store, db, result⟩ mark → c ≤ mark ∧
        Attempt.Passed ⟨store, db, result⟩ left := by
      rintro mark ⟨hmark, db', hresult⟩
      have hresult : result = .ok db' := hresult
      subst hresult
      obtain ⟨mark', hmark', hc, hread, -, hnext⟩ :=
        accepted_of_through hclient hpermit hanchor hattempt
      obtain rfl := Except.ok.inj (hmark.symm.trans hmark')
      obtain rfl := hnext hcertain
      refine ⟨hc, fun mark' haccepts => ?_⟩
      obtain rfl := Except.ok.inj (hmark.symm.trans haccepts.1)
      refine ⟨Nat.lt_succ_self mark, fun db'' hdb => ?_⟩
      cases hdb
      exact hread
    refine ⟨List.pairwise_append.2 ⟨hpairwise, List.pairwise_singleton _ _, ?_⟩, ?_⟩
    · intro a ha a' ha' mark mark' haccepts haccepts'
      obtain rfl := List.mem_singleton.1 ha'
      exact (hpassed a ha mark haccepts).1.trans_le (hnew mark' haccepts').1
    · intro a ha mark haccepts
      rcases List.mem_append.1 ha with ha | ha
      · exact ⟨(hpassed a ha mark haccepts).1.trans_le hle, (hpassed a ha mark haccepts).2⟩
      · obtain rfl := List.mem_singleton.1 ha
        exact (hnew mark haccepts).2 mark haccepts

omit [Tier1.Platform] in
theorem conforming_certain : Conforming Certain := fun _ _ _ h => h.1

/-- Where unknown increments have happened, the marks of accepted attempts increase, so that a copy
of a store from before an accepted attempt is never accepted after it. -/
theorem marks_of_attempts {log : List Attempt} {counter' : ℕ}
    (h : Attempts Certain server counter log counter') :
    log.Pairwise (fun a a' => ∀ mark mark', a.Accepts mark → a'.Accepts mark' → mark < mark') ∧
      ∀ a ∈ log, ∀ mark db', Tier1.HighWaterMark.read a.store a.db = .ok mark →
        a.result = .ok db' → Tier1.HighWaterMark.read a.store db' = .ok (mark + 1) := by
  obtain ⟨hpairwise, hpassed⟩ := attempts_pairwise conforming_certain (fun _ _ _ h => h) h
  exact ⟨hpairwise, fun a ha mark db' hmark hresult =>
    (hpassed a ha mark ⟨hmark, db', hresult⟩).2 db' hresult⟩

/-- The gate of a store before the TPM is the gate of the store model. -/
theorem gate_refines_anchorOf (hclient : client.Conforms)
    (h : Through Certain server client anchor) (i : Tier1.Answers) :
    ∃ anchorRead anchorAdvance past,
      Tier1.HighWaterMark.beforeExecutingTransition store anchor db counter =
        Tier1.HighWaterMark.beforeExecutingTransition store (Tier1.anchorOf
          { i with anchorRead := anchorRead, anchorAdvance := anchorAdvance }) db
          (counter + past) :=
  refines_anchorOf hclient conforming_certain (fun _ _ _ h => h) h i

end Marks

/-! ### An attempt at the counter of the sample daemon -/

namespace Sample

open TpmHostWitnessAnchor

attribute [local instance] Tier1.Sample.platform

/-- The listed client. -/
def client : Client where
  fingerprint := "a1"
  json raw := Bytes.decodeUtf8 raw >>= Json.parse
  content n := Bytes.encodeUtf8 (Json.dumps true (.obj [("expected_current", .int n)]))

theorem conforms_client : client.Conforms where
  json text value h := by
    change (Bytes.decodeUtf8 (Bytes.encodeUtf8 text) >>= Json.parse) = some value
    rw [Bytes.decodeUtf8_encodeUtf8]
    exact h
  content n := by
    change (Bytes.decodeUtf8 (Bytes.encodeUtf8 _) >>= Json.parse) = _
    rw [Bytes.decodeUtf8_encodeUtf8, Option.bind_eq_bind, Option.bind_some]
    exact parse_dumps_field true "expected_current" n

/-- The network carries one advance from 7. -/
def anchor : AntiRollbackAnchor ℕ where
  read counter := if counter = 7 then (.ok 7, 7) else (failure .connect, counter)
  advance expected counter :=
    if expected = 7 ∧ counter = 7 then (.ok 8, 8) else (failure .connect, counter)

theorem exchanged_lost {permit : Tools → ℕ → ℕ → Prop} {server : WitnessHTTPServer}
    {request : Request} {counter : ℕ} (f : Failure) :
    Exchanged permit server request counter (.failed f) counter :=
  ⟨counter, _, Nat.le_refl _, .here _ _, .inl ⟨f, rfl⟩⟩

theorem read_anchor (counter : ℕ) : anchor.read counter =
    if counter = 7 then (.ok 7, 7) else (failure .connect, counter) := rfl

theorem advance_anchor (expected counter : ℕ) : anchor.advance expected counter =
    if expected = 7 ∧ counter = 7 then (.ok 8, 8) else (failure .connect, counter) := rfl

theorem advanceRequest_client : advanceRequest client 7 = request := by
  have hlength : (client.content 7).length = 22 := by decide
  rw [advanceRequest, hlength]
  rfl

theorem through : Through Certain server client anchor where
  read counter := by
    rw [read_anchor]
    by_cases h : counter = 7
    · subst h
      have hread : Goes Certain (server.handle (readRequest client)) 7 (.ret ⟨200, .value 7⟩) 7 :=
        goes_bind.2 (.inr ⟨.ok 7, 7,
          goes_attempt.2 ⟨_, goes_readCounter_tools (certain (by decide)) (by decide), rfl⟩,
          .here _ _⟩)
      refine ⟨_, ⟨7, _, Nat.le_refl _, hread, .inr ⟨_, rfl, rfl⟩⟩, ?_⟩
      rw [if_pos rfl, TpmHostWitnessAnchor.read, if_neg (not_not.2 rfl)]
      exact (decodeValue_value conforms_client rfl).symm
    · rw [if_neg h]
      exact ⟨.failed .connect, exchanged_lost .connect, rfl⟩
  advance expected counter := by
    rw [advance_anchor]
    by_cases h : expected = 7 ∧ counter = 7
    · obtain ⟨rfl, rfl⟩ := h
      have hadvance : Goes Certain (server.handle request) 7 (.ret ⟨200, .value 8⟩) 8 :=
        goes_request (certain (by decide)) (certain (by decide)) (certain (by decide))
      rw [advanceRequest_client, if_pos ⟨rfl, rfl⟩]
      refine ⟨_, ⟨7, _, Nat.le_refl _, hadvance, .inr ⟨_, rfl, rfl⟩⟩, ?_⟩
      rw [TpmHostWitnessAnchor.advance, if_neg (by decide), if_neg (not_not.2 rfl)]
      exact (decodeValue_value conforms_client rfl).symm
    · rw [if_neg h]
      exact ⟨.failed .connect, exchanged_lost .connect, rfl⟩

/-- A store whose mark is the counter of the daemon, and the attempt on it. -/
theorem exists_accepted : ∃ (store : StoreIdentity) (db db' : Database),
    Tier1.HighWaterMark.read store db = .ok 7 ∧
      Tier1.HighWaterMark.beforeExecutingTransition store anchor db 7 = (.ok db', 8) := by
  have hlt : ∀ n, n < 10 → n < 10 ^ Tier1.intMaxStrDigits := fun n hn =>
    hn.trans_le (Nat.le_self_pow (by decide) 10)
  let store : StoreIdentity := (Tier1.Sample.store true none).toStoreIdentity
  have hpersist : ∀ n, n < 10 → ∀ db : Database,
      ∃ db', Tier1.HighWaterMark.persist store n db = .ok db' := by
    intro n hn db
    obtain ⟨row, hrow, -⟩ := Tier1.HighWaterMark.exists_row store (hlt n hn)
    refine ⟨db.upsertAnchor row, ?_⟩
    rw [Tier1.HighWaterMark.persist, hrow]
    rfl
  obtain ⟨db, hdb⟩ := hpersist 7 (by decide) {}
  obtain ⟨db', hdb'⟩ := hpersist 8 (by decide) db
  have hmark := Tier1.HighWaterMark.read_persist hdb
  refine ⟨store, db, db', hmark, ?_⟩
  rw [Tier1.HighWaterMark.beforeExecutingTransition, hmark, read_anchor, if_pos rfl]
  dsimp only
  rw [if_pos rfl, advance_anchor, if_pos ⟨rfl, rfl⟩]
  dsimp only
  rw [hdb']

/-- The attempt is accepted, and a second one on a copy of the store is not. -/
theorem marks_of_attempts_sample : ∃ a b : Attempt, a.store = b.store ∧ a.db = b.db ∧
    a.Accepts 7 ∧ ¬b.Accepts 7 := by
  obtain ⟨store, db, db', hmark, haccepted⟩ := exists_accepted
  have hstart : Attempts Certain server 7 [] 7 := .start
  have hfirst := hstart.attempt store db conforms_client through
  rw [haccepted] at hfirst
  have hsecond := hfirst.attempt store db conforms_client through
  have haccepts : Attempt.Accepts ⟨store, db, .ok db'⟩ 7 := ⟨hmark, db', rfl⟩
  refine ⟨⟨store, db, .ok db'⟩,
    ⟨store, db, (Tier1.HighWaterMark.beforeExecutingTransition store anchor db 8).1⟩,
    rfl, rfl, haccepts, fun hcopy => ?_⟩
  have hpairwise := (marks_of_attempts hsecond).1
  have hlt := List.rel_of_pairwise_cons hpairwise (List.mem_singleton_self _) 7 7 haccepts hcopy
  exact Nat.lt_irrefl 7 hlt

theorem gate_refines_anchorOf_sample : ∃ (store : StoreIdentity) (db : Database) (db' : Database),
    ∃ anchorRead anchorAdvance past,
      Tier1.HighWaterMark.beforeExecutingTransition store (Tier1.anchorOf
        { Tier1.Sample.answers (.timeout true) with
          anchorRead := anchorRead, anchorAdvance := anchorAdvance }) db (7 + past) =
        (.ok db', 8) := by
  obtain ⟨store, db, db', -, haccepted⟩ := exists_accepted
  obtain ⟨anchorRead, anchorAdvance, past, heq⟩ :=
    gate_refines_anchorOf conforms_client through (Tier1.Sample.answers (.timeout true))
  exact ⟨store, db, db', anchorRead, anchorAdvance, past, heq.symm.trans haccepted⟩

end Sample

end WitnessDaemon
