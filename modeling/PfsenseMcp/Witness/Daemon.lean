import Mathlib.Data.Int.Notation
import Mathlib.Data.Nat.Notation
import PfsenseMcp.Python.Json
import PfsenseMcp.Witness.Service

/-!
# The HTTP surface of the witness daemon

`witness_daemon/http_server.py`: one route reads the counter, the other one advances it, for clients
whose certificate is on a list. The runs are those of any number of threads with one request each,
which includes the server that handles one request after the other. Only the service takes the lock:
a request that is refused before is answered at any time.

## Main results

* `goes_handle`: what a request does to the counter, wherever it stops;
* `counter_of_reachable`: in every run, each step of the counter was asked for by a listed client
  that expected the value before it, an answer of `/anchor/advance` is the expected value or the
  next one, and no two answers claim the same step;
* `accepted_once_of_reachable`: if unknown increments have happened, no two calls are accepted for
  the same value.
-/

namespace WitnessDaemon

open Python Concurrency Procedure
open Tier1 (AdvanceOutcome)

/-! ### Requests and answers -/

/-- The methods that the handler implements. -/
inductive Method where
  | get
  | post
deriving DecidableEq, Repr

/-- A request, as `http.server` hands it over. -/
structure Request where
  method : Method
  path : String
  /-- `_peer_certificate_fingerprint` of its connection. -/
  fingerprint : Option String
  /-- `int` of the header `Content-Length`, if there is one; `some none` is a `ValueError`. -/
  contentLength : Option (Option ℤ)
  /-- What can be read from the connection. -/
  body : Bytes

/-- What is put into the body of an answer. -/
inductive Payload where
  | error (message : String)
  | value (value : ℕ)
deriving DecidableEq, Repr

/-- `_send_json`. -/
structure Response where
  status : ℕ
  payload : Payload
deriving DecidableEq, Repr

/-- An answer that refuses a request before the service is called. -/
structure Refusal where
  status : ℕ
  message : String

/-- The answer. -/
def Refusal.response (refusal : Refusal) : Response := ⟨refusal.status, .error refusal.message⟩

/-- `json.dumps(payload)`, with a space after the colon. -/
def Payload.text : Payload → String
  | .error message => String.ofList ('{' :: (Json.dumpString true "error" ++ ':' :: ' ' ::
      (Json.dumpString true message ++ ['}'])))
  | .value n => String.ofList ('{' :: (Json.dumpString true "value" ++ ':' :: ' ' ::
      (Json.dumpNat n ++ ['}'])))

/-- The body of an answer. -/
def Response.body (response : Response) : Bytes := Bytes.encodeUtf8 response.payload.text

/-! ### The handler -/

/-- `_MAX_BODY_BYTES`. -/
def maxBodyBytes : ℤ := 4096

/-- `WitnessHTTPServer`, with the fingerprints of the clients that may advance. -/
structure WitnessHTTPServer where
  advanceAllowedFingerprints : List String

namespace WitnessHTTPServer

variable (server : WitnessHTTPServer)

/-- Refuse the request, unless the condition holds. -/
def refuseUnless (condition : Prop) [Decidable condition] (status : ℕ) (message : String) :
    Except Refusal Unit :=
  if condition then .ok () else .error ⟨status, message⟩

/-- The length of the body, from its header. -/
def bodyLength : Option (Option ℤ) → Except Refusal ℤ
  | none => .ok (-1)
  | some none => .error ⟨400, "invalid request"⟩
  | some (some length) => .ok length

/-- The expected value in a body. Nothing else of it is looked at. -/
def expectedCurrent (raw : Bytes) : Except Refusal ℕ :=
  match Bytes.decodeUtf8 raw >>= Json.parse with
  | some (.obj fields) =>
    match fields.lookup "expected_current" with
    | some (.int value) =>
      if value < 0 then .error ⟨400, "invalid request"⟩ else .ok value.toNat
    | _ => .error ⟨400, "invalid request"⟩
  | _ => .error ⟨400, "invalid request"⟩

/-- `do_POST` up to its call of the service. -/
def authorize (request : Request) : Except Refusal ℕ := do
  refuseUnless (request.path = "/anchor/advance") 404 "not found"
  -- before anything of the body is read
  refuseUnless (∃ fingerprint ∈ server.advanceAllowedFingerprints,
    request.fingerprint = some fingerprint) 403 "forbidden"
  let length ← bodyLength request.contentLength
  refuseUnless (0 ≤ length ∧ length ≤ maxBodyBytes) 400 "invalid request"
  expectedCurrent (request.body.take length.toNat)

/-- The answer of `/anchor/read`. -/
def readAnswer : Except WitnessError ℕ → Response
  | .error _ => ⟨503, .error "anchor unavailable"⟩
  | .ok value => ⟨200, .value value⟩

/-- The answer of `/anchor/advance`. -/
def advanceAnswer : Except WitnessError AdvanceOutcome → Response
  | .error _ => ⟨503, .error "anchor unavailable"⟩
  | .ok outcome =>
    if outcome.conflict = true then ⟨409, .error "conflict"⟩ else ⟨200, .value outcome.value⟩

/-- `do_GET`. -/
def doGET (request : Request) : Daemon Response :=
  if request.path ≠ "/anchor/read" then return ⟨404, .error "not found"⟩
  else do
    let value ← WitnessService.read.attempt
    return readAnswer value

/-- `do_POST`. -/
def doPOST (request : Request) : Daemon Response :=
  match server.authorize request with
  | .error refusal => return refusal.response
  | .ok expected => do
    let outcome ← (WitnessService.advance expected).attempt
    return advanceAnswer outcome

/-- `WitnessRequestHandler`. -/
def handle (request : Request) : Daemon Response :=
  match request.method with
  | .get => doGET request
  | .post => server.doPOST request

/-- The request is a permitted one to advance the counter from a value. -/
def Asks (request : Request) (expected : ℕ) : Prop :=
  request.method = .post ∧ server.authorize request = .ok expected

end WitnessHTTPServer

open WitnessHTTPServer

theorem ok_of_refuseUnless {condition : Prop} [Decidable condition] {status : ℕ}
    {message : String} {u : Unit} (h : refuseUnless condition status message = .ok u) :
    condition := by
  by_contra hnot
  rw [refuseUnless, if_neg hnot] at h
  cases h

/-- The inversion of a sequence of checks. -/
theorem bind_eq_ok {α β : Type} {x : Except Refusal α} {f : α → Except Refusal β} {b : β} :
    (x >>= f) = .ok b ↔ ∃ a, x = .ok a ∧ f a = .ok b := by
  cases x with
  | error refusal =>
    constructor
    · intro h
      cases h
    · rintro ⟨a, ha, -⟩
      cases ha
  | ok a =>
    refine ⟨fun h => ⟨a, rfl, h⟩, ?_⟩
    rintro ⟨a', ha, hb⟩
    cases ha
    exact hb

/-- What a request has to say to ask for an advance. -/
theorem of_authorize {server : WitnessHTTPServer} {request : Request} {expected : ℕ}
    (h : server.authorize request = .ok expected) :
    request.path = "/anchor/advance" ∧
    (∃ fingerprint ∈ server.advanceAllowedFingerprints, request.fingerprint = some fingerprint) ∧
    ∃ length, bodyLength request.contentLength = .ok length ∧ 0 ≤ length ∧ length ≤ maxBodyBytes ∧
      expectedCurrent (request.body.take length.toNat) = .ok expected := by
  simp only [authorize, bind_eq_ok] at h
  obtain ⟨_, hpath, _, hlisted, length, hlength, _, hbounds, hexpected⟩ := h
  have hbounds := ok_of_refuseUnless hbounds
  exact ⟨ok_of_refuseUnless hpath, ok_of_refuseUnless hlisted, length, hlength, hbounds.1,
    hbounds.2, hexpected⟩

/-- The client of the request is on the list. -/
theorem mem_of_asks {server : WitnessHTTPServer} {request : Request} {expected : ℕ}
    (h : server.Asks request expected) :
    ∃ fingerprint ∈ server.advanceAllowedFingerprints, request.fingerprint = some fingerprint :=
  (of_authorize h.2).2.1

/-- A body with one field, as compact JSON, is read back. -/
theorem parse_dumps_field (b : Bool) (key : String) (value : ℤ) :
    Json.parse (Json.dumps b (.obj [(key, .int value)])) = some (.obj [(key, .int value)]) := by
  have hdistinct : Json.Distinct (.obj [(key, .int value)]) := by
    simp [Json.Distinct, Json.DistinctFields]
  rw [Json.parse, Json.loads_dumps b rfl, Option.map_some, Json.asDict_of_distinct _ hdistinct]

/-- A well-formed request of a listed client asks for what its body says. -/
theorem asks_of_body {server : WitnessHTTPServer} {request : Request} {expected : ℕ}
    (hmethod : request.method = .post) (hpath : request.path = "/anchor/advance")
    (hlisted : ∃ fingerprint ∈ server.advanceAllowedFingerprints,
      request.fingerprint = some fingerprint)
    (hlength : request.contentLength = some (some (request.body.length : ℤ)))
    (hmax : request.body.length ≤ 4096)
    (hbody : (Bytes.decodeUtf8 request.body >>= Json.parse) =
      some (.obj [("expected_current", .int expected)])) : server.Asks request expected := by
  refine ⟨hmethod, ?_⟩
  have hbounds : (0 : ℤ) ≤ request.body.length ∧ (request.body.length : ℤ) ≤ maxBodyBytes := by
    unfold maxBodyBytes
    omega
  unfold authorize
  rw [refuseUnless, if_pos hpath, refuseUnless, if_pos hlisted, hlength]
  change (refuseUnless _ 400 _ >>= fun _ => expectedCurrent (request.body.take _)) = _
  rw [refuseUnless, if_pos hbounds]
  change expectedCurrent (request.body.take request.body.length) = _
  rw [List.take_length, expectedCurrent, hbody]
  rfl

theorem response_ne {refusal : Refusal} {value : ℕ} :
    refusal.response ≠ ⟨200, .value value⟩ := by
  intro h
  have hpayload := congrArg Response.payload h
  cases hpayload

/-! ### One request -/

section Goes

variable {permit : Tools → ℕ → ℕ → Prop} {counter counter' : ℕ}
  {server : WitnessHTTPServer} {request : Request}

/-- A reading that is answered with a value is answered with the counter. -/
theorem goes_doGET (hpermit : Conforming permit) {q : Daemon Response}
    (h : Goes permit (doGET request) counter q counter') :
    counter' = counter ∧ ∀ value, q = .ret ⟨200, .value value⟩ → value = counter := by
  unfold doGET at h
  by_cases hpath : request.path = "/anchor/read"
  · rw [if_neg (not_not.2 hpath)] at h
    rcases goes_bind.1 h with ⟨q', hq', hne, rfl⟩ | ⟨read, t, hread, hret⟩
    · obtain ⟨p, hp, -⟩ := goes_attempt.1 hq'
      exact ⟨(goes_readCounter hpermit hp).1, fun value hq => absurd hq (bind_ne_ret hne _)⟩
    · obtain ⟨p, hp, hattempt⟩ := goes_attempt.1 hread
      obtain rfl := attempt_eq_ret.1 hattempt.symm
      obtain ⟨rfl, hvalue⟩ := goes_readCounter hpermit hp
      obtain ⟨rfl, rfl⟩ := goes_ret.1 hret
      refine ⟨rfl, fun value hq => ?_⟩
      cases read with
      | error e => cases hq
      | ok read =>
        cases hq
        exact hvalue _ rfl
  · rw [if_pos hpath] at h
    obtain ⟨rfl, rfl⟩ := goes_ret.1 h
    exact ⟨rfl, fun value hq => by cases hq⟩

/-- How a request to advance leaves the counter. -/
def Advances (permit : Tools → ℕ → ℕ → Prop) (expected counter counter' : ℕ) (q : Daemon Response) :
    Prop :=
  (counter' = counter ∨ counter = expected ∧ counter' = counter + 1) ∧
    ∀ value, q = .ret ⟨200, .value value⟩ → counter = expected ∧ value = counter' ∧
      (Determined permit → counter' = counter + 1)

theorem goes_doPOST (hpermit : Conforming permit) {q : Daemon Response}
    (h : Goes permit (server.doPOST request) counter q counter') :
    (counter' = counter ∧ ∀ value, q ≠ .ret ⟨200, .value value⟩) ∨
      ∃ expected, server.authorize request = .ok expected ∧
        Advances permit expected counter counter' q := by
  unfold doPOST at h
  cases hauthorize : server.authorize request with
  | error refusal =>
    rw [hauthorize] at h
    obtain ⟨rfl, rfl⟩ := goes_ret.1 h
    exact .inl ⟨rfl, fun value hq => response_ne (ret.inj hq)⟩
  | ok expected =>
    rw [hauthorize] at h
    refine .inr ⟨expected, rfl, ?_⟩
    rcases goes_bind.1 h with ⟨q', hq', hne, rfl⟩ | ⟨outcome, t, hadvance, hret⟩
    · obtain ⟨p, hp, -⟩ := goes_attempt.1 hq'
      exact ⟨(goes_advance hpermit hp).1, fun value hq => absurd hq (bind_ne_ret hne _)⟩
    · obtain ⟨p, hp, hattempt⟩ := goes_attempt.1 hadvance
      obtain rfl := attempt_eq_ret.1 hattempt.symm
      obtain ⟨hmoves, houtcome⟩ := goes_advance hpermit hp
      obtain ⟨rfl, rfl⟩ := goes_ret.1 hret
      refine ⟨hmoves, fun value hq => ?_⟩
      cases outcome with
      | error e => cases hq
      | ok outcome =>
        rcases houtcome outcome rfl with ⟨rfl, -, -⟩ | ⟨rfl, hcounter, hcertain⟩
        · cases hq
        · cases hq
          exact ⟨hcounter, rfl, hcertain⟩

/-- What a request may do to the counter, wherever it stops. -/
theorem goes_handle (hpermit : Conforming permit) {q : Daemon Response}
    (h : Goes permit (server.handle request) counter q counter') :
    (counter' = counter ∧ ∀ value, q = .ret ⟨200, .value value⟩ →
      value = counter ∧ ∀ expected, ¬server.Asks request expected) ∨
    ∃ expected, server.Asks request expected ∧ Advances permit expected counter counter' q := by
  unfold handle at h
  cases hmethod : request.method with
  | get =>
    rw [hmethod] at h
    obtain ⟨hsame, hvalue⟩ := goes_doGET hpermit h
    refine .inl ⟨hsame, fun value hq => ⟨hvalue value hq, fun expected hasks => ?_⟩⟩
    rw [Asks, hmethod] at hasks
    cases hasks.1
  | post =>
    rw [hmethod] at h
    rcases goes_doPOST hpermit h with ⟨hsame, hnone⟩ | ⟨expected, hauthorize, hadvances⟩
    · exact .inl ⟨hsame, fun value hq => absurd hq (hnone value)⟩
    · exact .inr ⟨expected, ⟨hmethod, hauthorize⟩, hadvances⟩

theorem asks_unique {expected expected' : ℕ} (h : server.Asks request expected)
    (h' : server.Asks request expected') : expected = expected' :=
  Except.ok.inj (h.2.symm.trans h'.2)

end Goes

/-! ### All runs -/

/-- The daemon in front of a TPM, and its requests in the order of their arrival. -/
def daemon (server : WitnessHTTPServer) (requests : ℕ → Request)
    (permit : Tools → ℕ → ℕ → Prop) : Guarded ℕ Tools WitnessError Response where
  init _ := True
  program call p := p = server.handle (requests call)
  permit := permit

/-- The call has been answered with a value. -/
def Reports (cfg : Guarded.Config ℕ Tools WitnessError Response) (call value : ℕ) : Prop :=
  cfg.calls call = some (.ended (.ok ⟨200, .value value⟩))

section Runs

variable {server : WitnessHTTPServer} {requests : ℕ → Request} {permit : Tools → ℕ → ℕ → Prop}
  {counter : ℕ} {log : List (Execution ℕ Tools WitnessError Response)} {counter' : ℕ}
  {cfg : Guarded.Config ℕ Tools WitnessError Response}

/-- The executions of the requests, one after the other. -/
def Handles (server : WitnessHTTPServer) (requests : ℕ → Request)
    (log : List (Execution ℕ Tools WitnessError Response)) : Prop :=
  ∀ e ∈ log, e.procedure = server.handle (requests e.call)

/-- Every value that the counter has left was the expected one of a request. -/
def AskedFor (server : WitnessHTTPServer) (requests : ℕ → Request) (calls : ℕ → Prop)
    (counter counter' : ℕ) : Prop :=
  counter ≤ counter' ∧ ∀ value, counter ≤ value → value < counter' →
    ∃ call, calls call ∧ server.Asks (requests call) value

theorem AskedFor.trans {calls : ℕ → Prop} {c₁ c₂ c₃ : ℕ}
    (h : AskedFor server requests calls c₁ c₂) (h' : AskedFor server requests calls c₂ c₃) :
    AskedFor server requests calls c₁ c₃ := by
  refine ⟨h.1.trans h'.1, fun value hle hlt => ?_⟩
  rcases Nat.lt_or_ge value c₂ with hvalue | hvalue
  · exact h.2 value hle hvalue
  · exact h'.2 value hvalue hlt

/-- One request moves the counter as it asks for. -/
theorem askedFor_of_goes (hpermit : Conforming permit) {call : ℕ}
    {q : Daemon Response} {calls : ℕ → Prop} (hcall : calls call)
    (h : Goes permit (server.handle (requests call)) counter q counter') :
    AskedFor server requests calls counter counter' := by
  rcases goes_handle hpermit h with ⟨rfl, -⟩ | ⟨expected, hasks, ⟨rfl | ⟨rfl, rfl⟩, -⟩⟩
  · exact ⟨Nat.le_refl _, fun value hle hlt => absurd hle (Nat.not_le_of_lt hlt)⟩
  · exact ⟨Nat.le_refl _, fun value hle hlt => absurd hle (Nat.not_le_of_lt hlt)⟩
  · refine ⟨Nat.le_succ _, fun value hle hlt => ?_⟩
    obtain rfl := Nat.le_antisymm hle (Nat.le_of_lt_succ hlt)
    exact ⟨call, hcall, hasks⟩

/-- What the answer to a request says about the counter, then and later. -/
def Truthful (server : WitnessHTTPServer) (permit : Tools → ℕ → ℕ → Prop) (start : ℕ)
    (request : Request) (value counter : ℕ) : Prop :=
  start ≤ value ∧ value ≤ counter ∧ ∀ expected, server.Asks request expected →
    (value = expected ∨ value = expected + 1) ∧
      (Determined permit → value = expected + 1)

theorem Truthful.mono {start value c c' : ℕ} {request : Request}
    (h : Truthful server permit start request value c) (hle : c ≤ c') :
    Truthful server permit start request value c' :=
  ⟨h.1, h.2.1.trans hle, h.2.2⟩

/-- An answer is truthful when it is given. -/
theorem truthful_of_goes (hpermit : Conforming permit) {start : ℕ}
    {request : Request} (hstart : start ≤ counter) {value : ℕ}
    (h : Goes permit (server.handle request) counter (.ret ⟨200, .value value⟩) counter') :
    Truthful server permit start request value counter' := by
  rcases goes_handle hpermit h with ⟨rfl, hvalue⟩ | ⟨expected, hasks, hmoves, hvalue⟩
  · obtain ⟨rfl, hnone⟩ := hvalue value rfl
    exact ⟨hstart, Nat.le_refl _, fun expected hasks => absurd hasks (hnone expected)⟩
  · obtain ⟨rfl, rfl, hcertain⟩ := hvalue value rfl
    have hle : counter ≤ value := by
      rcases hmoves with rfl | ⟨-, rfl⟩
      · exact Nat.le_refl _
      · exact Nat.le_succ _
    refine ⟨hstart.trans hle, Nat.le_refl _, fun expected hasks' => ?_⟩
    obtain rfl := asks_unique hasks hasks'
    exact ⟨hmoves.imp id And.right, hcertain⟩

/-- The counter never goes back. -/
theorem le_of_goes (hpermit : Conforming permit) {request : Request}
    {q : Daemon Response} (h : Goes permit (server.handle request) counter q counter') :
    counter ≤ counter' := by
  rcases goes_handle hpermit h with ⟨rfl, -⟩ | ⟨expected, -, ⟨rfl | ⟨-, rfl⟩, -⟩⟩
  · exact Nat.le_refl _
  · exact Nat.le_refl _
  · exact Nat.le_succ _

/-- Both executions answer that they have moved the counter from one value. -/
def SameAdvance (server : WitnessHTTPServer) (requests : ℕ → Request)
    (e e' : Execution ℕ Tools WitnessError Response) : Prop :=
  ∃ expected, server.Asks (requests e.call) expected ∧ server.Asks (requests e'.call) expected ∧
    e.rest = .ret ⟨200, .value (expected + 1)⟩ ∧ e'.rest = .ret ⟨200, .value (expected + 1)⟩

/-- The answer that an execution gives is truthful. -/
def Told (server : WitnessHTTPServer) (requests : ℕ → Request) (permit : Tools → ℕ → ℕ → Prop)
    (start : ℕ) (e : Execution ℕ Tools WitnessError Response) (counter : ℕ) : Prop :=
  ∀ value, e.rest = .ret ⟨200, .value value⟩ →
    Truthful server permit start (requests e.call) value counter

/-- The requests, executed one after the other: answers stay truthful, and none of them is given
twice. -/
theorem serial_handles (hpermit : Conforming permit)
    (h : Serial permit counter log counter') (hlog : Handles server requests log) :
    log.Pairwise (fun e e' => ¬SameAdvance server requests e e') ∧
      ∀ e ∈ log, Told server requests permit counter e counter' := by
  refine Serial.pairwise (R := fun e e' => ¬SameAdvance server requests e e')
    (P := fun s => counter ≤ s) h (Nat.le_refl _) ?_ ?_ ?_ ?_
  · intro e he s s' hle hgoes
    rw [hlog e he] at hgoes
    exact hle.trans (le_of_goes hpermit hgoes)
  · intro e he s s' hle hgoes value hvalue
    rw [hlog e he, hvalue] at hgoes
    exact truthful_of_goes hpermit hle hgoes
  · intro e' he' e s s' hgoes hafter value hvalue
    rw [hlog e' he'] at hgoes
    exact (hafter value hvalue).mono (le_of_goes hpermit hgoes)
  · rintro e' he' e s s' hafter hgoes ⟨expected, -, hasks', hvalue, hvalue'⟩
    -- the first answer says that the counter has passed the value, the second one that it has not
    obtain ⟨-, hle, -⟩ := hafter _ hvalue
    rw [hlog e' he', hvalue'] at hgoes
    rcases goes_handle hpermit hgoes with ⟨-, hread⟩ | ⟨expected', hasks, -, hadvance⟩
    · exact (hread _ rfl).2 expected hasks'
    · obtain rfl := asks_unique hasks hasks'
      obtain ⟨rfl, -, -⟩ := hadvance _ rfl
      exact absurd hle (Nat.not_succ_le_self _)

theorem serial_askedFor (hpermit : Conforming permit) {calls : ℕ → Prop}
    (h : Serial permit counter log counter') (hlog : Handles server requests log)
    (hcalls : ∀ e ∈ log, calls e.call) : AskedFor server requests calls counter counter' := by
  refine Serial.invariant (P := AskedFor server requests calls counter) h ?_ ?_
  · exact ⟨Nat.le_refl _, fun value hle hlt => absurd hle (Nat.not_le_of_lt hlt)⟩
  · intro e he s s' hs hgoes
    rw [hlog e he] at hgoes
    exact hs.trans (askedFor_of_goes hpermit (hcalls e he) hgoes)

section Reachable

variable (hpermit : Conforming permit) (h : (daemon server requests permit).Reachable counter cfg)

include hpermit h

/-- A run is an execution of requests one after the other, and the one that holds the lock. -/
theorem exists_serial : ∃ log s₁, (daemon server requests permit).Explains counter log s₁ cfg ∧
    Handles server requests log ∧
      AskedFor server requests (fun call => call < cfg.next) s₁ cfg.shared := by
  obtain ⟨log, s₁, hexplains⟩ := h.serial
  refine ⟨log, s₁, hexplains, fun e he => (hexplains.program e he).1, ?_⟩
  by_cases hholder : ∃ call q, cfg.calls call = some (.holding q)
  · obtain ⟨call, q, hcall⟩ := hholder
    obtain ⟨p, hp, hgoes⟩ := hexplains.holding call q hcall
    have hp : p = server.handle (requests call) := hp
    subst hp
    exact askedFor_of_goes hpermit (hexplains.lt_next hcall) hgoes
  · have hfree : cfg.Free := fun call q hcall => hholder ⟨call, q, hcall⟩
    rw [hexplains.free hfree]
    exact ⟨Nat.le_refl _, fun value hle hlt => absurd hle (Nat.not_le_of_lt hlt)⟩

/-- Whatever the schedule, the counter is moved as it was asked for, and answers are truthful. -/
theorem runs_askedFor : AskedFor server requests (fun call => call < cfg.next) counter cfg.shared ∧
    ∀ call value, Reports cfg call value →
      Truthful server permit counter (requests call) value cfg.shared := by
  obtain ⟨log, s₁, hexplains, hlog, hholder⟩ := exists_serial hpermit h
  have hserial : AskedFor server requests (fun call => call < cfg.next) counter s₁ :=
    serial_askedFor hpermit hexplains.serial hlog fun e he => (hexplains.program e he).2
  refine ⟨hserial.trans hholder, fun call value hcall => ?_⟩
  obtain ⟨p, hmem⟩ := hexplains.ended call _ hcall
  exact ((serial_handles hpermit hexplains.serial hlog).2 _ hmem value rfl).mono hholder.1

theorem runs_once {call call' expected : ℕ} (hne : call ≠ call')
    (hasks : server.Asks (requests call) expected) (hasks' : server.Asks (requests call') expected)
    (hcall : Reports cfg call (expected + 1)) : ¬Reports cfg call' (expected + 1) := by
  obtain ⟨log, s₁, hexplains, hlog, -⟩ := exists_serial hpermit h
  intro hcall'
  obtain ⟨p, hmem⟩ := hexplains.ended call _ hcall
  obtain ⟨p', hmem'⟩ := hexplains.ended call' _ hcall'
  have hpairwise := (serial_handles hpermit hexplains.serial hlog).1
  have : Std.Symm fun e e' => ¬SameAdvance server requests e e' := ⟨fun e e' hnot hsame => by
    obtain ⟨expected, h₁, h₂, h₃, h₄⟩ := hsame
    exact hnot ⟨expected, h₂, h₁, h₄, h₃⟩⟩
  have hdistinct : (⟨call, p, .ret ⟨200, .value (expected + 1)⟩⟩ :
      Execution ℕ Tools WitnessError Response) ≠ ⟨call', p', .ret ⟨200, .value (expected + 1)⟩⟩ :=
    fun heq => hne (congrArg Execution.call heq)
  exact hpairwise.forall hmem hmem' hdistinct ⟨expected, hasks, hasks', rfl, rfl⟩

end Reachable

/-- In every run the counter only moves where a listed client asks for it, and no two answers claim
the same move. -/
theorem counter_of_reachable (h : (daemon server requests Conforms).Reachable counter cfg) :
    counter ≤ cfg.shared ∧
    (∀ value, counter ≤ value → value < cfg.shared →
      ∃ call, call < cfg.next ∧ server.Asks (requests call) value) ∧
    (∀ call value, Reports cfg call value → counter ≤ value ∧ value ≤ cfg.shared ∧
      ∀ expected, server.Asks (requests call) expected →
        value = expected ∨ value = expected + 1) ∧
    ∀ call call' expected, call ≠ call' → server.Asks (requests call) expected →
      server.Asks (requests call') expected → Reports cfg call (expected + 1) →
        ¬Reports cfg call' (expected + 1) := by
  have hpermit : Conforming Conforms := fun _ _ _ hstep => hstep
  obtain ⟨⟨hle, hasked⟩, htruthful⟩ := runs_askedFor hpermit h
  refine ⟨hle, hasked, fun call value hcall => ?_, fun call call' expected hne hasks hasks' => ?_⟩
  · obtain ⟨hstart, hvalue, hexpected⟩ := htruthful call value hcall
    exact ⟨hstart, hvalue, fun expected hasks => (hexpected expected hasks).1⟩
  · exact runs_once hpermit h hne hasks hasks'

/-- Where unknown increments have happened, a value is handed out as an expected one only once. -/
theorem accepted_once_of_reachable (h : (daemon server requests Certain).Reachable counter cfg)
    {call expected value : ℕ} (hasks : server.Asks (requests call) expected)
    (hcall : Reports cfg call value) :
    value = expected + 1 ∧ expected < cfg.shared ∧
      ∀ call' value', call' ≠ call → server.Asks (requests call') expected →
        ¬Reports cfg call' value' := by
  have hpermit : Conforming Certain := fun _ _ _ hstep => hstep.1
  have hcertain : Determined Certain := fun _ _ _ hstep => hstep
  obtain ⟨-, htruthful⟩ := runs_askedFor hpermit h
  have hvalue : ∀ {call value}, server.Asks (requests call) expected → Reports cfg call value →
      value = expected + 1 := fun hasks hcall =>
    ((htruthful _ _ hcall).2.2 expected hasks).2 hcertain
  obtain rfl := hvalue hasks hcall
  refine ⟨rfl, (htruthful _ _ hcall).2.1, fun call' value' hne hasks' hcall' => ?_⟩
  obtain rfl := hvalue hasks' hcall'
  exact runs_once hpermit h hne.symm hasks hasks' hcall hcall'

end Runs

/-! ### A run with one request -/

namespace Sample

/-- The list has one client. -/
def server : WitnessHTTPServer := ⟨["a1"]⟩

/-- It asks to advance from 7. -/
def request : Request where
  method := .post
  path := "/anchor/advance"
  fingerprint := some "a1"
  contentLength := some (some 22)
  body := Bytes.encodeUtf8 (Json.dumps true (.obj [("expected_current", .int 7)]))

theorem asks : server.Asks request 7 := by
  have hlength : request.body.length = 22 := by decide
  refine asks_of_body rfl rfl ⟨"a1", List.mem_singleton_self _, rfl⟩ ?_ ?_ ?_
  · rw [hlength]
    rfl
  · rw [hlength]
    decide
  · have hbody : request.body = Bytes.encodeUtf8
        (Json.dumps true (.obj [("expected_current", .int 7)])) := rfl
    rw [hbody, Bytes.decodeUtf8_encodeUtf8, Option.bind_eq_bind, Option.bind_some,
      parse_dumps_field]
    rfl

/-- The tools do what they are asked for. -/
def tools : Tools := ⟨.written, .incremented⟩

/-- The request has been answered. -/
def answered : Guarded.Config ℕ Tools WitnessError Response :=
  ⟨8, Function.update (fun _ => none) 0 (some (.ended (.ok ⟨200, .value 8⟩))), 1⟩

theorem handle_request : server.handle request =
    (WitnessService.advance 7).attempt >>= fun outcome => .ret (advanceAnswer outcome) := by
  have hauthorize : server.authorize request = .ok 7 := asks.2
  have hmethod : request.method = .post := rfl
  unfold handle
  rw [hmethod]
  dsimp only
  rw [doPOST, hauthorize]
  rfl

theorem goes_readCounter_tools {permit : Tools → ℕ → ℕ → Prop} {n : ℕ} (h : permit tools n n)
    (hn : n < 2 ^ 64) : Goes permit readCounter n (.ret n) n := by
  have hread : (tools.nvread.output n >>= decodeCounter) = .ok n := decodeCounter_bigEndian hn
  refine .atom tools h ?_
  rw [hread]
  exact .here _ _

/-- A reading, the increment, and a second reading. -/
theorem goes_request {permit : Tools → ℕ → ℕ → Prop} (h₇ : permit tools 7 7)
    (h₈ : permit tools 7 8) (h₉ : permit tools 8 8) :
    Goes permit (server.handle request) 7 (.ret ⟨200, .value 8⟩) 8 := by
  have hincrement : Goes permit incrementCounter.attempt 7 (.ret (.ok ())) 8 :=
    .atom tools h₈ (.here _ _)
  have hconfirm : Goes permit (WitnessService.confirm (.ok ())) 8 (.ret ⟨false, 8⟩) 8 :=
    goes_bind.2 (.inr ⟨8, 8, goes_readCounter_tools h₉ (by decide), .here _ _⟩)
  have hadvance : Goes permit (WitnessService.advance 7) 7 (.ret ⟨false, 8⟩) 8 :=
    goes_bind.2 (.inr ⟨7, 7, goes_readCounter_tools h₇ (by decide),
      goes_bind.2 (.inr ⟨.ok (), 8, hincrement, hconfirm⟩)⟩)
  have hattempt : Goes permit (WitnessService.advance 7).attempt 7 (.ret (.ok ⟨false, 8⟩)) 8 :=
    goes_attempt.2 ⟨_, hadvance, rfl⟩
  rw [handle_request]
  exact goes_bind.2 (.inr ⟨_, 8, hattempt, .here _ _⟩)

theorem reachable {permit : Tools → ℕ → ℕ → Prop} (h₇ : permit tools 7 7) (h₈ : permit tools 7 8)
    (h₉ : permit tools 8 8) :
    (daemon server (fun _ => request) permit).Reachable 7 answered := by
  have hfree : (Guarded.Config.start 7 : Guarded.Config ℕ Tools WitnessError Response).Free := by
    rintro call q ⟨⟩
  have hgoes : Goes permit (server.handle request) 7 (ofExcept (.ok ⟨200, .value 8⟩)) 8 :=
    goes_request h₇ h₈ h₉
  exact Guarded.Reachable.call (.start trivial) hfree rfl hgoes

theorem reports : Reports answered 0 8 := rfl

/-- The move of the run was asked for, and is not claimed by another call. -/
theorem counter_of_reachable_sample : (∃ call, call < 1 ∧ server.Asks request 7) ∧
    ∀ call, 0 ≠ call → ¬Reports answered call 8 := by
  have h : (daemon server (fun _ => request) Conforms).Reachable 7 answered :=
    reachable (by unfold Conforms; decide) (by unfold Conforms; decide) (by unfold Conforms; decide)
  have hcounter := counter_of_reachable h
  exact ⟨hcounter.2.1 7 (Nat.le_refl _) (Nat.lt_succ_self _),
    fun call hne => hcounter.2.2.2 0 call 7 hne asks asks reports⟩

theorem certain {n : ℕ} (h : n < 2 ^ 64) {m : ℕ} : Certain tools m n :=
  ⟨h, fun message hresult => by cases hresult⟩

theorem accepted_once_of_reachable_sample : (8 : ℕ) = 7 + 1 ∧ 7 < answered.shared ∧
    ∀ call' value', call' ≠ 0 → server.Asks request 7 → ¬Reports answered call' value' := by
  have h : (daemon server (fun _ => request) Certain).Reachable 7 answered :=
    reachable (certain (by decide)) (certain (by decide)) (certain (by decide))
  exact accepted_once_of_reachable h asks reports

end Sample

end WitnessDaemon
