import Mathlib.Data.List.Induction
import Mathlib.Data.Rat.Cast.Order
import Mathlib.Tactic.NormNum
import PfsenseMcp.Tier1.Document

/-!
# The session with the Nexus controller

`backends/nexus/session.py`. The session keeps the last access token and the time at which it
expires, which is decoded from the token. The controller may answer every request with anything, and
the clock may read any time.

Not every error of a malformed answer is caught: `int()` of a number that is not finite, the
recursion of the JSON reader, an undecodable content encoding and credentials that have no UTF-8
encoding raise other exceptions. And the token that a refresh brings is returned without another
look at the clock.

## Main results

* `describes_after`: the token and the expiry that a session keeps belong together;
* `session_meets_iff`: the calls on which the session fails closed, after whatever calls.
-/

namespace Backends

open Python Tier1

namespace Nexus

/-! ### Base64 -/

/-- The value of a character after `-` and `_` have been translated to `+` and `/`. -/
def urlsafeValue (c : Fin 0x110000) : Option ℕ :=
  if c.val = 45 then some 62
  else if c.val = 95 then some 63
  else (Text.scalar c).bind Bytes.b64value

/-- `binascii.a2b_base64`: other characters than digits and `=` are skipped. The first three
arguments are the place in the current group of four digits, the bits that are left over from it,
and the number of `=` since the last digit. `none` is a `binascii.Error`. -/
def a2bBase64 (place left pads : ℕ) : Text → Option Bytes
  | [] => if place = 0 then some [] else none
  | c :: cs =>
    if c.val = 61 then
      if 2 ≤ place ∧ 4 ≤ place + pads + 1 then some []
      else a2bBase64 place left (if 2 ≤ place then pads + 1 else pads) cs
    else
      match urlsafeValue c, place with
      | none, _ => a2bBase64 place left pads cs
      | some d, 0 => a2bBase64 1 d 0 cs
      | some d, 1 => (a2bBase64 2 (d % 16) 0 cs).map (Bytes.byte (left * 4 + d / 16) :: ·)
      | some d, 2 => (a2bBase64 3 (d % 4) 0 cs).map (Bytes.byte (left * 16 + d / 4) :: ·)
      | some d, _ => (a2bBase64 0 0 0 cs).map (Bytes.byte (left * 64 + d) :: ·)

/-- `base64.urlsafe_b64decode`: `none` is a `ValueError`. -/
def urlsafeB64decode (text : Text) : Option Bytes :=
  if text.all fun c => c.val < 128 then a2bBase64 0 0 0 text else none

/-! ### The expiry of a token -/

/-- What is raised. -/
inductive Raised where
  | authError (message : String)
  | connectionError (message : String)
  /-- An exception of another class. -/
  | other (cls : String)
deriving DecidableEq, Repr

/-- `PfSenseAuthError` or `PfSenseConnectionError`. -/
def Raised.Expected : Raised → Prop
  | authError _ | connectionError _ => True
  | other _ => False

/-- What is taken from the standard library. -/
structure Library where
  /-- `json.loads` of bytes; `none` is any exception. -/
  jsonLoads : Bytes → Option Document
  /-- `int(value)` of a float; `none` is an `OverflowError` or a `ValueError`. -/
  intOfFloat : String → Option ℤ

theorem isCodePoint_dot : 46 < 0x110000 := by decide

/-- `.` -/
def dot : Fin 0x110000 := ⟨46, isCodePoint_dot⟩

/-- `=` -/
def pad : Fin 0x110000 := ⟨61, by decide⟩

variable (lib : Library)

/-- The payload of a token with three parts. -/
def payload (part : Text) : Option Document :=
  urlsafeB64decode (part ++ List.replicate ((4 - part.length % 4) % 4) pad) >>= lib.jsonLoads

/-- `_decode_jwt_exp`. -/
def decodeJwtExp (token : Text) : Except Raised ℤ :=
  match token.splitOn dot with
  | [_, part, _] =>
    match payload lib part with
    | none => .error (.authError "Nexus access token payload could not be decoded.")
    | some (.obj fields) =>
      match fields.lookup (Text.ofString "exp") with
      | none => .error (.authError "Nexus access token does not contain an 'exp' claim.")
      | some (.int exp) => .ok exp
      | some (.float text) =>
        match lib.intOfFloat text with
        | some exp => .ok exp
        | none => .error (.other "OverflowError or ValueError")
      | some _ => .error (.authError "Nexus access token 'exp' claim is not a valid timestamp.")
    | some _ => .error (.authError "Nexus access token does not contain an 'exp' claim.")
  | _ => .error (.authError "Nexus access token is not a well-formed JWT.")

/-! ### The session -/

/-- What `response.json()` does. -/
inductive Body where
  | value (document : Document)
  /-- Also a `UnicodeDecodeError`. -/
  | valueError
  /-- The text is nested too deeply. -/
  | recursionError

/-- What a request brings. -/
inductive Answer where
  | timeout
  | transportError
  /-- The content encoding of the answer is malformed. -/
  | decodingError
  | response (status : ℕ) (body : Body)

/-- `_REFRESH_SAFETY_MARGIN_SECONDS`. -/
def refreshSafetyMargin : ℤ := 30

/-- `NexusSession`. -/
structure Session where
  username : Text
  password : Text
  secondfactor : Option String := none
  token : Option Text := none
  exp : Option ℤ := none

namespace Session

variable (s : Session)

/-- A field of `_login_payload`: `base64.b64encode(text.encode("utf-8")).decode("ascii")`. -/
def encoded (text : Text) : Except Raised String :=
  match text.toString? with
  | some text => .ok (Bytes.b64encode (Bytes.encodeUtf8 text))
  | none => .error (.other "UnicodeEncodeError")

/-- `_login_payload`. -/
def loginPayload : Except Raised (List (String × String)) := do
  let username ← encoded s.username
  let password ← encoded s.password
  return [("username", username), ("password", password)] ++
    s.secondfactor.toList.map fun text => ("secondfactor", text)

/-- `_handle_login_like_response`: the token and its expiry. -/
def handleLoginLikeResponse (status : ℕ) (body : Body) : Except Raised (Text × ℤ) :=
  if status ≠ 200 then .error (.authError "Nexus Controller authentication failed.")
  else
    match body with
    | .valueError =>
      .error (.authError "Nexus Controller authentication response was not valid JSON.")
    | .recursionError => .error (.other "RecursionError")
    | .value (.obj fields) =>
      match fields.lookup (Text.ofString "token") with
      | some (.str (c :: cs)) => (decodeJwtExp lib (c :: cs)).map fun exp => (c :: cs, exp)
      | _ => .error
        (.authError "Nexus Controller authentication response did not contain a token.")
    | .value _ =>
      .error (.authError "Nexus Controller authentication response did not contain a token.")

/-- What a request with an encodable payload makes of its answer. The messages of a failed
connection differ between `login` and `refresh`. -/
def handle (timeoutMessage transportMessage : String) : Answer → Except Raised (Text × ℤ)
  | .timeout => .error (.connectionError timeoutMessage)
  | .transportError => .error (.connectionError transportMessage)
  | .decodingError => .error (.other "httpx.DecodingError")
  | .response status body => handleLoginLikeResponse lib status body

/-- A request of `login` or `refresh`, which differ in the messages of a failed connection. -/
def post (timeoutMessage transportMessage : String) (answer : Answer) :
    Except Raised (Text × ℤ) := do
  let _ ← s.loginPayload
  handle lib timeoutMessage transportMessage answer

/-- The session after a token has been accepted. -/
def accept (accepted : Text × ℤ) : Session :=
  { s with token := some accepted.1, exp := some accepted.2 }

/-- How a request ends: a token is accepted, or an error is raised and the session stays. -/
def conclude (result : Except Raised (Text × ℤ)) : Except Raised Unit × Session :=
  match result with
  | .ok accepted => (.ok (), s.accept accepted)
  | .error e => (.error e, s)

/-- The request of `login`. -/
def postLogin (answer : Answer) : Except Raised (Text × ℤ) :=
  s.post lib "Nexus Controller login request timed out."
    "Could not connect to the Nexus Controller for login." answer

/-- The request of `refresh`. -/
def postRefresh (answer : Answer) : Except Raised (Text × ℤ) :=
  s.post lib "Nexus Controller refresh request timed out."
    "Could not connect to the Nexus Controller for refresh." answer

/-- `login`. -/
def login (answer : Answer) : Except Raised Unit × Session := s.conclude (s.postLogin lib answer)

/-- `refresh`. -/
def refresh (answer : Answer) : Except Raised Unit × Session :=
  match s.token with
  | none => (.error (.authError "Cannot refresh a Nexus session that has never logged in."), s)
  | some _ => s.conclude (s.postRefresh lib answer)

/-- `time.time() >= exp - _REFRESH_SAFETY_MARGIN_SECONDS`. -/
def isDue (time : ℚ) (exp : ℤ) : Bool := decide (((exp - refreshSafetyMargin : ℤ) : ℚ) ≤ time)

/-- `get_valid_access_token`, at a time of the clock. -/
def getValidAccessToken (time : ℚ) (answer : Answer) : Except Raised Text × Session :=
  match s.token, s.exp with
  | some _, some exp =>
    match if isDue time exp then s.refresh lib answer else (.ok (), s) with
    | (.error e, s') => (.error e, s')
    | (.ok (), s') =>
      match s'.token with
      | some token => (.ok token, s')
      | none => (.error (.authError "Nexus session lost its access token unexpectedly."), s')
  | _, _ => (.error (.authError "Nexus session is not authenticated; call login() first."), s)

end Session

/-! ### Calls -/

/-- A call, with the answer to its request, if it makes one. -/
inductive Call where
  | login (answer : Answer)
  | refresh (answer : Answer)
  | getValidAccessToken (time : ℚ) (answer : Answer)

namespace Call

/-- What a call returns or raises, and the session after it. -/
def run (s : Session) : Call → Except Raised (Option Text) × Session
  | login answer => ((s.login lib answer).1.map fun _ => none, (s.login lib answer).2)
  | refresh answer => ((s.refresh lib answer).1.map fun _ => none, (s.refresh lib answer).2)
  | getValidAccessToken time answer =>
    ((s.getValidAccessToken lib time answer).1.map some, (s.getValidAccessToken lib time answer).2)

/-- The answer that a call gets, if it comes to a request. -/
def asked (s : Session) : Call → Option Answer
  | login answer => some answer
  | refresh answer => if s.token.isSome then some answer else none
  | getValidAccessToken time answer =>
    match s.token, s.exp with
    | some _, some exp => if Session.isDue time exp then some answer else none
    | _, _ => none

end Call

/-- The token in an answer. -/
def Answer.token : Answer → Option Text
  | response 200 (.value (.obj fields)) =>
    match fields.lookup (Text.ofString "token") with
    | some (.str (c :: cs)) => some (c :: cs)
    | _ => none
  | _ => none

/-- The credentials have a UTF-8 encoding. -/
def Session.Encodable (s : Session) : Prop :=
  s.username.toString?.isSome ∧ s.password.toString?.isSome

instance (s : Session) : Decidable s.Encodable := inferInstanceAs (Decidable (_ ∧ _))

/-- The last token that the controller issued: one in an answer to a request, with an expiry that
can be decoded. -/
def issuedAfter (issued : Option Text) (s : Session) (call : Call) : Option Text :=
  match (call.asked s).bind Answer.token with
  | some token =>
    if s.Encodable ∧ (decodeJwtExp lib token).toOption.isSome then some token else issued
  | none => issued

/-- The session and the last token that was issued to it, after some calls. -/
def after (start : Session) (calls : List Call) : Session × Option Text :=
  calls.foldl (fun h call => ((call.run lib h.1).2, issuedAfter lib h.2 h.1 call)) (start, none)

/-- The token and the expiry of a session belong together. -/
def Session.Describes (s : Session) : Prop :=
  (s.token = none ∧ s.exp = none) ∨
    ∃ token exp, s.token = some token ∧ s.exp = some exp ∧ decodeJwtExp lib token = .ok exp

/-- What is asked of a call on a session to which a token was issued last. -/
structure Meets (issued : Option Text) (s : Session) (call : Call) : Prop where
  /-- A token that is returned is the last one, and has not expired. -/
  returned : ∀ time answer token, call = .getValidAccessToken time answer →
    (call.run lib s).1 = .ok (some token) → issuedAfter lib issued s call = some token ∧
      ∃ exp, decodeJwtExp lib token = .ok exp ∧ time < exp
  raised : ∀ e, (call.run lib s).1 = .error e → e.Expected
  /-- A call that fails leaves the session as it was. -/
  kept : ∀ e, (call.run lib s).1 = .error e → (call.run lib s).2 = s
  describes : (call.run lib s).2.Describes lib

/-- The expiry of a token is a float that `int()` refuses. -/
def NotFinite (token : Text) : Prop :=
  ∃ header part signature fields text, token.splitOn dot = [header, part, signature] ∧
    payload lib part = some (.obj fields) ∧
    fields.lookup (Text.ofString "exp") = some (.float text) ∧ lib.intOfFloat text = none

/-- An answer that can be decoded, is not nested too deeply, and has no token whose expiry is not
finite. -/
def Answer.Sound (answer : Answer) : Prop :=
  answer ≠ .decodingError ∧ answer ≠ .response 200 .recursionError ∧
    ∀ token, answer.token = some token → ¬NotFinite lib token

/-- If a call comes to a request, the credentials can be encoded, the answer is sound, and a token
that is returned at once has not expired already. -/
def Safe (s : Session) (call : Call) : Prop :=
  ∀ answer, call.asked s = some answer → s.Encodable ∧ answer.Sound lib ∧
    ∀ time a token exp, call = .getValidAccessToken time a → answer.token = some token →
      decodeJwtExp lib token = .ok exp → time < exp

/-! ### Requests -/

variable {lib : Library} {s : Session}

/-- A computation that is given raises nothing unexpected. -/
theorem expected_ok {α : Type} {a : α} :
    ∀ e, (Except.ok a : Except Raised α) = .error e → e.Expected := nofun

theorem expected_authError {α : Type} {message : String} :
    ∀ e, (Except.error (.authError message) : Except Raised α) = .error e → e.Expected := by
  rintro e ⟨⟩
  trivial

/-- The error of an expiry is an authentication error, unless the expiry is not finite. -/
theorem expected_decodeJwtExp_iff {token : Text} :
    (∀ e, decodeJwtExp lib token = .error e → e.Expected) ↔ ¬NotFinite lib token := by
  constructor
  · rintro h ⟨header, part, signature, fields, text, hsplit, hpayload, hexp, hint⟩
    have herror : decodeJwtExp lib token = .error (.other "OverflowError or ValueError") := by
      simp only [decodeJwtExp, hsplit, hpayload, hexp, hint]
    exact h _ herror
  · intro hfinite
    unfold decodeJwtExp
    split
    · rename_i header part signature hsplit
      split
      · exact expected_authError
      · rename_i fields hpayload
        split
        · exact expected_authError
        · exact expected_ok
        · rename_i text hexp
          split
          · exact expected_ok
          · rename_i hint
            exact absurd ⟨header, part, signature, fields, text, hsplit, hpayload, hexp, hint⟩
              hfinite
        · exact expected_authError
      · exact expected_authError
    · exact expected_authError

/-- An answer has a token, whose expiry is decoded, or is refused. -/
theorem handle_cases (m₁ m₂ : String) (answer : Answer) :
    (∃ token, answer.token = some token ∧ Session.handle lib m₁ m₂ answer =
      (decodeJwtExp lib token).map fun exp => (token, exp)) ∨
    (answer.token = none ∧ ∃ e, Session.handle lib m₁ m₂ answer = .error e ∧
      (e.Expected ↔ answer ≠ .decodingError ∧ answer ≠ .response 200 .recursionError)) := by
  rcases answer with - | - | - | ⟨status, body⟩
  · exact .inr ⟨rfl, _, rfl, by simp [Raised.Expected]⟩
  · exact .inr ⟨rfl, _, rfl, by simp [Raised.Expected]⟩
  · exact .inr ⟨rfl, _, rfl, by simp [Raised.Expected]⟩
  by_cases hstatus : status = 200
  · obtain rfl := hstatus
    have hhandle : Session.handle lib m₁ m₂ (.response 200 body) =
        Session.handleLoginLikeResponse lib 200 body := rfl
    rw [hhandle]
    unfold Session.handleLoginLikeResponse
    rw [if_neg (by decide)]
    rcases body with document | - | -
    · rcases document with - | - | - | - | - | - | fields
      case value.obj =>
        have hlookup : Answer.token (.response 200 (.value (.obj fields))) =
            match fields.lookup (Text.ofString "token") with
            | some (.str (c :: cs)) => some (c :: cs)
            | _ => none := rfl
        rw [hlookup]
        dsimp only
        rcases fields.lookup (Text.ofString "token") with
          - | (- | - | - | - | (- | ⟨c, cs⟩) | - | -)
        case some.str.cons => exact .inl ⟨c :: cs, rfl, rfl⟩
        all_goals exact .inr ⟨rfl, _, rfl, by simp [Raised.Expected]⟩
      all_goals exact .inr ⟨rfl, _, rfl, by simp [Raised.Expected]⟩
    · exact .inr ⟨rfl, _, rfl, by simp [Raised.Expected]⟩
    · exact .inr ⟨rfl, _, rfl, by simp [Raised.Expected]⟩
  · refine .inr ⟨?_, _, if_pos hstatus, by simp [Raised.Expected, hstatus]⟩
    unfold Answer.token
    split
    · rename_i heq
      exact absurd (Answer.response.inj heq).1 hstatus
    · rfl

theorem handle_eq_ok_iff {m₁ m₂ : String} {answer : Answer} {token : Text} {exp : ℤ} :
    Session.handle lib m₁ m₂ answer = .ok (token, exp) ↔
      answer.token = some token ∧ decodeJwtExp lib token = .ok exp := by
  rcases handle_cases m₁ m₂ answer with ⟨found, htoken, hhandle⟩ | ⟨htoken, e, hhandle, -⟩
  · rw [hhandle, htoken, Option.some_inj]
    rcases hexp : decodeJwtExp lib found with e | value
    · constructor
      · exact nofun
      · rintro ⟨rfl, hdecode⟩
        rw [hexp] at hdecode
        cases hdecode
    · constructor
      · intro h
        obtain ⟨rfl, rfl⟩ := Prod.mk.inj (Except.ok.inj h)
        exact ⟨rfl, hexp⟩
      · rintro ⟨rfl, hdecode⟩
        rw [hexp] at hdecode
        obtain rfl := Except.ok.inj hdecode
        rfl
  · rw [hhandle, htoken]
    exact ⟨nofun, fun h => nomatch h.1⟩

theorem expected_handle_iff {m₁ m₂ : String} {answer : Answer} :
    (∀ e, Session.handle lib m₁ m₂ answer = .error e → e.Expected) ↔ answer.Sound lib := by
  unfold Answer.Sound
  rcases handle_cases m₁ m₂ answer with ⟨token, htoken, hhandle⟩ | ⟨htoken, e, hhandle, hexpected⟩
  · have hne : answer ≠ .decodingError ∧ answer ≠ .response 200 .recursionError := by
      constructor
      · rintro rfl
        cases htoken
      · rintro rfl
        cases htoken
    have hmap : (∀ e, Session.handle lib m₁ m₂ answer = .error e → e.Expected) ↔
        ∀ e, decodeJwtExp lib token = .error e → e.Expected := by
      rw [hhandle]
      rcases decodeJwtExp lib token with e | exp <;> simp [Except.map]
    rw [hmap, expected_decodeJwtExp_iff, htoken]
    constructor
    · intro hfinite
      refine ⟨hne.1, hne.2, fun token' heq => ?_⟩
      obtain rfl := Option.some.inj heq
      exact hfinite
    · exact fun h => h.2.2 token rfl
  · rw [hhandle, htoken]
    constructor
    · intro h
      obtain ⟨hdecoding, hdepth⟩ := hexpected.mp (h e rfl)
      exact ⟨hdecoding, hdepth, nofun⟩
    · rintro ⟨hdecoding, hdepth, -⟩ e' heq
      obtain rfl := Except.error.inj heq
      exact hexpected.mpr ⟨hdecoding, hdepth⟩

/-! ### Requests with credentials -/

theorem encoded_cases (text : Text) :
    (text.toString?.isSome ∧ ∃ value, Session.encoded text = .ok value) ∨
      (¬text.toString?.isSome ∧
        Session.encoded text = .error (.other "UnicodeEncodeError")) := by
  unfold Session.encoded
  rcases text.toString? with - | value
  · exact .inr ⟨by simp, rfl⟩
  · exact .inl ⟨rfl, _, rfl⟩

theorem loginPayload_cases (s : Session) :
    (s.Encodable ∧ ∃ value, s.loginPayload = .ok value) ∨
      (¬s.Encodable ∧ s.loginPayload = .error (.other "UnicodeEncodeError")) := by
  unfold Session.Encodable Session.loginPayload
  rcases encoded_cases s.username with ⟨hname, value, hvalue⟩ | ⟨hname, hvalue⟩
  · rcases encoded_cases s.password with ⟨hword, value', hvalue'⟩ | ⟨hword, hvalue'⟩
    · rw [hvalue, hvalue']
      exact .inl ⟨⟨hname, hword⟩, _, rfl⟩
    · rw [hvalue, hvalue']
      exact .inr ⟨fun h => hword h.2, rfl⟩
  · rw [hvalue]
    exact .inr ⟨fun h => hname h.1, rfl⟩

theorem post_eq_ok_iff {m₁ m₂ : String} {answer : Answer} {token : Text} {exp : ℤ} :
    s.post lib m₁ m₂ answer = .ok (token, exp) ↔
      s.Encodable ∧ answer.token = some token ∧ decodeJwtExp lib token = .ok exp := by
  unfold Session.post
  rcases loginPayload_cases s with ⟨hencodable, value, hvalue⟩ | ⟨hencodable, hvalue⟩
  · rw [hvalue]
    show Session.handle lib m₁ m₂ answer = _ ↔ _
    rw [handle_eq_ok_iff]
    exact ⟨fun h => ⟨hencodable, h⟩, fun h => h.2⟩
  · rw [hvalue]
    exact ⟨nofun, fun h => absurd h.1 hencodable⟩

theorem expected_post_iff (m₁ m₂ : String) {answer : Answer} :
    (∀ e, s.post lib m₁ m₂ answer = .error e → e.Expected) ↔ s.Encodable ∧ answer.Sound lib := by
  unfold Session.post
  rcases loginPayload_cases s with ⟨hencodable, value, hvalue⟩ | ⟨hencodable, hvalue⟩
  · rw [hvalue]
    show (∀ e, Session.handle lib m₁ m₂ answer = .error e → e.Expected) ↔ _
    rw [expected_handle_iff]
    exact ⟨fun h => ⟨hencodable, h⟩, fun h => h.2⟩
  · rw [hvalue]
    exact ⟨fun h => (h _ rfl).elim, fun h => absurd h.1 hencodable⟩

/-! ### What a call does -/

/-- What a call returns when its request brought a token. -/
def Call.returns (token : Text) : Call → Option Text
  | getValidAccessToken _ _ => some token
  | _ => none

/-- A call makes no request, and fails or returns the token that the session has; or it makes a
request, which decides how it ends. -/
theorem run_cases (lib : Library) (s : Session) (call : Call) :
    (call.asked s = none ∧ (call.run lib s).2 = s ∧
      ((∃ message, (call.run lib s).1 = .error (.authError message)) ∨
        (∃ time answer token exp, call = .getValidAccessToken time answer ∧
          s.token = some token ∧ s.exp = some exp ∧ Session.isDue time exp = false ∧
          (call.run lib s).1 = .ok (some token)))) ∨
    ∃ answer m₁ m₂, call.asked s = some answer ∧
      ((∃ token exp, s.post lib m₁ m₂ answer = .ok (token, exp) ∧
          call.run lib s = (.ok (call.returns token), s.accept (token, exp))) ∨
        ∃ e, s.post lib m₁ m₂ answer = .error e ∧ call.run lib s = (.error e, s)) := by
  rcases call with answer | answer | ⟨time, answer⟩
  · rw [Call.run, Session.login]
    rcases hpost : s.postLogin lib answer with e | ⟨token, exp⟩
    · exact .inr ⟨answer, _, _, rfl, .inr ⟨e, hpost, rfl⟩⟩
    · exact .inr ⟨answer, _, _, rfl, .inl ⟨token, exp, hpost, rfl⟩⟩
  · rw [Call.run, Session.refresh, Call.asked]
    rcases s.token with - | held
    · exact .inl ⟨rfl, rfl, .inl ⟨_, rfl⟩⟩
    · dsimp only
      rcases hpost : s.postRefresh lib answer with e | ⟨token, exp⟩
      · exact .inr ⟨answer, _, _, rfl, .inr ⟨e, hpost, rfl⟩⟩
      · exact .inr ⟨answer, _, _, rfl, .inl ⟨token, exp, hpost, rfl⟩⟩
  · rcases htoken : s.token with - | held
    · left
      simp [Call.run, Session.getValidAccessToken, Call.asked, htoken, Except.map]
    rcases hexp : s.exp with - | exp
    · left
      simp [Call.run, Session.getValidAccessToken, Call.asked, htoken, hexp, Except.map]
    rcases hdue : Session.isDue time exp with - | -
    · left
      simp [Call.run, Session.getValidAccessToken, Call.asked, htoken, hexp, hdue, Except.map]
    have hasked : (Call.getValidAccessToken time answer).asked s = some answer := by
      simp [Call.asked, htoken, hexp, hdue]
    rcases hpost : s.postRefresh lib answer with e | ⟨token, fresh⟩
    · refine .inr ⟨answer, _, _, hasked, .inr ⟨e, hpost, ?_⟩⟩
      simp [Call.run, Session.getValidAccessToken, Session.refresh, htoken, hexp, hdue, hpost,
        Session.conclude, Except.map]
    · refine .inr ⟨answer, _, _, hasked, .inl ⟨token, fresh, hpost, ?_⟩⟩
      simp [Call.run, Session.getValidAccessToken, Session.refresh, htoken, hexp, hdue, hpost,
        Session.conclude, Except.map, Session.accept, Call.returns]

theorem issuedAfter_of_asked_none {issued : Option Text} {call : Call} (h : call.asked s = none) :
    issuedAfter lib issued s call = issued := by
  rw [issuedAfter, h]
  rfl

/-- A token that is accepted has been issued. -/
theorem issuedAfter_of_post {issued : Option Text} {call : Call} {answer : Answer}
    {m₁ m₂ : String} {token : Text} {exp : ℤ} (h : call.asked s = some answer)
    (hpost : s.post lib m₁ m₂ answer = .ok (token, exp)) :
    issuedAfter lib issued s call = some token := by
  obtain ⟨hencodable, htoken, hexp⟩ := post_eq_ok_iff.mp hpost
  rw [issuedAfter, h, Option.bind_some, htoken]
  dsimp only
  rw [if_pos ⟨hencodable, by rw [hexp]; rfl⟩]

/-- Where no token is accepted, none has been issued. -/
theorem issuedAfter_of_error {issued : Option Text} {call : Call} {answer : Answer}
    {m₁ m₂ : String} {e : Raised} (h : call.asked s = some answer)
    (hpost : s.post lib m₁ m₂ answer = .error e) : issuedAfter lib issued s call = issued := by
  rw [issuedAfter, h, Option.bind_some]
  rcases htoken : answer.token with - | token
  · rfl
  · dsimp only
    rw [if_neg]
    rintro ⟨hencodable, hdecode⟩
    rcases hexp : decodeJwtExp lib token with e' | exp
    · rw [hexp] at hdecode
      cases hdecode
    · rw [post_eq_ok_iff.mpr ⟨hencodable, htoken, hexp⟩] at hpost
      cases hpost

/-! ### Runs -/

/-- A call keeps the token and the expiry together, and the token is the last one that was
issued. -/
theorem describes_run {issued : Option Text} (call : Call) (h : s.Describes lib)
    (hissued : s.token = issued) : (call.run lib s).2.Describes lib ∧
      (call.run lib s).2.token = issuedAfter lib issued s call := by
  rcases run_cases lib s call with ⟨hasked, hsession, -⟩ |
    ⟨answer, m₁, m₂, hasked, ⟨token, exp, hpost, hrun⟩ | ⟨e, hpost, hrun⟩⟩
  · rw [hsession, issuedAfter_of_asked_none hasked]
    exact ⟨h, hissued⟩
  · rw [hrun, issuedAfter_of_post hasked hpost]
    exact ⟨.inr ⟨token, exp, rfl, rfl, (post_eq_ok_iff.mp hpost).2.2⟩, rfl⟩
  · rw [hrun, issuedAfter_of_error hasked hpost]
    exact ⟨h, hissued⟩

/-- A session that is new. -/
def Session.fresh (username password : Text) (secondfactor : Option String) : Session :=
  { username, password, secondfactor }

/-- After any calls, the token and the expiry belong together, and the token is the last one that
was issued. -/
theorem describes_after (lib : Library) (username password : Text)
    (secondfactor : Option String) (calls : List Call) :
    (after lib (.fresh username password secondfactor) calls).1.Describes lib ∧
      (after lib (.fresh username password secondfactor) calls).1.token =
        (after lib (.fresh username password secondfactor) calls).2 := by
  induction calls using List.reverseRecOn with
  | nil => exact ⟨.inl ⟨rfl, rfl⟩, rfl⟩
  | append_singleton calls call ih =>
    rw [after, List.foldl_append]
    exact describes_run call ih.1 ih.2

/-! ### The guarantee -/

/-- A token that is not due has not expired. -/
theorem lt_of_not_isDue {time : ℚ} {exp : ℤ} (h : Session.isDue time exp = false) :
    time < exp := by
  have hlt := not_le.mp (of_decide_eq_false h)
  refine hlt.trans ?_
  exact_mod_cast sub_lt_self exp (by decide : (0 : ℤ) < refreshSafetyMargin)

/-- One call, on a session whose token and expiry belong together. -/
theorem meets_iff_of_describes {issued : Option Text} (call : Call) (h : s.Describes lib)
    (hissued : s.token = issued) : Meets lib issued s call ↔ Safe lib s call := by
  obtain ⟨hdescribes, -⟩ := describes_run call h hissued
  rcases run_cases lib s call with ⟨hasked, hsession, hresult⟩ |
    ⟨answer, m₁, m₂, hasked, ⟨token, exp, hpost, hrun⟩ | ⟨e, hpost, hrun⟩⟩
  · -- Without a request, the guarantee holds.
    refine ⟨fun _ answer hanswer => ?_, fun _ => ?_⟩
    · rw [hasked] at hanswer
      cases hanswer
    rcases hresult with ⟨message, hresult⟩ |
      ⟨time, answer, token, exp, rfl, htoken, hexp, hdue, hresult⟩
    · refine ⟨fun _ _ _ _ hok => ?_, fun e he => ?_, fun _ _ => hsession, hdescribes⟩
      · rw [hresult] at hok
        cases hok
      · rw [hresult] at he
        obtain rfl := Except.error.inj he
        trivial
    · refine ⟨?_, fun e he => ?_, fun _ _ => hsession, hdescribes⟩
      · rintro time' answer' token' hcall hok
        obtain ⟨rfl, rfl⟩ := Call.getValidAccessToken.inj hcall
        rw [hresult] at hok
        obtain rfl := Option.some.inj (Except.ok.inj hok)
        rw [issuedAfter_of_asked_none hasked, ← hissued]
        refine ⟨htoken, exp, ?_, lt_of_not_isDue hdue⟩
        rcases h with ⟨hnone, -⟩ | ⟨held, stored, hheld, hstored, hdecode⟩
        · rw [htoken] at hnone
          cases hnone
        · obtain rfl := Option.some.inj (hheld.symm.trans htoken)
          obtain rfl := Option.some.inj (hstored.symm.trans hexp)
          exact hdecode
      · rw [hresult] at he
        cases he
  · -- The token that is accepted may have expired.
    obtain ⟨hencodable, htoken, hdecode⟩ := post_eq_ok_iff.mp hpost
    have hsound : answer.Sound lib := by
      apply ((expected_post_iff m₁ m₂ (s := s)).mp _).2
      rw [hpost]
      exact expected_ok
    rw [Safe, hasked]
    constructor
    · rintro hmeets _ ⟨⟩
      refine ⟨hencodable, hsound, ?_⟩
      rintro time a token' exp' rfl htoken' hdecode'
      obtain ⟨-, found, hfound, hlt⟩ :=
        hmeets.returned time a token rfl (congrArg Prod.fst hrun)
      obtain rfl := Option.some.inj (htoken.symm.trans htoken')
      obtain rfl := Except.ok.inj (hfound.symm.trans hdecode')
      exact hlt
    · intro hsafe
      obtain ⟨-, -, hlater⟩ := hsafe answer rfl
      refine ⟨?_, fun e he => ?_, fun e he => ?_, hdescribes⟩
      · rintro time a token' rfl hok
        rw [hrun] at hok
        obtain rfl := Option.some.inj (Except.ok.inj hok)
        exact ⟨issuedAfter_of_post hasked hpost, exp, hdecode,
          hlater time a token exp rfl htoken hdecode⟩
      · rw [hrun] at he
        cases he
      · rw [hrun] at he
        cases he
  · -- The request fails, with an error of whatever class.
    have hclass : e.Expected ↔ s.Encodable ∧ answer.Sound lib := by
      rw [← expected_post_iff m₁ m₂, hpost]
      exact ⟨fun hexpected e' he => Except.error.inj he ▸ hexpected, fun hall => hall e rfl⟩
    rw [Safe, hasked]
    constructor
    · rintro hmeets _ ⟨⟩
      obtain ⟨hencodable, hsound⟩ := hclass.mp (hmeets.raised e (congrArg Prod.fst hrun))
      refine ⟨hencodable, hsound, fun time a token exp _ htoken hdecode => ?_⟩
      rw [post_eq_ok_iff.mpr ⟨hencodable, htoken, hdecode⟩] at hpost
      cases hpost
    · intro hsafe
      obtain ⟨hencodable, hsound, -⟩ := hsafe answer rfl
      refine ⟨fun time a token _ hok => ?_, fun e' he => ?_, fun _ _ => by rw [hrun], hdescribes⟩
      · rw [hrun] at hok
        cases hok
      · rw [hrun] at he
        obtain rfl := Except.error.inj he
        exact hclass.mpr ⟨hencodable, hsound⟩

namespace ExpiredRefresh

/-- The text `{"exp":500}`. -/
def content : Bytes := [123, 34, 101, 120, 112, 34, 58, 53, 48, 48, 125]

/-- The standard library on one payload. -/
def library : Library where
  jsonLoads bytes :=
    if bytes = content then some (.obj [(Text.ofString "exp", .int 500)]) else none
  intOfFloat _ := none

/-- A token of the controller, with that payload. -/
def token : Text := Text.ofString "a.eyJleHAiOjUwMH0.b"

/-- The controller sends the token. -/
def answer : Answer := .response 200 (.value (.obj [(Text.ofString "token", .str token)]))

end ExpiredRefresh

end Nexus

end Backends
