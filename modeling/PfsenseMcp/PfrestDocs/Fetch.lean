import PfsenseMcp.Python.Bytes
import PfsenseMcp.Python.Url
import PfsenseMcp.Tier1.Canonical

/-!
# Fetching the documentation of pfREST

`fetch` of `pfrest_docs/fetch.py`. What answers a request is a parameter: a response that is read in
pieces, or an exception of `httpx`, which can also come while the pieces are read and when the
response or the client is closed.

## Main results

* `getOnce_eq_ok`, `closed_getOnce`: what is made of an answer;
* `fetch_failsClosed_iff`: when nothing but a `FetchError` is raised.
-/

namespace PfrestDocs

open Python Tier1

/-! ### Constants -/

/-- `ALLOWED_HOSTS`. -/
def allowedHosts : List String := ["pfrest.org"]

/-- `MAX_RESPONSE_BYTES`. -/
def maxResponseBytes : ℕ := 8 * 1024 * 1024

/-- `ALLOWED_CONTENT_TYPES`. -/
def allowedContentTypes : List String := ["application/json", "text/html"]

/-- The status codes that redirect. -/
def redirectStatusCodes : List ℤ := [301, 302, 303, 307, 308]

/-! ### Errors -/

/-- The subclasses of `FetchError`. -/
inductive FetchErrorKind where
  | disallowedUrl
  | tooManyRedirects
  | oversizedResponse
  | contentType
  | network
  | status (statusCode : ℤ)
deriving DecidableEq, Repr

/-- An exception of `httpx`. -/
inductive HttpxError where
  /-- A `TimeoutException`. -/
  | timeout
  /-- Another `TransportError`. -/
  | transport
  /-- An exception of another class, such as a `DecodingError` or an `InvalidURL`. -/
  | other (name : String)
deriving DecidableEq, Repr

/-- What `fetch` raises. -/
inductive FetchFailure where
  /-- A `FetchError`. -/
  | fetch (kind : FetchErrorKind) (message : String)
  /-- The `ValueError` of a URL that cannot be taken apart. -/
  | valueError
  | httpx (error : HttpxError)
deriving DecidableEq, Repr

/-! ### Upstream -/

/-- A GET request. -/
structure Request where
  url : String
  accept : String
deriving DecidableEq, Repr

/-- A response whose body is read in pieces, after `iter_bytes` decoded them. -/
structure StreamedResponse where
  statusCode : ℤ
  /-- `response.headers.get`. -/
  header : String → Option String
  chunks : List Bytes
  /-- What is raised after these pieces, unless the body ends there. -/
  interrupted : Option HttpxError
  /-- What is raised when the response is closed. -/
  closing : Option HttpxError

/-- How a request is answered. -/
inductive Exchange where
  | raised (error : HttpxError)
  | response (response : StreamedResponse)

/-- What the code runs in. -/
structure Environment where
  tables : Url.UnicodeTables
  /-- `repr(text)`. -/
  repr : String → String
  /-- How the first and the second request are answered. -/
  upstream : ℕ → Request → Exchange
  /-- What is raised when the client is closed. -/
  clientClosing : Option HttpxError
  /-- `datetime.now(timezone.utc).isoformat()`. -/
  now : String

/-- A response that was read as a whole. -/
structure Response where
  statusCode : ℤ
  header : String → Option String
  content : Bytes

/-- `FetchResult`. -/
structure FetchResult where
  url : String
  statusCode : ℤ
  contentType : String
  body : String
  contentHash : String
  fetchedAt : String
  cacheControl : Option String
  etag : Option String
  lastModified : Option String
deriving DecidableEq, Repr

/-! ### Fetching -/

section

variable (env : Environment)

/-- `_validate_url`. -/
def validateUrl (url : String) : Except FetchFailure Unit :=
  match Url.urlsplit env.tables url.toList [] with
  | none => .error .valueError
  | some parts =>
    if parts.scheme ≠ "https".toList then
      .error (.fetch .disallowedUrl
        ("URL scheme must be https, got " ++ env.repr (String.ofList parts.scheme)))
    else
      match (parts.hostname env.tables).map String.ofList with
      | none =>
        .error (.fetch .disallowedUrl
          ("Host None is not in the allowlist [" ++ env.repr "pfrest.org" ++ "]"))
      | some host =>
        if host ∈ allowedHosts then .ok ()
        else .error (.fetch .disallowedUrl
          ("Host " ++ env.repr host ++ " is not in the allowlist [" ++ env.repr "pfrest.org" ++
            "]"))

/-- `_read_bounded`, after some bytes. -/
def readBounded (interrupted : Option HttpxError) (total : ℕ) :
    List Bytes → Except FetchFailure Bytes
  | [] =>
    match interrupted with
    | none => .ok []
    | some e => .error (.httpx e)
  | chunk :: chunks =>
    if maxResponseBytes < total + chunk.length then
      .error (.fetch .oversizedResponse s!"Response exceeded {maxResponseBytes} bytes")
    else do
      let rest ← readBounded interrupted (total + chunk.length) chunks
      .ok (chunk ++ rest)

/-- The block of `_get_once` that has the response, which is closed at its end. -/
def readResponse (response : StreamedResponse) : Except FetchFailure Response :=
  let body := readBounded response.interrupted 0 response.chunks
  match response.closing with
  | some e => .error (.httpx e)
  | none => body.map (⟨response.statusCode, response.header, ·⟩)

/-- The handlers of `_get_once`. -/
def handled (url : String) : Except FetchFailure Response → Except FetchFailure Response
  | .error (.httpx .timeout) => .error (.fetch .network ("Timed out fetching " ++ url))
  | .error (.httpx .transport) => .error (.fetch .network ("Network error fetching " ++ url))
  | ending => ending

/-- `_get_once`. -/
def getOnce (exchange : Exchange) (url : String) : Except FetchFailure Response :=
  handled url <| match exchange with
    | .raised e => .error (.httpx e)
    | .response response => readResponse response

/-- `response.headers.get("content-type", "").split(";")[0].strip().lower()`. -/
def contentTypeOf (header : String → Option String) : String :=
  let value := ((header "content-type").getD "").toList
  String.ofList (env.tables.lower (Bytes.strip (String.ofList (Url.before ';' value))).toList)

/-- The last part of `fetch`: what is made of a response that does not redirect. -/
def finish [Platform] (finalUrl : String) (response : Response) : Except FetchFailure FetchResult :=
  if response.statusCode ≠ 200 then
    .error (.fetch (.status response.statusCode) s!"Unexpected HTTP status {response.statusCode}")
  else
    let contentType := contentTypeOf env response.header
    if contentType ∉ allowedContentTypes then
      .error (.fetch .contentType
        ("Unexpected content-type " ++ env.repr contentType ++ " from " ++ finalUrl))
    else
      match Bytes.decodeUtf8 response.content with
      | none =>
        .error (.fetch .contentType ("Response from " ++ finalUrl ++ " was not valid UTF-8"))
      | some body =>
        .ok { url := finalUrl, statusCode := response.statusCode, contentType, body,
              contentHash := Platform.sha256 response.content, fetchedAt := env.now,
              cacheControl := response.header "cache-control", etag := response.header "etag",
              lastModified := response.header "last-modified" }

/-- The URL that a response redirects to. -/
def redirectUrl (url : String) (header : String → Option String) : Except FetchFailure String :=
  let location := (header "location").getD ""
  if location = "" then
    .error (.fetch .disallowedUrl "Redirect response had no Location header")
  else
    match Url.urljoin env.tables url.toList location.toList with
    | none => .error .valueError
    | some redirect => do
      validateUrl env (String.ofList redirect)
      .ok (String.ofList redirect)

/-- The block of `fetch` that has the client: how it ends, and the requests that are sent. -/
def fetchWithClient [Platform] (url accept : String) :
    Except FetchFailure FetchResult × List Request :=
  let first : Request := ⟨url, accept⟩
  match getOnce (env.upstream 0 first) url with
  | .error e => (.error e, [first])
  | .ok response =>
    if response.statusCode ∈ redirectStatusCodes then
      match redirectUrl env url response.header with
      | .error e => (.error e, [first])
      | .ok redirect =>
        let second : Request := ⟨redirect, accept⟩
        (getOnce (env.upstream 1 second) redirect >>= fun response =>
          if response.statusCode ∈ redirectStatusCodes then
            .error (.fetch .tooManyRedirects "More than one redirect encountered")
          else finish env redirect response, [first, second])
    else (finish env url response, [first])

/-- `fetch`, with the requests that are sent. -/
def fetch [Platform] (url accept : String) : Except FetchFailure FetchResult × List Request :=
  match validateUrl env url with
  | .error e => (.error e, [])
  | .ok () =>
    let (ending, sent) := fetchWithClient env url accept
    match env.clientClosing with
    | some e => (.error (.httpx e), sent)
    | none => (ending, sent)

end

/-! ### Answers -/

/-- An exception of `httpx` that `_get_once` makes a `FetchError` of. -/
def HttpxError.IsTransport (e : HttpxError) : Prop := e = .timeout ∨ e = .transport

/-- Code that raises nothing but a `FetchError`. -/
def Closed {α : Type} (x : Except FetchFailure α) : Prop :=
  ∀ e, x = .error e → ∃ kind message, e = .fetch kind message

namespace StreamedResponse

/-- The pieces are within the bound. -/
def Fits (r : StreamedResponse) : Prop := r.chunks.flatten.length ≤ maxResponseBytes

/-- The response is read as a whole and closed. -/
structure Complete (r : StreamedResponse) : Prop where
  fits : r.Fits
  interrupted : r.interrupted = none
  closing : r.closing = none

end StreamedResponse

/-- Every exception of an answer is one that `_get_once` handles: of the one that comes first unless
another comes when the response is closed. -/
def Exchange.Handled : Exchange → Prop
  | .raised e => e.IsTransport
  | .response r =>
    (∀ e, r.closing = some e → e.IsTransport) ∧
      (r.closing = none → r.Fits → ∀ e, r.interrupted = some e → e.IsTransport)

section

variable {α β : Type}

theorem closed_ok (a : α) : Closed (.ok a) := by
  intro e h
  contradiction

theorem closed_fetch (kind : FetchErrorKind) (message : String) :
    Closed (.error (.fetch kind message) : Except FetchFailure α) := by
  rintro _ ⟨⟩
  exact ⟨kind, message, rfl⟩

/-- Whether code that raises an error is closed depends on the error alone. -/
theorem Closed.error {e : FetchFailure} (h : Closed (.error e : Except FetchFailure α)) :
    Closed (.error e : Except FetchFailure β) := by
  rintro _ ⟨⟩
  exact h e rfl

theorem not_closed_httpx (e : HttpxError) :
    ¬Closed (.error (.httpx e) : Except FetchFailure α) := by
  intro h
  obtain ⟨kind, message, heq⟩ := h _ rfl
  contradiction

theorem not_closed_valueError : ¬Closed (.error .valueError : Except FetchFailure α) := by
  intro h
  obtain ⟨kind, message, heq⟩ := h _ rfl
  contradiction

/-- Code that goes on after other code. -/
theorem closed_bind_iff {x : Except FetchFailure α} {f : α → Except FetchFailure β} :
    Closed (x >>= f) ↔ Closed x ∧ ∀ a, x = .ok a → Closed (f a) := by
  rcases x with e | a
  · constructor
    · intro h
      refine ⟨h.error, fun a ha => ?_⟩
      contradiction
    · exact fun h => h.1.error
  · constructor
    · intro h
      refine ⟨closed_ok a, ?_⟩
      rintro _ ⟨⟩
      exact h
    · exact fun h => h.2 a rfl

/-- Reading ends in one of three ways. -/
theorem readBounded_eq (interrupted : Option HttpxError) (total : ℕ) (chunks : List Bytes)
    (htotal : total ≤ maxResponseBytes) :
    readBounded interrupted total chunks =
      if total + chunks.flatten.length ≤ maxResponseBytes then
        match interrupted with
        | none => .ok chunks.flatten
        | some e => .error (.httpx e)
      else .error (.fetch .oversizedResponse s!"Response exceeded {maxResponseBytes} bytes") := by
  induction chunks generalizing total with
  | nil =>
    rw [if_pos (by simpa using htotal)]
    rcases interrupted with _ | e <;> rfl
  | cons chunk chunks ih =>
    rw [readBounded, List.flatten_cons, List.length_append]
    by_cases hchunk : maxResponseBytes < total + chunk.length
    · rw [if_pos hchunk, if_neg (by omega)]
    · rw [if_neg hchunk, ih (total + chunk.length) (by omega), ← Nat.add_assoc]
      split_ifs
      · rcases interrupted with _ | e <;> rfl
      · rfl

theorem readBounded_zero (interrupted : Option HttpxError) (chunks : List Bytes) :
    readBounded interrupted 0 chunks =
      if chunks.flatten.length ≤ maxResponseBytes then
        match interrupted with
        | none => .ok chunks.flatten
        | some e => .error (.httpx e)
      else .error (.fetch .oversizedResponse s!"Response exceeded {maxResponseBytes} bytes") := by
  rw [readBounded_eq _ _ _ (Nat.zero_le _), Nat.zero_add]

theorem handled_eq_ok {url : String} {x : Except FetchFailure Response} {response : Response} :
    handled url x = .ok response ↔ x = .ok response := by
  unfold handled
  split
  · exact ⟨nofun, nofun⟩
  · exact ⟨nofun, nofun⟩
  · exact Iff.rfl

/-- A response is handed on if it was read as a whole. -/
theorem getOnce_eq_ok {exchange : Exchange} {url : String} {response : Response} :
    getOnce exchange url = .ok response ↔ ∃ r, exchange = .response r ∧ r.Complete ∧
      response = ⟨r.statusCode, r.header, r.chunks.flatten⟩ := by
  unfold getOnce
  rw [handled_eq_ok]
  rcases exchange with e | r
  · constructor
    · intro h
      contradiction
    · rintro ⟨r, h, -⟩
      contradiction
  show readResponse r = .ok response ↔ _
  rw [readResponse, readBounded_zero]
  constructor
  · intro h
    rcases hclosing : r.closing with _ | e
    · rw [hclosing] at h
      dsimp only at h
      split_ifs at h with hfits
      · rcases hinterrupted : r.interrupted with _ | e
        · rw [hinterrupted] at h
          exact ⟨r, rfl, ⟨hfits, hinterrupted, hclosing⟩, (Except.ok.inj h).symm⟩
        · rw [hinterrupted] at h
          contradiction
      · contradiction
    · rw [hclosing] at h
      contradiction
  · rintro ⟨_, ⟨⟩, ⟨hfits, hinterrupted, hclosing⟩, rfl⟩
    rw [hclosing, hinterrupted]
    dsimp only
    rw [if_pos (show r.chunks.flatten.length ≤ maxResponseBytes from hfits)]
    rfl

/-- The handlers make a `FetchError` of an exception exactly if it is a `TransportError`. -/
theorem closed_handled_httpx {url : String} {e : HttpxError} :
    Closed (handled url (.error (.httpx e))) ↔ e.IsTransport := by
  rcases e with _ | _ | name
  · exact ⟨fun _ => .inl rfl, fun _ => closed_fetch _ _⟩
  · exact ⟨fun _ => .inr rfl, fun _ => closed_fetch _ _⟩
  · constructor
    · exact fun h => absurd h (not_closed_httpx _)
    · rintro (h | h) <;> contradiction

/-- An answer ends in a `FetchError`, if in an error, exactly if its exceptions are handled. -/
theorem closed_getOnce (exchange : Exchange) (url : String) :
    Closed (getOnce exchange url) ↔ exchange.Handled := by
  unfold getOnce
  rcases exchange with e | r
  · exact closed_handled_httpx
  show Closed (handled url (readResponse r)) ↔ _
  rw [readResponse, readBounded_zero, Exchange.Handled]
  rcases hclosing : r.closing with _ | e
  · dsimp only
    split_ifs with hfits
    · rcases hinterrupted : r.interrupted with _ | e
      · exact ⟨fun _ => ⟨nofun, fun _ _ => nofun⟩, fun _ => closed_ok _⟩
      · refine Iff.trans closed_handled_httpx ?_
        constructor
        · intro h
          refine ⟨nofun, ?_⟩
          rintro - - _ ⟨⟩
          exact h
        · exact fun h => h.2 rfl hfits e rfl
    · refine ⟨fun _ => ⟨nofun, fun _ h => absurd h hfits⟩, fun _ => closed_fetch _ _⟩
  · refine Iff.trans closed_handled_httpx ?_
    constructor
    · intro h
      refine ⟨?_, nofun⟩
      rintro _ ⟨⟩
      exact h
    · exact fun h => h.1 e rfl

end

/-! ### URLs -/

section

variable (env : Environment)

/-- A URL over https whose host is in the list. -/
def Allowed (url : String) : Prop :=
  ∃ parts host, Url.urlsplit env.tables url.toList [] = some parts ∧ parts.scheme = "https".toList ∧
    parts.hostname env.tables = some host ∧ String.ofList host ∈ allowedHosts

/-- `urlsplit` takes a URL apart. -/
def Splits (url : String) : Prop := (Url.urlsplit env.tables url.toList []).isSome = true

variable {env} {url : String}

theorem validateUrl_eq_ok : validateUrl env url = .ok () ↔ Allowed env url := by
  unfold validateUrl Allowed
  rcases hparts : Url.urlsplit env.tables url.toList [] with _ | parts
  · simp
  dsimp only
  by_cases hscheme : parts.scheme = "https".toList
  swap
  · rw [if_pos hscheme]
    constructor
    · intro h
      contradiction
    · rintro ⟨_, _, ⟨⟩, hscheme', -⟩
      exact absurd hscheme' hscheme
  rw [if_neg (not_not.mpr hscheme)]
  rcases hhost : parts.hostname env.tables with _ | host
  · simp [hhost]
  · dsimp only [Option.map_some]
    split_ifs with hmem
    · simp [hscheme, hhost, hmem]
    · simp [hhost, hmem]

theorem closed_validateUrl : Closed (validateUrl env url) ↔ Splits env url := by
  unfold validateUrl Splits
  rcases Url.urlsplit env.tables url.toList [] with _ | parts
  · simp [not_closed_valueError]
  refine ⟨fun _ => rfl, fun _ => ?_⟩
  dsimp only
  split_ifs
  · exact closed_fetch _ _
  · split
    · exact closed_fetch _ _
    · split_ifs
      · exact closed_ok _
      · exact closed_fetch _ _

/-- What a response redirects to is validated. -/
theorem redirectUrl_eq_ok {header : String → Option String} {redirect : String} :
    redirectUrl env url header = .ok redirect ↔ ∃ location joined,
      (header "location").getD "" = location ∧ location ≠ "" ∧
      Url.urljoin env.tables url.toList location.toList = some joined ∧
      redirect = String.ofList joined ∧ Allowed env redirect := by
  unfold redirectUrl
  dsimp only
  split_ifs with hempty
  · constructor
    · intro h
      contradiction
    · rintro ⟨location, joined, rfl, hne, -⟩
      exact absurd hempty hne
  rcases hjoin : Url.urljoin env.tables url.toList ((header "location").getD "").toList
    with _ | joined
  · constructor
    · intro h
      contradiction
    · rintro ⟨location, joined, rfl, -, hjoin', -⟩
      rw [hjoin] at hjoin'
      contradiction
  dsimp only
  constructor
  · intro h
    rcases hvalid : validateUrl env (String.ofList joined) with e | u
    · rw [hvalid] at h
      contradiction
    · rw [hvalid] at h
      have heq : String.ofList joined = redirect := Except.ok.inj h
      exact ⟨_, joined, rfl, hempty, hjoin, heq.symm, heq ▸ validateUrl_eq_ok.mp hvalid⟩
  · rintro ⟨location, joined', rfl, -, hjoin', rfl, hallowed⟩
    obtain rfl : joined = joined' := Option.some.inj (hjoin.symm.trans hjoin')
    rw [validateUrl_eq_ok.mpr hallowed]
    rfl

/-- The location of a response can be joined to the URL, and what comes of it can be taken apart. -/
def Redirects (env : Environment) (url : String) (header : String → Option String) : Prop :=
  (header "location").getD "" = "" ∨ ∃ joined,
    Url.urljoin env.tables url.toList ((header "location").getD "").toList = some joined ∧
    Splits env (String.ofList joined)

theorem closed_redirectUrl (env : Environment) (url : String) (header : String → Option String) :
    Closed (redirectUrl env url header) ↔ Redirects env url header := by
  unfold redirectUrl Redirects
  dsimp only
  split_ifs with hempty
  · exact ⟨fun _ => .inl hempty, fun _ => closed_fetch _ _⟩
  rcases Url.urljoin env.tables url.toList ((header "location").getD "").toList with _ | joined
  · simp [not_closed_valueError, hempty]
  · refine Iff.trans closed_bind_iff ?_
    rw [closed_validateUrl]
    simp only [hempty, false_or, Option.some.injEq, exists_eq_left', and_iff_left_iff_imp]
    exact fun _ _ _ => closed_ok _

end

/-! ### Whole fetches -/

section

variable [Platform] {env : Environment} {url accept : String}

theorem closed_finish (response : Response) : Closed (finish env url response) := by
  unfold finish
  dsimp only
  split_ifs
  · exact closed_fetch _ _
  · split
    · exact closed_fetch _ _
    · exact closed_ok _
  · exact closed_fetch _ _

/-- A result tells what was read: with status 200, an allowed content type, within the bound, and
with its digest. -/
structure Fetched (env : Environment) (sent : List Request) (result : FetchResult) : Prop where
  answered : ∃ n request r, sent[n]? = some request ∧ n + 1 = sent.length ∧
    env.upstream n request = .response r ∧ r.Complete ∧ r.statusCode = 200 ∧
    result.url = request.url ∧ result.contentType = contentTypeOf env r.header ∧
    Bytes.encodeUtf8 result.body = r.chunks.flatten
  status : result.statusCode = 200
  contentType : result.contentType ∈ allowedContentTypes
  bounded : (Bytes.encodeUtf8 result.body).length ≤ maxResponseBytes
  contentHash : result.contentHash = Platform.sha256 (Bytes.encodeUtf8 result.body)

/-- What `finish` makes a result of. -/
theorem finish_eq_ok {response : Response} {result : FetchResult}
    (h : finish env url response = .ok result) :
    response.statusCode = 200 ∧ result.statusCode = 200 ∧ result.url = url ∧
      result.contentType = contentTypeOf env response.header ∧
      result.contentType ∈ allowedContentTypes ∧
      Bytes.encodeUtf8 result.body = response.content ∧
      result.contentHash = Platform.sha256 response.content := by
  unfold finish at h
  dsimp only at h
  split_ifs at h with hstatus htype
  rw [not_not] at hstatus
  split at h
  · contradiction
  · rename_i body hbody
    cases h
    exact ⟨hstatus, hstatus, rfl, rfl, htype, Bytes.encodeUtf8_of_decodeUtf8 hbody, rfl⟩

/-- The result of the last request that was sent. -/
theorem fetched_of_finish (sent : List Request) {request : Request} {r : StreamedResponse}
    {result : FetchResult} (hr : env.upstream sent.length request = .response r)
    (hcomplete : r.Complete)
    (h : finish env request.url ⟨r.statusCode, r.header, r.chunks.flatten⟩ = .ok result) :
    Fetched env (sent ++ [request]) result := by
  obtain ⟨hstatus, hstatus', hurl, htype, hallowed, hbody, hhash⟩ := finish_eq_ok h
  refine ⟨⟨sent.length, request, r, by simp, by simp, hr, hcomplete, hstatus, hurl, htype, hbody⟩,
    hstatus', hallowed, ?_, ?_⟩
  · rw [hbody]
    exact hcomplete.fits
  · rw [hbody]
    exact hhash

/-- What holds of every fetch: at most two requests, all to allowed URLs, and a result that tells
what was read. -/
structure Bounded (env : Environment) (ending : Except FetchFailure FetchResult)
    (sent : List Request) : Prop where
  atMostTwo : sent.length ≤ 2
  allowed : ∀ request ∈ sent, Allowed env request.url
  fetched : ∀ result, ending = .ok result → Fetched env sent result

theorem bounded_error {e : FetchFailure} {sent : List Request} (hlength : sent.length ≤ 2)
    (hallowed : ∀ request ∈ sent, Allowed env request.url) : Bounded env (.error e) sent :=
  ⟨hlength, hallowed, nofun⟩

theorem bounded_fetchWithClient (accept : String) (hurl : Allowed env url) :
    Bounded env (fetchWithClient env url accept).1 (fetchWithClient env url accept).2 := by
  have hone : ∀ request ∈ [(⟨url, accept⟩ : Request)], Allowed env request.url := by
    intro request hrequest
    rw [List.mem_singleton.mp hrequest]
    exact hurl
  unfold fetchWithClient
  dsimp only
  rcases hfirst : getOnce (env.upstream 0 ⟨url, accept⟩) url with e | response
  · exact bounded_error (by simp) hone
  obtain ⟨r, hr, hcomplete, rfl⟩ := getOnce_eq_ok.mp hfirst
  dsimp only
  split_ifs with hredirect
  swap
  -- The first response is the one that counts.
  · refine ⟨by simp, hone, fun result hresult => ?_⟩
    exact fetched_of_finish [] hr hcomplete hresult
  rcases hlocation : redirectUrl env url r.header with e | redirect
  · exact bounded_error (by simp) hone
  have hallowed : Allowed env redirect := by
    obtain ⟨_, _, -, -, -, -, h⟩ := redirectUrl_eq_ok.mp hlocation
    exact h
  have htwo : ∀ request ∈ [(⟨url, accept⟩ : Request), ⟨redirect, accept⟩],
      Allowed env request.url := by
    intro request hrequest
    rcases List.mem_pair.mp hrequest with rfl | rfl
    · exact hurl
    · exact hallowed
  dsimp only
  refine ⟨by simp, htwo, fun result hresult => ?_⟩
  rcases hsecond : getOnce (env.upstream 1 ⟨redirect, accept⟩) redirect with e | response
  · rw [hsecond] at hresult
    contradiction
  obtain ⟨r', hr', hcomplete', rfl⟩ := getOnce_eq_ok.mp hsecond
  rw [hsecond] at hresult
  change (if _ then _ else _) = _ at hresult
  split_ifs at hresult
  exact fetched_of_finish [⟨url, accept⟩] hr' hcomplete' hresult

/-- Every fetch is bounded, whatever upstream does. -/
theorem bounded_fetch : Bounded env (fetch env url accept).1 (fetch env url accept).2 := by
  unfold fetch
  rcases hvalid : validateUrl env url with e | u
  · exact bounded_error (by simp) (by simp)
  have hbounded := bounded_fetchWithClient accept (validateUrl_eq_ok.mp hvalid)
  dsimp only
  rcases env.clientClosing with _ | e
  · exact hbounded
  · exact bounded_error hbounded.atMostTwo hbounded.allowed

/-- No exception comes that is not a `TransportError` of a request: the URLs can be taken apart and
joined, each request that is sent is answered without another exception, and the client is closed
without one. -/
def NoForeign (env : Environment) (url accept : String) : Prop :=
  Splits env url ∧ (Allowed env url → env.clientClosing = none ∧
    (env.upstream 0 ⟨url, accept⟩).Handled ∧
    ∀ r, env.upstream 0 ⟨url, accept⟩ = .response r → r.Complete →
      r.statusCode ∈ redirectStatusCodes → Redirects env url r.header ∧
        ∀ redirect, redirectUrl env url r.header = .ok redirect →
          (env.upstream 1 ⟨redirect, accept⟩).Handled)

/-- A fetch that fails closed. -/
structure FailsClosed (env : Environment) (url accept : String) : Prop where
  bounded : Bounded env (fetch env url accept).1 (fetch env url accept).2
  closed : Closed (fetch env url accept).1

theorem closed_fetchWithClient : Closed (fetchWithClient env url accept).1 ↔
    (env.upstream 0 ⟨url, accept⟩).Handled ∧
    ∀ r, env.upstream 0 ⟨url, accept⟩ = .response r → r.Complete →
      r.statusCode ∈ redirectStatusCodes → Redirects env url r.header ∧
        ∀ redirect, redirectUrl env url r.header = .ok redirect →
          (env.upstream 1 ⟨redirect, accept⟩).Handled := by
  rw [← closed_getOnce _ url]
  unfold fetchWithClient
  dsimp only
  rcases hfirst : getOnce (env.upstream 0 ⟨url, accept⟩) url with e | response
  · constructor
    · intro h
      refine ⟨h.error, fun r hr hcomplete => ?_⟩
      have hok : getOnce (env.upstream 0 ⟨url, accept⟩) url = _ :=
        getOnce_eq_ok.mpr ⟨r, hr, hcomplete, rfl⟩
      rw [hfirst] at hok
      contradiction
    · exact fun h => h.1.error
  obtain ⟨r, hr, hcomplete, rfl⟩ := getOnce_eq_ok.mp hfirst
  have honly : ∀ r', env.upstream 0 ⟨url, accept⟩ = .response r' → r' = r := by
    intro r' hr'
    rw [hr] at hr'
    exact (Exchange.response.inj hr').symm
  dsimp only
  split_ifs with hredirect
  swap
  · refine ⟨fun _ => ⟨closed_ok _, fun r' hr' _ h => ?_⟩, fun _ => closed_finish _⟩
    rw [honly r' hr'] at h
    exact absurd h hredirect
  have hlocation := closed_redirectUrl env url r.header
  rcases hresult : redirectUrl env url r.header with e | redirect
  · rw [hresult] at hlocation
    constructor
    · intro h
      refine ⟨closed_ok _, fun r' hr' _ _ => ?_⟩
      rw [honly r' hr', hresult]
      refine ⟨hlocation.mp h.error, ?_⟩
      intro redirect h
      contradiction
    · exact fun h => (hlocation.mpr (h.2 r hr hcomplete hredirect).1).error
  · rw [hresult] at hlocation
    dsimp only
    rw [closed_bind_iff, closed_getOnce]
    constructor
    · intro h
      refine ⟨closed_ok _, fun r' hr' _ _ => ?_⟩
      rw [honly r' hr', hresult]
      refine ⟨hlocation.mp (closed_ok _), ?_⟩
      rintro _ ⟨⟩
      exact h.1
    · intro h
      refine ⟨(h.2 r hr hcomplete hredirect).2 redirect hresult, fun response _ => ?_⟩
      split_ifs
      · exact closed_fetch _ _
      · exact closed_finish _

/-- A fetch fails closed exactly if no foreign exception comes. -/
theorem fetch_failsClosed_iff : FailsClosed env url accept ↔ NoForeign env url accept := by
  refine Iff.trans ⟨FailsClosed.closed, fun h => ⟨bounded_fetch, h⟩⟩ ?_
  rw [NoForeign, ← closed_validateUrl, ← closed_fetchWithClient, ← validateUrl_eq_ok]
  unfold fetch
  rcases validateUrl env url with e | u
  · constructor
    · intro h
      refine ⟨h.error, ?_⟩
      intro h
      contradiction
    · exact fun h => h.1.error
  · dsimp only
    rcases env.clientClosing with _ | e
    · simp [closed_ok]
    · simp [not_closed_httpx]

end

/-! ### A location that cannot be taken apart -/

section Sample

attribute [local instance] Tier1.Sample.platform

/-- The answer of a server that redirects to some location. -/
def redirectsTo (location : String) : StreamedResponse where
  statusCode := 302
  header name := if name = "location" then some location else none
  chunks := []
  interrupted := none
  closing := none

/-- Upstream redirects every request to a location with an open bracket. -/
def openBracket : Environment where
  tables := ⟨List.map Char.toLower, id⟩
  repr text := "'" ++ text ++ "'"
  upstream _ _ := .response (redirectsTo "https://[")
  clientClosing := none
  now := "2026-01-01T00:00:00+00:00"

/-- The location of a redirection raises a `ValueError`. -/
theorem fetch_openBracket :
    (fetch openBracket "https://pfrest.org/api-docs/openapi.json" "application/json").1 =
      .error .valueError ∧
    ¬FailsClosed openBracket "https://pfrest.org/api-docs/openapi.json" "application/json" := by
  have h : (fetch openBracket "https://pfrest.org/api-docs/openapi.json" "application/json").1 =
      .error .valueError := by decide
  refine ⟨h, fun hclosed => ?_⟩
  have hraised := hclosed.closed
  rw [h] at hraised
  exact not_closed_valueError hraised

end Sample

end PfrestDocs
