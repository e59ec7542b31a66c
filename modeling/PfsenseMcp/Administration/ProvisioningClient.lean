import Mathlib.Data.Finset.Sort
import Mathlib.Data.String.Basic
import PfsenseMcp.Administration.BootstrapClient
import PfsenseMcp.Concurrency.Procedure

/-!
# The bootstrap client as a provisioning client

`BootstrapProvisioningClient` of `security_bootstrap_client.py`, as far as provisioning and recovery
use it: the requests with what they carry, and what is read from the responses.

What answers the requests is a `Network`, over a state of its own: an arbitrary one for statements
about every behaviour of the transports, an appliance for statements about a particular one. The
session records every request with its answer. No code reads the record.

## Main results

* `map_userRecordsOf`: the users that are read here are those that `usersOf` reads;
* `wp_call`: one request, its record and what is made of its answer.
-/

namespace Administration

open Python Tier1 Concurrency Procedure

/-! ### Requests -/

/-- An `id` as a response has it: `True` and `1` are equal, but not the same to send. -/
structure ObservedId where
  value : ℤ
  boolean : Bool
deriving DecidableEq, Repr

/-- The JSON value of an `id`. -/
def ObservedId.json (id : ObservedId) : Json :=
  if id.boolean then .bool (id.value = 1) else .int id.value

/-- The requests of the client that provisioning and recovery make. -/
inductive ProvisioningRequest where
  /-- `list_users`. -/
  | listUsers
  /-- `_list_auth_keys_for_recovery`. -/
  | listAuthKeys
  /-- `create_user`. -/
  | createUser (name password descr : String) (priv : Finset String)
  /-- `update_user_privileges`. -/
  | updateUserPrivileges (userId : ObservedId) (priv : Finset String)
  /-- `create_auth_key`. -/
  | createAuthKey (descr : String)
  /-- `_revoke_auth_key_for_recovery`. -/
  | revokeAuthKey (keyId : ℤ)
  /-- `_delete_user_for_recovery`. -/
  | deleteUser (userId : ℤ)
deriving DecidableEq

namespace ProvisioningRequest

/-- The name of the operation in its errors. -/
def operation : ProvisioningRequest → String
  | listUsers => "list_users"
  | listAuthKeys => "list_auth_keys"
  | createUser _ _ _ _ => "create_user"
  | updateUserPrivileges _ _ => "update_user_privileges"
  | createAuthKey _ => "create_auth_key"
  | revokeAuthKey _ => "revoke_auth_key_for_recovery"
  | deleteUser _ => "delete_user_for_recovery"

/-- The HTTP method. -/
def method : ProvisioningRequest → String
  | listUsers | listAuthKeys => "GET"
  | createUser _ _ _ _ | createAuthKey _ => "POST"
  | updateUserPrivileges _ _ => "PATCH"
  | revokeAuthKey _ | deleteUser _ => "DELETE"

/-- The path. -/
def path : ProvisioningRequest → String
  | listUsers => fullPath "/users"
  | listAuthKeys => fullPath "/auth/keys?limit=100"
  | createUser _ _ _ _ | updateUserPrivileges _ _ | deleteUser _ => fullPath "/user"
  | createAuthKey _ | revokeAuthKey _ => fullPath "/auth/key"

/-! Strings are sorted in the order of their code points. -/

instance isTrans_le : IsTrans String (· ≤ ·) := inferInstance

instance antisymm_le : Std.Antisymm fun a b : String => a ≤ b := inferInstance

instance total_le : Std.Total fun a b : String => a ≤ b := inferInstance

/-- `sorted(priv)`, as JSON. -/
def privJson (priv : Finset String) : Json := .arr (priv.sort.map .str)

/-- The value whose JSON text is the body. -/
def body : ProvisioningRequest → Option Json
  | listUsers | listAuthKeys => none
  | createUser name password descr priv =>
    some <| .obj [("name", .str name), ("password", .str password), ("descr", .str descr),
      ("disabled", .bool false), ("priv", privJson priv)]
  | updateUserPrivileges userId priv => some <| .obj [("id", userId.json), ("priv", privJson priv)]
  | createAuthKey descr => some <| .obj [("descr", .str descr)]
  | revokeAuthKey id | deleteUser id => some <| .obj [("id", .int id)]

/-- Whether a request asks for a change. -/
def mutates (request : ProvisioningRequest) : Bool := request.method != "GET"

end ProvisioningRequest

/-! ### Responses -/

/-- An observed user, with whether its `id` is a Boolean; `==` does not see that. -/
structure UserRecord where
  user : ObservedUser
  booleanId : Bool
deriving DecidableEq

/-- The `id` of a user, as the response has it. -/
def UserRecord.id (record : UserRecord) : ObservedId := ⟨record.user.id, record.booleanId⟩

/-- Whether a value is a Boolean. -/
def isBoolean : Option Json → Bool
  | some (.bool _) => true
  | _ => false

/-- `_parse_observed_user`. -/
def parseUserRecord (operation : String) (data : List (String × Json)) :
    Except ClientError UserRecord := do
  let user ← parseObservedUser data operation
  .ok ⟨user, isBoolean (getField data "id")⟩

/-- `ObservedApiKey`. -/
structure ObservedApiKey where
  id : ℤ
  username : Option String
  descr : String
  hashAlgo : String
  lengthBytes : ℤ
deriving DecidableEq

/-- The fields that a key has to have, in the order in which they are looked up. -/
def requiredKeyFields : List String := ["id", "username", "descr", "hash_algo", "length_bytes"]

/-- `_parse_observed_api_key`. -/
def parseObservedApiKey (operation : String) (data : List (String × Json)) :
    Except ClientError ObservedApiKey :=
  match requiredKeyFields.find? fun name => (getField data name).isNone with
  | some name => ClientError.refuse s!"{operation}: response 'data' missing expected field '{name}'."
  | none =>
    match getField data "id", parseScope (getField data "username"), getField data "descr",
      getField data "hash_algo", getField data "length_bytes" with
    | some (.int id), some username, some (.str descr), some (.str hashAlgo),
      some (.int lengthBytes) =>
      if id < 0 then ClientError.refuse s!"{operation}: response 'data' had an unexpected field type."
      else .ok { id, username, descr, hashAlgo, lengthBytes }
    | _, _, _, _, _ => ClientError.refuse s!"{operation}: response 'data' had an unexpected field type."

section

variable {α β : Type}

/-- The objects of a list, one after the other. -/
def parseEach (parse : List (String × Json) → Except ClientError α) :
    List (List (String × Json)) → Except ClientError (List α)
  | [] => .ok []
  | data :: rest => do
    let item ← parse data
    let items ← parseEach parse rest
    .ok (item :: items)

/-- What an operation that lists objects makes of the response. -/
def listOf (operation : String) (parse : List (String × Json) → Except ClientError α)
    (response : TransportResponse) : Except ClientError (List α) :=
  if 200 ≤ response.statusCode ∧ response.statusCode < 300 then
    match Json.parse response.text with
    | none => ClientError.refuse s!"{operation}: response was not valid JSON."
    | some (.obj body) =>
      match getField body "data" with
      | some (.arr items) =>
        match objects items with
        | some entries => parseEach parse entries
        | none => ClientError.refuse s!"{operation}: response 'data' contained a non-object entry."
      | _ => ClientError.refuse s!"{operation}: response 'data' was not a list."
    | some _ => ClientError.refuse s!"{operation}: response was not a JSON object."
  else ClientError.refuse s!"{operation} failed: pfSense API returned HTTP {response.statusCode}."

theorem map_parseEach (f : α → β) (parse : List (String × Json) → Except ClientError α)
    (entries : List (List (String × Json))) :
    (parseEach parse entries).map (List.map f) =
      parseEach (fun data => (parse data).map f) entries := by
  induction entries with
  | nil => rfl
  | cons data rest ih =>
    rw [parseEach, parseEach, ← ih]
    cases parse data with
    | error e => rfl
    | ok item => cases parseEach parse rest <;> rfl

end

/-- `list_users`. -/
def userRecordsOf (response : TransportResponse) : Except ClientError (List UserRecord) :=
  listOf ProvisioningRequest.listUsers.operation
    (parseUserRecord ProvisioningRequest.listUsers.operation) response

/-- `_list_auth_keys_for_recovery`. -/
def apiKeysOf (response : TransportResponse) : Except ClientError (List ObservedApiKey) :=
  listOf ProvisioningRequest.listAuthKeys.operation
    (parseObservedApiKey ProvisioningRequest.listAuthKeys.operation) response

theorem map_parseUserRecord (operation : String) (data : List (String × Json)) :
    (parseUserRecord operation data).map UserRecord.user = parseObservedUser data operation := by
  rw [parseUserRecord]
  cases parseObservedUser data operation <;> rfl

theorem parseEach_parseObservedUser (operation : String) (entries : List (List (String × Json))) :
    parseEach (fun data => parseObservedUser data operation) entries =
      parseUsers operation entries := by
  induction entries with
  | nil => rfl
  | cons data rest ih => rw [parseEach, parseUsers, ih]

/-- The users of a response are those that `usersOf` reads. -/
theorem map_userRecordsOf (response : TransportResponse) :
    (userRecordsOf response).map (List.map UserRecord.user) = usersOf response := by
  unfold userRecordsOf listOf usersOf
  dsimp only [ProvisioningRequest.operation, ClientOperation.name]
  split_ifs
  · rcases Json.parse response.text with _ | value
    · rfl
    · cases value with
      | obj body =>
        dsimp only
        rcases getField body "data" with _ | data
        · rfl
        · cases data with
          | arr items =>
            dsimp only
            rcases objects items with _ | entries
            · rfl
            · dsimp only
              rw [map_parseEach]
              simp only [map_parseUserRecord, parseEach_parseObservedUser]
          | _ => rfl
      | _ => rfl
  · rfl

/-- What an operation that changes a user makes of the response. -/
def userRecordOf (operation : String) (response : TransportResponse) :
    Except ClientError UserRecord := do
  let data ← checkResponse response operation
  parseUserRecord operation data

/-- `ProvisionedApiKey`. -/
structure ProvisionedApiKey where
  username : String
  descr : String
  hashAlgo : String
  lengthBytes : ℤ
  secret : String
deriving DecidableEq

/-- The fields that a new key has to have, in the order in which they are looked up. -/
def requiredNewKeyFields : List String := ["username", "hash_algo", "length_bytes", "key"]

/-- What `create_auth_key` makes of the response. -/
def provisionedApiKeyOf (descr : String) (response : TransportResponse) :
    Except ClientError ProvisionedApiKey := do
  let data ← checkResponse response "create_auth_key"
  match requiredNewKeyFields.find? fun name => (getField data name).isNone with
  | some name =>
    ClientError.refuse s!"create_auth_key: response 'data' missing expected field '{name}'."
  | none =>
    match getField data "key" with
    | some (.str secret) =>
      if secret = "" then
        ClientError.refuse "create_auth_key: response did not contain a usable 'key' string."
      else
        match getField data "username", getField data "hash_algo",
          (getField data "length_bytes").bind asInt with
        | some (.str username), some (.str hashAlgo), some lengthBytes =>
          .ok { username, descr, hashAlgo, lengthBytes, secret }
        | _, _, _ =>
          ClientError.refuse "create_auth_key: response 'data' had an unexpected field type."
    | _ => ClientError.refuse "create_auth_key: response did not contain a usable 'key' string."

/-! ### Sessions -/

/-- The transport that a request goes through. -/
inductive Channel where
  /-- The transport of the administrator. -/
  | admin
  /-- The transport made for a user and a password. -/
  | selfService (username password : String)
  /-- The transport for the one deletion of a key. -/
  | keyRevocation
deriving DecidableEq

/-- What answers the requests, over a state `σ`. -/
structure Network (σ : Type) where
  /-- `Transport.request`. -/
  request : Channel → ProvisioningRequest → σ → Except Error TransportResponse × σ
  /-- `self_service_transport_factory`, by whether it raises. -/
  construct : String → String → σ → Except Error Unit × σ

/-- A request that was handed to a transport, with what that returned or raised. -/
structure Sent where
  channel : Channel
  request : ProvisioningRequest
  answer : Except Error TransportResponse

/-- The state of a network and what was sent. -/
structure Session (σ : Type) where
  world : σ
  sent : List Sent

/-- Code that makes requests. -/
abbrev ClientOp (σ : Type) := Procedure (Session σ) Unit ClientError

section

variable {σ α : Type} (net : Network σ)

namespace Session

/-- The answer to a request. -/
def answer (s : Session σ) (channel : Channel) (request : ProvisioningRequest) :
    Except Error TransportResponse := (net.request channel request s.world).1

/-- The session after a request. -/
def after (s : Session σ) (channel : Channel) (request : ProvisioningRequest) : Session σ where
  world := (net.request channel request s.world).2
  sent := s.sent ++ [⟨channel, request, s.answer net channel request⟩]

/-- The session after a transport was made. -/
def afterConstruct (s : Session σ) (username password : String) : Session σ :=
  { s with world := (net.construct username password s.world).2 }

@[simp]
theorem after_sent (s : Session σ) (channel : Channel) (request : ProvisioningRequest) :
    (s.after net channel request).sent =
      s.sent ++ [⟨channel, request, s.answer net channel request⟩] := rfl

@[simp]
theorem afterConstruct_sent (s : Session σ) (username password : String) :
    (s.afterConstruct net username password).sent = s.sent := rfl

end Session

/-- What is made of an answer: an exception of the transport is not converted. -/
def outcomeOf (parse : TransportResponse → Except ClientError α) :
    Except Error TransportResponse → Except ClientError α
  | .ok response => parse response
  | .error e => .error (.other e)

/-- A request, and what is made of its response. -/
def call (channel : Channel) (request : ProvisioningRequest)
    (parse : TransportResponse → Except ClientError α) : ClientOp σ α :=
  .atom (fun _ s => s.after net channel request) fun _ s =>
    ofExcept (outcomeOf parse (s.answer net channel request))

/-- `list_users`, by the administrator. -/
def listUsers : ClientOp σ (List UserRecord) := call net .admin .listUsers userRecordsOf

/-- `self_service_transport_factory(username, password)`. -/
def constructTransport (username password : String) : ClientOp σ Unit :=
  .atom (fun _ s => s.afterConstruct net username password) fun _ s =>
    ofExcept ((net.construct username password s.world).1.mapError .other)

/-- A `try` block with a handler for `BootstrapProvisioningError`, which gets its text. -/
def tryProvisioning (p : ClientOp σ α) : ClientOp σ (Except String α) := do
  match ← p.attempt with
  | .ok a => return .ok a
  | .error (.provisioning message _) => return .error message
  | .error (.other e) => raise (.other e)

variable {net} {channel : Channel} {request : ProvisioningRequest}
  {parse : TransportResponse → Except ClientError α} {s : Session σ}

/-! ### Sessions that change nothing -/

/-- Between two sessions, no change was asked for. -/
def Quiet (s s' : Session σ) : Prop :=
  ∃ sent, s'.sent = s.sent ++ sent ∧ ∀ x ∈ sent, x.request.mutates = false

theorem Quiet.refl : Quiet s s := ⟨[], by simp, by simp⟩

theorem Quiet.trans {s s' s'' : Session σ} (h : Quiet s s') (h' : Quiet s' s'') : Quiet s s'' := by
  obtain ⟨sent, hsent, hquiet⟩ := h
  obtain ⟨sent', hsent', hquiet'⟩ := h'
  refine ⟨sent ++ sent', by rw [hsent', hsent, List.append_assoc], ?_⟩
  intro x hx
  exact (List.mem_append.mp hx).elim (hquiet x) (hquiet' x)

/-- A read changes nothing. -/
theorem quiet_after (h : request.mutates = false) : Quiet s (s.after net channel request) :=
  ⟨[_], rfl, by simpa using h⟩

/-! ### Rules -/

@[simp]
theorem outcomeOf_ok (response : TransportResponse) :
    outcomeOf parse (.ok response) = parse response := rfl

@[simp]
theorem outcomeOf_error (e : Error) : outcomeOf parse (.error e) = .error (.other e) := rfl

/-- What is read from an answer comes from a response. -/
theorem exists_of_outcomeOf_eq_ok {answer : Except Error TransportResponse} {a : α}
    (h : outcomeOf parse answer = .ok a) : ∃ response, answer = .ok response ∧ parse response = .ok a := by
  cases answer with
  | ok response => exact ⟨response, rfl, h⟩
  | error e => cases h

/-- The rule of a request. -/
theorem wp_call {post : Except ClientError α → Session σ → Prop} :
    wp .alone (call net channel request parse) post s ↔
      post (outcomeOf parse (s.answer net channel request)) (s.after net channel request) := by
  rw [call, wp_alone_atom]
  simp only [wp_ofExcept, forall_const]

/-- The rule of making a transport. -/
theorem wp_constructTransport {username password : String}
    {post : Except ClientError Unit → Session σ → Prop} :
    wp .alone (constructTransport net username password) post s ↔
      post ((net.construct username password s.world).1.mapError .other)
        (s.afterConstruct net username password) := by
  rw [constructTransport, wp_alone_atom]
  simp only [wp_ofExcept, forall_const]

/-- The rule of a computation without effects that the code goes on from. -/
theorem wp_ofExcept_bind {β : Type} {x : Except ClientError α} {f : α → ClientOp σ β}
    {post : Except ClientError β → Session σ → Prop}
    (herror : ∀ e, x = .error e → post (.error e) s)
    (hok : ∀ a, x = .ok a → wp .alone (f a) post s) : wp .alone (ofExcept x >>= f) post s := by
  cases x with
  | error e => exact herror e rfl
  | ok a => exact hok a rfl

/-- The rule of a request that the code goes on from. -/
theorem wp_call_bind {β : Type} {f : α → ClientOp σ β}
    {post : Except ClientError β → Session σ → Prop}
    (herror : ∀ e, outcomeOf parse (s.answer net channel request) = .error e →
      post (.error e) (s.after net channel request))
    (hok : ∀ a, outcomeOf parse (s.answer net channel request) = .ok a →
      wp .alone (f a) post (s.after net channel request)) :
    wp .alone (call net channel request parse >>= f) post s := by
  rw [wp_bind, wp_call]
  cases h : outcomeOf parse (s.answer net channel request) with
  | error e => exact herror e h
  | ok a => exact hok a h

/-- What a handler for `BootstrapProvisioningError` makes of how the block ended. -/
def handled : Except ClientError α → Except ClientError (Except String α)
  | .ok a => .ok (.ok a)
  | .error (.provisioning message _) => .ok (.error message)
  | .error (.other e) => .error (.other e)

/-- The rule of a `try` block. -/
theorem wp_tryProvisioning {p : ClientOp σ α}
    {post : Except ClientError (Except String α) → Session σ → Prop} :
    wp .alone (tryProvisioning p) post s ↔
      wp .alone p (fun r s => post (handled r) s) s := by
  rw [tryProvisioning, wp_bind, wp_attempt]
  constructor
  · intro h
    refine wp_mono h fun r s hr => ?_
    cases r with
    | ok a => exact hr
    | error e => cases e <;> exact hr
  · intro h
    refine wp_mono h fun r s hr => ?_
    cases r with
    | ok a => exact hr
    | error e => cases e <;> exact hr

end

end Administration
