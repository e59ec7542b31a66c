import Mathlib.Data.Finset.Dedup
import Mathlib.Data.Finset.Empty
import Mathlib.Data.Int.Notation
import Mathlib.Data.Nat.Notation
import PfsenseMcp.Administration.OperationJournal
import PfsenseMcp.Tier1.Transport

/-!
# The bootstrap client

`BootstrapProvisioningClient` of `security_bootstrap_client.py`, as far as it observes: what each
operation hands to the transport, and what it makes of the response. An operation is fixed in its
method, its path and its body.

The texts of a response are read by `Json.parse`, so a text with a lone surrogate counts as no JSON.
-/

namespace Administration

open Python Tier1

/-! ### Operations -/

/-- The operations of the client that are modelled. -/
inductive ClientOperation where
  /-- `list_users`. -/
  | listUsers
  /-- `_observe_auth_settings_for_transition`. -/
  | observeAuthSettings
  /-- `_enable_basic_auth_for_transition`. -/
  | enableBasicAuth
  /-- `_restore_key_auth_for_transition`. -/
  | restoreKeyAuth
deriving DecidableEq, Repr

/-- `_full_path`; there is one version of the API. -/
def fullPath (pathSuffix : String) : String := "/api/v2" ++ pathSuffix

namespace ClientOperation

/-- The name of an operation in its errors. -/
def name : ClientOperation → String
  | listUsers => "list_users"
  | observeAuthSettings => "observe_auth_settings"
  | enableBasicAuth => "enable_basic_auth"
  | restoreKeyAuth => "restore_key_auth"

/-- The HTTP method of an operation. -/
def method : ClientOperation → String
  | listUsers | observeAuthSettings => "GET"
  | enableBasicAuth | restoreKeyAuth => "PATCH"

/-- The path of an operation. -/
def path : ClientOperation → String
  | listUsers => fullPath "/users"
  | observeAuthSettings | enableBasicAuth | restoreKeyAuth => fullPath "/system/restapi/settings"

/-- The body of an operation. -/
def body : ClientOperation → Option String
  | listUsers | observeAuthSettings => none
  | enableBasicAuth => some "\x7b\"auth_methods\":[\"KeyAuth\",\"BasicAuth\"]\x7d"
  | restoreKeyAuth => some "\x7b\"auth_methods\":[\"KeyAuth\"]\x7d"

/-- Whether an operation asks for a change. -/
def mutates (operation : ClientOperation) : Bool := operation.method != "GET"

end ClientOperation

/-! ### Errors -/

/-- An exception of an operation. -/
inductive ClientError where
  /-- `BootstrapProvisioningError`. -/
  | provisioning (message : String) (statusCode : Option ℕ)
  /-- Any other exception. -/
  | other (error : Error)

namespace ClientError

/-- The error of a response that is refused for its shape. -/
def refuse {α : Type} (message : String) : Except ClientError α := .error (.provisioning message none)

/-- `TransportRequestNotSentError`: the request did not leave. -/
def notSent : ClientError → Bool
  | other e => e.cls = .transportRequestNotSent
  | provisioning _ _ => false

/-- `TransportConnectionError`, of which `TransportRequestNotSentError` is a subclass, and
`TransportTimeoutError`. -/
def unreachable : ClientError → Bool
  | other e =>
    e.cls = .transportConnection ∨ e.cls = .transportRequestNotSent ∨ e.cls = .transportTimeout
  | provisioning _ _ => false

end ClientError

/-! ### Responses -/

/-- `_check_response`: the fields of the object `data`. -/
def checkResponse (response : TransportResponse) (operation : String) :
    Except ClientError (List (String × Json)) :=
  if 200 ≤ response.statusCode ∧ response.statusCode < 300 then
    match Json.parse response.text with
    | none => ClientError.refuse s!"{operation}: response was not valid JSON."
    | some (.obj body) =>
      match getField body "data" with
      | some (.obj data) => .ok data
      | _ => ClientError.refuse s!"{operation}: response had no 'data' object."
    | some _ => ClientError.refuse s!"{operation}: response was not a JSON object."
  else
    .error (.provisioning s!"{operation} failed: pfSense API returned HTTP {response.statusCode}."
      (some response.statusCode))

/-! ### Authentication settings -/

/-- `ObservedAuthSettings`. -/
structure ObservedAuthSettings where
  authMethods : Finset String
  /-- The digest of all other settings. -/
  unrelatedDigest : String
deriving DecidableEq

/-- The names of a list of authentication methods, if it has no other entries. -/
def methodNames : List Json → Option (List String)
  | [] => some []
  | .str method :: rest => if method = "" then none else (methodNames rest).map (method :: ·)
  | _ :: _ => none

section

variable [Platform]

/-- The digest of the settings without the authentication methods. -/
def unrelatedDigest (data : List (String × Json)) : String :=
  Platform.sha256 (Bytes.encodeUtf8 "pfsense-restapi-settings-unrelated-v1" ++ [0] ++
    canonical (.obj (data.filter fun field => field.1 ≠ "auth_methods")))

/-- `_parse_auth_settings`. -/
def parseAuthSettings (data : List (String × Json)) (operation : String) :
    Except ClientError ObservedAuthSettings :=
  match getField data "auth_methods" with
  | some (.arr items) =>
    match methodNames items with
    | some methods =>
      if methods ≠ [] ∧ methods.Nodup then .ok ⟨methods.toFinset, unrelatedDigest data⟩
      else ClientError.refuse s!"{operation}: response had malformed authentication methods."
    | none => ClientError.refuse s!"{operation}: response had malformed authentication methods."
  | _ => ClientError.refuse s!"{operation}: response had malformed authentication methods."

/-- What `_observe_auth_settings_for_transition` makes of the response. -/
def authSettingsOf (response : TransportResponse) : Except ClientError ObservedAuthSettings := do
  let data ← checkResponse response ClientOperation.observeAuthSettings.name
  parseAuthSettings data ClientOperation.observeAuthSettings.name

end

/-! ### Users -/

/-- `ObservedUser`. -/
structure ObservedUser where
  id : ℤ
  name : String
  descr : String
  priv : Finset String
  disabled : Bool
  scope : Option String
deriving DecidableEq

/-- The fields that a user has to have, in the order in which they are looked up. -/
def requiredUserFields : List String := ["id", "name", "descr", "priv", "disabled"]

/-- A value that is an `int`; a Boolean is one. -/
def asInt : Json → Option ℤ
  | .int n => some n
  | .bool b => some (if b then 1 else 0)
  | _ => none

/-- The texts of a list, if it has no other entries. -/
def texts : List Json → Option (List String)
  | [] => some []
  | .str text :: rest => (texts rest).map (text :: ·)
  | _ :: _ => none

/-- The privileges of a user; `null` stands for none. -/
def parsePriv : Json → Option (Finset String)
  | .null => some ∅
  | .arr items => (texts items).map List.toFinset
  | _ => none

/-- The scope of a user, which may be missing. -/
def parseScope : Option Json → Option (Option String)
  | none | some .null => some none
  | some (.str scope) => some (some scope)
  | some _ => none

/-- `_parse_observed_user`. -/
def parseObservedUser (data : List (String × Json)) (operation : String) :
    Except ClientError ObservedUser :=
  match requiredUserFields.find? fun name => (getField data name).isNone with
  | some name => ClientError.refuse s!"{operation}: response 'data' missing expected field '{name}'."
  | none =>
    match (getField data "id").bind asInt, getField data "name", getField data "descr",
      getField data "disabled", parseScope (getField data "scope") with
    | some id, some (.str name), some (.str descr), some (.bool disabled), some scope =>
      match (getField data "priv").bind parsePriv with
      | some priv => .ok { id, name, descr, priv, disabled, scope }
      | none => ClientError.refuse s!"{operation}: response 'data.priv' was not a list of strings."
    | _, _, _, _, _ => ClientError.refuse s!"{operation}: response 'data' had an unexpected field type."

/-- The objects of a list, if it has no other entries. -/
def objects : List Json → Option (List (List (String × Json)))
  | [] => some []
  | .obj fields :: rest => (objects rest).map (fields :: ·)
  | _ :: _ => none

/-- The users of a list of objects. -/
def parseUsers (operation : String) : List (List (String × Json)) →
    Except ClientError (List ObservedUser)
  | [] => .ok []
  | data :: rest => do
    let user ← parseObservedUser data operation
    let users ← parseUsers operation rest
    .ok (user :: users)

/-- What `list_users` makes of the response. Its error for a status carries no status code. -/
def usersOf (response : TransportResponse) : Except ClientError (List ObservedUser) :=
  let operation := ClientOperation.listUsers.name
  if 200 ≤ response.statusCode ∧ response.statusCode < 300 then
    match Json.parse response.text with
    | none => ClientError.refuse s!"{operation}: response was not valid JSON."
    | some (.obj body) =>
      match getField body "data" with
      | some (.arr items) =>
        match objects items with
        | some entries => parseUsers operation entries
        | none => ClientError.refuse s!"{operation}: response 'data' contained a non-object entry."
      | _ => ClientError.refuse s!"{operation}: response 'data' was not a list."
    | some _ => ClientError.refuse s!"{operation}: response was not a JSON object."
  else ClientError.refuse s!"{operation} failed: pfSense API returned HTTP {response.statusCode}."

end Administration
