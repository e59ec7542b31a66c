import Mathlib.Data.Nat.Notation
import PfsenseMcp.Python.Bytes
import PfsenseMcp.Tier1.Errors

/-!
# From the executor to the network

`write_endpoints.py`, `write_api_client.py` and `transport/http.py`, as far as a sealed mutation
goes through them. What happens on the network is an `Exchange`: the outcome of one call of
`httpx.Client.request`, together with whether a byte of the request may have left the host.

`HttpTransport.request` renames the exceptions of `httpx`. Connection failures become
`TransportRequestNotSentError`, timeouts become `TransportTimeoutError`, and every other
`TransportError` becomes `TransportConnectionError`, whose subclass the first one is.
-/

namespace Tier1

open Python

/-! ### The exchange -/

/-- The outcome of one `httpx` request. `sent` says whether a byte of it may have been sent. -/
inductive Exchange where
  /-- An answer of the appliance. -/
  | response (statusCode : ℕ) (text : String)
  /-- `httpx.ConnectError`, with the description of the failure. -/
  | connectError (detail : String)
  /-- `httpx.ConnectTimeout`. -/
  | connectTimeout (detail : String)
  /-- `httpx.PoolTimeout`. -/
  | poolTimeout (detail : String)
  /-- Another `httpx.TimeoutException`. -/
  | timeout (sent : Bool)
  /-- Another `httpx.TransportError`, such as `ReadError` or `RemoteProtocolError`. -/
  | transportError (sent : Bool)
  /-- An exception outside `httpx.TransportError`, by the name of its class and its message. -/
  | otherError (name message : String) (sent : Bool)

namespace Exchange

/-- Whether a byte of the request may have been sent. `httpx` raises `ConnectError`,
`ConnectTimeout` and `PoolTimeout` only before sending. -/
def maySend : Exchange → Bool
  | response _ _ => true
  | connectError _ | connectTimeout _ | poolTimeout _ => false
  | timeout sent | transportError sent | otherError _ _ sent => sent

end Exchange

/-- `TransportResponse`. -/
structure TransportResponse where
  statusCode : ℕ
  text : String
deriving DecidableEq, Repr

/-- `HttpTransport.request`, given what happens on the network. -/
def HttpTransport.request (method path : String) : Exchange → Except Error TransportResponse
  | .response statusCode text => .ok ⟨statusCode, text⟩
  | .connectError detail | .connectTimeout detail | .poolTimeout detail =>
    fail .transportRequestNotSent s!"Could not connect for {method} {path}: {detail}"
  | .timeout _ => fail .transportTimeout s!"Request timed out for {method} {path}"
  | .transportError _ => fail .transportConnection s!"Transport failed for {method} {path}"
  | .otherError name message _ => fail (.other name) message

/-! ### The allow-list -/

/-- `WriteEndpointInfo`, as far as a send reads it. Every entry requires API version 2, the only
version there is. -/
structure WriteEndpointInfo where
  pathSuffix : String
  httpMethod : String
  verified : Bool
  acceptanceEligible : Bool
deriving DecidableEq, Repr

/-- `_resolve_endpoint`: the entries of `WriteEndpoints`. -/
def resolveEndpoint (endpointSymbol : String) : Option WriteEndpointInfo :=
  if endpointSymbol = "FIREWALL_ALIAS_DESCRIPTION" then
    some ⟨"/firewall/alias", "PATCH", true, true⟩
  else if endpointSymbol = "NTP_TIME_SERVER_PREFER" then
    some ⟨"/services/ntp/time_server", "PATCH", false, true⟩
  else if endpointSymbol = "NTP_SETTINGS_OBSERVABILITY_TOGGLES" then
    some ⟨"/services/ntp/settings", "PATCH", false, true⟩
  else if endpointSymbol = "LOG_DISPLAY_PREFERENCES" ∨ endpointSymbol = "LOG_RETENTION_SETTINGS" then
    some ⟨"/status/logs/settings", "PATCH", false, true⟩
  else if endpointSymbol = "SYSTEM_TIMEZONE" then
    some ⟨"/system/timezone", "PATCH", false, true⟩
  else none

/-- `AcceptanceExecutionContext`, as far as a send reads it. -/
structure AcceptanceExecutionContext where
  endpointSymbol : String
  httpMethod : String
  targetIdentity : String
deriving DecidableEq, Repr

/-- `WriteApiClient`, by the identity it is bound to. -/
structure WriteApiClient where
  identity : String

namespace WriteApiClient

/-- The error of a send that is refused before any network call. -/
def refuse {α : Type} (message : String) : Except Error α := fail .writeNotAllowed message

/-- The checks of `send_for_tier1`; the path of the request. -/
def pathForTier1 (endpointSymbol httpMethod : String) : Except Error String :=
  match resolveEndpoint endpointSymbol with
  | none => refuse s!"'{endpointSymbol}' is not in the write allow-list."
  | some endpoint =>
    if endpoint.verified = false then
      refuse s!"WriteEndpoints.{endpointSymbol} is not verified=True."
    else if endpoint.httpMethod ≠ httpMethod then
      refuse s!"http_method '{httpMethod}' does not match the allow-listed method for '{endpointSymbol}'."
    else .ok ("/api/v2" ++ endpoint.pathSuffix)

/-- The checks of `send_for_tier1_acceptance`; the path of the request. -/
def pathForTier1Acceptance (client : WriteApiClient) (context : AcceptanceExecutionContext)
    (endpointSymbol httpMethod : String) : Except Error String :=
  match resolveEndpoint endpointSymbol with
  | none => refuse s!"'{endpointSymbol}' is not in the write allow-list."
  | some endpoint =>
    if endpoint.acceptanceEligible = false then
      refuse s!"WriteEndpoints.{endpointSymbol} is not acceptance_eligible=True."
    else if endpoint.verified = true then
      refuse (s!"WriteEndpoints.{endpointSymbol} is already verified=True; " ++
        "the first-live-acceptance path permanently refuses further use.")
    else if endpoint.httpMethod ≠ httpMethod then
      refuse s!"http_method '{httpMethod}' does not match the allow-listed method for '{endpointSymbol}'."
    else if context.endpointSymbol ≠ endpointSymbol then
      refuse "Acceptance context endpoint_symbol does not match this call."
    else if context.httpMethod ≠ httpMethod then
      refuse "Acceptance context http_method does not match this call."
    else if context.targetIdentity ≠ client.identity then
      refuse "Acceptance context target identity does not match this client."
    else .ok ("/api/v2" ++ endpoint.pathSuffix)

/-- The path of the request that `_send` makes, with or without an acceptance context. -/
def path (client : WriteApiClient) (context : Option AcceptanceExecutionContext)
    (endpointSymbol httpMethod : String) : Except Error String :=
  match context with
  | none => pathForTier1 endpointSymbol httpMethod
  | some context => client.pathForTier1Acceptance context endpointSymbol httpMethod

/-- `send_for_tier1`, or `send_for_tier1_acceptance` when a context is given. -/
def send (client : WriteApiClient) (context : Option AcceptanceExecutionContext)
    (endpointSymbol httpMethod : String) (exchange : Exchange) : Except Error TransportResponse := do
  let path ← client.path context endpointSymbol httpMethod
  HttpTransport.request httpMethod path exchange

end WriteApiClient

end Tier1
