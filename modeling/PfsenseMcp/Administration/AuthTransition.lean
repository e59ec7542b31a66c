import Mathlib.Data.Finset.Insert
import Mathlib.Data.Nat.Notation
import PfsenseMcp.Administration.BootstrapClient
import PfsenseMcp.Concurrency.Procedure

/-!
# The transition of the authentication methods

`AuthMethodTransitionCoordinator` of `security_auth_transition.py`: it enables `BasicAuth` beside
`KeyAuth` once and takes it back once. Every request goes through a transport made for it. What a
factory and a transport do is answered by the environment, anew at every step; they may raise any
exception that Python code handles. Closing a transport and waiting between two attempts have no
effect and are left out.

The trace lists the operations that were attempted. No call reads it.
-/

namespace Administration

open Python Concurrency Procedure Tier1

/-! ### States and results -/

/-- `AuthTransitionState`. -/
inductive AuthTransitionState where
  | keyauthConfirmed
  | basicauthEnableSent
  | basicauthEnableIndeterminate
  | basicauthConfirmed
  | restoreSent
  | restoreIndeterminate
  | keyauthRestored
  | outOfBandRecoveryRequired
deriving DecidableEq, Repr

/-- `MutationDelivery`. -/
inductive MutationDelivery where
  | notAttempted
  | knownNotSent
  | responseReceived
  | sentResultIndeterminate
deriving DecidableEq, Repr

/-- `TransitionFinding`. -/
inductive TransitionFinding where
  | expectedStateConfirmed
  | mutationNotObserved
  | unexpectedInitialState
  | unexpectedPostState
  | unrelatedSettingsChanged
  | malformedResponse
  | infrastructureFailure
  | reconnectExhausted
  | invalidSequence
deriving DecidableEq, Repr

/-- `ReconnectPolicy`, without the delay. -/
structure ReconnectPolicy where
  maximumAttempts : ℕ
  one_le : 1 ≤ maximumAttempts
  le_twenty : maximumAttempts ≤ 20

/-- `AuthTransitionResult`. -/
structure AuthTransitionResult where
  state : AuthTransitionState
  delivery : MutationDelivery
  finding : TransitionFinding
  observationAttempts : ℕ
  unrelatedSettingsPreserved : Bool
  stateHistory : List AuthTransitionState
deriving DecidableEq

/-- `BasicAuthAvailability`. -/
structure BasicAuthAvailability where
  available : Bool
  attempts : ℕ
deriving DecidableEq

/-- `_KEY_ONLY`. -/
def keyOnly : Finset String := {"KeyAuth"}

/-- `_KEY_AND_BASIC`. -/
def keyAndBasic : Finset String := {"KeyAuth", "BasicAuth"}

/-! ### The coordinator -/

/-- An operation that was attempted. -/
structure Attempt where
  operation : ClientOperation
  /-- What `Transport.request` returned or raised; `none` if no transport could be made. -/
  exchange : Option (Except ClientError TransportResponse)

/-- `AuthMethodTransitionCoordinator`, by the fields it changes, with the trace. -/
structure Coordinator where
  state : Option AuthTransitionState := none
  baselineDigest : Option String := none
  enableAttempted : Bool := false
  restoreAttempted : Bool := false
  history : List AuthTransitionState := []
  trace : List Attempt := []

/-- What the environment answers at a step. -/
structure TransportAnswers where
  /-- Whether the factory raises. -/
  unconstructed : Bool
  /-- What `Transport.request` returns or raises. -/
  answer : Except ClientError TransportResponse

/-- Code on the coordinator. -/
abbrev CoordinatorOp := Procedure Coordinator TransportAnswers ClientError

namespace Coordinator

/-- Enter a state. -/
def enter (s : Coordinator) (state : AuthTransitionState) : Coordinator :=
  { s with state := some state, history := s.history ++ [state] }

/-- An operation was attempted. -/
def attempted (s : Coordinator) (attempt : Attempt) : Coordinator :=
  { s with trace := s.trace ++ [attempt] }

end Coordinator

/-- Look at the coordinator. -/
def getCoordinator : CoordinatorOp Coordinator := .atom (fun _ s => s) fun _ s => .ret s

/-- Change the coordinator. -/
def modifyCoordinator (f : Coordinator → Coordinator) : CoordinatorOp Unit :=
  .atom (fun _ s => f s) fun _ _ => .ret ()

/-- `factory()`, with its exception replaced. -/
def construct (operation : ClientOperation) : CoordinatorOp Unit :=
  .atom (fun i s => if i.unconstructed then s.attempted ⟨operation, none⟩ else s) fun i _ =>
    if i.unconstructed then
      .raise (.other ⟨.transportRequestNotSent, "Fresh transport construction failed"⟩)
    else .ret ()

/-- `Transport.request`, on the method, the path and the body of an operation. -/
def request (operation : ClientOperation) : CoordinatorOp TransportResponse :=
  .atom (fun i s => s.attempted ⟨operation, some i.answer⟩) fun i _ => ofExcept i.answer

/-- `_fresh_call`. -/
def freshCall {α : Type} (operation : ClientOperation)
    (parse : TransportResponse → Except ClientError α) : CoordinatorOp α := do
  construct operation
  let response ← request operation
  ofExcept (parse response)

/-- `_fresh_mutation`. -/
def freshMutation (sentState : AuthTransitionState) (operation : ClientOperation) :
    CoordinatorOp Unit := do
  construct operation
  modifyCoordinator fun s => s.enter sentState
  let response ← request operation
  let _ ← ofExcept (checkResponse response operation.name)

/-- `_result`. -/
def result (state : AuthTransitionState) (delivery : MutationDelivery)
    (finding : TransitionFinding) (attempts : ℕ) (preserved : Bool) :
    CoordinatorOp AuthTransitionResult :=
  .atom (fun _ s => s.enter state) fun _ s =>
    .ret ⟨state, delivery, finding, attempts, preserved, (s.enter state).history⟩

/-- The handlers around a mutation: how far it went. -/
def deliver (sentState indeterminateState : AuthTransitionState) (operation : ClientOperation) :
    CoordinatorOp MutationDelivery := do
  let outcome ← (freshMutation sentState operation).attempt
  match outcome with
  | .ok () => return .responseReceived
  | .error e =>
    if e.notSent then return .knownNotSent
    else do
      modifyCoordinator fun s => s.enter indeterminateState
      return .sentResultIndeterminate

/-- A call out of sequence. -/
def invalidSequence : CoordinatorOp AuthTransitionResult :=
  result .outOfBandRecoveryRequired .notAttempted .invalidSequence 0 false

section

variable [Platform]

/-- The outcome of `_observe_bounded`. -/
abbrev Observation := Option ObservedAuthSettings × ℕ × Option TransitionFinding

/-- `_TRANSIENT_OBSERVATION_STATUS_CODES`. -/
def transientObservationStatusCodes : List ℕ := [502, 503, 504]

/-- The attempts of `_observe_bounded` that are left. -/
def observeFrom (maximumAttempts : ℕ) : ℕ → CoordinatorOp Observation
  | 0 => return (none, maximumAttempts, some .reconnectExhausted)
  | left + 1 => do
    let attempt := maximumAttempts - left
    let outcome ← (freshCall .observeAuthSettings authSettingsOf).attempt
    match outcome with
    | .ok observed => return (some observed, attempt, none)
    | .error e =>
      if e.unreachable then observeFrom maximumAttempts left
      else match e with
        | .provisioning _ (some statusCode) =>
          if statusCode ∈ transientObservationStatusCodes then observeFrom maximumAttempts left
          else return (none, attempt, some .malformedResponse)
        | .provisioning _ none => return (none, attempt, some .malformedResponse)
        | .other _ => return (none, attempt, some .infrastructureFailure)

/-- `_observe_bounded`. -/
def observeBounded (policy : ReconnectPolicy) : CoordinatorOp Observation :=
  observeFrom policy.maximumAttempts policy.maximumAttempts

/-- The end of `enable_basic_auth`, from the second observation on. -/
def concludeEnable (delivery : MutationDelivery) : Observation → CoordinatorOp AuthTransitionResult
  | (none, attempts, failure) =>
    result .outOfBandRecoveryRequired delivery (failure.getD .reconnectExhausted) attempts false
  | (some observed, attempts, _) => do
    let s ← getCoordinator
    if some observed.unrelatedDigest ≠ s.baselineDigest then
      result .outOfBandRecoveryRequired delivery .unrelatedSettingsChanged attempts false
    else if observed.authMethods = keyAndBasic then
      result .basicauthConfirmed delivery .expectedStateConfirmed attempts true
    else if observed.authMethods = keyOnly ∧
        (delivery = .knownNotSent ∨ delivery = .sentResultIndeterminate) then
      result .keyauthConfirmed delivery .mutationNotObserved attempts true
    else result .outOfBandRecoveryRequired delivery .unexpectedPostState attempts true

/-- `enable_basic_auth` after its first observation. -/
def enableFrom (policy : ReconnectPolicy) : Observation → CoordinatorOp AuthTransitionResult
  | (none, attempts, failure) =>
    result .outOfBandRecoveryRequired .notAttempted (failure.getD .reconnectExhausted) attempts false
  | (some initial, attempts, _) =>
    if initial.authMethods ≠ keyOnly then
      result .outOfBandRecoveryRequired .notAttempted .unexpectedInitialState attempts false
    else do
      modifyCoordinator fun s =>
        { s.enter .keyauthConfirmed with
          baselineDigest := some initial.unrelatedDigest, enableAttempted := true }
      let delivery ← deliver .basicauthEnableSent .basicauthEnableIndeterminate .enableBasicAuth
      let observation ← observeBounded policy
      concludeEnable delivery observation

/-- `enable_basic_auth`. -/
def enableBasicAuth (policy : ReconnectPolicy) : CoordinatorOp AuthTransitionResult := do
  let s ← getCoordinator
  if s.enableAttempted = true ∨ s.state ≠ none then invalidSequence
  else do
    let observation ← observeBounded policy
    enableFrom policy observation

/-- The attempts of `verify_basic_auth_available` that are left. -/
def verifyFrom (maximumAttempts : ℕ) : ℕ → CoordinatorOp BasicAuthAvailability
  | 0 => return ⟨false, maximumAttempts⟩
  | left + 1 => do
    let attempt := maximumAttempts - left
    let outcome ← (freshCall .listUsers usersOf).attempt
    match outcome with
    | .ok _ => return ⟨true, attempt⟩
    | .error e =>
      if e.unreachable then verifyFrom maximumAttempts left
      else return ⟨false, attempt⟩

/-- `verify_basic_auth_available`. -/
def verifyBasicAuthAvailable (policy : ReconnectPolicy) : CoordinatorOp BasicAuthAvailability := do
  let s ← getCoordinator
  if s.state ≠ some .basicauthConfirmed then return ⟨false, 0⟩
  else verifyFrom policy.maximumAttempts policy.maximumAttempts

/-- The end of `restore_key_auth`, from the second observation on. -/
def concludeRestore (delivery : MutationDelivery) : Observation → CoordinatorOp AuthTransitionResult
  | (none, attempts, failure) =>
    result .outOfBandRecoveryRequired delivery (failure.getD .reconnectExhausted) attempts false
  | (some observed, attempts, _) => do
    let s ← getCoordinator
    let preserved := decide (some observed.unrelatedDigest = s.baselineDigest)
    if preserved = true ∧ observed.authMethods = keyOnly then
      result .keyauthRestored delivery .expectedStateConfirmed attempts true
    else if preserved = true ∧ observed.authMethods = keyAndBasic ∧
        (delivery = .knownNotSent ∨ delivery = .sentResultIndeterminate) then
      result .basicauthConfirmed delivery .mutationNotObserved attempts true
    else
      result .outOfBandRecoveryRequired delivery
        (if preserved = false then .unrelatedSettingsChanged else .unexpectedPostState)
        attempts preserved

/-- `restore_key_auth` after its first observation. -/
def restoreFrom (policy : ReconnectPolicy) : Observation → CoordinatorOp AuthTransitionResult
  | (none, attempts, failure) =>
    result .outOfBandRecoveryRequired .notAttempted (failure.getD .reconnectExhausted) attempts false
  | (some current, attempts, _) => do
    let s ← getCoordinator
    if current.authMethods ≠ keyAndBasic ∨ some current.unrelatedDigest ≠ s.baselineDigest then
      result .outOfBandRecoveryRequired .notAttempted
        (if some current.unrelatedDigest ≠ s.baselineDigest then .unrelatedSettingsChanged
          else .unexpectedInitialState) attempts false
    else do
      modifyCoordinator fun s => { s with restoreAttempted := true }
      let delivery ← deliver .restoreSent .restoreIndeterminate .restoreKeyAuth
      let observation ← observeBounded policy
      concludeRestore delivery observation

/-- `restore_key_auth`. -/
def restoreKeyAuth (policy : ReconnectPolicy) : CoordinatorOp AuthTransitionResult := do
  let s ← getCoordinator
  if s.restoreAttempted = true ∨ s.state ≠ some .basicauthConfirmed then invalidSequence
  else do
    let observation ← observeBounded policy
    restoreFrom policy observation

/-! ### Sequences of calls -/

/-- The calls of a coordinator. -/
inductive CoordinatorCall where
  | enableBasicAuth
  | verifyBasicAuthAvailable
  | restoreKeyAuth
deriving DecidableEq, Repr

/-- What a call returns: a result of a transition, or the availability. -/
abbrev CallResult := AuthTransitionResult ⊕ BasicAuthAvailability

/-- The code of a call. -/
def CoordinatorCall.program (policy : ReconnectPolicy) : CoordinatorCall → CoordinatorOp CallResult
  | .enableBasicAuth => .inl <$> Administration.enableBasicAuth policy
  | .verifyBasicAuthAvailable => .inr <$> Administration.verifyBasicAuthAvailable policy
  | .restoreKeyAuth => .inl <$> Administration.restoreKeyAuth policy

/-- The coordinator after a sequence of calls, each with what the transports do during it. -/
def afterCalls (policy : ReconnectPolicy) :
    List (CoordinatorCall × (ℕ → TransportAnswers)) → Coordinator
  | [] => {}
  | (call, answers) :: earlier => ((call.program policy).run answers (afterCalls policy earlier)).state

end

end Administration
