import Mathlib.Logic.Basic
import Mathlib.Tactic.SplitIfs

/-!
# Failures

The exception classes that the modelled code raises or tells apart, and a raised exception as its
class and its message. Classes of `tier1/errors.py` keep their names. The classes of Python's
standard library and of the network layer are listed as far as a handler of the modelled code
mentions them; any other class, such as one an adapter raises, is `other`.
-/

namespace Tier1

/-- The class of an exception. -/
inductive ErrorClass where
  | canonicalization
  | contractValidation
  | contractNotFound
  | contractIntegrity
  | contractConflict
  | illegalTransition
  | mutationPolicy
  | contractBinding
  | confirmation
  | artifactDecryption
  | anchorUnavailable
  | anchorConflict
  | anchorAlreadyProvisioned
  | wholeStoreRollbackDetected
  | rateLimitExceeded
  | globalReadOnlyBlocked
  /-- `pfsense_mcp.errors.WriteNotAllowedError`. -/
  | writeNotAllowed
  /-- `pfsense_mcp.transport.base.TransportConnectionError`. -/
  | transportConnection
  /-- Its subclass `TransportRequestNotSentError`. -/
  | transportRequestNotSent
  /-- `pfsense_mcp.transport.base.TransportTimeoutError`. -/
  | transportTimeout
  | overflow
  | keyError
  | valueError
  /-- `sqlite3.IntegrityError`: a constraint of the schema refused a statement. -/
  | sqliteIntegrity
  /-- `sqlite3.OperationalError`. -/
  | sqliteOperational
  /-- Any other class, by its name. -/
  | other (name : String)
deriving DecidableEq, Repr

namespace ErrorClass

/-- `type(exc).__name__`. -/
def name : ErrorClass → String
  | canonicalization => "CanonicalizationError"
  | contractValidation => "ContractValidationError"
  | contractNotFound => "ContractNotFoundError"
  | contractIntegrity => "ContractIntegrityError"
  | contractConflict => "ContractConflictError"
  | illegalTransition => "IllegalTransitionError"
  | mutationPolicy => "MutationPolicyError"
  | contractBinding => "ContractBindingError"
  | confirmation => "ConfirmationError"
  | artifactDecryption => "ArtifactDecryptionError"
  | anchorUnavailable => "AnchorUnavailableError"
  | anchorConflict => "AnchorConflictError"
  | anchorAlreadyProvisioned => "AnchorAlreadyProvisionedError"
  | wholeStoreRollbackDetected => "WholeStoreRollbackDetected"
  | rateLimitExceeded => "RateLimitExceededError"
  | globalReadOnlyBlocked => "GlobalReadOnlyBlockedError"
  | writeNotAllowed => "WriteNotAllowedError"
  | transportConnection => "TransportConnectionError"
  | transportRequestNotSent => "TransportRequestNotSentError"
  | transportTimeout => "TransportTimeoutError"
  | overflow => "OverflowError"
  | keyError => "KeyError"
  | valueError => "ValueError"
  | sqliteIntegrity => "IntegrityError"
  | sqliteOperational => "OperationalError"
  | other name => name

end ErrorClass

/-- A raised exception. -/
structure Error where
  /-- The class of the exception. -/
  cls : ErrorClass
  /-- Its message. -/
  message : String
deriving DecidableEq, Repr

/-- Raise an exception of a class with a message. -/
def fail {α : Type} (cls : ErrorClass) (message : String) : Except Error α :=
  .error ⟨cls, message⟩

/-- Raise an exception unless a condition holds. -/
def demand (condition : Prop) [Decidable condition] (cls : ErrorClass) (message : String) :
    Except Error Unit :=
  if condition then .ok () else fail cls message

@[simp]
theorem demand_eq_ok {condition : Prop} [Decidable condition] {cls : ErrorClass}
    {message : String} {u : Unit} : demand condition cls message = .ok u ↔ condition := by
  unfold demand fail
  split_ifs with h <;> simp [h]

theorem demand_of {condition : Prop} [Decidable condition] {cls : ErrorClass} {message : String}
    (h : condition) : demand condition cls message = .ok () := if_pos h

theorem ok_bind {α β : Type} (a : α) (f : α → Except Error β) :
    ((Except.ok a : Except Error α) >>= f) = f a := rfl

/-- The inversion of a sequence of computations that may raise. -/
theorem bind_eq_ok {α β : Type} {x : Except Error α} {f : α → Except Error β} {b : β} :
    (x >>= f) = .ok b ↔ ∃ a, x = .ok a ∧ f a = .ok b := by
  cases x with
  | error e => exact ⟨nofun, nofun⟩
  | ok a =>
    refine ⟨fun h => ⟨a, rfl, h⟩, ?_⟩
    rintro ⟨a', ha, hb⟩
    cases ha
    exact hb

end Tier1
