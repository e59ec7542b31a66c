import Mathlib.Data.Nat.Notation
import PfsenseMcp.Python.DateTime
import PfsenseMcp.Tier1.Database

/-!
# Rate and blast-radius containment

`tier1/rate_policy.py`. Every check runs on the tables of an open transaction.
-/

namespace Tier1

open Python RecoveryState

/-- `RateLimits`. -/
structure RateLimits where
  maxOutstandingPreparedPerTarget : ℕ
  maxGlobalInFlight : ℕ
  targetCooldownSeconds : ℕ
  reconciliationLockoutThreshold : ℕ
deriving DecidableEq

/-- `is_cooldown_state`. -/
def isCooldownState : RecoveryState → Bool
  | verified | failed | rolledBack | rollbackFailed => true
  | _ => false

namespace RateLimits

/-- `RatePolicy.check_prepare_allowed`. -/
def checkPrepareAllowed (limits : RateLimits) (db : Database) (targetIdentityDigest : String)
    (now : DateTime) : Except Error Unit := do
  demand (db.countStates [reconciliation] < limits.reconciliationLockoutThreshold)
    .rateLimitExceeded "Reconciliation lockout: too many contracts require operator resolution."
  demand (db.countTarget targetIdentityDigest prepared < limits.maxOutstandingPreparedPerTarget)
    .rateLimitExceeded "Target already has the maximum outstanding PREPARED contracts."
  match db.selectCooldown targetIdentityDigest with
  | none => .ok ()
  | some text =>
    match DateTime.fromisoformat text with
    | none => fail .valueError s!"Invalid isoformat string: {text}"
    | some cooldownUntil =>
      demand (cooldownUntil ≤ now) .rateLimitExceeded
        "Target is within its post-terminal cooldown window."

/-- The condition of `RatePolicy.check_execute_allowed`. -/
def executeAllowed (limits : RateLimits) (db : Database) : Prop :=
  db.countStates [executing, rollingBack] < limits.maxGlobalInFlight

instance (limits : RateLimits) (db : Database) : Decidable (limits.executeAllowed db) :=
  inferInstanceAs (Decidable (_ < _))

/-- `RatePolicy.check_execute_allowed`. -/
def checkExecuteAllowed (limits : RateLimits) (db : Database) : Except Error Unit :=
  demand (limits.executeAllowed db) .rateLimitExceeded "Global in-flight mutation limit reached."

/-- `RatePolicy.record_terminal`. -/
def recordTerminal (limits : RateLimits) (db : Database) (targetIdentityDigest : String)
    (now : DateTime) : Except Error Database :=
  match now.addSeconds limits.targetCooldownSeconds with
  | none => fail .overflow "date value out of range"
  | some cooldownUntil =>
    .ok (db.upsertCooldown ⟨targetIdentityDigest, cooldownUntil.isoformat⟩)

end RateLimits

end Tier1
