import Mathlib.Logic.Basic
import PfsenseMcp.Tier1.Errors

/-!
# The recovery state machine

`tier1/state_machine.py`, with the two closed classifications that its users select from:
`tier1/write_security_class.py` (which execution policy takes part in the witness protocol) and
`tier1/faults.py` (which state a fault leads to).
-/

namespace Tier1

/-- `RecoveryState`. -/
inductive RecoveryState where
  | preparing
  | prepared
  | executing
  | verified
  | failed
  | reconciliation
  | rollingBack
  | rolledBack
  | rollbackFailed
  | expired
deriving DecidableEq, Repr

namespace RecoveryState

/-- The wire value of a state. -/
def value : RecoveryState → String
  | preparing => "preparing"
  | prepared => "prepared"
  | executing => "executing"
  | verified => "verified"
  | failed => "failed"
  | reconciliation => "reconciliation"
  | rollingBack => "rolling_back"
  | rolledBack => "rolled_back"
  | rollbackFailed => "rollback_failed"
  | expired => "expired"

/-- All states. -/
def all : List RecoveryState :=
  [preparing, prepared, executing, verified, failed, reconciliation, rollingBack, rolledBack,
    rollbackFailed, expired]

/-- `RecoveryState(value)`: `none` is a `ValueError`. -/
def ofValue (value : String) : Option RecoveryState := all.find? fun s => s.value = value

@[simp]
theorem ofValue_value (s : RecoveryState) : ofValue s.value = some s := by
  cases s <;> decide

theorem value_inj {s t : RecoveryState} : s.value = t.value ↔ s = t := by
  refine ⟨fun h => ?_, fun h => congrArg value h⟩
  have hs := ofValue_value s
  rw [h, ofValue_value] at hs
  exact (Option.some.inj hs).symm

end RecoveryState

open RecoveryState

/-- `TransitionRule`. -/
structure TransitionRule where
  manualOnly : Bool := false
deriving DecidableEq, Repr

/-- `LEGAL_TRANSITIONS`. -/
def legalTransitions : RecoveryState → RecoveryState → Option TransitionRule
  | preparing, prepared | preparing, failed | preparing, expired
  | prepared, executing | prepared, failed | prepared, expired
  | executing, verified | executing, failed | executing, reconciliation
  | verified, rollingBack
  | rollingBack, rolledBack | rollingBack, rollbackFailed | rollingBack, reconciliation =>
    some {}
  | reconciliation, verified | reconciliation, failed | reconciliation, rollingBack
  | reconciliation, rolledBack | reconciliation, rollbackFailed =>
    some { manualOnly := true }
  | _, _ => none

/-- `require_transition`. -/
def requireTransition (current target : RecoveryState) (manual : Bool) : Except Error Unit :=
  match legalTransitions current target with
  | some rule =>
    if rule.manualOnly ∧ ¬manual then
      fail .illegalTransition
        s!"Recovery transition {current.value} -> {target.value} is not authorized."
    else .ok ()
  | none =>
    fail .illegalTransition
      s!"Recovery transition {current.value} -> {target.value} is not authorized."

/-- `is_terminal`. -/
def isTerminal (state : RecoveryState) : Bool :=
  RecoveryState.all.all fun target => (legalTransitions state target).isNone

/-- `blocks_fresh_idempotency_attempt`: membership in `BLOCKING_IDEMPOTENCY_STATES`. -/
def blocksFreshIdempotencyAttempt : RecoveryState → Bool
  | preparing | prepared | executing | verified | reconciliation | rollingBack
  | rollbackFailed => true
  | failed | rolledBack | expired => false

/-- An accepted transition is listed, and is manual-only at most when asked for manually. -/
theorem requireTransition_eq_ok {current target : RecoveryState} {manual : Bool} {u : Unit} :
    requireTransition current target manual = .ok u ↔
      ∃ rule, legalTransitions current target = some rule ∧
        (rule.manualOnly = true → manual = true) := by
  unfold requireTransition fail
  cases h : legalTransitions current target with
  | none => simp
  | some rule =>
    by_cases hm : rule.manualOnly = true ∧ ¬manual = true
    · simp [hm]
    · simp only [hm, if_false, true_iff]
      exact ⟨rule, rfl, fun h => by simpa [h] using hm⟩

/-- Only a manual resolution leaves `RECONCILIATION`. -/
theorem ne_reconciliation_of_requireTransition {current target : RecoveryState} {u : Unit}
    (h : requireTransition current target false = .ok u) : current ≠ reconciliation := by
  rintro rfl
  cases target <;> simp [requireTransition, legalTransitions, fail] at h

/-- No transition leaves a state in which a fresh attempt is not blocked. -/
theorem blocks_of_legalTransitions {current target : RecoveryState} {rule : TransitionRule}
    (h : legalTransitions current target = some rule) :
    blocksFreshIdempotencyAttempt current = true := by
  cases current <;> simp_all [legalTransitions, blocksFreshIdempotencyAttempt]

/-! ### Write security classes -/

/-- `WriteSecurityClass`. -/
inductive WriteSecurityClass where
  | standardSealedWrite
  | highAssuranceTier1
deriving DecidableEq, Repr

namespace WriteSecurityClass

/-- The wire value of a class. -/
def value : WriteSecurityClass → String
  | standardSealedWrite => "standard_sealed_write"
  | highAssuranceTier1 => "high_assurance_tier1"

/-- `WriteSecurityClass(value)`: `none` is a `ValueError`. -/
def ofValue (value : String) : Option WriteSecurityClass :=
  [standardSealedWrite, highAssuranceTier1].find? fun s => s.value = value

@[simp]
theorem ofValue_value (s : WriteSecurityClass) : ofValue s.value = some s := by
  cases s <;> decide

end WriteSecurityClass

/-- An `ExecutionSecurityPolicy`, by the class whose policy it is: the two implementations are
`HighAssuranceTier1ExecutionPolicy` and `StandardSealedExecutionPolicy`. -/
structure ExecutionSecurityPolicy where
  securityClass : WriteSecurityClass
deriving DecidableEq, Repr

namespace ExecutionSecurityPolicy

/-- `participates_in_witness`. -/
def participatesInWitness (policy : ExecutionSecurityPolicy) : Bool :=
  policy.securityClass = .highAssuranceTier1

end ExecutionSecurityPolicy

/-- `EXECUTION_POLICIES`. -/
def executionPolicies (securityClass : WriteSecurityClass) : ExecutionSecurityPolicy :=
  ⟨securityClass⟩

/-! ### Fault classification -/

/-- `MutationBoundary`. -/
inductive MutationBoundary where
  | beforeSend
  | duringSend
  | afterSend
  | duringRollback
deriving DecidableEq, Repr

/-- `EffectKnowledge`. -/
inductive EffectKnowledge where
  | provenNone
  | verifiedSuccess
  | ambiguous
  | verifiedFailure
deriving DecidableEq, Repr

/-- `FaultDecision`. -/
structure FaultDecision where
  targetState : RecoveryState
  automaticRetry : Bool := false
  manualReconciliation : Bool := false
deriving DecidableEq, Repr

/-- `classify_fault`. -/
def classifyFault (boundary : MutationBoundary) (knowledge : EffectKnowledge) : FaultDecision :=
  if knowledge = .ambiguous then { targetState := reconciliation, manualReconciliation := true }
  else if boundary = .duringRollback then
    if knowledge = .verifiedSuccess then { targetState := rolledBack }
    else { targetState := rollbackFailed }
  else if knowledge = .verifiedSuccess then { targetState := verified }
  else { targetState := failed }

end Tier1
