import Mathlib.Data.Int.Notation
import Mathlib.Data.Nat.Notation
import PfsenseMcp.Tier1.Contract

/-!
# Evidence of an authority

`tier1/confirmation.py` and `tier1/reconciliation.py`: what an owner attests when confirming a
contract, and what an operator attests when resolving a contract whose outcome is uncertain. As
for contracts, a record carries the outcome of its own `__post_init__`.
-/

namespace Tier1

open Python

variable [Platform]

/-! ### Confirmation -/

/-- The fields of `ConfirmationEvidence`. -/
structure ConfirmationFields where
  authorityId : String
  algorithm : String
  nonce : String
  contractId : String
  operationId : String
  targetIdentityDigest : String
  targetFingerprint : String
  intentDigest : String
  expiresAt : DateTime
  issuedAt : DateTime
  proof : Bytes
deriving DecidableEq

omit [Platform] in
/-- `ConfirmationEvidence.__post_init__`. -/
def ConfirmationFields.postInit (e : ConfirmationFields) : Except Error Unit := do
  demand (isIdentifier e.authorityId = true ∧ isIdentifier e.algorithm = true ∧
      isIdentifier e.nonce = true ∧ isIdentifier e.contractId = true ∧
      isIdentifier e.operationId = true) .confirmation "Confirmation evidence metadata is invalid."
  demand (isHex64 e.targetIdentityDigest = true ∧ isHex64 e.targetFingerprint = true ∧
      isHex64 e.intentDigest = true) .confirmation "Confirmation evidence digest is invalid."
  demand (e.issuedAt < e.expiresAt) .confirmation
    "Confirmation evidence validity window is invalid."
  demand (e.proof ≠ [] ∧ e.proof.length ≤ 65536) .confirmation
    "Confirmation evidence proof is invalid or oversized."

/-- `ConfirmationEvidence`. -/
structure ConfirmationEvidence extends ConfirmationFields where
  valid : toConfirmationFields.postInit = .ok ()

namespace ConfirmationEvidence

/-- `proof_digest`. -/
def proofDigest (e : ConfirmationEvidence) : String := Platform.sha256 e.proof

/-- `evidence_digest`. -/
def evidenceDigest (e : ConfirmationEvidence) : Except Error String :=
  digestValue .confirmation
    (.obj [("algorithm", .str e.algorithm), ("authority_id", .str e.authorityId),
      ("contract_id", .str e.contractId), ("expires_at", .str e.expiresAt.isoformat),
      ("intent_digest", .str e.intentDigest), ("nonce", .str e.nonce),
      ("operation_id", .str e.operationId), ("proof_digest", .str e.proofDigest),
      ("target_fingerprint", .str e.targetFingerprint),
      ("target_identity_digest", .str e.targetIdentityDigest)]) []

/-- `verify_bindings`. -/
def verifyBindings (e : ConfirmationEvidence) (c : RecoveryContract) : Except Error Unit :=
  demand ((e.contractId, e.operationId, e.targetIdentityDigest, e.targetFingerprint,
      e.intentDigest, e.expiresAt) =
      (c.contractId, c.operationId, c.targetIdentityDigest, c.targetFingerprint, c.intentDigest,
        c.expiresAt)) .confirmation
    "Confirmation evidence does not match the authoritative contract."

end ConfirmationEvidence

/-! ### Reconciliation -/

omit [Platform]

/-- `ReconciliationOutcome`. -/
inductive ReconciliationOutcome where
  | confirmedApplied
  | confirmedNotApplied
  | confirmedRollbackApplied
  | confirmedRollbackNotApplied
deriving DecidableEq, Repr

namespace ReconciliationOutcome

/-- `OUTCOME_TARGET_STATE`. -/
def targetState : ReconciliationOutcome → RecoveryState
  | confirmedApplied => .verified
  | confirmedNotApplied => .failed
  | confirmedRollbackApplied => .rolledBack
  | confirmedRollbackNotApplied => .rollbackFailed

/-- The outcomes of an interrupted forward mutation. -/
def isForward : ReconciliationOutcome → Bool
  | confirmedApplied | confirmedNotApplied => true
  | confirmedRollbackApplied | confirmedRollbackNotApplied => false

/-- The outcomes of an interrupted rollback. -/
def isRollback : ReconciliationOutcome → Bool
  | confirmedRollbackApplied | confirmedRollbackNotApplied => true
  | confirmedApplied | confirmedNotApplied => false

end ReconciliationOutcome

/-- The fields of `ReconciliationEvidence`. -/
structure ReconciliationFields where
  authorityId : String
  algorithm : String
  contractId : String
  operationId : String
  observedStateVersion : ℤ
  outcome : ReconciliationOutcome
  issuedAt : DateTime
  proof : Bytes
  verifiedTargetFingerprint : Option String := none
  verifiedLifecycleLocator : Option ℤ := none
deriving DecidableEq

/-- `ReconciliationEvidence.__post_init__`. -/
def ReconciliationFields.postInit (e : ReconciliationFields) : Except Error Unit := do
  demand (isIdentifier e.authorityId = true ∧ isIdentifier e.algorithm = true ∧
      isIdentifier e.contractId = true ∧ isIdentifier e.operationId = true) .confirmation
    "Reconciliation evidence metadata is invalid."
  demand (0 ≤ e.observedStateVersion) .confirmation
    "Reconciliation evidence state version is invalid."
  demand (e.proof ≠ [] ∧ e.proof.length ≤ 65536) .confirmation
    "Reconciliation evidence proof is invalid or oversized."
  demand (if e.outcome = .confirmedApplied then
      e.verifiedTargetFingerprint.any isHex64 = true
    else e.verifiedTargetFingerprint = none) .confirmation
    "Confirmed-applied reconciliation evidence requires exactly one verified target fingerprint."
  demand (if e.outcome = .confirmedApplied ∨ e.outcome = .confirmedRollbackApplied then
      e.verifiedLifecycleLocator.any (fun n => 0 ≤ n ∧ n ≤ 2147483647) = true
    else e.verifiedLifecycleLocator = none) .confirmation
    "Applied reconciliation evidence requires exactly one verified lifecycle locator."

/-- `ReconciliationEvidence`. -/
structure ReconciliationEvidence extends ReconciliationFields where
  valid : toReconciliationFields.postInit = .ok ()

namespace ReconciliationEvidence

/-- `verify_bindings`. -/
def verifyBindings (e : ReconciliationEvidence) (contractId operationId : String)
    (stateVersion lifecycleLocator : ℤ) : Except Error Unit :=
  demand (e.contractId = contractId ∧ e.operationId = operationId ∧
      e.observedStateVersion = stateVersion ∧
      ∀ n ∈ e.verifiedLifecycleLocator, n = lifecycleLocator) .confirmation
    "Reconciliation evidence does not match the authoritative contract."

/-- Evidence of a confirmed application carries a fingerprint that a contract accepts. -/
theorem fingerprint_of_applied (e : ReconciliationEvidence) (h : e.outcome = .confirmedApplied) :
    ∃ d, e.verifiedTargetFingerprint = some d ∧ isHex64 d = true := by
  have hvalid := e.valid
  simp only [ReconciliationFields.postInit, bind_eq_ok, demand_eq_ok, h, if_true] at hvalid
  obtain ⟨_, -, _, -, _, -, _, hfp, -⟩ := hvalid
  cases hd : e.verifiedTargetFingerprint with
  | none => simp [hd] at hfp
  | some d => exact ⟨d, rfl, by simpa [hd] using hfp⟩

end ReconciliationEvidence

end Tier1
