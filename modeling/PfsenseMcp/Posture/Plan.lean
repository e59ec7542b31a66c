import PfsenseMcp.Posture.Discovery

/-!
# The posture plan and its digest

`security_plan.py` and `security_plan_digest.py`: the plan that leads from a discovered posture to
a target, and the digest that names it. The texts of a plan (the action, description, blocking
reason and evidence of a step, the findings and the notes) are read by nothing, and are left out.

## Main results

* `steps_eq_nil`: a plan has no steps exactly when its target is invalid or the current state is
  not known;
* `orders_buildPlan`: the steps are numbered from 1 on.
-/

namespace Posture

open Python Tier1

/-! ### Plans -/

/-- `TargetValidity`. -/
inductive TargetValidity where
  | valid
  | invalidCombination
  | validNotImplemented
deriving DecidableEq, Repr

/-- The wire value. -/
def TargetValidity.value : TargetValidity → String
  | valid => "valid"
  | invalidCombination => "invalid_combination"
  | validNotImplemented => "valid_not_implemented"

/-- `AxisTransitionKind`. -/
inductive AxisTransitionKind where
  | noChange
  | upgrade
  | downgrade
  | lateral
deriving DecidableEq, Repr

/-- `MutationClass`. -/
inductive MutationClass where
  | none
  | configuration
  | anchorProvisioning
  | serviceDeployment
  | activation
  | deactivation
  | destructiveDeprovisioning
deriving DecidableEq, Repr

/-- The wire value. -/
def MutationClass.value : MutationClass → String
  | none => "none"
  | configuration => "configuration"
  | anchorProvisioning => "anchor_provisioning"
  | serviceDeployment => "service_deployment"
  | activation => "activation"
  | deactivation => "deactivation"
  | destructiveDeprovisioning => "destructive_deprovisioning"

/-- `AuthorizationLevel`. -/
inductive AuthorizationLevel where
  | noneRequired
  | configurationChange
  | interactiveHardwareConfirmation
  | milestone9ActivationDecision
  | separateDeprovisionAuthorization
  | undeterminedNotImplemented
deriving DecidableEq, Repr

/-- The wire value. -/
def AuthorizationLevel.value : AuthorizationLevel → String
  | noneRequired => "none_required"
  | configurationChange => "configuration_change"
  | interactiveHardwareConfirmation => "interactive_hardware_confirmation"
  | milestone9ActivationDecision => "milestone_9_activation_decision"
  | separateDeprovisionAuthorization => "separate_deprovision_authorization"
  | undeterminedNotImplemented => "undetermined_not_implemented"

/-- `SecurityImpact`. -/
inductive SecurityImpact where
  | none
  | increasesAssurance
  | decreasesAssurance
  | enablesMutationCapability
  | disablesMutationCapability
deriving DecidableEq, Repr

/-- `PlanOverallStatus`. -/
inductive PlanOverallStatus where
  | alreadySatisfied
  | planGenerated
  | blockedInvalidTarget
  | blockedNotImplemented
  | blockedAnomalyDetected
  | blockedIndeterminateCurrentState
deriving DecidableEq, Repr

/-- The wire value. -/
def PlanOverallStatus.value : PlanOverallStatus → String
  | alreadySatisfied => "already_satisfied"
  | planGenerated => "plan_generated"
  | blockedInvalidTarget => "blocked_invalid_target"
  | blockedNotImplemented => "blocked_not_implemented"
  | blockedAnomalyDetected => "blocked_anomaly_detected"
  | blockedIndeterminateCurrentState => "blocked_indeterminate_current_state"

/-- `PlanStep`. -/
structure PlanStep where
  stepId : String
  order : ℕ
  axis : String
  mutationClass : MutationClass
  authorizationRequired : AuthorizationLevel
  implementationAvailable : Bool
  reversible : Option Bool
  securityImpact : SecurityImpact
  prerequisiteSatisfied : Option Bool
  blocked : Bool
deriving DecidableEq

/-- `SecurityPostureDiscovery`, with the value of the capability axis. -/
structure SecurityPostureDiscovery where
  capabilityPosture : CapabilityPosture
  anchorAssurance : AnchorAssuranceDiscovery
deriving DecidableEq

/-- `SecurityPosturePlan`. -/
structure SecurityPosturePlan where
  current : SecurityPostureDiscovery
  targetCapabilityPosture : CapabilityPosture
  targetAnchorAssurance : AnchorAssurance
  targetValidity : TargetValidity
  capabilityPostureTransition : AxisTransitionKind
  anchorAssuranceTransition : AxisTransitionKind
  overallStatus : PlanOverallStatus
  safeToProceed : Bool
  steps : List PlanStep
deriving DecidableEq

/-! ### Judging the target -/

/-- `_evaluate_target_validity`. -/
def evaluateTargetValidity : CapabilityPosture → AnchorAssurance → TargetValidity
  | .writeProtected, .none => .invalidCombination
  | _, .software => .validNotImplemented
  | _, _ => .valid

/-- `_anchor_transition_kind`. -/
def anchorTransitionKind (current target : AnchorAssurance) : AxisTransitionKind :=
  if current = target then .noChange
  else if current = .none then .upgrade
  else if target = .none then .downgrade
  else .lateral

/-- `_capability_transition_kind`. -/
def capabilityTransitionKind (current target : CapabilityPosture) : AxisTransitionKind :=
  if current = target then .noChange
  else if target = .writeProtected then .upgrade
  else .downgrade

/-- `_anchor_evidence_is_clean`. -/
def anchorEvidenceIsClean (state : AnchorEvidenceState) (target : AnchorAssurance) : Bool :=
  if target = .none then state = .unconfigured else state = .provisionedVerified

/-! ### Steps -/

/-- A step of the anchor axis that changes nothing. -/
def anchorNoChange (order : ℕ) : PlanStep where
  stepId := "anchor_assurance.no_change"
  order := order
  axis := "anchor_assurance"
  mutationClass := .none
  authorizationRequired := .noneRequired
  implementationAvailable := true
  reversible := none
  securityImpact := .none
  prerequisiteSatisfied := some true
  blocked := false

/-- The deactivation of an anchor. -/
def deactivateAnchor (stepId : String) (order : ℕ) (available : Bool) : PlanStep where
  stepId := stepId
  order := order
  axis := "anchor_assurance"
  mutationClass := .deactivation
  authorizationRequired := .configurationChange
  implementationAvailable := available
  reversible := if available then some true else none
  securityImpact := .decreasesAssurance
  prerequisiteSatisfied := some true
  blocked := !available

/-- The steps that provision a target backend. -/
def provisionSteps (target : AnchorAssurance) (order : ℕ) : List PlanStep :=
  match target with
  | .hardwareWitness =>
    [{ stepId := "anchor_assurance.provision_hardware_witness_anchor"
       order := order
       axis := "anchor_assurance"
       mutationClass := .anchorProvisioning
       authorizationRequired := .interactiveHardwareConfirmation
       implementationAvailable := true
       reversible := some false
       securityImpact := .increasesAssurance
       prerequisiteSatisfied := some true
       blocked := false },
     { stepId := "anchor_assurance.deploy_witness_daemon"
       order := order + 1
       axis := "anchor_assurance"
       mutationClass := .serviceDeployment
       authorizationRequired := .interactiveHardwareConfirmation
       implementationAvailable := true
       reversible := some true
       securityImpact := .increasesAssurance
       prerequisiteSatisfied := some true
       blocked := false }]
  | .software =>
    [{ stepId := "anchor_assurance.provision_software_witness_anchor"
       order := order
       axis := "anchor_assurance"
       mutationClass := .anchorProvisioning
       authorizationRequired := .undeterminedNotImplemented
       implementationAvailable := false
       reversible := none
       securityImpact := .increasesAssurance
       prerequisiteSatisfied := some false
       blocked := true }]
  | _ => []

/-- `_anchor_assurance_steps`. -/
def anchorAssuranceSteps (current : SecurityPostureDiscovery) (target : AnchorAssurance)
    (transition : AxisTransitionKind) (orderStart : ℕ) : List PlanStep :=
  let hardware : Bool := current.anchorAssurance.value = .hardwareWitness
  match transition with
  | .noChange => [anchorNoChange orderStart]
  | .downgrade => [deactivateAnchor "anchor_assurance.deactivate_anchor" orderStart hardware]
  | .lateral =>
    if hardware then
      deactivateAnchor "anchor_assurance.deactivate_current_anchor" orderStart true ::
        provisionSteps target (orderStart + 1)
    else provisionSteps target orderStart
  | .upgrade => provisionSteps target orderStart

/-- `_milestone_9_activation_step`. -/
def milestone9ActivationStep (order : ℕ) (anchorReadyNow : Bool) : PlanStep where
  stepId := "capability_posture.milestone_9_activation"
  order := order
  axis := "capability_posture"
  mutationClass := .activation
  authorizationRequired := .milestone9ActivationDecision
  implementationAvailable := true
  reversible := none
  securityImpact := .enablesMutationCapability
  prerequisiteSatisfied := some anchorReadyNow
  blocked := true

/-- A configuration step of an upgrade of the capability axis. -/
def configurationStep (stepId : String) (order : ℕ) (anchorReadyNow : Bool) : PlanStep where
  stepId := stepId
  order := order
  axis := "capability_posture"
  mutationClass := .configuration
  authorizationRequired := .configurationChange
  implementationAvailable := true
  reversible := some true
  securityImpact := .enablesMutationCapability
  prerequisiteSatisfied := some anchorReadyNow
  blocked := !anchorReadyNow

/-- A step of the capability axis that changes nothing. -/
def capabilityNoChange (order : ℕ) : PlanStep where
  stepId := "capability_posture.no_change"
  order := order
  axis := "capability_posture"
  mutationClass := .none
  authorizationRequired := .noneRequired
  implementationAvailable := true
  reversible := none
  securityImpact := .none
  prerequisiteSatisfied := some true
  blocked := false

/-- The deactivation of write protection. -/
def deactivateWriteProtection (order : ℕ) : PlanStep where
  stepId := "capability_posture.deactivate_write_protection"
  order := order
  axis := "capability_posture"
  mutationClass := .deactivation
  authorizationRequired := .configurationChange
  implementationAvailable := true
  reversible := some true
  securityImpact := .disablesMutationCapability
  prerequisiteSatisfied := some true
  blocked := false

/-- `_capability_posture_steps`. -/
def capabilityPostureSteps (target : CapabilityPosture) (transition : AxisTransitionKind)
    (anchorReadyNow : Bool) (orderStart : ℕ) : List PlanStep :=
  match transition with
  | .noChange =>
    capabilityNoChange orderStart ::
      if target = .writeProtected then [milestone9ActivationStep (orderStart + 1) anchorReadyNow]
      else []
  | .downgrade => [deactivateWriteProtection orderStart]
  | _ =>
    [configurationStep "capability_posture.populate_write_endpoints" orderStart anchorReadyNow,
      configurationStep "capability_posture.set_profile_engineer" (orderStart + 1) anchorReadyNow,
      milestone9ActivationStep (orderStart + 2) anchorReadyNow]

/-- `_reorder`. -/
def reorder (steps : List PlanStep) (start : ℕ) : List PlanStep :=
  steps.mapIdx fun offset step => { step with order := start + offset }

/-- `_block_for_mismatch`. -/
def blockForMismatch (step : PlanStep) : PlanStep :=
  if step.mutationClass = .none then step
  else { step with prerequisiteSatisfied := some false, blocked := true }

/-! ### Generation -/

/-- A plan without steps. -/
def blockedPlan (current : SecurityPostureDiscovery) (targetCapability : CapabilityPosture)
    (targetAnchor : AnchorAssurance) (status : PlanOverallStatus) : SecurityPosturePlan where
  current := current
  targetCapabilityPosture := targetCapability
  targetAnchorAssurance := targetAnchor
  targetValidity := evaluateTargetValidity targetCapability targetAnchor
  capabilityPostureTransition := .noChange
  anchorAssuranceTransition := .noChange
  overallStatus := status
  safeToProceed := false
  steps := []

/-- The steps of both axes, in the order in which they are to be taken. -/
def orderedSteps (current : SecurityPostureDiscovery) (targetCapability : CapabilityPosture)
    (targetAnchor : AnchorAssurance) : List PlanStep :=
  let capabilityTransition := capabilityTransitionKind current.capabilityPosture targetCapability
  let anchorTransition := anchorTransitionKind current.anchorAssurance.value targetAnchor
  let anchorReadyNow : Bool := current.anchorAssurance.value = targetAnchor &&
    anchorEvidenceIsClean current.anchorAssurance.evidenceState targetAnchor
  let anchorSteps := anchorAssuranceSteps current targetAnchor anchorTransition 1
  let capabilitySteps :=
    capabilityPostureSteps targetCapability capabilityTransition anchorReadyNow 1
  if capabilityTransition = .downgrade ∧ targetAnchor = .none ∧ anchorTransition ≠ .noChange then
    reorder capabilitySteps 1 ++ reorder anchorSteps (1 + capabilitySteps.length)
  else reorder anchorSteps 1 ++ reorder capabilitySteps (1 + anchorSteps.length)

/-- `_build_plan_from_discovery`. -/
def buildPlanFromDiscovery (current : SecurityPostureDiscovery)
    (targetCapability : CapabilityPosture) (targetAnchor : AnchorAssurance) :
    SecurityPosturePlan :=
  let validity := evaluateTargetValidity targetCapability targetAnchor
  if validity = .invalidCombination then
    blockedPlan current targetCapability targetAnchor .blockedInvalidTarget
  else if current.anchorAssurance.value = .unknown then
    blockedPlan current targetCapability targetAnchor .blockedIndeterminateCurrentState
  else
    let capabilityTransition := capabilityTransitionKind current.capabilityPosture targetCapability
    let anchorTransition := anchorTransitionKind current.anchorAssurance.value targetAnchor
    let steps := orderedSteps current targetCapability targetAnchor
    let mismatch : Bool := current.anchorAssurance.evidenceState = .provisionedMismatch
    { current := current
      targetCapabilityPosture := targetCapability
      targetAnchorAssurance := targetAnchor
      targetValidity := validity
      capabilityPostureTransition := capabilityTransition
      anchorAssuranceTransition := anchorTransition
      overallStatus :=
        if mismatch then .blockedAnomalyDetected
        else if validity = .validNotImplemented then .blockedNotImplemented
        else if capabilityTransition = .noChange ∧ anchorTransition = .noChange then
          .alreadySatisfied
        else .planGenerated
      safeToProceed := validity = .valid && !mismatch
      steps := if mismatch then steps.map blockForMismatch else steps }

/-- `_coerce_and_validate_targets`, of members of the two enumerations. -/
def coerceAndValidateTargets (targetAnchor : AnchorAssurance) : Except Error Unit :=
  demand (targetAnchor ≠ .unknown) .valueError
    ("AnchorAssurance.UNKNOWN is not a valid plan target -- it is an evidence-only value meaning " ++
      "'could not determine', never a legitimate target selection.")

/-- `generate_security_posture_plan_from_discovery`. -/
def generateSecurityPosturePlanFromDiscovery (current : SecurityPostureDiscovery)
    (targetCapability : CapabilityPosture) (targetAnchor : AnchorAssurance) :
    Except Error SecurityPosturePlan := do
  coerceAndValidateTargets targetAnchor
  .ok (buildPlanFromDiscovery current targetCapability targetAnchor)

section Model

variable [Platform]

/-- `discover_security_posture`. -/
def discoverSecurityPosture (str : Json → String) (env : DiscoveryEnvironment) :
    Except Error SecurityPostureDiscovery := do
  let capability ← env.capabilityPosture
  let anchor ← discoverAnchorAssurance str env
  .ok ⟨capability, anchor⟩

/-- `generate_security_posture_plan`. -/
def generateSecurityPosturePlan (str : Json → String) (env : DiscoveryEnvironment)
    (targetCapability : CapabilityPosture) (targetAnchor : AnchorAssurance) :
    Except Error SecurityPosturePlan := do
  coerceAndValidateTargets targetAnchor
  let current ← discoverSecurityPosture str env
  .ok (buildPlanFromDiscovery current targetCapability targetAnchor)

/-! ### The digest -/

omit [Platform] in
/-- `null`, or a number. -/
def optionalInt : Option ℤ → Json
  | none => .null
  | some n => .int n

omit [Platform] in
/-- `null`, or a text. -/
def optionalText : Option String → Json
  | none => .null
  | some s => .str s

omit [Platform] in
/-- `_step_payload`. -/
def stepPayload (step : PlanStep) : Json :=
  .obj [("step_id", .str step.stepId), ("order", .int step.order), ("axis", .str step.axis),
    ("mutation_class", .str step.mutationClass.value),
    ("authorization_required", .str step.authorizationRequired.value)]

omit [Platform] in
/-- `evidence_fingerprint_payload`. -/
def evidenceFingerprintPayload (plan : SecurityPosturePlan) : Json :=
  let anchor := plan.current.anchorAssurance
  .obj [("capability_posture_value", .str plan.current.capabilityPosture.value),
    ("anchor_assurance_value", .str anchor.value.value),
    ("anchor_evidence_state", .str anchor.evidenceState.value),
    ("anchor_baseline", optionalInt anchor.baseline),
    ("anchor_witness_value", optionalInt anchor.witnessValue),
    ("anchor_provisioned_at", optionalText anchor.provisionedAt)]

omit [Platform] in
/-- `_plan_payload`. -/
def planPayload (plan : SecurityPosturePlan) : Json :=
  .obj [("schema_version", .int 1),
    ("target_capability_posture", .str plan.targetCapabilityPosture.value),
    ("target_anchor_assurance", .str plan.targetAnchorAssurance.value),
    ("target_validity", .str plan.targetValidity.value),
    ("steps", .arr (plan.steps.map stepPayload)),
    ("evidence_fingerprint", evidenceFingerprintPayload plan),
    ("overall_status", .str plan.overallStatus.value),
    ("safe_to_proceed", .bool plan.safeToProceed)]

/-- `compute_plan_digest`. -/
def computePlanDigest (plan : SecurityPosturePlan) : Except Error String :=
  digestValue .plan (planPayload plan) []

end Model

/-! ### What a plan contains -/

/-- The steps of a list are numbered from a start on. -/
theorem map_order_reorder (steps : List PlanStep) (start : ℕ) :
    (reorder steps start).map PlanStep.order = List.range' start steps.length := by
  apply List.ext_getElem
  · simp [reorder]
  · intro i hi hi'
    simp [reorder]

/-- Both axes have a step. -/
theorem length_orderedSteps_pos (current : SecurityPostureDiscovery)
    (targetCapability : CapabilityPosture) (targetAnchor : AnchorAssurance) :
    0 < (orderedSteps current targetCapability targetAnchor).length := by
  have hcapability (transition : AxisTransitionKind) (ready : Bool) :
      0 < (capabilityPostureSteps targetCapability transition ready 1).length := by
    cases transition <;> simp [capabilityPostureSteps]
  simp only [orderedSteps]
  split_ifs
  · rw [List.length_append, reorder, List.length_mapIdx]
    exact Nat.add_pos_left (hcapability _ _) _
  · rw [List.length_append, reorder, reorder, List.length_mapIdx, List.length_mapIdx]
    exact Nat.add_pos_right _ (hcapability _ _)

/-- The steps of a plan, by its target and the current state. -/
theorem steps_buildPlan (current : SecurityPostureDiscovery) (targetCapability : CapabilityPosture)
    (targetAnchor : AnchorAssurance) :
    (buildPlanFromDiscovery current targetCapability targetAnchor).steps =
      if evaluateTargetValidity targetCapability targetAnchor = .invalidCombination ∨
        current.anchorAssurance.value = .unknown then []
      else if current.anchorAssurance.evidenceState = .provisionedMismatch then
        (orderedSteps current targetCapability targetAnchor).map blockForMismatch
      else orderedSteps current targetCapability targetAnchor := by
  unfold buildPlanFromDiscovery
  by_cases hvalid : evaluateTargetValidity targetCapability targetAnchor = .invalidCombination
  · simp [hvalid, blockedPlan]
  · by_cases hknown : current.anchorAssurance.value = .unknown
    · simp [hvalid, hknown, blockedPlan]
    · simp [hvalid, hknown]

/-- A plan has no steps exactly when its target is invalid or the current state is not known. -/
theorem steps_eq_nil (current : SecurityPostureDiscovery) (targetCapability : CapabilityPosture)
    (targetAnchor : AnchorAssurance) :
    (buildPlanFromDiscovery current targetCapability targetAnchor).steps = [] ↔
      evaluateTargetValidity targetCapability targetAnchor = .invalidCombination ∨
        current.anchorAssurance.value = .unknown := by
  have hpos := length_orderedSteps_pos current targetCapability targetAnchor
  have hne : orderedSteps current targetCapability targetAnchor ≠ [] := by
    intro h
    rw [h] at hpos
    cases hpos
  rw [steps_buildPlan]
  split_ifs with hblocked hmismatch
  · exact iff_of_true rfl hblocked
  · exact iff_of_false (mt List.map_eq_nil_iff.mp hne) hblocked
  · exact iff_of_false hne hblocked

/-- The steps of a plan are numbered from 1 on. -/
theorem orders_buildPlan (current : SecurityPostureDiscovery)
    (targetCapability : CapabilityPosture) (targetAnchor : AnchorAssurance) :
    (buildPlanFromDiscovery current targetCapability targetAnchor).steps.map PlanStep.order =
      List.range' 1
        (buildPlanFromDiscovery current targetCapability targetAnchor).steps.length := by
  have hordered : (orderedSteps current targetCapability targetAnchor).map PlanStep.order =
      List.range' 1 (orderedSteps current targetCapability targetAnchor).length := by
    have happend (first second : List PlanStep) :
        (reorder first 1 ++ reorder second (1 + first.length)).map PlanStep.order =
          List.range' 1 (reorder first 1 ++ reorder second (1 + first.length)).length := by
      rw [List.map_append, map_order_reorder, map_order_reorder, List.length_append]
      simp [reorder, List.range'_append_1]
    simp only [orderedSteps]
    split_ifs
    · exact happend _ _
    · exact happend _ _
  have hblock (steps : List PlanStep) :
      (steps.map blockForMismatch).map PlanStep.order = steps.map PlanStep.order := by
    rw [List.map_map]
    apply List.map_congr_left
    intro step _
    simp only [Function.comp_apply, blockForMismatch]
    split_ifs <;> rfl
  rw [steps_buildPlan]
  split_ifs
  · rfl
  · rw [hblock, hordered, List.length_map]
  · exact hordered

end Posture
