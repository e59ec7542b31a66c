import Mathlib.Data.Nat.Notation
import PfsenseMcp.Administration.Bootstrap
import PfsenseMcp.Administration.SetupConfirmation
import PfsenseMcp.Posture.Types

/-!
# `setup apply`

`run_setup_apply_from_environment` of `security_setup_apply.py`. What the calls that it composes
return or raise is up to the environment: the generation of the posture plan, the file of the
confirmation key, the configuration and the client of the appliance, `doctor`, the two bootstrap
engines and the inspection of a recovery. The trace lists the composed calls that were made.

## Main results

* `calls_of_not_confirmed`: no call that reaches the appliance, a lock or a journal is made unless
  the supplied token is the one of this very call;
* `returns_runSetupApply`: when a result is returned and no exception escapes.
-/

namespace Administration

open Python Concurrency Procedure Tier1 Posture

/-! ### Results -/

/-- `ApplyOutcome`. -/
inductive ApplyOutcome where
  | inspectPlanCurrent
  | planStale
  | confirmTokenInvalid
  | blockedConfigurationError
  | connectivityFailed
  | doctorNotReady
  | applyCompleted
  | bootstrapAlreadyComplete
  | bootstrapCompleted
  | bootstrapLockContention
  | bootstrapRecoveryRequired
  | bootstrapCorruptLocalState
  | bootstrapPreflightDerivationFailed
  | bootstrapProvisioningFailed
deriving DecidableEq, Repr

/-- `ApplyResult`. -/
structure ApplyResult where
  outcome : ApplyOutcome
  detail : String
  planDigest : Option String := none
  confirmationToken : Option String := none
  doctorReady : Option Bool := none
  recoveryOutcome : Option String := none
  recoveryAction : Option String := none
  recoveryConfirmationToken : Option String := none
deriving DecidableEq

/-- `BootstrapOrchestrationOutcome`. -/
inductive BootstrapOrchestrationOutcome where
  /-- The context could not be built. -/
  | blockedConfigurationError
  /-- `run_bootstrap` returned. -/
  | ran (outcome : BootstrapOutcome)
deriving DecidableEq, Repr

/-- `BootstrapOrchestrationResult`, as far as `setup apply` reads it. -/
structure BootstrapReport where
  outcome : BootstrapOrchestrationOutcome
  detail : String
deriving DecidableEq

/-- `RecoveryOrchestrationResult`, as far as `setup apply` reads it. -/
structure RecoveryReport where
  outcome : String
  detail : String
  recoveryAction : Option String
  confirmationToken : Option String
deriving DecidableEq

/-! ### Composed calls -/

/-- A call that `setup apply` composes. The profile of a bootstrap is that of its account. -/
inductive SetupCall where
  | posturePlan
  | confirmKey
  | config
  | apiKey
  | client
  | systemStatus
  | close
  | doctor
  | bootstrap (profile : CapabilityPosture)
  | recovery (profile : CapabilityPosture)
deriving DecidableEq, Repr

namespace SetupCall

/-- The call neither plans nor reads the confirmation key. -/
def acts : SetupCall → Bool
  | posturePlan | confirmKey => false
  | _ => true

end SetupCall

/-- What the environment answers. -/
structure SetupEnvironment where
  /-- `compute_plan_digest` of what `generate_security_posture_plan` returns. -/
  posturePlanDigest : CapabilityPosture → AnchorAssurance → Except Error String
  /-- `PFSENSE_SETUP_CONFIRM_KEY_FILE`. -/
  confirmKeyPath : Option Text
  /-- The expanded path of this file, and its content. -/
  confirmKeyFile : Except Error (String × Bytes)
  /-- `load_config`. -/
  config : Except Error Unit
  /-- `load_api_key`. -/
  apiKey : Except Error Unit
  /-- `build_pfsense_client`. -/
  client : Except Error Unit
  /-- `client.get_system_status`. -/
  systemStatus : Except Error Unit
  /-- `transport.close`. -/
  close : Except Error Unit
  /-- `run_doctor_checks(env).ready`. -/
  doctorReady : Except Error Bool
  /-- `run_bootstrap_from_environment` and `run_readonly_bootstrap_from_environment`. -/
  bootstrap : CapabilityPosture → Except Error BootstrapReport
  /-- `run_recovery_from_environment`. -/
  recovery : CapabilityPosture → Except Error RecoveryReport

/-- The arguments. -/
structure SetupArguments where
  targetCapabilityPosture : Text
  targetAnchorAssurance : Text
  targetOrigin : Option Text
  targetIdentity : Option Text
  tlsMode : Option Text
  readOnlyAccountMode : Text
  planDigest : Option Text
  confirmToken : Option Text

/-- Code that runs on the trace. -/
abbrev SetupOp (α : Type) := Procedure (List SetupCall) SetupEnvironment Error α

namespace SetupOp

variable {α β : Type}

/-- A composed call. -/
def call (c : SetupCall) (f : SetupEnvironment → Except Error α) : SetupOp α :=
  .atom (fun _ calls => calls ++ [c]) fun i _ => .ofExcept (f i)

/-- A `try` block whose body is `p`, with one `except` clause that returns. -/
def handling (p : SetupOp α) (classes : List ErrorClass) (handler : Error → SetupOp β)
    (next : α → SetupOp β) : SetupOp β := do
  match ← p.attempt with
  | .ok a => next a
  | .error e => if e.cls ∈ classes then handler e else .raise e

end SetupOp

/-! ### The plan -/

/-- `PrivilegePlan.intended_account_identity`. -/
def intendedAccountIdentity : CapabilityPosture → ReadOnlyAccountMode → String
  | .readOnly, .managed => "pfsense-mcp-readonly"
  | _, _ => "pfsense-mcp"

/-- `PrivilegePlan.account_mode`. -/
def accountMode : CapabilityPosture → ReadOnlyAccountMode → Option ReadOnlyAccountMode
  | .readOnly, mode => some mode
  | .writeProtected, _ => none

/-- `PrivilegePlan.dedicated_account_provisioning_implemented`. -/
def provisioningImplemented : CapabilityPosture → ReadOnlyAccountMode → Bool
  | .readOnly, .bringYourOwn => false
  | _, _ => true

/-- `len(plan.unsupported_steps)`. -/
def unsupportedStepCount : CapabilityPosture → ReadOnlyAccountMode → ℤ
  | .readOnly, .managed => 4
  | _, _ => 5

/-- A Python string that may be `None`. -/
def optionalValue : Option Text → Value
  | none => .none
  | some t => .str t

/-- A field of a dictionary with a string key. -/
def valueField (key : String) (value : Value) : Key × Value := (.str (Text.ofString key), value)

/-- `_setup_plan_payload`, of a plan without a schema and a declared package version. -/
def setupPlanPayload (posture : CapabilityPosture) (mode : ReadOnlyAccountMode)
    (args : SetupArguments) (posturePlanDigest : String) : Value :=
  .dict
    [valueField "schema_version" (.int 2),
      valueField "target_origin" (optionalValue args.targetOrigin),
      valueField "target_identity" (optionalValue args.targetIdentity),
      valueField "target_tls_mode" (optionalValue args.tlsMode),
      valueField "target_reachability_verified" (.bool false),
      valueField "posture_plan_digest" (.str (Text.ofString posturePlanDigest)),
      valueField "intended_capability_posture" (.str (Text.ofString posture.value)),
      valueField "intended_account_identity"
        (.str (Text.ofString (intendedAccountIdentity posture mode))),
      valueField "read_only_account_mode"
        (optionalValue ((accountMode posture mode).map fun m => Text.ofString m.value)),
      valueField "dedicated_account_provisioning_implemented"
        (.bool (provisioningImplemented posture mode)),
      valueField "privilege_schema_provided" (.bool false),
      valueField "required_privileges" .none,
      valueField "unresolved_requirement_tool_names" (.list []),
      valueField "version_schema_provided" (.bool false),
      valueField "declared_package_version" .none,
      valueField "package_version_supported" .none,
      valueField "unsupported_step_count" (.int (unsupportedStepCount posture mode))]

/-- The check of `_coerce_and_validate_targets` on the anchor. -/
def requireKnownAnchor (anchor : AnchorAssurance) : Except Error Unit :=
  demand (anchor ≠ .unknown) .valueError
    ("AnchorAssurance.UNKNOWN is not a valid plan target -- it is an evidence-only value meaning " ++
      "'could not determine', never a legitimate target selection.")

section Model

variable [Platform]

/-- The digest of the plan that the environment and the arguments give. -/
def SetupEnvironment.freshDigest (env : SetupEnvironment) (posture : CapabilityPosture)
    (anchor : AnchorAssurance) (mode : ReadOnlyAccountMode) (args : SetupArguments) :
    Except Error String := do
  requireKnownAnchor anchor
  let posturePlanDigest ← env.posturePlanDigest posture anchor
  Value.digestValue .setupPlan (setupPlanPayload posture mode args posturePlanDigest) []

omit [Platform] in
/-- A text of white space. -/
def isBlank (t : Text) : Bool := t.all fun c => (Text.scalar c).any Bytes.isSpace

omit [Platform] in
/-- `bytes.strip`. -/
def stripBytes (value : Bytes) : Bytes :=
  let isSpace : UInt8 → Bool := fun b => b = 32 ∨ (9 ≤ b ∧ b ≤ 13)
  ((value.dropWhile isSpace).reverse.dropWhile isSpace).reverse

/-- `ApplyError`. -/
def applyError : ErrorClass := .other "ApplyError"

/-- `ConfigurationError`. -/
def configurationError : ErrorClass := .other "ConfigurationError"

/-- The exceptions of a failed request. -/
def connectivityErrors : List ErrorClass :=
  [.other "PfSenseConnectionError", .other "PfSenseAuthError", .other "PfSenseAPIError",
    .other "PfSenseResponseShapeError"]

/-- `_load_confirm_key`. -/
def SetupEnvironment.loadConfirmKey (env : SetupEnvironment) : Except Error Bytes :=
  if env.confirmKeyPath.all isBlank then
    fail applyError "Missing required environment variable: PFSENSE_SETUP_CONFIRM_KEY_FILE"
  else do
    let (path, content) ← env.confirmKeyFile
    demand (stripBytes content ≠ []) applyError s!"Setup-apply confirmation key is empty: {path}"
    .ok (stripBytes content)

/-- The binding of the token of a call. -/
def applyBinding (posture : CapabilityPosture) (anchor : AnchorAssurance)
    (mode : ReadOnlyAccountMode) (args : SetupArguments) (digest : String) :
    ApplyConfirmationBinding where
  planDigest := digest
  targetOrigin := args.targetOrigin
  targetIdentity := args.targetIdentity
  capabilityPosture := posture.value
  anchorAssurance := anchor.value
  readOnlyAccountMode := (accountMode posture mode).map ReadOnlyAccountMode.value

/-! ### The branches -/

/-- `_inline_recovery_inspection`. -/
def inlineRecoveryInspection (profile : CapabilityPosture) (bootstrapDetail digest : String) :
    SetupOp ApplyResult := do
  let report ← SetupOp.call (.recovery profile) fun env => env.recovery profile
  let flag := match profile with
    | .writeProtected => ""
    | .readOnly => " --target-profile read_only"
  return {
    outcome := .bootstrapRecoveryRequired
    detail := bootstrapDetail ++ " Inline recovery inspection: " ++ report.detail ++
      " To resolve, run `pfsense-mcp-security recover" ++ flag ++
      " --execute <ACTION> --confirm <TOKEN>` yourself -- " ++
      "this command never attempts or auto-confirms recovery."
    planDigest := some digest
    recoveryOutcome := some report.outcome
    recoveryAction := report.recoveryAction
    recoveryConfirmationToken := report.confirmationToken }

/-- `_map_bootstrap_result`. -/
def mapBootstrapResult (profile : CapabilityPosture) (report : BootstrapReport) (digest : String) :
    SetupOp ApplyResult :=
  let mapped (outcome : ApplyOutcome) : SetupOp ApplyResult :=
    return { outcome := outcome, detail := report.detail, planDigest := some digest }
  match report.outcome with
  | .ran .alreadyComplete => mapped .bootstrapAlreadyComplete
  | .ran .completed => mapped .bootstrapCompleted
  | .blockedConfigurationError => mapped .blockedConfigurationError
  | .ran .blockedLockContention => mapped .bootstrapLockContention
  | .ran .blockedPriorOperation => inlineRecoveryInspection profile report.detail digest
  | .ran .blockedCorruptLocalState => mapped .bootstrapCorruptLocalState
  | .ran .preflightDerivationFailed => mapped .bootstrapPreflightDerivationFailed
  | .ran .provisioningFailed => mapped .bootstrapProvisioningFailed
  -- the outcome that no case of the source names
  | .ran .blockedReadOnlyMode =>
    .raise ⟨.other "AssertionError", "unhandled BootstrapOrchestrationOutcome: " ++
      "BootstrapOrchestrationOutcome.BLOCKED_READ_ONLY_MODE"⟩

/-- What a bootstrap returns, as a result. -/
def composeBootstrap (profile : CapabilityPosture) (digest : String) : SetupOp ApplyResult := do
  let report ← SetupOp.call (.bootstrap profile) fun env => env.bootstrap profile
  mapBootstrapResult profile report digest

/-- The common body of `_run_write_protected_apply` and `_run_managed_readonly_apply`. -/
def runProvisioning (profile : CapabilityPosture) (activity : String) (anchor : AnchorAssurance)
    (digest : String) : SetupOp ApplyResult :=
  if anchor = .hardwareWitness then do
    let ready ← SetupOp.call .doctor fun env => env.doctorReady
    if ready then composeBootstrap profile digest
    else
      return {
        outcome := .doctorNotReady
        detail := "The hardware witness anchor is not ready per `doctor` -- refusing to start " ++
          activity ++ " provisioning before any lock or journal is touched. Run " ++
          "`pfsense-mcp-security doctor` for detail."
        planDigest := some digest
        doctorReady := some false }
  else composeBootstrap profile digest

/-- `_run_write_protected_apply`. -/
def runWriteProtectedApply : AnchorAssurance → String → SetupOp ApplyResult :=
  runProvisioning .writeProtected "bootstrap"

/-- `_run_managed_readonly_apply`. -/
def runManagedReadonlyApply : AnchorAssurance → String → SetupOp ApplyResult :=
  runProvisioning .readOnly "managed read-only"

/-- The end of an apply with the operator's own key, once the appliance has answered. -/
def concludeConnectivity (anchor : AnchorAssurance) (digest : String) : SetupOp ApplyResult :=
  let completed (ready : Option Bool) : ApplyResult :=
    { outcome := .applyCompleted
      detail := "Connectivity verified against the configured pfSense target. No pfSense state " ++
        "was changed (read_only posture performs no provisioning)."
      planDigest := some digest
      doctorReady := ready }
  if anchor = .hardwareWitness then do
    let ready ← SetupOp.call .doctor fun env => env.doctorReady
    if ready then return completed (some true)
    else
      return {
        outcome := .doctorNotReady
        detail := "Connectivity verified, but the hardware witness anchor is not ready per " ++
          "`doctor`. Run `pfsense-mcp-security doctor` for detail."
        planDigest := some digest
        doctorReady := some false }
  else return completed none

/-- The request to the appliance; the transport is closed whatever happens. -/
def probeAppliance (anchor : AnchorAssurance) (digest : String) : SetupOp ApplyResult := do
  let status ← (SetupOp.call .systemStatus fun env => env.systemStatus).attempt
  SetupOp.call .close fun env => env.close
  match status with
  | .ok () => concludeConnectivity anchor digest
  | .error e =>
    if e.cls ∈ connectivityErrors then
      return { outcome := .connectivityFailed, detail := e.message, planDigest := some digest }
    else .raise e

/-- The branch with the operator's own key. -/
def runConnectivityApply (anchor : AnchorAssurance) (digest : String) : SetupOp ApplyResult :=
  let blocked (e : Error) : SetupOp ApplyResult :=
    return { outcome := .blockedConfigurationError, detail := e.message, planDigest := some digest }
  (SetupOp.call .config fun env => env.config).handling [configurationError] blocked fun _ =>
    (SetupOp.call .apiKey fun env => env.apiKey).handling [configurationError] blocked fun _ => do
      SetupOp.call .client fun env => env.client
      probeAppliance anchor digest

/-- The branch of a posture and an account mode. -/
def runBranch : CapabilityPosture → ReadOnlyAccountMode → AnchorAssurance → String →
    SetupOp ApplyResult
  | .writeProtected, _ => runWriteProtectedApply
  | .readOnly, .managed => runManagedReadonlyApply
  | .readOnly, .bringYourOwn => runConnectivityApply

/-! ### The gate -/

/-- The token is compared with that of the call; without one, it is shown. -/
def checkToken (binding : ApplyConfirmationBinding) (key : Bytes) (confirmToken : Option Text)
    (branch : SetupOp ApplyResult) : SetupOp ApplyResult :=
  let inspected : ApplyResult :=
    { outcome := .inspectPlanCurrent
      detail := "Plan is current. Re-run with --confirm <TOKEN> (shown below) to apply it."
      planDigest := some binding.planDigest
      confirmationToken := some (deriveConfirmationToken binding key) }
  let refused : ApplyResult :=
    { outcome := .confirmTokenInvalid
      detail := "The supplied --confirm token does not match this exact plan/target/posture. " ++
        "Refused before any pfSense contact."
      planDigest := some binding.planDigest }
  match confirmToken with
  | none => return inspected
  | some token =>
    match confirmationTokenMatches (some token) binding key with
    | none => .raise ⟨.other "UnicodeEncodeError", "surrogates not allowed"⟩
    | some false => return refused
    | some true => branch

/-- What follows the check of the plan digest: the key is loaded, and the token compared. -/
def confirmAndRun (posture : CapabilityPosture) (anchor : AnchorAssurance)
    (mode : ReadOnlyAccountMode) (args : SetupArguments) (digest : String) : SetupOp ApplyResult :=
  let blocked (e : Error) : SetupOp ApplyResult :=
    return { outcome := .blockedConfigurationError, detail := e.message, planDigest := some digest }
  (SetupOp.call .confirmKey SetupEnvironment.loadConfirmKey).handling [applyError] blocked
    fun key => checkToken (applyBinding posture anchor mode args digest) key args.confirmToken
      (runBranch posture mode anchor digest)

/-- The values of the three enumerations among the arguments, or what is wrong with them. -/
def SetupArguments.parse (args : SetupArguments) (repr : Text → String) :
    Except String (CapabilityPosture × AnchorAssurance × ReadOnlyAccountMode) := do
  let posture ← (CapabilityPosture.ofValue args.targetCapabilityPosture).elim
    (.error (repr args.targetCapabilityPosture ++ " is not a valid CapabilityPosture")) .ok
  let anchor ← (AnchorAssurance.ofValue args.targetAnchorAssurance).elim
    (.error (repr args.targetAnchorAssurance ++ " is not a valid AnchorAssurance")) .ok
  let mode ← (ReadOnlyAccountMode.ofValue args.readOnlyAccountMode).elim
    (.error (repr args.readOnlyAccountMode ++ " is not a valid ReadOnlyAccountMode")) .ok
  if posture = .writeProtected ∧ mode ≠ .bringYourOwn then
    .error ("read_only_account_mode only applies to target_capability_posture=read_only -- " ++
      "write_protected always uses the one fixed ADR-033 dedicated account.")
  else .ok (posture, anchor, mode)

/-- The supplied plan digest is not the fresh one. -/
def SetupArguments.stale (args : SetupArguments) (digest : String) : Bool :=
  args.planDigest.any fun supplied => supplied ≠ Text.ofString digest

/-- `run_setup_apply_from_environment`. `repr` is the function of Python's standard library. -/
def runSetupApply (repr : Text → String) (args : SetupArguments) : SetupOp ApplyResult :=
  match args.parse repr with
  | .error detail => return { outcome := .blockedConfigurationError, detail := detail }
  | .ok (posture, anchor, mode) => do
    .ofExcept (requireKnownAnchor anchor)
    let posturePlanDigest ← SetupOp.call .posturePlan fun env =>
      env.posturePlanDigest posture anchor
    let digest ← .ofExcept (Value.digestValue .setupPlan
      (setupPlanPayload posture mode args posturePlanDigest) [])
    if args.stale digest then
      return {
        outcome := .planStale
        detail := "The recomputed plan digest does not match --plan-digest -- current state has " ++
          "changed since this plan was generated. Run `setup --non-interactive` again to get a " ++
          "current plan."
        planDigest := some digest }
    else confirmAndRun posture anchor mode args digest

/-! ### Executions -/

section Executions

variable {α β : Type} {env : SetupEnvironment} {calls : List SetupCall}

omit [Platform] in
/-- A call is recorded, and its error ends the code that made it. -/
theorem SetupOp.run_call_bind (c : SetupCall) (f : SetupEnvironment → Except Error α)
    (next : α → SetupOp β) :
    (SetupOp.call c f >>= next).run (fun _ => env) calls =
      match f env with
      | .ok a => (next a).run (fun _ => env) (calls ++ [c])
      | .error e => ⟨.error e, calls ++ [c], fun _ => env⟩ := by
  rw [SetupOp.call, atom_bind, run_atom]
  cases f env <;> rfl

omit [Platform] in
/-- The error of a call in a `try` block goes to the handler, if that is for its class. -/
theorem SetupOp.run_handling_call (c : SetupCall) (f : SetupEnvironment → Except Error α)
    (classes : List ErrorClass) (handler : Error → SetupOp β) (next : α → SetupOp β) :
    ((SetupOp.call c f).handling classes handler next).run (fun _ => env) calls =
      match f env with
      | .ok a => (next a).run (fun _ => env) (calls ++ [c])
      | .error e =>
        (if e.cls ∈ classes then handler e else .raise e).run (fun _ => env) (calls ++ [c]) := by
  simp only [SetupOp.handling, SetupOp.call, Procedure.attempt, atom_bind, run_atom]
  cases f env <;> rfl

/-- The code returns instead of raising. -/
def SetupOp.Returns (env : SetupEnvironment) (calls : List SetupCall) (p : SetupOp α) : Prop :=
  ∃ a, (p.run (fun _ => env) calls).result = .ok a

omit [Platform] in
@[simp]
theorem SetupOp.returns_ret (a : α) : SetupOp.Returns env calls (.ret a) := ⟨a, rfl⟩

omit [Platform] in
@[simp]
theorem SetupOp.not_returns_raise (e : Error) :
    ¬SetupOp.Returns env calls (.raise e : SetupOp α) := nofun

omit [Platform] in
theorem SetupOp.returns_call_bind {c : SetupCall} {f : SetupEnvironment → Except Error α}
    {next : α → SetupOp β} :
    SetupOp.Returns env calls (SetupOp.call c f >>= next) ↔
      ∃ a, f env = .ok a ∧ SetupOp.Returns env (calls ++ [c]) (next a) := by
  rw [SetupOp.Returns, SetupOp.run_call_bind]
  cases f env with
  | ok a => simp [SetupOp.Returns]
  | error e => simp

omit [Platform] in
theorem SetupOp.returns_unit_call_bind {c : SetupCall} {f : SetupEnvironment → Except Error Unit}
    {next : Unit → SetupOp β} :
    SetupOp.Returns env calls (SetupOp.call c f >>= next) ↔
      f env = .ok () ∧ SetupOp.Returns env (calls ++ [c]) (next ()) :=
  SetupOp.returns_call_bind.trans ⟨fun ⟨_, h⟩ => h, fun h => ⟨(), h⟩⟩

omit [Platform] in
theorem SetupOp.returns_handling_call {c : SetupCall} {f : SetupEnvironment → Except Error α}
    {classes : List ErrorClass} {handler : Error → SetupOp β} {next : α → SetupOp β}
    (hhandler : ∀ e calls, SetupOp.Returns env calls (handler e)) :
    SetupOp.Returns env calls ((SetupOp.call c f).handling classes handler next) ↔
      (∀ e, f env = .error e → e.cls ∈ classes) ∧
        ∀ a, f env = .ok a → SetupOp.Returns env (calls ++ [c]) (next a) := by
  rw [SetupOp.Returns, SetupOp.run_handling_call]
  cases f env with
  | ok a => simp [SetupOp.Returns]
  | error e =>
    by_cases hcls : e.cls ∈ classes
    · have hreturns := hhandler e (calls ++ [c])
      simpa [hcls, SetupOp.Returns] using hreturns
    · simp [hcls]

end Executions

/-! ### When a branch returns -/

/-- The call returns, or raises one of these exceptions. -/
def Handled {α : Type} (classes : List ErrorClass) (answer : Except Error α) : Prop :=
  ∀ e, answer = .error e → e.cls ∈ classes

namespace SetupEnvironment

variable (env : SetupEnvironment)

/-- The bootstrap returns, not with the outcome of a read-only mode, and so does the inspection
of a recovery where one is made. -/
def BootstrapReports (profile : CapabilityPosture) : Prop :=
  ∃ report, env.bootstrap profile = .ok report ∧ report.outcome ≠ .ran .blockedReadOnlyMode ∧
    (report.outcome = .ran .blockedPriorOperation → ∃ r, env.recovery profile = .ok r)

/-- A branch with a bootstrap reports; `doctor` comes first where it is asked. -/
def ProvisioningReports (profile : CapabilityPosture) (anchor : AnchorAssurance) : Prop :=
  if anchor = .hardwareWitness then
    ∃ ready, env.doctorReady = .ok ready ∧ (ready = true → env.BootstrapReports profile)
  else env.BootstrapReports profile

/-- The branch with the operator's own key reports. -/
def ConnectivityReports (anchor : AnchorAssurance) : Prop :=
  Handled [configurationError] env.config ∧
    (env.config = .ok () → Handled [configurationError] env.apiKey ∧
      (env.apiKey = .ok () → env.client = .ok () ∧ env.close = .ok () ∧
        Handled connectivityErrors env.systemStatus ∧
        (env.systemStatus = .ok () → anchor = .hardwareWitness →
          ∃ ready, env.doctorReady = .ok ready)))

/-- The branch of a posture and an account mode reports. -/
def BranchReports : CapabilityPosture → ReadOnlyAccountMode → AnchorAssurance → Prop
  | .writeProtected, _ => env.ProvisioningReports .writeProtected
  | .readOnly, .managed => env.ProvisioningReports .readOnly
  | .readOnly, .bringYourOwn => env.ConnectivityReports

end SetupEnvironment

section Branches

variable {env : SetupEnvironment} {calls : List SetupCall} {anchor : AnchorAssurance}
  {digest : String}

omit [Platform] in
theorem returns_composeBootstrap {profile : CapabilityPosture} :
    SetupOp.Returns env calls (composeBootstrap profile digest) ↔ env.BootstrapReports profile := by
  rw [composeBootstrap, SetupOp.returns_call_bind, SetupEnvironment.BootstrapReports]
  refine exists_congr fun report => and_congr_right fun _ => ?_
  obtain ⟨outcome, detail⟩ := report
  cases outcome with
  | blockedConfigurationError => simp [mapBootstrapResult]
  | ran outcome =>
    cases outcome with
    | blockedPriorOperation =>
      simp [mapBootstrapResult, inlineRecoveryInspection, SetupOp.returns_call_bind]
    | _ => simp [mapBootstrapResult]

omit [Platform] in
theorem returns_runProvisioning {profile : CapabilityPosture} {activity : String} :
    SetupOp.Returns env calls (runProvisioning profile activity anchor digest) ↔
      env.ProvisioningReports profile anchor := by
  rw [runProvisioning, SetupEnvironment.ProvisioningReports]
  by_cases hanchor : anchor = .hardwareWitness
  · rw [if_pos hanchor, if_pos hanchor, SetupOp.returns_call_bind]
    refine exists_congr fun ready => and_congr_right fun _ => ?_
    cases ready with
    | false => simp
    | true => simp [returns_composeBootstrap]
  · rw [if_neg hanchor, if_neg hanchor, returns_composeBootstrap]

omit [Platform] in
theorem returns_concludeConnectivity :
    SetupOp.Returns env calls (concludeConnectivity anchor digest) ↔
      (anchor = .hardwareWitness → ∃ ready, env.doctorReady = .ok ready) := by
  rw [concludeConnectivity]
  by_cases hanchor : anchor = .hardwareWitness
  · rw [if_pos hanchor, SetupOp.returns_call_bind]
    simp only [hanchor, forall_const]
    refine exists_congr fun ready => and_iff_left ?_
    cases ready <;> simp
  · simp [hanchor]

omit [Platform] in
theorem returns_probeAppliance :
    SetupOp.Returns env calls (probeAppliance anchor digest) ↔
      env.close = .ok () ∧ Handled connectivityErrors env.systemStatus ∧
        (env.systemStatus = .ok () → anchor = .hardwareWitness →
          ∃ ready, env.doctorReady = .ok ready) := by
  have hattempt : SetupOp.Returns env calls (probeAppliance anchor digest) ↔
      SetupOp.Returns env (calls ++ [.systemStatus]) (do
        SetupOp.call .close fun env => env.close
        match env.systemStatus with
        | .ok () => concludeConnectivity anchor digest
        | .error e =>
          if e.cls ∈ connectivityErrors then
            return { outcome := .connectivityFailed, detail := e.message, planDigest := some digest }
          else .raise e) := by
    simp only [probeAppliance, SetupOp.Returns, SetupOp.call, Procedure.attempt, atom_bind, run_atom]
    cases env.systemStatus <;> rfl
  rw [hattempt, SetupOp.returns_unit_call_bind]
  cases hstatus : env.systemStatus with
  | ok u => simp [Handled, returns_concludeConnectivity]
  | error e =>
    by_cases hcls : e.cls ∈ connectivityErrors
    · simp [Handled, hcls]
    · simp [Handled, hcls]

omit [Platform] in
theorem returns_runConnectivityApply :
    SetupOp.Returns env calls (runConnectivityApply anchor digest) ↔
      env.ConnectivityReports anchor := by
  rw [runConnectivityApply, SetupOp.returns_handling_call, SetupEnvironment.ConnectivityReports]
  · refine and_congr_right fun _ => ?_
    rw [Unique.forall_iff]
    refine imp_congr_right fun _ => ?_
    rw [SetupOp.returns_handling_call]
    · refine and_congr_right fun _ => ?_
      rw [Unique.forall_iff, SetupOp.returns_unit_call_bind, returns_probeAppliance]
    · exact fun _ _ => SetupOp.returns_ret _
  · exact fun _ _ => SetupOp.returns_ret _

omit [Platform] in
theorem returns_runBranch {posture : CapabilityPosture} {mode : ReadOnlyAccountMode} :
    SetupOp.Returns env calls (runBranch posture mode anchor digest) ↔
      env.BranchReports posture mode anchor := by
  cases posture with
  | writeProtected => exact returns_runProvisioning
  | readOnly =>
    cases mode with
    | managed => exact returns_runProvisioning
    | bringYourOwn => exact returns_runConnectivityApply

end Branches

/-! ### The gate -/

/-- What the token of a call is for. -/
structure ApplyTuple where
  planDigest : String
  targetOrigin : Option Text
  targetIdentity : Option Text
  posture : CapabilityPosture
  anchor : AnchorAssurance
  mode : ReadOnlyAccountMode
deriving DecidableEq

namespace ApplyTuple

/-- The binding of the token. -/
def binding (t : ApplyTuple) : ApplyConfirmationBinding where
  planDigest := t.planDigest
  targetOrigin := t.targetOrigin
  targetIdentity := t.targetIdentity
  capabilityPosture := t.posture.value
  anchorAssurance := t.anchor.value
  readOnlyAccountMode := (accountMode t.posture t.mode).map ReadOnlyAccountMode.value

/-- The tuple is the one that a call computes. -/
structure Fresh (t : ApplyTuple) (repr : Text → String) (env : SetupEnvironment)
    (args : SetupArguments) : Prop where
  parse : args.parse repr = .ok (t.posture, t.anchor, t.mode)
  planDigest : env.freshDigest t.posture t.anchor t.mode args = .ok t.planDigest
  targetOrigin : t.targetOrigin = args.targetOrigin
  targetIdentity : t.targetIdentity = args.targetIdentity

end ApplyTuple

/-- The supplied plan digest, if there is one, is the fresh one. -/
def SetupArguments.Current (args : SetupArguments) (digest : String) : Prop :=
  ∀ supplied ∈ args.planDigest, supplied = Text.ofString digest

/-- The supplied token is the one that this very call derives, and the supplied plan digest is
current. -/
def Confirmed (repr : Text → String) (env : SetupEnvironment) (args : SetupArguments) : Prop :=
  ∃ (t : ApplyTuple) (key : Bytes), t.Fresh repr env args ∧ args.Current t.planDigest ∧
    env.loadConfirmKey = .ok key ∧
    args.confirmToken = some (Text.ofString (deriveConfirmationToken t.binding key))

/-- When an apply reports: what is parsed can be planned, and, where the plan is current, the key
is loaded or refused, the token can be encoded, and the branch that the token opens reports. -/
def ApplyReports (repr : Text → String) (env : SetupEnvironment) (args : SetupArguments) : Prop :=
  ∀ posture anchor mode, args.parse repr = .ok (posture, anchor, mode) →
    ∃ digest, env.freshDigest posture anchor mode args = .ok digest ∧
      (args.Current digest → Handled [applyError] env.loadConfirmKey ∧
        ∀ key token, env.loadConfirmKey = .ok key → args.confirmToken = some token →
          (encodeSurrogateEscape token).isSome ∧
            (token = Text.ofString (deriveConfirmationToken
                (applyBinding posture anchor mode args digest) key) →
              env.BranchReports posture mode anchor))

section Gate

variable {repr : Text → String} {env : SetupEnvironment} {args : SetupArguments}
  {posture : CapabilityPosture} {anchor : AnchorAssurance} {mode : ReadOnlyAccountMode}
  {digest : String} {calls : List SetupCall}

omit [Platform] in
theorem stale_eq_false : args.stale digest = false ↔ args.Current digest := by
  cases h : args.planDigest <;> simp [SetupArguments.stale, SetupArguments.Current, h]

theorem confirmationTokenMatches_isSome {token : Text} {binding : ApplyConfirmationBinding}
    {key : Bytes} : (confirmationTokenMatches (some token) binding key).isSome ↔
      (encodeSurrogateEscape token).isSome := by
  cases token with
  | nil => simp [confirmationTokenMatches, encodeSurrogateEscape]
  | cons c text =>
    simp only [confirmationTokenMatches]
    cases encodeSurrogateEscape (c :: text) <;> rfl

theorem returns_checkToken {binding : ApplyConfirmationBinding} {key : Bytes}
    {confirmToken : Option Text} {branch : SetupOp ApplyResult} :
    SetupOp.Returns env calls (checkToken binding key confirmToken branch) ↔
      ∀ token, confirmToken = some token → (encodeSurrogateEscape token).isSome ∧
        (token = Text.ofString (deriveConfirmationToken binding key) →
          SetupOp.Returns env calls branch) := by
  cases confirmToken with
  | none => simp [checkToken]
  | some token =>
    have hmatch := @confirmationTokenMatches_eq_true _ (some token) binding key
    simp only [Option.some.injEq] at hmatch
    simp only [checkToken, Option.some.injEq, forall_eq', ← @confirmationTokenMatches_isSome _ _
      binding key, ← hmatch]
    rcases hcompared : confirmationTokenMatches (some token) binding key with _ | matched
    · simp
    · cases matched <;> simp

theorem returns_confirmAndRun :
    SetupOp.Returns env calls (confirmAndRun posture anchor mode args digest) ↔
      Handled [applyError] env.loadConfirmKey ∧
        ∀ key token, env.loadConfirmKey = .ok key → args.confirmToken = some token →
          (encodeSurrogateEscape token).isSome ∧
            (token = Text.ofString (deriveConfirmationToken
                (applyBinding posture anchor mode args digest) key) →
              env.BranchReports posture mode anchor) := by
  rw [confirmAndRun, SetupOp.returns_handling_call]
  · refine and_congr_right fun _ => forall_congr' fun key => ?_
    rw [returns_checkToken]
    simp only [returns_runBranch]
    exact ⟨fun h token hkey => h hkey token, fun h hkey token => h token hkey⟩
  · exact fun _ _ => SetupOp.returns_ret _

/-- When a result is returned and no exception escapes. -/
theorem returns_runSetupApply :
    SetupOp.Returns env calls (runSetupApply repr args) ↔ ApplyReports repr env args := by
  rw [runSetupApply, ApplyReports]
  rcases hparse : args.parse repr with detail | ⟨posture, anchor, mode⟩
  · exact iff_of_true (SetupOp.returns_ret _) nofun
  · have hparsed : ∀ P : CapabilityPosture → AnchorAssurance → ReadOnlyAccountMode → Prop,
        (∀ posture' anchor' mode', (Except.ok (posture, anchor, mode) : Except String _) =
          .ok (posture', anchor', mode') → P posture' anchor' mode') ↔ P posture anchor mode := by
      refine fun P => ⟨fun h => h _ _ _ rfl, ?_⟩
      rintro h _ _ _ ⟨⟩
      exact h
    rw [hparsed]
    simp only [SetupEnvironment.freshDigest]
    cases requireKnownAnchor anchor with
    | error e => exact iff_of_false (SetupOp.not_returns_raise e) nofun
    | ok u =>
      rw [ofExcept_ok, ret_bind, SetupOp.returns_call_bind]
      rw [ok_bind]
      cases env.posturePlanDigest posture anchor with
      | error e => exact iff_of_false (by rintro ⟨_, ⟨⟩, -⟩) (by rintro ⟨_, ⟨⟩, -⟩)
      | ok postureDigest =>
        rw [ok_bind]
        simp only [Except.ok.injEq, exists_eq_left']
        cases Value.digestValue .setupPlan (setupPlanPayload posture mode args postureDigest) [] with
        | error e => exact iff_of_false (SetupOp.not_returns_raise e) (by rintro ⟨_, ⟨⟩, -⟩)
        | ok digest =>
          simp only [ofExcept_ok, ret_bind, Except.ok.injEq, exists_eq_left', ← stale_eq_false]
          cases args.stale digest with
          | false => simp only [Bool.false_eq_true, if_false, forall_const, returns_confirmAndRun]
          | true => exact iff_of_true (SetupOp.returns_ret _) nofun

/-- A token opens the branch only if it is the one of the call. -/
theorem calls_checkToken {binding : ApplyConfirmationBinding} {key : Bytes}
    {confirmToken : Option Text} {branch : SetupOp ApplyResult}
    (h : confirmToken ≠ some (Text.ofString (deriveConfirmationToken binding key))) :
    ((checkToken binding key confirmToken branch).run (fun _ => env) calls).state = calls := by
  cases confirmToken with
  | none => rfl
  | some token =>
    have hmatch := mt confirmationTokenMatches_eq_true.mp h
    simp only [checkToken]
    rcases hcompared : confirmationTokenMatches (some token) binding key with _ | matched
    · rfl
    · cases matched with
      | false => rfl
      | true => exact absurd hcompared hmatch

theorem calls_confirmAndRun
    (h : ∀ key, env.loadConfirmKey = .ok key → args.confirmToken ≠
      some (Text.ofString (deriveConfirmationToken (applyBinding posture anchor mode args digest) key))) :
    ((confirmAndRun posture anchor mode args digest).run (fun _ => env) calls).state =
      calls ++ [.confirmKey] := by
  rw [confirmAndRun, SetupOp.run_handling_call]
  cases hkey : env.loadConfirmKey with
  | error e =>
    dsimp only
    split_ifs <;> rfl
  | ok key => exact calls_checkToken (h key hkey)

/-- No call that acts is made unless the supplied token is the one of the call. -/
theorem calls_of_not_confirmed (h : ¬Confirmed repr env args) :
    ∀ c ∈ ((runSetupApply repr args).run (fun _ => env) []).state, c.acts = false := by
  have hplan : ∀ c ∈ [] ++ [SetupCall.posturePlan], c.acts = false := by decide
  have hkey : ∀ c ∈ [] ++ [SetupCall.posturePlan] ++ [.confirmKey], c.acts = false := by decide
  rw [runSetupApply]
  rcases hparse : args.parse repr with detail | ⟨posture, anchor, mode⟩
  · exact nofun
  · dsimp only
    cases hanchor : requireKnownAnchor anchor with
    | error e => exact nofun
    | ok u =>
      rw [ofExcept_ok, ret_bind, SetupOp.run_call_bind]
      cases hposture : env.posturePlanDigest posture anchor with
      | error e => exact hplan
      | ok postureDigest =>
        dsimp only
        cases hdigest :
            Value.digestValue .setupPlan (setupPlanPayload posture mode args postureDigest) [] with
        | error e => exact hplan
        | ok digest =>
          rw [ofExcept_ok, ret_bind]
          cases hstale : args.stale digest with
          | true => exact hplan
          | false =>
            -- the plan is current, so that the token cannot be the one of the call
            have hconfirm : ∀ key, env.loadConfirmKey = .ok key → args.confirmToken ≠
                some (Text.ofString (deriveConfirmationToken
                  (applyBinding posture anchor mode args digest) key)) := by
              intro key hload htoken
              have hfresh : env.freshDigest posture anchor mode args = .ok digest := by
                rw [SetupEnvironment.freshDigest, hanchor, ok_bind, hposture, ok_bind, hdigest]
              exact h ⟨⟨digest, args.targetOrigin, args.targetIdentity, posture, anchor, mode⟩, key,
                ⟨hparse, hfresh, rfl, rfl⟩, stale_eq_false.mp hstale, hload, htoken⟩
            rw [if_neg Bool.false_ne_true, calls_confirmAndRun hconfirm]
            exact hkey

end Gate

/-! ### Tokens of different tuples -/

section Tokens

/-- The strings of an accepted dictionary can be encoded. -/
theorem isEncodable_of_normalizeFields {depth nodes : ℕ} {seen : List String}
    {fields : List (Key × Value)} {r : List (String × Json) × ℕ}
    (h : Value.normalizeFields depth nodes seen fields = .ok r) (key : Key) {t : Text}
    (ht : (key, .str t) ∈ fields) : IsEncodable t := by
  induction fields generalizing nodes seen r with
  | nil => cases ht
  | cons field fields ih =>
    obtain ⟨k, value⟩ := field
    simp only [Value.normalizeFields, bind_eq_ok] at h
    obtain ⟨k', -, -, -, ⟨j, n⟩, hvalue, ⟨rest, m⟩, hrest, -⟩ := h
    rcases List.mem_cons.mp ht with heq | ht
    · obtain ⟨rfl, rfl⟩ := Prod.mk.inj heq
      simp only [Value.normalize, bind_eq_ok] at hvalue
      obtain ⟨-, -, s, hs, -⟩ := hvalue
      obtain ⟨u, hu, -⟩ := Value.eq_of_normalizedString hs
      exact ⟨u, hu⟩
    · exact ih hrest ht

/-- A digest of a plan means that its texts can be encoded. -/
theorem isEncodable_of_freshDigest {env : SetupEnvironment} {args : SetupArguments}
    {posture : CapabilityPosture} {anchor : AnchorAssurance} {mode : ReadOnlyAccountMode}
    {digest : String} (h : env.freshDigest posture anchor mode args = .ok digest) :
    (∀ t ∈ args.targetOrigin, IsEncodable t) ∧ ∀ t ∈ args.targetIdentity, IsEncodable t := by
  simp only [SetupEnvironment.freshDigest, Value.digestValue, Value.digestMessage,
    Value.canonicalJson, setupPlanPayload, Value.normalize, bind_eq_ok] at h
  obtain ⟨-, -, _, -, _, ⟨-, -, _, -, _, ⟨_, ⟨_, -, -, -, _, hfields, -⟩, -⟩, -⟩, -⟩ := h
  constructor
  · intro t ht
    apply isEncodable_of_normalizeFields hfields (.str (Text.ofString "target_origin"))
    simp [valueField, optionalValue, Option.mem_def.mp ht]
  · intro t ht
    apply isEncodable_of_normalizeFields hfields (.str (Text.ofString "target_identity"))
    simp [valueField, optionalValue, Option.mem_def.mp ht]

omit [Platform] in
/-- A protected account is never asked for with a managed one. -/
theorem mode_of_parse {repr : Text → String} {args : SetupArguments} {anchor : AnchorAssurance}
    {mode : ReadOnlyAccountMode} (h : args.parse repr = .ok (.writeProtected, anchor, mode)) :
    mode = .bringYourOwn := by
  unfold SetupArguments.parse at h
  cases hposture : CapabilityPosture.ofValue args.targetCapabilityPosture with
  | none =>
    rw [hposture] at h
    cases h
  | some posture =>
    rw [hposture] at h
    cases hanchor : AnchorAssurance.ofValue args.targetAnchorAssurance with
    | none =>
      rw [hanchor] at h
      cases h
    | some anchor =>
      rw [hanchor] at h
      cases hmode : ReadOnlyAccountMode.ofValue args.readOnlyAccountMode with
      | none =>
        rw [hmode] at h
        cases h
      | some parsed =>
        rw [hmode] at h
        change (if posture = .writeProtected ∧ parsed ≠ .bringYourOwn then _ else _) = _ at h
        split_ifs at h with hrefused
        cases h
        by_contra hne
        exact hrefused ⟨rfl, hne⟩

/-- The binding of a token determines its tuple. -/
theorem ApplyTuple.Fresh.eq_of_binding {t t' : ApplyTuple} {repr repr' : Text → String}
    {env env' : SetupEnvironment} {args args' : SetupArguments} (ht : t.Fresh repr env args)
    (ht' : t'.Fresh repr' env' args') (h : t.binding = t'.binding) : t = t' := by
  obtain ⟨digest, origin, identity, posture, anchor, mode⟩ := t
  obtain ⟨digest', origin', identity', posture', anchor', mode'⟩ := t'
  simp only [ApplyTuple.binding, ApplyConfirmationBinding.mk.injEq] at h
  obtain ⟨rfl, rfl, rfl, hposture, hanchor, hmode⟩ := h
  obtain rfl := CapabilityPosture.value_injective hposture
  obtain rfl := AnchorAssurance.value_injective hanchor
  cases posture with
  | readOnly =>
    obtain rfl := ReadOnlyAccountMode.value_injective (Option.some.inj hmode)
    rfl
  | writeProtected =>
    have hmodes : mode = mode' := (mode_of_parse ht.parse).trans (mode_of_parse ht'.parse).symm
    rw [hmodes]

theorem ApplyTuple.Fresh.valid {t : ApplyTuple} {repr : Text → String} {env : SetupEnvironment}
    {args : SetupArguments} (ht : t.Fresh repr env args) : t.binding.Valid := by
  obtain ⟨horigin, hidentity⟩ := isEncodable_of_freshDigest ht.planDigest
  constructor
  · show ∀ u ∈ t.targetOrigin, IsEncodable u
    rwa [ht.targetOrigin]
  · show ∀ u ∈ t.targetIdentity, IsEncodable u
    rwa [ht.targetIdentity]

end Tokens

end Model

/-! ### Main theorem -/

/-- Every call of `setup apply` that acts is confirmed by the token of this very call. Under one
key the tokens of two tuples are different, unless the codes of their messages collide. And a
result is returned exactly when what is composed reports. -/
theorem runSetupApply_gated [Platform] (repr : Text → String) (env : SetupEnvironment)
    (args : SetupArguments) :
    ((∃ c ∈ ((runSetupApply repr args).run (fun _ => env) []).state, c.acts = true) →
        Confirmed repr env args) ∧
      (∀ (t t' : ApplyTuple) (env' : SetupEnvironment) (args' : SetupArguments) (key : Bytes),
        t.Fresh repr env args → t'.Fresh repr env' args' → t ≠ t' →
        (Platform.hmacSha256 key (tokenMessage t.binding) =
          Platform.hmacSha256 key (tokenMessage t'.binding) →
          tokenMessage t.binding = tokenMessage t'.binding) →
        deriveConfirmationToken t.binding key ≠ deriveConfirmationToken t'.binding key) ∧
      ((∃ result, ((runSetupApply repr args).run (fun _ => env) []).result = .ok result) ↔
        ApplyReports repr env args) := by
  refine ⟨?_, ?_, returns_runSetupApply⟩
  · rintro ⟨c, hc, hacts⟩
    by_contra hconfirmed
    rw [calls_of_not_confirmed hconfirmed c hc] at hacts
    cases hacts
  · intro t t' env' args' key ht ht' hne hinjective
    exact deriveConfirmationToken_ne ht.valid ht'.valid (fun h => hne (ht.eq_of_binding ht' h))
      hinjective

section Sample

attribute [local instance] Sample.platform

/-- An environment in which every call returns; the server is in read-only mode. -/
def readOnlyModeEnvironment : SetupEnvironment where
  posturePlanDigest _ _ := .ok Sample.hex
  confirmKeyPath := some (Text.ofString "/etc/confirm.key")
  confirmKeyFile := .ok ("/etc/confirm.key", [107])
  config := .ok ()
  apiKey := .ok ()
  client := .ok ()
  systemStatus := .ok ()
  close := .ok ()
  doctorReady := .ok true
  bootstrap _ := .ok ⟨.ran .blockedReadOnlyMode, "The MCP server is in READ_ONLY mode."⟩
  recovery _ := .ok ⟨"no_recovery_needed", "", none, none⟩

/-- A confirmed apply of the protected posture. -/
def confirmedArguments : SetupArguments where
  targetCapabilityPosture := Text.ofString "write_protected"
  targetAnchorAssurance := Text.ofString "none"
  targetOrigin := none
  targetIdentity := none
  tlsMode := none
  readOnlyAccountMode := Text.ofString "byo"
  planDigest := none
  confirmToken := some (Text.ofString Sample.hex)

/-- `repr` of a text without quotes and backslashes. -/
def quoted (t : Text) : String := "'" ++ (Text.toString? t).getD "" ++ "'"

/-- The plan of this call, as an object. -/
def confirmedPlan : List (String × Json) :=
  [("schema_version", .int 2), ("target_origin", .null), ("target_identity", .null),
    ("target_tls_mode", .null), ("target_reachability_verified", .bool false),
    ("posture_plan_digest", .str Sample.hex),
    ("intended_capability_posture", .str "write_protected"),
    ("intended_account_identity", .str "pfsense-mcp"), ("read_only_account_mode", .null),
    ("dedicated_account_provisioning_implemented", .bool true),
    ("privilege_schema_provided", .bool false), ("required_privileges", .null),
    ("unresolved_requirement_tool_names", .arr []), ("version_schema_provided", .bool false),
    ("declared_package_version", .null), ("package_version_supported", .null),
    ("unsupported_step_count", .int 5)]

theorem digestValue_confirmedPlan :
    Value.digestValue .setupPlan
      (setupPlanPayload .writeProtected .bringYourOwn confirmedArguments Sample.hex) [] =
        .ok Sample.hex := by
  have hjson := Value.digestValue_ofJson .setupPlan (.obj confirmedPlan) []
  rw [Value.digestValue_object .setupPlan confirmedPlan [] (by decide +kernel) (by decide)
    (by decide +kernel) (fun _ _ => ⟨rfl, fun _ _ => rfl⟩) (by decide) nofun] at hjson
  exact hjson

/-- A bootstrap that is refused because of the read-only mode has no result. -/
theorem runSetupApply_readOnlyMode :
    ((runSetupApply quoted confirmedArguments).run
        (fun _ => readOnlyModeEnvironment) []).result =
      .error ⟨.other "AssertionError", "unhandled BootstrapOrchestrationOutcome: " ++
        "BootstrapOrchestrationOutcome.BLOCKED_READ_ONLY_MODE"⟩ := by
  have hparse : confirmedArguments.parse quoted =
      .ok (.writeProtected, .none, .bringYourOwn) := by decide +kernel
  have hgate : (confirmAndRun .writeProtected .none .bringYourOwn confirmedArguments Sample.hex).run
      (fun _ => readOnlyModeEnvironment) [.posturePlan] =
        ⟨.error ⟨.other "AssertionError", "unhandled BootstrapOrchestrationOutcome: " ++
          "BootstrapOrchestrationOutcome.BLOCKED_READ_ONLY_MODE"⟩,
        [.posturePlan, .confirmKey, .bootstrap .writeProtected],
        fun _ => readOnlyModeEnvironment⟩ := by
    have hkey : readOnlyModeEnvironment.loadConfirmKey = .ok [107] := by decide +kernel
    have htoken : confirmationTokenMatches (some (Text.ofString Sample.hex))
        (applyBinding .writeProtected .none .bringYourOwn confirmedArguments Sample.hex) [107] =
          some true := confirmationTokenMatches_eq_true.mpr rfl
    have hopen (branch : SetupOp ApplyResult) : checkToken (applyBinding .writeProtected .none
        .bringYourOwn confirmedArguments Sample.hex) [107] confirmedArguments.confirmToken branch =
          branch := by
      simp only [checkToken, confirmedArguments] at htoken ⊢
      rw [htoken]
    rw [confirmAndRun, SetupOp.run_handling_call, hkey]
    simp only [hopen]
    rfl
  rw [runSetupApply, hparse]
  dsimp only
  rw [show requireKnownAnchor .none = .ok () from rfl, ofExcept_ok, ret_bind,
    SetupOp.run_call_bind]
  dsimp only [readOnlyModeEnvironment]
  rw [digestValue_confirmedPlan, ofExcept_ok, ret_bind]
  exact congrArg Ending.result hgate

end Sample

end Administration
