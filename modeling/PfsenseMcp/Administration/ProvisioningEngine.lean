import Mathlib.Data.Finset.SDiff
import PfsenseMcp.Administration.Bootstrap
import PfsenseMcp.Administration.Privileges
import PfsenseMcp.Administration.ProvisioningClient

/-!
# Provisioning of the service account

`provision_service_account` of `security_bootstrap_engine.py`, with the transaction model of
`security_bootstrap_transaction.py`. An account that exists is only ever given privileges that it
misses; a new account is made, given the privilege to make its own API key, and that privilege is
taken back. `repr` is a parameter, and so is the password that `password_factory` makes.
-/

namespace Administration

open Python Tier1 Concurrency Procedure

/-! ### Transactions -/

/-- `BOOTSTRAP_ONLY_PRIVILEGE`. -/
def bootstrapOnlyPrivilege : String := "api-v2-auth-key-post"

/-- `BootstrapState`. -/
inductive BootstrapState where
  | notStarted
  | userCreated
  | bootstrapPrivilegeGranted
  | keyGenerated
  | bootstrapPrivilegeRevoked
  | verified
  | failed
deriving DecidableEq, Repr

namespace BootstrapState

/-- The value of a state. -/
def value : BootstrapState → String
  | notStarted => "not_started"
  | userCreated => "user_created"
  | bootstrapPrivilegeGranted => "bootstrap_privilege_granted"
  | keyGenerated => "key_generated"
  | bootstrapPrivilegeRevoked => "bootstrap_privilege_revoked"
  | verified => "verified"
  | failed => "failed"

/-- `allowed_next_states`. -/
def allowedNextStates : BootstrapState → List BootstrapState
  | notStarted => [userCreated, failed]
  | userCreated => [bootstrapPrivilegeGranted, failed]
  | bootstrapPrivilegeGranted => [keyGenerated, failed]
  | keyGenerated => [bootstrapPrivilegeRevoked, failed]
  | bootstrapPrivilegeRevoked => [verified, failed]
  | verified | failed => []

end BootstrapState

/-- `BootstrapTransaction`. -/
structure BootstrapTransaction where
  state : BootstrapState
  privileges : Finset String
  failureDetail : Option String := none
deriving DecidableEq

namespace BootstrapTransaction

/-- `check_invariants`: the message of the violation. -/
def checkInvariants (t : BootstrapTransaction) : Except String Unit :=
  if (t.state = .notStarted ∨ t.state = .userCreated) ∧ bootstrapOnlyPrivilege ∈ t.privileges then
    .error (t.state.value ++ ": bootstrap privilege must not be present before it is granted")
  else if (t.state = .bootstrapPrivilegeRevoked ∨ t.state = .verified) ∧
      bootstrapOnlyPrivilege ∈ t.privileges then
    .error (t.state.value ++
      ": bootstrap privilege must not be present in the steady-state account -- this is the one " ++
      "invariant this transaction model exists to enforce (ADR-033 §5)")
  else .ok ()

/-- `BootstrapTransaction.transition`. -/
def transition (t : BootstrapTransaction) (target : BootstrapState) (privileges : Finset String) :
    Except String BootstrapTransaction :=
  if target ∉ t.state.allowedNextStates then
    .error s!"illegal transition: {t.state.value} -> {target.value}"
  else do
    let candidate : BootstrapTransaction := ⟨target, privileges, none⟩
    candidate.checkInvariants
    .ok candidate

/-- `BootstrapTransaction.fail`. -/
def fail (t : BootstrapTransaction) (detail : String) : Except ClientError BootstrapTransaction :=
  if t.state = .verified ∨ t.state = .failed then
    .error (.other ⟨.other "InvariantViolation", s!"cannot fail from terminal state {t.state.value}"⟩)
  else .ok ⟨.failed, t.privileges, some detail⟩

end BootstrapTransaction

/-! ### Calls and results -/

/-- The arguments of `provision_service_account`, beside the transports. -/
structure ProvisioningCall where
  username : String
  targetProfile : TargetProfile
  schema : Option (List (String × Json))
  installedPackageVersion : Option PackageVersion := none
  userDescr : String := "Dedicated service account for pfsense-mcp-server"
  keyDescr : String := "pfsense-mcp-server primary API key"
  /-- What `password_factory` makes. -/
  password : String

/-- `ProvisioningResult`, with all its fields. -/
structure AccountResult where
  outcome : ProvisioningOutcome
  detail : String
  transaction : Option BootstrapTransaction := none
  apiKey : Option ProvisionedApiKey := none
  driftBefore : Option DriftReport := none
  driftAfter : Option DriftReport := none

/-- What `run_bootstrap` reads of a result. -/
def AccountResult.toProvisioningResult (r : AccountResult) : ProvisioningResult :=
  ⟨r.outcome, r.detail, r.transaction.map fun t => t.state.value, r.apiKey.map (·.secret)⟩

/-- `_check_package_version`. -/
def checkPackageVersion : Option PackageVersion → Option String
  | none => none
  | some version =>
    (checkPackageVersionSupport version).map fun _ =>
      s!"installed pfSense-pkg-RESTAPI version {version.text} is outside the verified range " ++
        s!"{verifiedPackageVersionMin.text}-{verifiedPackageVersionMax.text}; refusing to provision"

/-- `_failed_result`. -/
def failedResult (t : BootstrapTransaction) : AccountResult :=
  { outcome := .failed, detail := t.failureDetail.getD "", transaction := some t }

section

variable (repr : String → String)

/-- `_find_user`. -/
def findUser (users : List UserRecord) (username : String) : Except ClientError (Option UserRecord) :=
  match users.filter fun record => record.user.name = username with
  | [] => .ok none
  | [record] => .ok (some record)
  | found =>
    ClientError.refuse <|
      s!"ambiguous account state: {found.length} accounts share the name {repr username} -- " ++
        "refusing to guess which one is the dedicated target account"

/-- The privileges that a report calls missing. -/
def missingPrivileges (report : DriftReport) : List String :=
  report.findings.filterMap fun f =>
    if f.kind = .privilegeMissing then f.privilege.filter (· ≠ "") else none

/-! ### Existing accounts -/

variable {σ : Type} (net : Network σ)

/-- `list_users`, and `_find_user` in what it returns. -/
def observeUser? (username : String) : ClientOp σ (Option UserRecord) := do
  let users ← listUsers net
  ofExcept (findUser repr users username)

/-- `update_user_privileges`. -/
def updateUserPrivileges (userId : ObservedId) (priv : Finset String) : ClientOp σ UserRecord :=
  let request := ProvisioningRequest.updateUserPrivileges userId priv
  call net .admin request (userRecordOf request.operation)

/-- The last part of `_provision_against_existing_account`: the read after the PATCH. -/
def verifySync (existing preMutation : UserRecord) (expected : Finset String)
    (expectedDescr : String) (before : DriftReport) : ClientOp σ AccountResult := do
  let name := repr existing.user.name
  let refuse (detail : String) (after : Option DriftReport) : AccountResult :=
    { outcome := .failed, detail, driftBefore := some before, driftAfter := after }
  match ← tryProvisioning (observeUser? repr net existing.user.name) with
  | .error e => return refuse s!"post-sync verification read for {name} failed: {e}" none
  | .ok none => return refuse s!"post-sync verification failed: account {name} no longer found" none
  | .ok (some refreshed) =>
    if refreshed.user.id ≠ preMutation.user.id ∨ refreshed.user.disabled ∨
        refreshed.user.descr ≠ expectedDescr then
      return refuse (s!"post-sync verification failed: account {name} identity or enabled state " ++
        "changed") none
    else
      let after := computeAccountDrift repr expected refreshed.user.priv
      if after.findings.any fun f => f.kind = .privilegeMissing then
        return refuse (s!"post-sync verification failed: account {name} is still missing one or " ++
          "more expected privileges after the PATCH") (some after)
      else if preMutation.user.priv \ refreshed.user.priv ≠ ∅ then
        return refuse ("post-sync verification failed: one or more privileges from the final " ++
          s!"pre-mutation snapshot were removed from account {name}") (some after)
      else
        return { outcome := .privilegesSynced,
                 detail := s!"missing privileges added to existing account {name}; every privilege " ++
                   "in the final authoritative pre-mutation snapshot was preserved. This result " ++
                   "assumes the required exclusive administrative window because the pfSense " ++
                   "endpoint provides no revision/CAS primitive.",
                 driftBefore := some before, driftAfter := some after }

/-- The middle part of `_provision_against_existing_account`: the last read before the PATCH, and
the PATCH. -/
def syncPrivileges (existing : UserRecord) (expected : Finset String) (expectedDescr : String)
    (before : DriftReport) : ClientOp σ AccountResult := do
  let name := repr existing.user.name
  let refuse (outcome : ProvisioningOutcome) (detail : String) : AccountResult :=
    { outcome, detail, driftBefore := some before }
  match ← tryProvisioning (observeUser? repr net existing.user.name) with
  | .error e => return refuse .failed s!"final pre-sync observation for {name} failed: {e}"
  | .ok preMutation =>
    match preMutation.filter fun record => record.user.id = existing.user.id ∧
        !record.user.disabled ∧ record.user.descr = expectedDescr with
    | none =>
      return refuse .failed
        s!"final pre-sync observation for {name} no longer identifies the same enabled account"
    | some preMutation =>
      if bootstrapOnlyPrivilege ∈ preMutation.user.priv then
        return refuse .blockedExistingPartial
          ("final pre-sync observation found temporary bootstrap privilege " ++
            s!"{repr bootstrapOnlyPrivilege}; no mutation performed and human review is required")
      else
        let newPriv := preMutation.user.priv ∪ expected
        match ← tryProvisioning (updateUserPrivileges net existing.id newPriv) with
        | .error e =>
          return refuse .failed s!"privilege sync for existing account {name} failed: {e}"
        | .ok _ => verifySync repr net existing preMutation expected expectedDescr before

/-- `_provision_against_existing_account`. -/
def provisionAgainstExistingAccount (existing : UserRecord) (expected : Finset String)
    (expectedDescr : String) : ClientOp σ AccountResult :=
  let name := repr existing.user.name
  if bootstrapOnlyPrivilege ∈ existing.user.priv then
    return { outcome := .blockedExistingPartial,
             detail := s!"existing account {name} already holds the temporary bootstrap privilege " ++
               s!"{repr bootstrapOnlyPrivilege} -- a prior bootstrap run may have been interrupted; " ++
               "human review is required before any further provisioning attempt. No mutation " ++
               "performed." }
  else if existing.user.disabled then
    return { outcome := .failed,
             detail := s!"existing account {name} is disabled; refusing to change its privileges" }
  else if existing.user.descr ≠ expectedDescr then
    return { outcome := .failed,
             detail := s!"existing account {name} does not carry the expected dedicated-service " ++
               "description; refusing to treat it as project-owned or change its privileges" }
  else
    let before := computeAccountDrift repr expected existing.user.priv
    if before.clean then
      return { outcome := .alreadySatisfied,
               detail := s!"existing account {name} already holds exactly the expected privilege " ++
                 "set. No mutation performed.",
               driftBefore := some before }
    else if missingPrivileges before = [] then
      return { outcome := .alreadySatisfiedWithExtraPrivileges,
               detail := s!"existing account {name} already holds every expected privilege, plus at " ++
                 "least one unrelated additional privilege. The additional privilege is preserved, " ++
                 "never auto-removed. No mutation performed.",
               driftBefore := some before }
    else syncPrivileges repr net existing expected expectedDescr before

/-! ### New accounts -/

/-- `_reread_and_check`, by whether the account is as expected. -/
def rereadAndCheck (username : String) (expectedPriv : Finset String) (expectedId : ℤ)
    (expectedDescr : String) : ClientOp σ Bool := do
  match ← tryProvisioning (observeUser? repr net username) with
  | .ok (some record) =>
    return record.user.id = expectedId ∧ record.user.descr = expectedDescr ∧
      !record.user.disabled ∧ record.user.priv = expectedPriv
  | _ => return false

/-- The transaction fails, and this is the result. -/
def failTransaction (t : BootstrapTransaction) (detail : String) : ClientOp σ AccountResult := do
  let failed ← ofExcept (t.fail detail)
  return failedResult failed

/-- The transaction goes to its next state, or fails by an invariant. -/
def advance (t : BootstrapTransaction) (target : BootstrapState) (privileges : Finset String)
    (after : String) (next : BootstrapTransaction → ClientOp σ AccountResult) :
    ClientOp σ AccountResult :=
  match t.transition target privileges with
  | .ok t' => next t'
  | .error message => failTransaction t s!"internal invariant violation after {after}: {message}"

/-- How a failure after the grant is reported. -/
def stillGranted : String :=
  s!"{repr bootstrapOnlyPrivilege} -- this was NOT automatically revoked and requires " ++
    "manual/operator-reviewed remediation."

/-- The last part of `_provision_new_account`: the privilege is taken back. -/
def revokeBootstrapPrivilege (c : ProvisioningCall) (expected : Finset String)
    (created : UserRecord) (apiKey : ProvisionedApiKey) (t : BootstrapTransaction) :
    ClientOp σ AccountResult := do
  match ← tryProvisioning (updateUserPrivileges net created.id expected) with
  | .error e =>
    failTransaction t
      (s!"bootstrap-privilege revocation failed: {e}. The account currently holds the temporary " ++
        s!"bootstrap privilege {repr bootstrapOnlyPrivilege} -- this requires " ++
        "manual/operator-reviewed remediation. A usable API key was already generated for this " ++
        "account.")
  | .ok _ =>
    if ← rereadAndCheck repr net c.username expected created.user.id c.userDescr then
      advance t .bootstrapPrivilegeRevoked expected "revocation verification" fun t =>
        advance t .verified expected "revocation verification" fun t =>
          return { outcome := .completed,
                   detail := s!"account {repr c.username} provisioned successfully with the " ++
                     s!"{expected.card}-privilege target set.",
                   transaction := some t, apiKey := some apiKey }
    else
      failTransaction t ("post-revocation verification failed: cannot confirm the temporary " ++
        "bootstrap privilege was actually removed -- treat as still present until manually " ++
        "confirmed")

/-- The third part of `_provision_new_account`: the account makes its key. A `TransportError` is
handled here. -/
def generateApiKey (isTransportError : Error → Bool) (c : ProvisioningCall)
    (expected : Finset String) (created : UserRecord) (t : BootstrapTransaction) :
    ClientOp σ AccountResult := do
  let granted := insert bootstrapOnlyPrivilege expected
  let outcome ← Procedure.attempt do
    constructTransport net c.username c.password
    call net (.selfService c.username c.password) (.createAuthKey c.keyDescr)
      (provisionedApiKeyOf c.keyDescr)
  match outcome with
  | .ok apiKey =>
    advance t .keyGenerated granted "key generation" fun t =>
      revokeBootstrapPrivilege repr net c expected created apiKey t
  | .error (.provisioning e _) =>
    failTransaction t (s!"API-key creation failed: {e}. The account currently holds the temporary " ++
      s!"bootstrap privilege {stillGranted repr}")
  | .error (.other e) =>
    if isTransportError e then
      failTransaction t ("API-key creation transport failed. The account currently holds the " ++
        s!"temporary bootstrap privilege {stillGranted repr}")
    else raise (.other e)

/-- The second part of `_provision_new_account`: the privilege to make a key is granted. -/
def grantBootstrapPrivilege (isTransportError : Error → Bool) (c : ProvisioningCall)
    (expected : Finset String) (created : UserRecord) (t : BootstrapTransaction) :
    ClientOp σ AccountResult := do
  let granted := insert bootstrapOnlyPrivilege expected
  match ← tryProvisioning (updateUserPrivileges net created.id granted) with
  | .error e => failTransaction t s!"bootstrap-privilege grant failed: {e}"
  | .ok _ =>
    if ← rereadAndCheck repr net c.username granted created.user.id c.userDescr then
      advance t .bootstrapPrivilegeGranted granted "bootstrap-privilege grant" fun t =>
        generateApiKey repr net isTransportError c expected created t
    else
      failTransaction t ("post-grant verification failed: account does not hold exactly the " ++
        "expected privileges plus the temporary bootstrap privilege")

/-- `_provision_new_account`. -/
def provisionNewAccount (isTransportError : Error → Bool) (c : ProvisioningCall)
    (expected : Finset String) : ClientOp σ AccountResult := do
  let t : BootstrapTransaction := ⟨.notStarted, ∅, none⟩
  let request := ProvisioningRequest.createUser c.username c.password c.userDescr expected
  match ← tryProvisioning (call net .admin request (userRecordOf request.operation)) with
  | .error e => failTransaction t s!"account creation failed: {e}"
  | .ok created =>
    if ← rereadAndCheck repr net c.username expected created.user.id c.userDescr then
      advance t .userCreated expected "account creation" fun t =>
        grantBootstrapPrivilege repr net isTransportError c expected created t
    else
      failTransaction t ("post-creation verification failed: created account's privileges do not " ++
        "match the requested set")

/-- `provision_service_account`. -/
def provisionServiceAccount (isTransportError : Error → Bool) (c : ProvisioningCall) :
    ClientOp σ AccountResult :=
  match checkPackageVersion c.installedPackageVersion with
  | some error => return { outcome := .derivationFailed, detail := error }
  | none =>
    match deriveExpectedPrivileges repr c.schema c.targetProfile with
    | .error error =>
      return { outcome := .derivationFailed,
               detail := if error = "" then "privilege derivation failed" else error }
    | .ok expected => do
      match ← tryProvisioning (observeUser? repr net c.username) with
      | .error e => return { outcome := .failed, detail := s!"pre-flight observation failed: {e}" }
      | .ok (some existing) =>
        provisionAgainstExistingAccount repr net existing expected c.userDescr
      | .ok none => provisionNewAccount repr net isTransportError c expected

end

end Administration
