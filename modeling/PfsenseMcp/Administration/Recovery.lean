import PfsenseMcp.Administration.Privileges
import PfsenseMcp.Administration.ProvisioningClient
import PfsenseMcp.Collections.Numbered

/-!
# Recovery of the dedicated account

`security_bootstrap_recovery.py`: revoke the one orphan key of a failed bootstrap, or delete the one
dedicated account, with two reads before the deletion and a look at everything after it.
-/

namespace Administration

open Python Tier1 Concurrency Procedure Collections

/-! ### What is recovered -/

/-- `RECOVERY_USERNAME`. -/
def recoveryUsername : String := "pfsense-mcp"

/-- `RECOVERY_USER_DESCRIPTION`. -/
def recoveryUserDescription : String := "Dedicated service account for pfsense-mcp-server"

/-- `RECOVERY_KEY_DESCRIPTION`. -/
def recoveryKeyDescription : String := "pfsense-mcp-server primary API key"

/-- `RecoveryDeletionEvidence`. -/
structure RecoveryDeletionEvidence where
  objectKind : String
  selectedId : ℤ
  objectsBefore : ℕ
  objectsAfter : ℕ
  verifiedAbsent : Bool
  unrelatedObjectsPreserved : Bool
deriving DecidableEq, Repr

/-- Refuse an operation, with its name in front of the message, if something is the case. -/
def refuseIf (condition : Bool) (operation message : String) : Except ClientError Unit :=
  if condition then ClientError.refuse s!"{operation}: {message}" else .ok ()

/-- `_derive_exact_target`. -/
def deriveExactTarget (repr : String → String) (schema : List (String × Json)) :
    Except ClientError (Finset String) := do
  let operation := "delete_dedicated_recovery_user"
  let resolved := resolveProfilePrivileges repr schema (expectedRequirements .writeProtected)
  refuseIf (resolved.isEmpty || resolved.any fun r =>
      !r.ok || r.evidenceClass ≠ some .sourceCrossChecked) operation
    "target privilege derivation was not fully source-cross-checked."
  let target := distinctOkPrivileges resolved
  refuseIf (target = ∅) operation "target privilege set was empty."
  .ok target

/-- Whether a key is one that `_matching_recovery_keys` keeps. -/
def ObservedApiKey.matching (key : ObservedApiKey) : Bool :=
  key.username == some recoveryUsername && key.descr == recoveryKeyDescription

/-- Whether a user is one that `_matching_recovery_users` keeps. -/
def UserRecord.matching (record : UserRecord) : Bool := record.user.name == recoveryUsername

section

variable {α : Type}

/-- `_by_unique_id`, by its check. -/
def checkUniqueIds (id : α → ℤ) (objects : List α) (operation : String) : Except ClientError Unit :=
  refuseIf (!decide (objects.map id).Nodup) operation
    "authoritative response contained duplicate object IDs."

end

/-- `_select_orphan_api_key`. -/
def selectOrphanApiKey (keys : List ObservedApiKey) (operation : String) :
    Except ClientError ObservedApiKey := do
  checkUniqueIds ObservedApiKey.id keys operation
  match keys.filter ObservedApiKey.matching with
  | [key] => .ok key
  | _ =>
    ClientError.refuse
      s!"{operation}: expected exactly one matching orphan key; no mutation performed."

/-- The profile that `_select_dedicated_recovery_user` asks for. -/
def ObservedUser.dedicated (expectedPrivileges : Finset String) (user : ObservedUser) : Bool :=
  user.descr == recoveryUserDescription && !user.disabled && user.scope == some "user" &&
    user.priv == expectedPrivileges && !decide (pageAllPrivilege ∈ user.priv)

/-- The number by which the users are compared. -/
def UserRecord.number (record : UserRecord) : ℤ := record.user.id

/-- `_select_dedicated_recovery_user`. -/
def selectDedicatedRecoveryUser (users : List UserRecord) (expectedPrivileges : Finset String)
    (operation : String) : Except ClientError UserRecord := do
  checkUniqueIds UserRecord.number users operation
  match users.filter UserRecord.matching with
  | [record] => do
    refuseIf (!record.user.dedicated expectedPrivileges) operation
      "account identity or least-privilege profile mismatch; no mutation performed."
    .ok record
  | _ =>
    ClientError.refuse
      s!"{operation}: expected exactly one matching account; no mutation performed."

/-- Whether the owner of a key is not known. -/
def ObservedApiKey.unowned (key : ObservedApiKey) : Bool := key.username.isNone

/-- Whether a key belongs to the dedicated account. -/
def ObservedApiKey.owned (key : ObservedApiKey) : Bool := key.username == some recoveryUsername

/-- `_check_no_owned_key`. -/
def checkNoOwnedKey (keys : List ObservedApiKey) (operation : String) : Except ClientError Unit := do
  checkUniqueIds ObservedApiKey.id keys operation
  refuseIf (keys.any ObservedApiKey.unowned) operation
    "API-key ownership was unavailable; no mutation performed."
  refuseIf (keys.any ObservedApiKey.owned) operation
    "account still owns one or more API keys; no mutation performed."

/-! ### The two deletions -/

section

variable {σ : Type} (net : Network σ)

/-- `_list_auth_keys_for_recovery`. -/
def listAuthKeys : ClientOp σ (List ObservedApiKey) := call net .admin .listAuthKeys apiKeysOf

/-- `_revoke_auth_key_for_recovery`, which goes through the transport for it. -/
def revokeAuthKeyForRecovery (keyId : ℤ) : ClientOp σ Unit := do
  let request := ProvisioningRequest.revokeAuthKey keyId
  ofExcept (refuseIf (keyId < 0) request.operation "key ID is invalid.")
  let _ ← call net .keyRevocation request (checkResponse · request.operation)

/-- `_delete_user_for_recovery`. -/
def deleteUserForRecovery (userId : ObservedId) : ClientOp σ Unit := do
  let request := ProvisioningRequest.deleteUser userId.value
  ofExcept (refuseIf (userId.boolean || userId.value < 0) request.operation "user ID is invalid.")
  let _ ← call net .admin request (checkResponse · request.operation)

/-- The evidence of a deletion. -/
def deletionEvidence (objectKind : String) (selectedId : ℤ) (objectsBefore objectsAfter : ℕ) :
    RecoveryDeletionEvidence :=
  ⟨objectKind, selectedId, objectsBefore, objectsAfter, true, true⟩

/-- `revoke_failed_bootstrap_api_key`, up to the deletion: the key and the last read. -/
def identifyOrphanApiKey (operation : String) :
    ClientOp σ (ObservedApiKey × List ObservedApiKey) := do
  let initial ← listAuthKeys net
  let selected ← ofExcept (selectOrphanApiKey initial operation)
  let fresh ← listAuthKeys net
  ofExcept (checkUniqueIds ObservedApiKey.id fresh operation)
  ofExcept (refuseIf (fresh.filter ObservedApiKey.matching ≠ [selected]) operation
    "authoritative key identity changed before deletion; no mutation performed.")
  return (selected, fresh)

/-- The checks after a key was revoked. -/
def checkKeyRevoked (operation : String) (selected : ObservedApiKey)
    (fresh after : List ObservedApiKey) : Except ClientError RecoveryDeletionEvidence := do
  checkUniqueIds ObservedApiKey.id after operation
  refuseIf (after.any fun key => key.id = selected.id) operation
    "postcondition failed; selected key remains present."
  let expectedAfter := fresh.filter fun key => key.id ≠ selected.id
  refuseIf (!SameDict ObservedApiKey.id after expectedAfter) operation
    "postcondition failed; unrelated key metadata changed."
  .ok (deletionEvidence "api_key" selected.id fresh.length after.length)

/-- `revoke_failed_bootstrap_api_key`. -/
def revokeFailedBootstrapApiKey : ClientOp σ RecoveryDeletionEvidence := do
  let operation := "revoke_failed_bootstrap_api_key"
  let (selected, fresh) ← identifyOrphanApiKey net operation
  revokeAuthKeyForRecovery net selected.id
  let after ← listAuthKeys net
  ofExcept (checkKeyRevoked operation selected fresh after)

/-- `delete_dedicated_recovery_user`, up to the deletion: the user and the last reads. -/
def identifyDedicatedRecoveryUser (operation : String) (expectedPrivileges : Finset String) :
    ClientOp σ (UserRecord × List UserRecord × List ObservedApiKey) := do
  let initialUsers ← listUsers net
  let selected ← ofExcept (selectDedicatedRecoveryUser initialUsers expectedPrivileges operation)
  let initialKeys ← listAuthKeys net
  ofExcept (checkNoOwnedKey initialKeys operation)
  let freshUsers ← listUsers net
  ofExcept (checkUniqueIds UserRecord.number freshUsers operation)
  ofExcept (refuseIf ((freshUsers.filter UserRecord.matching).map UserRecord.user ≠ [selected.user])
    operation "authoritative account identity changed before deletion; no mutation performed.")
  let freshKeys ← listAuthKeys net
  ofExcept (checkUniqueIds ObservedApiKey.id freshKeys operation)
  ofExcept (refuseIf (freshKeys.any ObservedApiKey.unowned) operation
    "API-key ownership became unavailable before deletion; no mutation performed.")
  ofExcept (refuseIf (freshKeys.any ObservedApiKey.owned) operation
    "account acquired an API key before deletion; no mutation performed.")
  return (selected, freshUsers, freshKeys)

/-- The checks of the users after one was deleted. -/
def checkUserDeleted (operation : String) (selected : ObservedUser)
    (fresh after : List ObservedUser) : Except ClientError Unit := do
  checkUniqueIds ObservedUser.id after operation
  refuseIf (after.any fun user => user.id = selected.id ∨ user.name = recoveryUsername) operation
    "postcondition failed; selected account remains present."
  let expectedAfter := fresh.filter fun user => user.id ≠ selected.id
  refuseIf (!SameDict ObservedUser.id after expectedAfter) operation
    "postcondition failed; unrelated account metadata changed."

/-- The checks of the keys after the user was deleted. -/
def checkKeysKept (operation : String) (fresh after : List ObservedApiKey) :
    Except ClientError Unit := do
  checkUniqueIds ObservedApiKey.id after operation
  refuseIf (after.any fun key => key.unowned || key.owned) operation
    "postcondition failed; account-owned key remains present."
  refuseIf (!SameDict ObservedApiKey.id after fresh) operation
    "postcondition failed; unrelated key metadata changed."

/-- `delete_dedicated_recovery_user`. -/
def deleteDedicatedRecoveryUser (repr : String → String) (schema : List (String × Json)) :
    ClientOp σ RecoveryDeletionEvidence := do
  let operation := "delete_dedicated_recovery_user"
  let expectedPrivileges ← ofExcept (deriveExactTarget repr schema)
  let (selected, freshUsers, freshKeys) ←
    identifyDedicatedRecoveryUser net operation expectedPrivileges
  deleteUserForRecovery net selected.id
  let afterUsers ← listUsers net
  let fresh := freshUsers.map UserRecord.user
  let after := afterUsers.map UserRecord.user
  ofExcept (checkUserDeleted operation selected.user fresh after)
  let afterKeys ← listAuthKeys net
  ofExcept (checkKeysKept operation freshKeys afterKeys)
  return deletionEvidence "user" selected.user.id fresh.length after.length

end

end Administration
