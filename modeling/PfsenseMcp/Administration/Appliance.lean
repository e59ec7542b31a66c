import PfsenseMcp.Administration.DescribedSchema
import PfsenseMcp.Administration.RecoveryGuarantees

/-!
# An appliance with users and keys

The lists of users and of keys of an appliance, as far as a recovery sees and changes them. Each of
the two is numbered in one of the two ways that a collection can be numbered. A deletion removes
exactly the object that is seen under its number. The appliance answers with texts, which are read
back by the client.

## Main results

* `userRecordsOf_respond`, `apiKeysOf_respond`: the client reads what the appliance shows;
* `wp_revokeFailedBootstrapApiKey_network`, `wp_deleteDedicatedRecoveryUser_network`: what a recovery
  returns, by what is shown before and after the deletion;
* `revokedAt_iff`, `deletedAt_iff`: when that is evidence;
* `recovery_exact`: which deletions are recognised, and what is sent in any case.
-/

namespace Administration

open Python Tier1 Concurrency Procedure Collections

/-! ### What is stored -/

/-- A user, without the number. -/
structure UserFields where
  name : String
  descr : String
  priv : List String
  disabled : Bool
  scope : Option String
deriving DecidableEq

/-- A key, without the number. -/
structure KeyFields where
  username : Option String
  descr : String
  hashAlgo : String
  lengthBytes : ℤ
deriving DecidableEq

/-- The users and the keys of an appliance; the numbers that are stored with them are distinct. -/
structure Appliance where
  userNumbering : Numbering
  keyNumbering : Numbering
  users : List (ℕ × UserFields)
  keys : List (ℕ × KeyFields)
  users_nodup : (users.map Prod.fst).Nodup
  keys_nodup : (keys.map Prod.fst).Nodup

/-- A text or `null`. -/
def optionalText : Option String → Json
  | some text => .str text
  | none => .null

/-- The object of a user in a response. -/
def userJson (seen : ℕ × UserFields) : List (String × Json) :=
  [("id", .int seen.1), ("name", .str seen.2.name), ("descr", .str seen.2.descr),
    ("priv", .arr (seen.2.priv.map .str)), ("disabled", .bool seen.2.disabled),
    ("scope", optionalText seen.2.scope)]

/-- The object of a key in a response. -/
def keyJson (seen : ℕ × KeyFields) : List (String × Json) :=
  [("id", .int seen.1), ("username", optionalText seen.2.username), ("descr", .str seen.2.descr),
    ("hash_algo", .str seen.2.hashAlgo), ("length_bytes", .int seen.2.lengthBytes)]

/-- What the client makes of a user. -/
def observeUser (seen : ℕ × UserFields) : UserRecord where
  user :=
    { id := seen.1, name := seen.2.name, descr := seen.2.descr, priv := seen.2.priv.toFinset,
      disabled := seen.2.disabled, scope := seen.2.scope }
  booleanId := false

/-- What the client makes of a key. -/
def observeKey (seen : ℕ × KeyFields) : ObservedApiKey :=
  { id := seen.1, username := seen.2.username, descr := seen.2.descr, hashAlgo := seen.2.hashAlgo,
    lengthBytes := seen.2.lengthBytes }

namespace Appliance

/-- The users that are shown. -/
def shownUsers (a : Appliance) : List (ℕ × UserFields) := shown a.userNumbering a.users

/-- The number of keys that a read asks for: `limit=100`. -/
def keysLimit : ℕ := 100

/-- The keys that are shown. -/
def shownKeys (a : Appliance) : List (ℕ × KeyFields) :=
  (shown a.keyNumbering a.keys).take keysLimit

/-- Delete the user that is shown under a number. -/
def removeUser (a : Appliance) (number : ℕ) : Appliance :=
  { a with
    users := remove a.userNumbering number a.users
    users_nodup := a.users_nodup.sublist ((remove_sublist _ _ _).map Prod.fst) }

/-- Delete the key that is shown under a number. -/
def removeKey (a : Appliance) (number : ℕ) : Appliance :=
  { a with
    keys := remove a.keyNumbering number a.keys
    keys_nodup := a.keys_nodup.sublist ((remove_sublist _ _ _).map Prod.fst) }

/-- A response with these data. -/
def respond (data : Json) : TransportResponse := ⟨200, Json.dumps true (.obj [("data", data)])⟩

/-- The transports to an appliance. -/
def network : Network Appliance where
  request _ request a :=
    match request with
    | .listUsers => (.ok (respond (.arr (a.shownUsers.map fun seen => .obj (userJson seen)))), a)
    | .listAuthKeys => (.ok (respond (.arr (a.shownKeys.map fun seen => .obj (keyJson seen)))), a)
    | .revokeAuthKey keyId => (.ok (respond (.obj [])), a.removeKey keyId.toNat)
    | .deleteUser userId => (.ok (respond (.obj [])), a.removeUser userId.toNat)
    | _ => (.ok ⟨404, ""⟩, a)
  construct _ _ a := (.ok (), a)

/-- The users as the client sees them. -/
def observedUsers (a : Appliance) : List UserRecord := a.shownUsers.map observeUser

/-- The keys as the client sees them. -/
def observedKeys (a : Appliance) : List ObservedApiKey := a.shownKeys.map observeKey

end Appliance

/-! ### Reading it back -/

open Appliance

theorem parse_respond {data : Json} (hplain : Json.plain data = true)
    (hdistinct : Json.Distinct data) :
    Json.parse (respond data).text = some (.obj [("data", data)]) := by
  refine Json.parse_dumps true ?_ ?_
  · simpa [Json.plain, Json.plainFields] using hplain
  · simpa [Json.Distinct, Json.DistinctFields] using hdistinct

theorem objects_map {α : Type} (json : α → List (String × Json)) (seen : List α) :
    objects (seen.map fun x => .obj (json x)) = some (seen.map json) := by
  induction seen with
  | nil => rfl
  | cons x rest ih => simp [objects, ih]

section

variable {α β : Type} {json : α → List (String × Json)}

theorem plain_arr_map (hplain : ∀ x, Json.plain (.obj (json x)) = true) (seen : List α) :
    Json.plain (.arr (seen.map fun x => .obj (json x))) = true := by
  rw [Json.plain]
  induction seen with
  | nil => rfl
  | cons x rest ih => simp [Json.plainItems, hplain x, ih]

theorem distinct_arr_map (hdistinct : ∀ x, Json.Distinct (.obj (json x))) (seen : List α) :
    Json.Distinct (.arr (seen.map fun x => .obj (json x))) := by
  rw [Json.Distinct]
  induction seen with
  | nil => trivial
  | cons x rest ih => exact ⟨hdistinct x, ih⟩

theorem parseEach_map {parse : List (String × Json) → Except ClientError β} {observe : α → β}
    (hparse : ∀ x, parse (json x) = .ok (observe x)) (seen : List α) :
    parseEach parse (seen.map json) = .ok (seen.map observe) := by
  induction seen with
  | nil => rfl
  | cons x rest ih =>
    rw [List.map_cons, parseEach, hparse x, ih]
    rfl

/-- A list of objects is read back. -/
theorem listOf_respond {operation : String}
    {parse : List (String × Json) → Except ClientError β} {observe : α → β}
    (hparse : ∀ x, parse (json x) = .ok (observe x))
    (hplain : ∀ x, Json.plain (.obj (json x)) = true)
    (hdistinct : ∀ x, Json.Distinct (.obj (json x))) (seen : List α) :
    listOf operation parse (respond (.arr (seen.map fun x => .obj (json x)))) =
      .ok (seen.map observe) := by
  have hstatus : 200 ≤ (respond (.arr (seen.map fun x => .obj (json x)))).statusCode ∧
      (respond (.arr (seen.map fun x => .obj (json x)))).statusCode < 300 := by
    simp [respond]
  rw [listOf, if_pos hstatus,
    parse_respond (plain_arr_map hplain seen) (distinct_arr_map hdistinct seen)]
  have hdata : getField [("data", Json.arr (seen.map fun x => .obj (json x)))] "data" =
      some (.arr (seen.map fun x => .obj (json x))) := rfl
  dsimp only
  rw [hdata]
  dsimp only
  rw [objects_map]
  exact parseEach_map hparse seen

end

theorem plainItems_map_str (items : List String) : Json.plainItems (items.map .str) = true := by
  induction items with
  | nil => rfl
  | cons x rest ih => simp [Json.plainItems, Json.plain, ih]

theorem distinctItems_map_str (items : List String) : Json.DistinctItems (items.map .str) := by
  induction items with
  | nil => trivial
  | cons x rest ih => exact ⟨trivial, ih⟩

theorem texts_map_str (items : List String) : texts (items.map .str) = some items := by
  induction items with
  | nil => rfl
  | cons x rest ih => simp [texts, ih]

theorem plain_optionalText (text : Option String) : Json.plain (optionalText text) = true := by
  cases text <;> rfl

theorem distinct_optionalText (text : Option String) : Json.Distinct (optionalText text) := by
  cases text <;> trivial

theorem parseScope_optionalText (text : Option String) :
    parseScope (some (optionalText text)) = some text := by
  cases text <;> rfl

theorem plain_userJson (seen : ℕ × UserFields) : Json.plain (.obj (userJson seen)) = true := by
  simp [userJson, Json.plain, Json.plainFields, plainItems_map_str, plain_optionalText]

theorem distinct_userJson (seen : ℕ × UserFields) : Json.Distinct (.obj (userJson seen)) := by
  simp [userJson, Json.Distinct, Json.DistinctFields, distinctItems_map_str, distinct_optionalText]

theorem plain_keyJson (seen : ℕ × KeyFields) : Json.plain (.obj (keyJson seen)) = true := by
  simp [keyJson, Json.plain, Json.plainFields, plain_optionalText]

theorem distinct_keyJson (seen : ℕ × KeyFields) : Json.Distinct (.obj (keyJson seen)) := by
  simp [keyJson, Json.Distinct, Json.DistinctFields, distinct_optionalText]

theorem parseUserRecord_userJson (operation : String) (seen : ℕ × UserFields) :
    parseUserRecord operation (userJson seen) = .ok (observeUser seen) := by
  have hrequired : (requiredUserFields.find? fun name => (getField (userJson seen) name).isNone) =
      none := rfl
  have hid : getField (userJson seen) "id" = some (.int seen.1) := rfl
  have hname : getField (userJson seen) "name" = some (.str seen.2.name) := rfl
  have hdescr : getField (userJson seen) "descr" = some (.str seen.2.descr) := rfl
  have hpriv : getField (userJson seen) "priv" = some (.arr (seen.2.priv.map .str)) := rfl
  have hdisabled : getField (userJson seen) "disabled" = some (.bool seen.2.disabled) := rfl
  have hscope : getField (userJson seen) "scope" = some (optionalText seen.2.scope) := rfl
  have hparsed : (getField (userJson seen) "priv").bind parsePriv = some seen.2.priv.toFinset := by
    rw [hpriv, Option.bind_some, parsePriv, texts_map_str, Option.map_some]
  rw [parseUserRecord, parseObservedUser, hrequired]
  dsimp only
  rw [hparsed, hid, hname, hdescr, hdisabled, hscope, parseScope_optionalText]
  rfl

theorem parseObservedApiKey_keyJson (operation : String) (seen : ℕ × KeyFields) :
    parseObservedApiKey operation (keyJson seen) = .ok (observeKey seen) := by
  have hrequired : (requiredKeyFields.find? fun name => (getField (keyJson seen) name).isNone) =
      none := rfl
  have hid : getField (keyJson seen) "id" = some (.int seen.1) := rfl
  have husername : getField (keyJson seen) "username" = some (optionalText seen.2.username) := rfl
  have hdescr : getField (keyJson seen) "descr" = some (.str seen.2.descr) := rfl
  have hhash : getField (keyJson seen) "hash_algo" = some (.str seen.2.hashAlgo) := rfl
  have hlength : getField (keyJson seen) "length_bytes" = some (.int seen.2.lengthBytes) := rfl
  rw [parseObservedApiKey, hrequired]
  dsimp only
  rw [hid, husername, hdescr, hhash, hlength, parseScope_optionalText]
  exact if_neg (Int.natCast_nonneg seen.1).not_gt

/-- The client sees the users that the appliance shows. -/
theorem userRecordsOf_respond (seen : List (ℕ × UserFields)) :
    userRecordsOf (respond (.arr (seen.map fun x => .obj (userJson x)))) =
      .ok (seen.map observeUser) :=
  listOf_respond (parseUserRecord_userJson _) plain_userJson distinct_userJson seen

/-- The client sees the keys that the appliance shows. -/
theorem apiKeysOf_respond (seen : List (ℕ × KeyFields)) :
    apiKeysOf (respond (.arr (seen.map fun x => .obj (keyJson x)))) =
      .ok (seen.map observeKey) :=
  listOf_respond (parseObservedApiKey_keyJson _) plain_keyJson distinct_keyJson seen

/-- The client accepts the answer to a deletion. -/
theorem checkResponse_respond (operation : String) :
    checkResponse (respond (.obj [])) operation = .ok [] := by
  have hstatus : 200 ≤ (respond (.obj [])).statusCode ∧ (respond (.obj [])).statusCode < 300 := by
    simp [respond]
  rw [checkResponse, if_pos hstatus, parse_respond rfl (by simp [Json.Distinct, Json.DistinctFields])]
  rfl

/-! ### What a recovery returns -/

section

variable {s : Session Appliance} {β : Type}

theorem wp_listUsers {f : List UserRecord → ClientOp Appliance β}
    {post : Except ClientError β → Session Appliance → Prop} :
    wp .alone (listUsers network >>= f) post s ↔
      wp .alone (f s.world.observedUsers) post (s.after network .admin .listUsers) := by
  have hread : outcomeOf userRecordsOf (s.answer network .admin .listUsers) =
      .ok s.world.observedUsers := userRecordsOf_respond _
  rw [wp_bind, listUsers, wp_call, hread, andThen_ok]

theorem wp_listAuthKeys {f : List ObservedApiKey → ClientOp Appliance β}
    {post : Except ClientError β → Session Appliance → Prop} :
    wp .alone (listAuthKeys network >>= f) post s ↔
      wp .alone (f s.world.observedKeys) post (s.after network .admin .listAuthKeys) := by
  have hread : outcomeOf apiKeysOf (s.answer network .admin .listAuthKeys) =
      .ok s.world.observedKeys := apiKeysOf_respond _
  rw [wp_bind, listAuthKeys, wp_call, hread, andThen_ok]

@[simp]
theorem world_after_listUsers (channel : Channel) :
    (s.after network channel .listUsers).world = s.world := rfl

@[simp]
theorem world_after_listAuthKeys (channel : Channel) :
    (s.after network channel .listAuthKeys).world = s.world := rfl

@[simp]
theorem world_after_revokeAuthKey (channel : Channel) (keyId : ℤ) :
    (s.after network channel (.revokeAuthKey keyId)).world = s.world.removeKey keyId.toNat := rfl

@[simp]
theorem world_after_deleteUser (channel : Channel) (userId : ℤ) :
    (s.after network channel (.deleteUser userId)).world = s.world.removeUser userId.toNat := rfl

theorem id_of_mem_observedKeys {a : Appliance} {key : ObservedApiKey} (h : key ∈ a.observedKeys) :
    ¬key.id < 0 := by
  obtain ⟨seen, -, rfl⟩ := List.mem_map.mp h
  exact (Int.natCast_nonneg seen.1).not_gt

theorem id_of_mem_observedUsers {a : Appliance} {record : UserRecord}
    (h : record ∈ a.observedUsers) : record.booleanId = false ∧ ¬record.user.id < 0 := by
  obtain ⟨seen, -, rfl⟩ := List.mem_map.mp h
  exact ⟨rfl, (Int.natCast_nonneg seen.1).not_gt⟩

/-- A check that passes. -/
theorem wp_refuseIf_bind {condition : Bool} {operation message : String}
    {f : Unit → ClientOp Appliance β} {post : Except ClientError β → Session Appliance → Prop}
    (h : condition = false) :
    wp .alone (ofExcept (refuseIf condition operation message) >>= f) post s ↔
      wp .alone (f ()) post s := by
  rw [h]
  rfl

theorem wp_checkUniqueIds_bind {α : Type} {id : α → ℤ} {objects : List α} {operation : String}
    {f : Unit → ClientOp Appliance β} {post : Except ClientError β → Session Appliance → Prop}
    (h : (objects.map id).Nodup) :
    wp .alone (ofExcept (checkUniqueIds id objects operation) >>= f) post s ↔
      wp .alone (f ()) post s :=
  wp_refuseIf_bind (by simpa using h)

/-- The answer to a deletion is accepted. -/
theorem wp_deletion_bind {channel : Channel} {request : ProvisioningRequest} {operation : String}
    {f : List (String × Json) → ClientOp Appliance β}
    {post : Except ClientError β → Session Appliance → Prop}
    (h : s.answer network channel request = .ok (respond (.obj []))) :
    wp .alone (call network channel request (checkResponse · operation) >>= f) post s ↔
      wp .alone (f []) post (s.after network channel request) := by
  rw [wp_bind, wp_call, h, outcomeOf_ok, checkResponse_respond, andThen_ok]

/-- The name of the revocation in its errors. -/
abbrev revocation : String := "revoke_failed_bootstrap_api_key"

/-- The name of the deletion in its errors. -/
abbrev deletion : String := "delete_dedicated_recovery_user"

/-- The revocation returns what the keys before and after it say. -/
theorem wp_revokeFailedBootstrapApiKey_network :
    wp .alone (revokeFailedBootstrapApiKey network) (fun r _ => r = do
      let key ← selectOrphanApiKey s.world.observedKeys revocation
      checkKeyRevoked revocation key s.world.observedKeys
        (s.world.removeKey key.id.toNat).observedKeys) s := by
  unfold revokeFailedBootstrapApiKey identifyOrphanApiKey revokeAuthKeyForRecovery
  simp only [bind_assoc]
  rw [wp_listAuthKeys]
  refine wp_ofExcept_bind (fun e he => ?_) fun key hkey => ?_
  · rw [he]
    rfl
  obtain ⟨hnodup, hmatching⟩ := selectOrphanApiKey_eq_ok.mp hkey
  have hid : ¬key.id < 0 := id_of_mem_observedKeys
    (List.mem_of_mem_filter (hmatching ▸ List.mem_singleton_self key))
  rw [wp_listAuthKeys, world_after_listAuthKeys, wp_checkUniqueIds_bind hnodup,
    wp_refuseIf_bind (by simp [hmatching]), pure_eq_ret, ret_bind,
    wp_refuseIf_bind (by simpa using hid), wp_deletion_bind rfl, pure_eq_ret, ret_bind,
    wp_listAuthKeys, wp_ofExcept, hkey]
  rfl

/-- The deletion returns what the users before and after it, and the keys, say. -/
theorem wp_deleteDedicatedRecoveryUser_network (repr : String → String)
    (schema : List (String × Json)) :
    wp .alone (deleteDedicatedRecoveryUser network repr schema) (fun r _ => r = do
      let expected ← deriveExactTarget repr schema
      let record ← selectDedicatedRecoveryUser s.world.observedUsers expected deletion
      checkNoOwnedKey s.world.observedKeys deletion
      let fresh := s.world.observedUsers.map UserRecord.user
      let after := (s.world.removeUser record.user.id.toNat).observedUsers.map UserRecord.user
      checkUserDeleted deletion record.user fresh after
      .ok (deletionEvidence "user" record.user.id fresh.length after.length)) s := by
  unfold deleteDedicatedRecoveryUser identifyDedicatedRecoveryUser deleteUserForRecovery
  simp only [bind_assoc]
  refine wp_ofExcept_bind (fun e he => ?_) fun expected hexpected => ?_
  · rw [he]
    rfl
  rw [hexpected, wp_listUsers]
  refine wp_ofExcept_bind (fun e he => ?_) fun record hrecord => ?_
  · rw [except_ok_bind, he, except_error_bind]
  obtain ⟨hnodup, hmatching, -⟩ := selectDedicatedRecoveryUser_eq_ok.mp hrecord
  obtain ⟨hboolean, hid⟩ := id_of_mem_observedUsers
    (List.mem_of_mem_filter (hmatching ▸ List.mem_singleton_self record))
  rw [wp_listAuthKeys]
  refine wp_ofExcept_bind (fun e he => ?_) fun u hkeys => ?_
  · rw [world_after_listUsers] at he
    rw [except_ok_bind, hrecord, except_ok_bind, he, except_error_bind]
  obtain ⟨hnodupKeys, hunowned, howned⟩ := checkNoOwnedKey_eq_ok.mp hkeys
  rw [world_after_listUsers] at hkeys hnodupKeys hunowned howned
  rw [wp_listUsers, world_after_listAuthKeys, world_after_listUsers, wp_checkUniqueIds_bind hnodup,
    wp_refuseIf_bind (by simp [hmatching]), wp_listAuthKeys, world_after_listUsers,
    world_after_listAuthKeys, world_after_listUsers, wp_checkUniqueIds_bind hnodupKeys,
    wp_refuseIf_bind hunowned, wp_refuseIf_bind howned, pure_eq_ret, ret_bind,
    wp_refuseIf_bind (by simpa [UserRecord.id, hboolean] using hid), wp_deletion_bind rfl,
    pure_eq_ret, ret_bind, wp_listUsers]
  refine wp_ofExcept_bind (fun e he => ?_) fun v hdeleted => ?_
  · rw [except_ok_bind, hrecord, except_ok_bind, hkeys, except_ok_bind]
    exact he.symm ▸ rfl
  rw [wp_listAuthKeys]
  have hkept : checkKeysKept deletion s.world.observedKeys s.world.observedKeys = .ok () := by
    refine (checkKeysKept_eq_ok hnodupKeys).mpr ⟨.refl _, fun key hkey => ?_⟩
    rw [List.any_eq_false] at hunowned howned
    exact ⟨by simpa using hunowned key hkey, by simpa using howned key hkey⟩
  change checkUserDeleted deletion record.user (s.world.observedUsers.map UserRecord.user)
    ((s.world.removeUser record.user.id.toNat).observedUsers.map UserRecord.user) = .ok v at hdeleted
  refine wp_ofExcept_bind (fun e he => ?_) fun _ _ => ?_
  · exact nomatch hkept.symm.trans he
  rw [pure_eq_ret, wp_ret, except_ok_bind, hrecord, except_ok_bind, hkeys, except_ok_bind, hdeleted]
  rfl

end

/-! ### When a deletion is recognised -/

/-- Whether a key is the orphan one. -/
def KeyFields.orphan (key : KeyFields) : Bool :=
  key.username == some recoveryUsername && key.descr == recoveryKeyDescription

/-- Whether a user has the name of the dedicated one. -/
def UserFields.dedicated (user : UserFields) : Bool := user.name == recoveryUsername

namespace Appliance

variable {a : Appliance}

theorem nodup_observedKeys : (a.observedKeys.map ObservedApiKey.id).Nodup := by
  have hnodup : ((a.shownKeys.map Prod.fst).map (Nat.cast : ℕ → ℤ)).Nodup := by
    refine List.Nodup.map Nat.cast_injective ?_
    exact (nodup_shown a.keys_nodup).sublist ((List.take_sublist _ _).map Prod.fst)
  rw [observedKeys, List.map_map]
  rwa [List.map_map] at hnodup

theorem nodup_observedUsers :
    ((a.observedUsers.map UserRecord.user).map ObservedUser.id).Nodup := by
  have hnodup : ((a.shownUsers.map Prod.fst).map (Nat.cast : ℕ → ℤ)).Nodup :=
    List.Nodup.map Nat.cast_injective (nodup_shown a.users_nodup)
  rw [observedUsers, List.map_map, List.map_map]
  rwa [List.map_map] at hnodup

end Appliance

/-- The revocation of a key of an appliance. -/
def revokedAt (a : Appliance) : Except ClientError RecoveryDeletionEvidence :=
  ((revokeFailedBootstrapApiKey network).run (fun _ => ()) ⟨a, []⟩).result

theorem revokedAt_eq_ok {a : Appliance} {evidence : RecoveryDeletionEvidence} :
    revokedAt a = .ok evidence ↔ ∃ key, a.observedKeys.filter ObservedApiKey.matching = [key] ∧
      a.observedKeys.Perm (key :: (a.removeKey key.id.toNat).observedKeys) ∧
      evidence = deletionEvidence "api_key" key.id a.observedKeys.length
        (a.removeKey key.id.toNat).observedKeys.length := by
  have hresult := run_of_wp_alone (wp_revokeFailedBootstrapApiKey_network (s := ⟨a, []⟩))
    (fun _ => ())
  rw [revokedAt, hresult, except_bind_eq_ok]
  refine exists_congr fun key => ?_
  rw [selectOrphanApiKey_eq_ok, and_assoc, and_iff_right Appliance.nodup_observedKeys]
  refine and_congr_right fun hkey => ?_
  exact checkKeyRevoked_eq_ok Appliance.nodup_observedKeys
    (List.mem_of_mem_filter (hkey ▸ List.mem_singleton_self key))

theorem observedKeys_eq (a : Appliance) :
    a.observedKeys = ((shown a.keyNumbering a.keys).take keysLimit).map observeKey := rfl

theorem observedKeys_removeKey (a : Appliance) (number : ℕ) :
    (a.removeKey number).observedKeys =
      ((shown a.keyNumbering (remove a.keyNumbering number a.keys)).take keysLimit).map
        observeKey := rfl

theorem map_observeKey_id (seen : List (ℕ × KeyFields)) :
    (seen.map observeKey).map ObservedApiKey.id =
      (seen.map Prod.fst).map (Nat.cast : ℕ → ℤ) := by
  rw [List.map_map, List.map_map]
  rfl

/-- An orphan key that is the only one is revoked with evidence if all keys are read and none of
them gets another number by the deletion. -/
theorem revokedAt_iff {a : Appliance} (hone : a.keys.countP (·.2.orphan) = 1) :
    (∃ evidence, revokedAt a = .ok evidence) ↔ a.keys.length ≤ keysLimit ∧
      (a.keyNumbering = .stable ∨ ∃ key, a.keys.getLast? = some key ∧ key.2.orphan = true) := by
  obtain ⟨before, object, behind, hkeys, horphan, hbefore, hbehind⟩ :=
    exists_append_of_countP hone
  have hnodup := a.keys_nodup
  rw [hkeys] at hnodup
  have hlast : (∃ key, a.keys.getLast? = some key ∧ key.2.orphan = true) ↔ behind = [] := by
    rw [hkeys]
    exact exists_getLast_iff (p := fun key : ℕ × KeyFields => key.2.orphan) horphan hbehind
  rw [hlast]
  have hremove : (a.removeKey (numberBehind a.keyNumbering before object)).observedKeys =
      ((shown a.keyNumbering (before ++ behind)).take keysLimit).map observeKey := by
    rw [observedKeys_removeKey, hkeys, remove_numberBehind hnodup]
  have hfilter : (shown a.keyNumbering a.keys).filter (fun x => x.2.orphan) =
      [(numberBehind a.keyNumbering before object, object.2)] := by
    rw [hkeys]
    exact filter_shown (p := KeyFields.orphan) horphan hbefore hbehind
  constructor
  · rintro ⟨evidence, h⟩
    obtain ⟨key, hkey, hperm, -⟩ := revokedAt_eq_ok.mp h
    -- The key that is selected is the one that is shown for the object.
    have hselected : key = observeKey (numberBehind a.keyNumbering before object, object.2) := by
      have hmem : key ∈ a.observedKeys.filter ObservedApiKey.matching :=
        hkey ▸ List.mem_singleton_self key
      obtain ⟨hmem, hmatching⟩ := List.mem_filter.mp hmem
      obtain ⟨seen, hseen, rfl⟩ := List.mem_map.mp hmem
      have hfiltered : seen ∈ (shown a.keyNumbering a.keys).filter fun x => x.2.orphan :=
        List.mem_filter.mpr ⟨List.mem_of_mem_take hseen, hmatching⟩
      rw [hfilter, List.mem_singleton] at hfiltered
      rw [hfiltered]
    have hnumber : key.id.toNat = numberBehind a.keyNumbering before object := by
      rw [hselected]
      exact Int.toNat_natCast _
    rw [hnumber, hremove, observedKeys_eq] at hperm
    have hlength : a.keys.length ≤ keysLimit := by
      have hlengths := hperm.length_eq
      simp only [List.length_map, List.length_take, length_shown, List.length_cons,
        List.length_append, hkeys] at hlengths ⊢
      omega
    refine ⟨hlength, kept_of_perm hnodup ?_⟩
    rw [List.take_of_length_le (by simpa using hlength),
      List.take_of_length_le (by simp [hkeys] at hlength ⊢; omega), hselected] at hperm
    have hids := hperm.map ObservedApiKey.id
    rw [List.map_cons, map_observeKey_id, map_observeKey_id, hkeys] at hids
    exact (List.map_perm_map_iff Nat.cast_injective).mp hids
  · rintro ⟨hlength, hkept⟩
    have hperm := (perm_shown hnodup hkept).map observeKey
    refine ⟨_, revokedAt_eq_ok.mpr ⟨observeKey (numberBehind a.keyNumbering before object, object.2),
      ?_, ?_, rfl⟩⟩
    · rw [observedKeys_eq, List.take_of_length_le (by simpa using hlength), List.filter_map]
      exact congrArg (List.map observeKey) hfilter
    · rw [show (observeKey (numberBehind a.keyNumbering before object, object.2)).id.toNat =
        numberBehind a.keyNumbering before object from Int.toNat_natCast _, hremove,
        observedKeys_eq, List.take_of_length_le (by simpa using hlength),
        List.take_of_length_le (by simp [hkeys] at hlength ⊢; omega), hkeys]
      exact hperm

/-- The deletion of the dedicated user of an appliance. -/
def deletedAt (repr : String → String) (schema : List (String × Json)) (a : Appliance) :
    Except ClientError RecoveryDeletionEvidence :=
  ((deleteDedicatedRecoveryUser network repr schema).run (fun _ => ()) ⟨a, []⟩).result

theorem deletedAt_eq_ok {repr : String → String} {schema : List (String × Json)} {a : Appliance}
    {expected : Finset String} (hexpected : deriveExactTarget repr schema = .ok expected)
    (hkeys : ∀ key ∈ a.observedKeys, key.unowned = false ∧ key.owned = false) :
    (∃ evidence, deletedAt repr schema a = .ok evidence) ↔
      ∃ record, a.observedUsers.filter UserRecord.matching = [record] ∧
        record.user.dedicated expected = true ∧
        (a.observedUsers.map UserRecord.user).Perm (record.user ::
          (a.removeUser record.user.id.toNat).observedUsers.map UserRecord.user) ∧
        ∀ user ∈ (a.removeUser record.user.id.toNat).observedUsers.map UserRecord.user,
          user.name ≠ recoveryUsername := by
  have hresult := run_of_wp_alone
    (wp_deleteDedicatedRecoveryUser_network (s := ⟨a, []⟩) repr schema) (fun _ => ())
  have hnone : checkNoOwnedKey a.observedKeys deletion = .ok () := by
    refine checkNoOwnedKey_eq_ok.mpr ⟨nodup_observedKeys, ?_, ?_⟩
    · rw [List.any_eq_false]
      exact fun key hkey => by simp [(hkeys key hkey).1]
    · rw [List.any_eq_false]
      exact fun key hkey => by simp [(hkeys key hkey).2]
  have hnumbers : (a.observedUsers.map UserRecord.number).Nodup :=
    map_number a.observedUsers ▸ nodup_observedUsers
  rw [deletedAt, hresult, hexpected, except_ok_bind]
  constructor
  · rintro ⟨evidence, h⟩
    obtain ⟨record, hrecord, h⟩ := except_bind_eq_ok.mp h
    rw [hnone, except_ok_bind] at h
    obtain ⟨u, hdeleted, -⟩ := except_bind_eq_ok.mp h
    obtain ⟨-, hmatching, hprofile⟩ := selectDedicatedRecoveryUser_eq_ok.mp hrecord
    have hmem : record.user ∈ a.observedUsers.map UserRecord.user := List.mem_map_of_mem
      (List.mem_of_mem_filter (hmatching ▸ List.mem_singleton_self record))
    exact ⟨record, hmatching, hprofile, (checkUserDeleted_eq_ok nodup_observedUsers hmem).mp hdeleted⟩
  · rintro ⟨record, hmatching, hprofile, hperm⟩
    have hmem : record.user ∈ a.observedUsers.map UserRecord.user := List.mem_map_of_mem
      (List.mem_of_mem_filter (hmatching ▸ List.mem_singleton_self record))
    refine ⟨deletionEvidence "user" record.user.id (a.observedUsers.map UserRecord.user).length
      ((a.removeUser record.user.id.toNat).observedUsers.map UserRecord.user).length,
      except_bind_eq_ok.mpr ⟨record,
        selectDedicatedRecoveryUser_eq_ok.mpr ⟨hnumbers, hmatching, hprofile⟩, ?_⟩⟩
    rw [hnone, except_ok_bind]
    exact except_bind_eq_ok.mpr
      ⟨(), (checkUserDeleted_eq_ok nodup_observedUsers hmem).mpr hperm, rfl⟩

theorem observedUsers_removeUser (a : Appliance) (number : ℕ) :
    (a.removeUser number).observedUsers =
      (shown a.userNumbering (remove a.userNumbering number a.users)).map observeUser := rfl

theorem map_observeUser_id (seen : List (ℕ × UserFields)) :
    ((seen.map observeUser).map UserRecord.user).map ObservedUser.id =
      (seen.map Prod.fst).map (Nat.cast : ℕ → ℤ) := by
  rw [List.map_map, List.map_map, List.map_map]
  rfl

/-- Whether a user has the profile that the deletion asks for. -/
def UserFields.profile (expected : Finset String) (user : UserFields) : Bool :=
  (observeUser (0, user)).user.dedicated expected

/-- The only user with the name, who has the profile and no key, is deleted with evidence if no user
gets another number by the deletion. -/
theorem deletedAt_iff {repr : String → String} {schema : List (String × Json)} {a : Appliance}
    {expected : Finset String} (hexpected : deriveExactTarget repr schema = .ok expected)
    (hone : a.users.countP (·.2.dedicated) = 1)
    (hprofile : ∀ user ∈ a.users, user.2.dedicated = true → user.2.profile expected = true)
    (hkeys : ∀ key ∈ a.observedKeys, key.unowned = false ∧ key.owned = false) :
    (∃ evidence, deletedAt repr schema a = .ok evidence) ↔
      a.userNumbering = .stable ∨ ∃ user, a.users.getLast? = some user ∧ user.2.dedicated = true := by
  obtain ⟨before, object, behind, husers, hdedicated, hbefore, hbehind⟩ :=
    exists_append_of_countP hone
  have hnodup := a.users_nodup
  rw [husers] at hnodup
  have hlast : (∃ user, a.users.getLast? = some user ∧ user.2.dedicated = true) ↔ behind = [] := by
    rw [husers]
    exact exists_getLast_iff (p := fun user : ℕ × UserFields => user.2.dedicated) hdedicated hbehind
  rw [hlast, deletedAt_eq_ok hexpected hkeys]
  have hremove : (a.removeUser (numberBehind a.userNumbering before object)).observedUsers =
      (shown a.userNumbering (before ++ behind)).map observeUser := by
    rw [observedUsers_removeUser, husers, remove_numberBehind hnodup]
  have hfilter : a.observedUsers.filter UserRecord.matching =
      [observeUser (numberBehind a.userNumbering before object, object.2)] := by
    rw [observedUsers, shownUsers, husers, List.filter_map]
    exact congrArg (List.map observeUser)
      (filter_shown (p := UserFields.dedicated) hdedicated hbefore hbehind)
  have hnumber : (observeUser (numberBehind a.userNumbering before object,
      object.2)).user.id.toNat = numberBehind a.userNumbering before object := Int.toNat_natCast _
  have hobject : object ∈ a.users := husers ▸ List.mem_append_right _ List.mem_cons_self
  constructor
  · rintro ⟨record, hrecord, -, hperm, -⟩
    rw [hfilter] at hrecord
    obtain rfl := List.singleton_inj.mp hrecord
    have hids := hperm.map ObservedUser.id
    rw [hnumber, hremove, List.map_cons, map_observeUser_id, observedUsers, shownUsers,
      map_observeUser_id, husers] at hids
    exact kept_of_perm hnodup ((List.map_perm_map_iff Nat.cast_injective).mp hids)
  · intro hkept
    refine ⟨_, hfilter, hprofile object hobject hdedicated, ?_, ?_⟩
    · rw [hnumber, hremove, observedUsers, shownUsers, husers]
      exact ((perm_shown hnodup hkept).map observeUser).map UserRecord.user
    · rw [hnumber, hremove]
      intro user huser hname
      obtain ⟨record, hrecord, rfl⟩ := List.mem_map.mp huser
      obtain ⟨seen, hseen, rfl⟩ := List.mem_map.mp hrecord
      have hsnd : (shown a.userNumbering (before ++ behind)).map Prod.snd =
          (before ++ behind).map Prod.snd := map_snd_shown
      obtain ⟨stored, hstored, heq⟩ := List.mem_map.mp (hsnd ▸ List.mem_map_of_mem hseen)
      have hnot : stored.2.dedicated = false := by
        exact (List.mem_append.mp hstored).elim (hbefore stored) (hbehind stored)
      rw [heq, UserFields.dedicated, beq_eq_false_iff_ne] at hnot
      exact hnot hname

/-- What the deletion of the dedicated user asks for: one user with the name, who has the profile,
and no key of theirs or of an unknown owner. -/
structure Appliance.Deletable (a : Appliance) (expected : Finset String) : Prop where
  one : a.users.countP (·.2.dedicated) = 1
  profile : ∀ user ∈ a.users, user.2.dedicated = true → user.2.profile expected = true
  unowned : ∀ key ∈ a.keys, key.2.username ≠ none ∧ key.2.username ≠ some recoveryUsername

theorem Appliance.Deletable.observed {a : Appliance} {expected : Finset String}
    (h : a.Deletable expected) :
    ∀ key ∈ a.observedKeys, key.unowned = false ∧ key.owned = false := by
  intro key hkey
  obtain ⟨seen, hseen, rfl⟩ := List.mem_map.mp hkey
  have hsnd : (shown a.keyNumbering a.keys).map Prod.snd = a.keys.map Prod.snd := map_snd_shown
  obtain ⟨stored, hstored, heq⟩ := List.mem_map.mp
    (hsnd ▸ List.mem_map_of_mem (List.mem_of_mem_take hseen))
  obtain ⟨hknown, hother⟩ := h.unowned stored hstored
  rw [heq] at hknown hother
  constructor
  · rw [ObservedApiKey.unowned, Option.isNone_eq_false_iff, Option.isSome_iff_ne_none]
    exact hknown
  · exact beq_eq_false_iff_ne.mpr hother

/-- A correct deletion is recognised exactly if no object gets another number by it and, for a key,
all keys are read. Whatever the transports do, a recovery asks for at most one deletion, of an object
that two reads showed alike, and returns evidence only if the last read shows all others. -/
theorem recovery_exact (repr : String → String) :
    (∀ a : Appliance, a.keys.countP (·.2.orphan) = 1 →
      ((∃ evidence, revokedAt a = .ok evidence) ↔ a.keys.length ≤ keysLimit ∧
        (a.keyNumbering = .stable ∨ ∃ key, a.keys.getLast? = some key ∧ key.2.orphan = true))) ∧
    (∀ (a : Appliance) (schema : List (String × Json)) (expected : Finset String),
      deriveExactTarget repr schema = .ok expected → a.Deletable expected →
      ((∃ evidence, deletedAt repr schema a = .ok evidence) ↔ a.userNumbering = .stable ∨
        ∃ user, a.users.getLast? = some user ∧ user.2.dedicated = true)) ∧
    (∀ (σ : Type) (net : Network σ) (world : σ),
      let ending := (revokeFailedBootstrapApiKey net).run (fun _ => ()) ⟨world, []⟩
      KeyRecovery ending.result ending.state.sent) ∧
    ∀ (σ : Type) (net : Network σ) (world : σ) (schema : List (String × Json)),
      let ending := (deleteDedicatedRecoveryUser net repr schema).run (fun _ => ()) ⟨world, []⟩
      UserRecovery ending.result ending.state.sent := by
  refine ⟨fun a hone => revokedAt_iff hone, fun a schema expected hexpected h => ?_, ?_, ?_⟩
  · exact deletedAt_iff hexpected h.one h.profile h.observed
  · intro σ net world
    exact run_of_wp_alone (wp_revokeFailedBootstrapApiKey rfl) _
  · intro σ net world schema
    exact run_of_wp_alone (wp_deleteDedicatedRecoveryUser rfl) _

/-- With a schema that describes the endpoints, the target of a deletion is derived. -/
theorem deriveExactTarget_describedSchema (repr : String → String) :
    deriveExactTarget repr (describedSchema .writeProtected) =
      .ok (describedPrivileges .writeProtected) := by
  unfold deriveExactTarget
  simp only [resolveProfilePrivileges_describedSchema, distinctOkPrivileges_described]
  refine except_bind_eq_ok.mpr ⟨(), refuseIf_eq_ok.mpr ?_,
    except_bind_eq_ok.mpr ⟨(), refuseIf_eq_ok.mpr
      (decide_eq_false (describedPrivileges_ne_empty _)), rfl⟩⟩
  have hsome : (expectedRequirements .writeProtected).isEmpty = false := rfl
  rw [List.isEmpty_map, hsome, Bool.false_or, List.any_map, List.any_eq_false]
  intro r _
  simp [ResolvedPrivilege.ok]

/-- An appliance with the dedicated user and an orphan key, each before another one. -/
def sampleAppliance (numbering : Numbering) (owner : String) : Appliance where
  userNumbering := numbering
  keyNumbering := numbering
  users := [(0, ⟨recoveryUsername, recoveryUserDescription,
      (expectedRequirements .writeProtected).map fun r => computePrivilegeFromUrl r.url r.method,
      false, some "user"⟩),
    (1, ⟨"operator", "", [], false, some "user"⟩)]
  keys := [(0, ⟨some owner, recoveryKeyDescription, "sha256", 32⟩),
    (1, ⟨some "operator", "backup", "sha256", 32⟩)]
  users_nodup := by simp
  keys_nodup := by simp

theorem profile_sample : ((sampleAppliance .stable "operator").users.head
    (by simp [sampleAppliance])).2.profile (describedPrivileges .writeProtected) = true := by
  change (true && (describedPrivileges .writeProtected == describedPrivileges .writeProtected) &&
    !decide (pageAllPrivilege ∈ describedPrivileges .writeProtected)) = true
  simp [pageAll_notMem_describedPrivileges]

/-- With numbers of their own, both deletions are recognised. -/
theorem recovery_exact_sample :
    (∃ evidence, revokedAt (sampleAppliance .stable recoveryUsername) = .ok evidence) ∧
    ∃ evidence, deletedAt id (describedSchema .writeProtected) (sampleAppliance .stable "operator") =
      .ok evidence := by
  refine ⟨((recovery_exact id).1 _ (by decide)).mpr ⟨by decide, .inl rfl⟩,
    ((recovery_exact id).2.1 _ _ _ (deriveExactTarget_describedSchema id)
      ⟨by decide, ?_, by decide⟩).mpr (.inl rfl)⟩
  intro user huser hdedicated
  have hfirst : user = (sampleAppliance .stable "operator").users.head (by simp [sampleAppliance]) := by
    simp only [sampleAppliance, List.mem_cons, List.not_mem_nil, or_false] at huser
    rcases huser with rfl | rfl
    · rfl
    · exact absurd hdedicated (by decide)
  rw [hfirst]
  exact profile_sample

/-- With places as numbers, the key behind the orphan one gets its number by the deletion, and this is
taken for a key that was not deleted. -/
theorem renumbered_not_recognised :
    (sampleAppliance .positional recoveryUsername).keys.countP (·.2.orphan) = 1 ∧
    ((sampleAppliance .positional recoveryUsername).removeKey 0).keys =
      [(1, ⟨some "operator", "backup", "sha256", 32⟩)] ∧
    ¬∃ evidence, revokedAt (sampleAppliance .positional recoveryUsername) = .ok evidence := by
  refine ⟨by decide, rfl, ?_⟩
  rw [revokedAt_iff (by decide)]
  decide

end Administration
