import PfsenseMcp.Administration.Recovery

/-!
# What a recovery does

For every behaviour of the transports, a recovery asks for at most one change, the deletion of an
object that two reads before it showed with the same identity, and it returns evidence only if the
read after the deletion shows everything else as it was.

## Main results

* `checkKeyRevoked_eq_ok`, `checkUserDeleted_eq_ok`: the comparison of two reads by the ids says
  that exactly the deleted object went;
* `wp_revokeFailedBootstrapApiKey`, `wp_deleteDedicatedRecoveryUser`: what a recovery sends.
-/

namespace Administration

open Python Tier1 Concurrency Procedure Collections

/-! ### Checks -/

theorem except_bind_eq_ok {ε α β : Type} {x : Except ε α} {f : α → Except ε β} {b : β} :
    (x >>= f) = .ok b ↔ ∃ a, x = .ok a ∧ f a = .ok b := by
  cases x with
  | error e => exact ⟨nofun, nofun⟩
  | ok a =>
    constructor
    · exact fun h => ⟨a, rfl, h⟩
    · rintro ⟨_, ⟨⟩, h⟩
      exact h

theorem except_ok_bind {ε α β : Type} (a : α) (f : α → Except ε β) : (.ok a >>= f) = f a := rfl

theorem except_error_bind {ε α β : Type} (e : ε) (f : α → Except ε β) :
    (.error e >>= f) = .error e := rfl

theorem refuseIf_eq_ok {condition : Bool} {operation message : String} {u : Unit} :
    refuseIf condition operation message = .ok u ↔ condition = false := by
  cases condition with
  | false => exact ⟨fun _ => rfl, fun _ => rfl⟩
  | true => exact ⟨nofun, nofun⟩

theorem checkUniqueIds_eq_ok {α : Type} {id : α → ℤ} {objects : List α} {operation : String}
    {u : Unit} : checkUniqueIds id objects operation = .ok u ↔ (objects.map id).Nodup := by
  simp [checkUniqueIds, refuseIf_eq_ok]

/-- The key that is selected is the one that matches. -/
theorem selectOrphanApiKey_eq_ok {keys : List ObservedApiKey} {operation : String}
    {key : ObservedApiKey} : selectOrphanApiKey keys operation = .ok key ↔
      (keys.map ObservedApiKey.id).Nodup ∧ keys.filter ObservedApiKey.matching = [key] := by
  rw [selectOrphanApiKey, except_bind_eq_ok]
  simp only [checkUniqueIds_eq_ok]
  constructor
  · rintro ⟨-, hnodup, h⟩
    refine ⟨hnodup, ?_⟩
    split at h
    · rename_i heq
      cases h
      exact heq
    · cases h
  · rintro ⟨hnodup, hkey⟩
    refine ⟨(), hnodup, ?_⟩
    rw [hkey]

/-- The user that is selected is the one that matches, and it has the profile. -/
theorem selectDedicatedRecoveryUser_eq_ok {users : List UserRecord} {expected : Finset String}
    {operation : String} {record : UserRecord} :
    selectDedicatedRecoveryUser users expected operation = .ok record ↔
      (users.map UserRecord.number).Nodup ∧ users.filter UserRecord.matching = [record] ∧
        record.user.dedicated expected = true := by
  rw [selectDedicatedRecoveryUser, except_bind_eq_ok]
  simp only [checkUniqueIds_eq_ok]
  constructor
  · rintro ⟨-, hnodup, h⟩
    refine ⟨hnodup, ?_⟩
    split at h
    · rename_i heq
      rw [except_bind_eq_ok] at h
      obtain ⟨u, hprofile, h⟩ := h
      cases h
      exact ⟨heq, by simpa [refuseIf_eq_ok] using hprofile⟩
    · cases h
  · rintro ⟨hnodup, hrecord, hprofile⟩
    refine ⟨(), hnodup, ?_⟩
    rw [hrecord]
    dsimp only
    rw [except_bind_eq_ok]
    exact ⟨(), by simpa [refuseIf_eq_ok] using hprofile, rfl⟩

theorem checkNoOwnedKey_eq_ok {keys : List ObservedApiKey} {operation : String} {u : Unit} :
    checkNoOwnedKey keys operation = .ok u ↔ (keys.map ObservedApiKey.id).Nodup ∧
      keys.any ObservedApiKey.unowned = false ∧ keys.any ObservedApiKey.owned = false := by
  simp only [checkNoOwnedKey, except_bind_eq_ok, checkUniqueIds_eq_ok, refuseIf_eq_ok,
    exists_const]

/-- A key is found revoked if the objects after that, with the key, are those before. -/
theorem checkKeyRevoked_eq_ok {operation : String} {selected : ObservedApiKey}
    {fresh after : List ObservedApiKey} {evidence : RecoveryDeletionEvidence}
    (hfresh : (fresh.map ObservedApiKey.id).Nodup) (hselected : selected ∈ fresh) :
    checkKeyRevoked operation selected fresh after = .ok evidence ↔
      fresh.Perm (selected :: after) ∧
        evidence = deletionEvidence "api_key" selected.id fresh.length after.length := by
  rw [perm_cons_iff hfresh hselected]
  simp only [checkKeyRevoked, except_bind_eq_ok, checkUniqueIds_eq_ok, refuseIf_eq_ok, exists_const,
    Except.ok.injEq, List.any_eq_false, decide_eq_true_eq, Bool.not_eq_false', and_assoc,
    eq_comm (a := evidence)]

/-- The same for a user; no other user may have the name either. -/
theorem checkUserDeleted_eq_ok {operation : String} {selected : ObservedUser}
    {fresh after : List ObservedUser} {u : Unit}
    (hfresh : (fresh.map ObservedUser.id).Nodup) (hselected : selected ∈ fresh) :
    checkUserDeleted operation selected fresh after = .ok u ↔
      fresh.Perm (selected :: after) ∧ ∀ user ∈ after, user.name ≠ recoveryUsername := by
  rw [perm_cons_iff hfresh hselected]
  simp only [checkUserDeleted, except_bind_eq_ok, checkUniqueIds_eq_ok, refuseIf_eq_ok,
    exists_const, List.any_eq_false, decide_eq_true_eq, Bool.not_eq_false', not_or]
  constructor
  · rintro ⟨hnodup, habsent, hsame⟩
    exact ⟨⟨hnodup, fun user huser => (habsent user huser).1, hsame⟩,
      fun user huser => (habsent user huser).2⟩
  · rintro ⟨⟨hnodup, hid, hsame⟩, hname⟩
    exact ⟨hnodup, fun user huser => ⟨hid user huser, hname user huser⟩, hsame⟩

theorem checkKeysKept_eq_ok {operation : String} {fresh after : List ObservedApiKey} {u : Unit}
    (hfresh : (fresh.map ObservedApiKey.id).Nodup) :
    checkKeysKept operation fresh after = .ok u ↔
      after.Perm fresh ∧ ∀ key ∈ after, key.unowned = false ∧ key.owned = false := by
  simp only [checkKeysKept, except_bind_eq_ok, checkUniqueIds_eq_ok, refuseIf_eq_ok,
    exists_const, List.any_eq_false, Bool.not_eq_false', Bool.or_eq_true, not_or,
    Bool.not_eq_true]
  constructor
  · rintro ⟨hnodup, hkeys, hsame⟩
    exact ⟨(sameDict_iff_perm hnodup hfresh).mp hsame, hkeys⟩
  · rintro ⟨hperm, hkeys⟩
    have hnodup : (after.map ObservedApiKey.id).Nodup :=
      (hperm.map ObservedApiKey.id).nodup_iff.mpr hfresh
    exact ⟨hnodup, hkeys, (sameDict_iff_perm hnodup hfresh).mpr hperm⟩

/-! ### What is sent -/

/-- An entry of the record is a read that showed these keys. -/
def Sent.ShowsKeys (x : Sent) (keys : List ObservedApiKey) : Prop :=
  x.channel = .admin ∧ x.request = .listAuthKeys ∧ outcomeOf apiKeysOf x.answer = .ok keys

/-- An entry of the record is a read that showed these users. -/
def Sent.ShowsUsers (x : Sent) (users : List UserRecord) : Prop :=
  x.channel = .admin ∧ x.request = .listUsers ∧ outcomeOf userRecordsOf x.answer = .ok users

/-- What the revocation of the orphan key sends, and when it returns evidence. -/
inductive KeyRecovery : Except ClientError RecoveryDeletionEvidence → List Sent → Prop
  /-- Nothing is changed, and the recovery fails. -/
  | refused {e : ClientError} {sent : List Sent} (h : ∀ x ∈ sent, x.request.mutates = false) :
    KeyRecovery (.error e) sent
  /-- The deletion of a key that both reads before it showed. -/
  | sent {r : Except ClientError RecoveryDeletionEvidence} {first second deletion : Sent}
    {rest : List Sent} {key : ObservedApiKey} {initial fresh : List ObservedApiKey}
    (hfirst : first.ShowsKeys initial) (hinitial : key ∈ initial)
    (hsecond : second.ShowsKeys fresh) (hfresh : key ∈ fresh)
    (hchannel : deletion.channel = .keyRevocation)
    (hrequest : deletion.request = .revokeAuthKey key.id)
    (hrest : ∀ x ∈ rest, x.request.mutates = false)
    (hevidence : ∀ evidence, r = .ok evidence → ∃ final after, rest = [final] ∧
      final.ShowsKeys after ∧ fresh.Perm (key :: after) ∧
      evidence = deletionEvidence "api_key" key.id fresh.length after.length) :
    KeyRecovery r (first :: second :: deletion :: rest)

/-- What the deletion of the dedicated user sends, and when it returns evidence. -/
inductive UserRecovery : Except ClientError RecoveryDeletionEvidence → List Sent → Prop
  /-- Nothing is changed, and the recovery fails. -/
  | refused {e : ClientError} {sent : List Sent} (h : ∀ x ∈ sent, x.request.mutates = false) :
    UserRecovery (.error e) sent
  /-- The deletion of a user that both reads of the users before it showed, with the same
  identity, while no key was theirs. -/
  | sent {r : Except ClientError RecoveryDeletionEvidence}
    {first firstKeys second secondKeys deletion : Sent} {rest : List Sent}
    {selected again : UserRecord} {initial fresh : List UserRecord}
    {initialKeys freshKeys : List ObservedApiKey}
    (hfirst : first.ShowsUsers initial) (hinitial : selected ∈ initial)
    (hfirstKeys : firstKeys.ShowsKeys initialKeys)
    (hsecond : second.ShowsUsers fresh) (hfresh : again ∈ fresh)
    (hsame : again.user = selected.user)
    (hsecondKeys : secondKeys.ShowsKeys freshKeys)
    (hunowned : ∀ key ∈ freshKeys, key.unowned = false ∧ key.owned = false)
    (hchannel : deletion.channel = .admin)
    (hrequest : deletion.request = .deleteUser selected.user.id)
    (hrest : ∀ x ∈ rest, x.request.mutates = false)
    (hevidence : ∀ evidence, r = .ok evidence → ∃ final finalKeys after afterKeys,
      rest = [final, finalKeys] ∧ final.ShowsUsers after ∧ finalKeys.ShowsKeys afterKeys ∧
      (fresh.map UserRecord.user).Perm (selected.user :: after.map UserRecord.user) ∧
      afterKeys.Perm freshKeys ∧
      evidence = deletionEvidence "user" selected.user.id fresh.length after.length) :
    UserRecovery r (first :: firstKeys :: second :: secondKeys :: deletion :: rest)

section

variable {σ : Type} {net : Network σ} {s : Session σ}

/-- Up to the deletion, the keys are read twice, and both reads show the selected one. -/
theorem wp_identifyOrphanApiKey {operation : String}
    {post : Except ClientError (ObservedApiKey × List ObservedApiKey) → Session σ → Prop}
    (herror : ∀ e s', Quiet s s' → post (.error e) s')
    (hok : ∀ key initial fresh first second s', s'.sent = s.sent ++ [first, second] →
      first.ShowsKeys initial → key ∈ initial → second.ShowsKeys fresh → key ∈ fresh →
      (fresh.map ObservedApiKey.id).Nodup → post (.ok (key, fresh)) s') :
    wp .alone (identifyOrphanApiKey net operation) post s := by
  have hmutates : ProvisioningRequest.listAuthKeys.mutates = false := by decide
  refine wp_call_bind (fun e _ => herror e _ (quiet_after hmutates)) fun initial hinitial => ?_
  refine wp_ofExcept_bind (fun e _ => herror e _ (quiet_after hmutates)) fun key hkey => ?_
  have hquiet : Quiet s ((s.after net .admin .listAuthKeys).after net .admin .listAuthKeys) :=
    (quiet_after hmutates).trans (quiet_after hmutates)
  refine wp_call_bind (fun e _ => herror e _ hquiet) fun fresh hfresh => ?_
  refine wp_ofExcept_bind (fun e _ => herror e _ hquiet) fun _ hnodup => ?_
  refine wp_ofExcept_bind (fun e _ => herror e _ hquiet) fun _ hsame => ?_
  rw [checkUniqueIds_eq_ok] at hnodup
  rw [refuseIf_eq_ok, decide_eq_false_iff_not, ne_eq, not_not] at hsame
  have hmem : key ∈ initial := List.mem_of_mem_filter
    ((selectOrphanApiKey_eq_ok.mp hkey).2 ▸ List.mem_singleton_self key)
  have hmem' : key ∈ fresh := List.mem_of_mem_filter (hsame ▸ List.mem_singleton_self key)
  exact hok key initial fresh _ _ _ (List.append_assoc _ _ _) ⟨rfl, rfl, hinitial⟩ hmem
    ⟨rfl, rfl, hfresh⟩ hmem' hnodup

/-- Whatever the transports do, the revocation changes at most one thing, and evidence is exact. -/
theorem wp_revokeFailedBootstrapApiKey (hs : s.sent = []) :
    wp .alone (revokeFailedBootstrapApiKey net) (fun r s' => KeyRecovery r s'.sent) s := by
  have hrefused : ∀ {e : ClientError} {s' : Session σ}, Quiet s s' →
      KeyRecovery (.error e) s'.sent := by
    rintro e s' ⟨sent, hsent, hquiet⟩
    rw [hs, List.nil_append] at hsent
    exact .refused (hsent ▸ hquiet)
  unfold revokeFailedBootstrapApiKey
  rw [wp_bind]
  refine wp_identifyOrphanApiKey (fun e s' h => hrefused h) ?_
  intro key initial fresh first second s' hsent hfirst hinitial hsecond hfresh hnodup
  rw [hs, List.nil_append] at hsent
  rw [andThen_ok]
  dsimp only
  rw [wp_bind, revokeAuthKeyForRecovery]
  refine wp_ofExcept_bind (fun e _ => ?_) fun _ _ => ?_
  · refine .refused fun x hx => ?_
    rw [hsent, List.mem_pair] at hx
    rcases hx with rfl | rfl
    · rw [hfirst.2.1]
      decide
    · rw [hsecond.2.1]
      decide
  -- From here on the deletion was asked for, and only reads follow.
  have hrecovery : ∀ {r : Except ClientError RecoveryDeletionEvidence} {deletion : Sent}
      {rest : List Sent}, deletion.channel = .keyRevocation →
      deletion.request = .revokeAuthKey key.id → (∀ x ∈ rest, x.request.mutates = false) →
      (∀ evidence, r = .ok evidence → ∃ final after, rest = [final] ∧
        final.ShowsKeys after ∧ fresh.Perm (key :: after) ∧
        evidence = deletionEvidence "api_key" key.id fresh.length after.length) →
      KeyRecovery r (first :: second :: deletion :: rest) :=
    fun hchannel hrequest => .sent hfirst hinitial hsecond hfresh hchannel hrequest
  refine wp_call_bind (fun e _ => ?_) fun _ _ => ?_
  · rw [andThen_error, Session.after_sent, hsent]
    exact hrecovery rfl rfl (by simp) (by simp)
  rw [pure_eq_ret, wp_ret, andThen_ok]
  have hread : ∀ x : Sent, x.request = .listAuthKeys →
      ∀ y ∈ [x], y.request.mutates = false := by
    intro x hx y hy
    rw [List.mem_singleton.mp hy, hx]
    decide
  refine wp_call_bind (fun e _ => ?_) fun after hafter => ?_
  · rw [Session.after_sent, Session.after_sent, hsent]
    exact hrecovery rfl rfl (hread _ rfl) (by simp)
  rw [wp_ofExcept, Session.after_sent, Session.after_sent, hsent]
  refine hrecovery rfl rfl (hread _ rfl) fun evidence hevidence => ?_
  obtain ⟨hperm, heq⟩ := (checkKeyRevoked_eq_ok hnodup hfresh).mp hevidence
  exact ⟨_, after, rfl, ⟨rfl, rfl, hafter⟩, hperm, heq⟩

/-- The record after four requests. -/
theorem append_four (sent : List Sent) (a b c d : Sent) :
    sent ++ [a] ++ [b] ++ [c] ++ [d] = sent ++ [a, b, c, d] := by
  simp only [List.append_assoc, List.cons_append, List.nil_append]

theorem map_number (users : List UserRecord) :
    users.map UserRecord.number = (users.map UserRecord.user).map ObservedUser.id := by
  rw [List.map_map]
  rfl

/-- Up to the deletion, the users and the keys are read twice. -/
theorem wp_identifyDedicatedRecoveryUser {operation : String} {expected : Finset String}
    {post : Except ClientError (UserRecord × List UserRecord × List ObservedApiKey) →
      Session σ → Prop}
    (herror : ∀ e s', Quiet s s' → post (.error e) s')
    (hok : ∀ selected again initial fresh initialKeys freshKeys first firstKeys second secondKeys s',
      s'.sent = s.sent ++ [first, firstKeys, second, secondKeys] →
      first.ShowsUsers initial → selected ∈ initial → firstKeys.ShowsKeys initialKeys →
      second.ShowsUsers fresh → again ∈ fresh → again.user = selected.user →
      secondKeys.ShowsKeys freshKeys →
      (∀ key ∈ freshKeys, key.unowned = false ∧ key.owned = false) →
      ((fresh.map UserRecord.user).map ObservedUser.id).Nodup →
      (freshKeys.map ObservedApiKey.id).Nodup → post (.ok (selected, fresh, freshKeys)) s') :
    wp .alone (identifyDedicatedRecoveryUser net operation expected) post s := by
  have husers : ProvisioningRequest.listUsers.mutates = false := by decide
  have hkeys : ProvisioningRequest.listAuthKeys.mutates = false := by decide
  unfold identifyDedicatedRecoveryUser
  -- The quiet sessions after one, two, three and four reads.
  have h1 : Quiet s (s.after net .admin .listUsers) := quiet_after husers
  refine wp_call_bind (fun e _ => herror e _ h1) fun initial hinitial => ?_
  refine wp_ofExcept_bind (fun e _ => herror e _ h1) fun selected hselected => ?_
  have h2 : Quiet s ((s.after net .admin .listUsers).after net .admin .listAuthKeys) :=
    h1.trans (quiet_after hkeys)
  refine wp_call_bind (fun e _ => herror e _ h2) fun initialKeys hinitialKeys => ?_
  refine wp_ofExcept_bind (fun e _ => herror e _ h2) fun _ _ => ?_
  have h3 : Quiet s (((s.after net .admin .listUsers).after net .admin .listAuthKeys).after net
      .admin .listUsers) := h2.trans (quiet_after husers)
  refine wp_call_bind (fun e _ => herror e _ h3) fun fresh hfresh => ?_
  refine wp_ofExcept_bind (fun e _ => herror e _ h3) fun _ hnodup => ?_
  refine wp_ofExcept_bind (fun e _ => herror e _ h3) fun _ hsame => ?_
  have h4 : Quiet s ((((s.after net .admin .listUsers).after net .admin .listAuthKeys).after net
      .admin .listUsers).after net .admin .listAuthKeys) := h3.trans (quiet_after hkeys)
  refine wp_call_bind (fun e _ => herror e _ h4) fun freshKeys hfreshKeys => ?_
  refine wp_ofExcept_bind (fun e _ => herror e _ h4) fun _ hnodupKeys => ?_
  refine wp_ofExcept_bind (fun e _ => herror e _ h4) fun _ hunowned => ?_
  refine wp_ofExcept_bind (fun e _ => herror e _ h4) fun _ howned => ?_
  rw [checkUniqueIds_eq_ok] at hnodup hnodupKeys
  rw [refuseIf_eq_ok] at hsame hunowned howned
  rw [decide_eq_false_iff_not, ne_eq, not_not, List.map_eq_singleton_iff] at hsame
  rw [List.any_eq_false] at hunowned howned
  obtain ⟨again, hagain, hidentity⟩ := hsame
  have hmem : selected ∈ initial := List.mem_of_mem_filter
    ((selectDedicatedRecoveryUser_eq_ok.mp hselected).2.1 ▸ List.mem_singleton_self selected)
  have hmem' : again ∈ fresh := List.mem_of_mem_filter (hagain ▸ List.mem_singleton_self again)
  have hnone : ∀ key ∈ freshKeys, key.unowned = false ∧ key.owned = false := fun key hkey =>
    ⟨by simpa using hunowned key hkey, by simpa using howned key hkey⟩
  exact hok selected again initial fresh initialKeys freshKeys _ _ _ _ _ (append_four _ _ _ _ _)
    ⟨rfl, rfl, hinitial⟩ hmem ⟨rfl, rfl, hinitialKeys⟩ ⟨rfl, rfl, hfresh⟩ hmem' hidentity
    ⟨rfl, rfl, hfreshKeys⟩ hnone (map_number fresh ▸ hnodup) hnodupKeys

/-- Whatever the transports do, the deletion changes at most one thing, and evidence is exact. -/
theorem wp_deleteDedicatedRecoveryUser {repr : String → String} {schema : List (String × Json)}
    (hs : s.sent = []) :
    wp .alone (deleteDedicatedRecoveryUser net repr schema)
      (fun r s' => UserRecovery r s'.sent) s := by
  have hrefused : ∀ {e : ClientError} {s' : Session σ}, Quiet s s' →
      UserRecovery (.error e) s'.sent := by
    rintro e s' ⟨sent, hsent, hquiet⟩
    rw [hs, List.nil_append] at hsent
    exact .refused (hsent ▸ hquiet)
  unfold deleteDedicatedRecoveryUser
  refine wp_ofExcept_bind (fun e _ => hrefused .refl) fun expected _ => ?_
  rw [wp_bind]
  refine wp_identifyDedicatedRecoveryUser (fun e s' h => hrefused h) ?_
  intro selected again initial fresh initialKeys freshKeys first firstKeys second secondKeys s'
    hsent hfirst hinitial hfirstKeys hsecond hfresh hsame hsecondKeys hunowned hnodup hnodupKeys
  rw [hs, List.nil_append] at hsent
  rw [andThen_ok]
  dsimp only
  rw [wp_bind, deleteUserForRecovery]
  refine wp_ofExcept_bind (fun e _ => ?_) fun _ _ => ?_
  · refine .refused fun x hx => ?_
    rw [hsent] at hx
    simp only [List.mem_cons, List.not_mem_nil, or_false] at hx
    rcases hx with rfl | rfl | rfl | rfl
    · rw [hfirst.2.1]
      decide
    · rw [hfirstKeys.2.1]
      decide
    · rw [hsecond.2.1]
      decide
    · rw [hsecondKeys.2.1]
      decide
  -- From here on the deletion was asked for, and only reads follow.
  have hrecovery : ∀ {r : Except ClientError RecoveryDeletionEvidence} {deletion : Sent}
      {rest : List Sent}, deletion.channel = .admin →
      deletion.request = .deleteUser selected.user.id →
      (∀ x ∈ rest, x.request = .listUsers ∨ x.request = .listAuthKeys) →
      (∀ evidence, r = .ok evidence → ∃ final finalKeys after afterKeys,
        rest = [final, finalKeys] ∧ final.ShowsUsers after ∧ finalKeys.ShowsKeys afterKeys ∧
        (fresh.map UserRecord.user).Perm (selected.user :: after.map UserRecord.user) ∧
        afterKeys.Perm freshKeys ∧
        evidence = deletionEvidence "user" selected.user.id fresh.length after.length) →
      UserRecovery r (first :: firstKeys :: second :: secondKeys :: deletion :: rest) := by
    intro r deletion rest hchannel hrequest hreads
    refine .sent hfirst hinitial hfirstKeys hsecond hfresh hsame hsecondKeys hunowned hchannel
      hrequest fun x hx => ?_
    rcases hreads x hx with h | h
    · rw [h]
      decide
    · rw [h]
      decide
  refine wp_call_bind (fun e _ => ?_) fun _ _ => ?_
  · rw [andThen_error, Session.after_sent, hsent]
    exact hrecovery rfl rfl (by simp) (by simp)
  rw [pure_eq_ret, wp_ret, andThen_ok]
  have hmem : selected.user ∈ fresh.map UserRecord.user :=
    List.mem_map.mpr ⟨again, hfresh, hsame⟩
  refine wp_call_bind (fun e _ => ?_) fun after hafter => ?_
  · rw [Session.after_sent, Session.after_sent, hsent]
    exact hrecovery rfl rfl (by simp) (by simp)
  refine wp_ofExcept_bind (fun e _ => ?_) fun _ hdeleted => ?_
  · rw [Session.after_sent, Session.after_sent, hsent]
    exact hrecovery rfl rfl (by simp) (by simp)
  refine wp_call_bind (fun e _ => ?_) fun afterKeys hafterKeys => ?_
  · rw [Session.after_sent, Session.after_sent, Session.after_sent, hsent]
    exact hrecovery rfl rfl (by simp) (by simp)
  refine wp_ofExcept_bind (fun e _ => ?_) fun _ hkept => ?_
  · rw [Session.after_sent, Session.after_sent, Session.after_sent, hsent]
    exact hrecovery rfl rfl (by simp) (by simp)
  rw [pure_eq_ret, wp_ret, Session.after_sent, Session.after_sent, Session.after_sent, hsent]
  refine hrecovery rfl rfl (by simp) fun evidence hevidence => ?_
  cases hevidence
  exact ⟨_, _, after, afterKeys, rfl, ⟨rfl, rfl, hafter⟩, ⟨rfl, rfl, hafterKeys⟩,
    ((checkUserDeleted_eq_ok hnodup hmem).mp hdeleted).1,
    ((checkKeysKept_eq_ok hnodupKeys).mp hkept).1, by simp⟩

end

end Administration
