import PfsenseMcp.Administration.DescribedSchema
import PfsenseMcp.Administration.ProvisioningEngine
import PfsenseMcp.Administration.RecoveryGuarantees

/-!
# What a provisioning does

What `provision_service_account` sends, and how it ends, for every behaviour of the transports. The
record of a run has one of four shapes, `Provisioned`, and each says which changes were asked for
and what the last read has to show for the outcome.

## Main results

* `wp_provisionServiceAccount`: every run has one of the shapes;
* `provisionServiceAccount_safe`: an existing account is not harmed, and completion is exact.
-/

namespace Administration

open Python Tier1 Concurrency Procedure

/-! ### Errors of the parsers -/

/-- Code that raises no error but `BootstrapProvisioningError`. -/
def OnlyProvisioning {α : Type} (x : Except ClientError α) : Prop :=
  ∀ e, x = .error e → ∃ message status, e = .provisioning message status

section

variable {α β : Type}

theorem onlyProvisioning_ok (a : α) : OnlyProvisioning (.ok a) := by
  intro e h
  contradiction

theorem onlyProvisioning_refuse (message : String) :
    OnlyProvisioning (ClientError.refuse message : Except ClientError α) := by
  rintro _ ⟨⟩
  exact ⟨message, none, rfl⟩

theorem OnlyProvisioning.bind {x : Except ClientError α} {f : α → Except ClientError β}
    (hx : OnlyProvisioning x) (hf : ∀ a, OnlyProvisioning (f a)) : OnlyProvisioning (x >>= f) := by
  intro e h
  rcases x with e' | a
  · apply hx e
    exact congrArg Except.error (Except.error.inj h)
  · exact hf a e h

theorem onlyProvisioning_parseEach {parse : List (String × Json) → Except ClientError α}
    (h : ∀ data, OnlyProvisioning (parse data)) (entries : List (List (String × Json))) :
    OnlyProvisioning (parseEach parse entries) := by
  induction entries with
  | nil => exact onlyProvisioning_ok _
  | cons data rest ih =>
    exact (h data).bind fun _ => ih.bind fun _ => onlyProvisioning_ok _

theorem onlyProvisioning_listOf {operation : String}
    {parse : List (String × Json) → Except ClientError α}
    (h : ∀ data, OnlyProvisioning (parse data)) (response : TransportResponse) :
    OnlyProvisioning (listOf operation parse response) := by
  unfold listOf
  repeat' split
  all_goals
    first
    | exact onlyProvisioning_parseEach h _
    | exact onlyProvisioning_refuse _

theorem onlyProvisioning_checkResponse (response : TransportResponse) (operation : String) :
    OnlyProvisioning (checkResponse response operation) := by
  unfold checkResponse
  repeat' split
  all_goals
    first
    | exact onlyProvisioning_ok _
    | exact onlyProvisioning_refuse _
    | (rintro _ ⟨⟩; exact ⟨_, _, rfl⟩)

theorem onlyProvisioning_parseUserRecord (operation : String) (data : List (String × Json)) :
    OnlyProvisioning (parseUserRecord operation data) := by
  refine OnlyProvisioning.bind ?_ fun _ => onlyProvisioning_ok _
  unfold parseObservedUser
  repeat' split
  all_goals
    first
    | exact onlyProvisioning_ok _
    | exact onlyProvisioning_refuse _

theorem onlyProvisioning_userRecordOf (operation : String) (response : TransportResponse) :
    OnlyProvisioning (userRecordOf operation response) :=
  (onlyProvisioning_checkResponse response operation).bind
    (onlyProvisioning_parseUserRecord operation)

theorem onlyProvisioning_provisionedApiKeyOf (descr : String) (response : TransportResponse) :
    OnlyProvisioning (provisionedApiKeyOf descr response) := by
  refine (onlyProvisioning_checkResponse response _).bind fun data => ?_
  repeat' split
  all_goals
    first
    | exact onlyProvisioning_ok _
    | exact onlyProvisioning_refuse _

theorem onlyProvisioning_findUser (repr : String → String) (users : List UserRecord)
    (username : String) : OnlyProvisioning (findUser repr users username) := by
  unfold findUser
  split
  · exact onlyProvisioning_ok _
  · exact onlyProvisioning_ok _
  · exact onlyProvisioning_refuse _

end

/-! ### Requests that are handled -/

/-- What a read of the users, with `_find_user`, makes of the response. -/
def foundUserOf (repr : String → String) (username : String) (response : TransportResponse) :
    Except ClientError (Option UserRecord) := do
  let users ← userRecordsOf response
  findUser repr users username

theorem onlyProvisioning_foundUserOf (repr : String → String) (username : String)
    (response : TransportResponse) : OnlyProvisioning (foundUserOf repr username response) :=
  (onlyProvisioning_listOf (onlyProvisioning_parseUserRecord _) response).bind fun users =>
    onlyProvisioning_findUser repr users username

section

variable {σ α β : Type} {net : Network σ} {s : Session σ} {channel : Channel}
  {request : ProvisioningRequest} {parse : TransportResponse → Except ClientError α}

/-- A read of the users is one request. -/
theorem observeUser?_eq (repr : String → String) (username : String) :
    observeUser? repr net username = call net .admin .listUsers (foundUserOf repr username) := by
  refine congrArg (Procedure.atom _) ?_
  ext i s
  show (ofExcept _ >>= _) = ofExcept _
  rcases s.answer net .admin .listUsers with e | response
  · rfl
  · rw [outcomeOf_ok, outcomeOf_ok, foundUserOf]
    rcases userRecordsOf response with e | users <;> rfl

/-- The rule of a request whose errors are handled: an exception of the transport ends the code, and
every response is handled. -/
theorem wp_try_call_bind {f : Except String α → ClientOp σ β}
    {post : Except ClientError β → Session σ → Prop}
    (hparse : ∀ response, OnlyProvisioning (parse response))
    (hraise : ∀ e, s.answer net channel request = .error e →
      post (.error (.other e)) (s.after net channel request))
    (hrefuse : ∀ response message, s.answer net channel request = .ok response →
      wp .alone (f (.error message)) post (s.after net channel request))
    (hok : ∀ response a, s.answer net channel request = .ok response → parse response = .ok a →
      wp .alone (f (.ok a)) post (s.after net channel request)) :
    wp .alone (tryProvisioning (call net channel request parse) >>= f) post s := by
  rw [wp_bind, wp_tryProvisioning, wp_call]
  rcases hanswer : s.answer net channel request with e | response
  · exact hraise e hanswer
  rcases hresult : parse response with e | a
  · obtain ⟨message, status, rfl⟩ := hparse response e hresult
    rw [outcomeOf_ok, hresult]
    exact hrefuse response message hanswer
  · rw [outcomeOf_ok, hresult]
    exact hok response a hanswer hresult

end

/-! ### The record of a run -/

namespace Sent

/-- An entry of the record is a read by which `_find_user` finds an account, or none. -/
def Finds (repr : String → String) (username : String) (found : Option UserRecord) (x : Sent) :
    Prop :=
  x.channel = .admin ∧ x.request = .listUsers ∧
    outcomeOf (foundUserOf repr username) x.answer = .ok found

/-- The transport of the administrator raised an exception. -/
def Raised (x : Sent) : Prop := x.channel = .admin ∧ ∃ e, x.answer = .error e

/-- What is sent once an account is made: reads, changes of the privileges of the id that the
creation returned, and the request of the account for its key. -/
def Follows (c : ProvisioningCall) (created : UserRecord) (x : Sent) : Prop :=
  x.channel = .admin ∧
      (x.request = .listUsers ∨ ∃ priv, x.request = .updateUserPrivileges created.id priv) ∨
    x.channel = .selfService c.username c.password ∧ x.request = .createAuthKey c.keyDescr

end Sent

/-- An account that two reads show with the same id is asked to get what it misses. -/
structure Sync (repr : String → String) (c : ProvisioningCall) (expected : Finset String)
    (pre : UserRecord) (first second patch : Sent) : Prop where
  derived : deriveExpectedPrivileges repr c.schema c.targetProfile = .ok expected
  same : ∃ existing, first.Finds repr c.username (some existing) ∧
    second.Finds repr c.username (some pre) ∧ pre.user.id = existing.user.id ∧
    patch.request = .updateUserPrivileges existing.id (pre.user.priv ∪ expected)
  channel : patch.channel = .admin
  bootstrap : bootstrapOnlyPrivilege ∉ pre.user.priv ∪ expected

/-- An account is made: no account had its name before. -/
structure Creation (repr : String → String) (c : ProvisioningCall) (expected : Finset String)
    (first creation : Sent) : Prop where
  derived : deriveExpectedPrivileges repr c.schema c.targetProfile = .ok expected
  absent : first.Finds repr c.username none
  channel : creation.channel = .admin
  request : creation.request = .createUser c.username c.password c.userDescr expected

/-- The result is complete: the last read shows the account that was made, enabled, with its
description and with the expected privileges, and the key is the one that the account got. -/
structure Verified (repr : String → String) (c : ProvisioningCall) (expected : Finset String)
    (created : UserRecord) (result : AccountResult) (sent : List Sent) : Prop where
  shown : ∃ final record, sent.getLast? = some final ∧
    final.Finds repr c.username (some record) ∧ record.user.id = created.user.id ∧
    record.user.disabled = false ∧ record.user.descr = c.userDescr ∧ record.user.priv = expected ∧
    bootstrapOnlyPrivilege ∉ record.user.priv
  key : ∃ x ∈ sent, ∃ key, x.request = .createAuthKey c.keyDescr ∧
    outcomeOf (provisionedApiKeyOf c.keyDescr) x.answer = .ok key ∧ result.apiKey = some key

/-- How a run ends, with what it sent. -/
inductive Provisioned (repr : String → String) (c : ProvisioningCall) :
    Except ClientError AccountResult → List Sent → Prop
  /-- No change is asked for. -/
  | unchanged {r : Except ClientError AccountResult} {sent : List Sent}
    (hsent : ∀ x ∈ sent, x.request.mutates = false)
    (houtcome : ∀ result, r = .ok result →
      result.outcome ≠ .privilegesSynced ∧ result.outcome ≠ .completed) :
    Provisioned repr c r sent
  /-- An account that two reads show with the same id gets what it misses; nothing else is changed,
  and the result is a success only if the last read shows all of it. -/
  | synced {r : Except ClientError AccountResult} {first second patch : Sent} {rest : List Sent}
    {pre : UserRecord} {expected : Finset String} (h : Sync repr c expected pre first second patch)
    (hrest : ∀ x ∈ rest, x.request = .listUsers)
    (houtcome : ∀ result, r = .ok result → result.outcome = .failed ∨
      result.outcome = .privilegesSynced ∧ ∃ final refreshed, rest = [final] ∧
        final.Finds repr c.username (some refreshed) ∧
        pre.user.priv ∪ expected ⊆ refreshed.user.priv) :
    Provisioned repr c r (first :: second :: patch :: rest)
  /-- No account has the name, and the answer to the creation of one shows none. -/
  | notCreated {r : Except ClientError AccountResult} {first creation : Sent}
    {expected : Finset String} (h : Creation repr c expected first creation)
    (houtcome : ∀ result, r = .ok result → result.outcome = .failed) :
    Provisioned repr c r [first, creation]
  /-- An account is made, and only its privileges are changed. -/
  | created {r : Except ClientError AccountResult} {first creation : Sent} {rest : List Sent}
    {created : UserRecord} {expected : Finset String}
    (h : Creation repr c expected first creation)
    (hanswer : outcomeOf (userRecordOf "create_user") creation.answer = .ok created)
    (hrest : ∀ x ∈ rest, x.Follows c created)
    (houtcome : ∀ result, r = .ok result → result.outcome = .failed ∨
      result.outcome = .completed ∧
        Verified repr c expected created result (first :: creation :: rest)) :
    Provisioned repr c r (first :: creation :: rest)

/-- The transports raise nothing else than what counts as a `TransportError`. -/
def Network.RaisesOnly {σ : Type} (net : Network σ) (isTransportError : Error → Bool) : Prop :=
  (∀ channel request world e, (net.request channel request world).1 = .error e →
    isTransportError e = true) ∧
  ∀ username password world e, (net.construct username password world).1 = .error e →
    isTransportError e = true

/-- A run reports where it stopped: it returns, and if it made an account and failed, then with its
failed transaction. -/
structure ReportsStop (c : ProvisioningCall) (r : Except ClientError AccountResult)
    (sent : List Sent) : Prop where
  returns : ∃ result, r = .ok result
  failed : ∀ result, r = .ok result → result.outcome = .failed →
    (∃ x ∈ sent, ∃ expected, x.request = .createUser c.username c.password c.userDescr expected) →
    ∃ t detail, result.transaction = some t ∧ t.state = .failed ∧ t.failureDetail = some detail

/-- What holds at the end of every run. -/
structure ProvisioningEnds {σ : Type} (repr : String → String) (net : Network σ)
    (isTransportError : Error → Bool) (c : ProvisioningCall)
    (r : Except ClientError AccountResult) (sent : List Sent) : Prop where
  shape : Provisioned repr c r sent
  reports : (∀ x ∈ sent, ¬x.Raised) → net.RaisesOnly isTransportError → ReportsStop c r sent
  raises : (∃ x ∈ sent, x.Raised) → ∃ e, r = .error e

section

variable {σ : Type} {repr : String → String} {net : Network σ} {isTransportError : Error → Bool}
  {c : ProvisioningCall} {expected : Finset String} {s : Session σ}

/-- The privilege to make a key is never among those that are derived. -/
theorem bootstrapOnlyPrivilege_notMem
    (h : deriveExpectedPrivileges repr c.schema c.targetProfile = .ok expected) :
    bootstrapOnlyPrivilege ∉ expected := by
  intro hmem
  exact ne_of_ending (derived_eq_get_or_patch repr h hmem) (by decide) (by decide) rfl

/-! ### Runs that change nothing -/

theorem mutates_listUsers : ProvisioningRequest.listUsers.mutates = false := rfl

theorem not_raised_of_answer {channel : Channel} {request : ProvisioningRequest}
    {response : TransportResponse} (h : s.answer net channel request = .ok response) :
    ¬Sent.Raised ⟨channel, request, s.answer net channel request⟩ := by
  rintro ⟨-, e, he⟩
  rw [h] at he
  contradiction

/-- Runs that only read: they return a result, or the last read raised. -/
theorem ends_of_reads {sent : List Sent} {result : AccountResult}
    (hsent : ∀ x ∈ sent, x.request = .listUsers ∧ ¬x.Raised)
    (houtcome : result.outcome ≠ .privilegesSynced ∧ result.outcome ≠ .completed) :
    ProvisioningEnds repr net isTransportError c (.ok result) sent where
  shape := by
    refine .unchanged (fun x hx => (hsent x hx).1 ▸ mutates_listUsers) ?_
    rintro _ ⟨⟩
    exact houtcome
  reports := by
    refine fun _ _ => ⟨⟨result, rfl⟩, ?_⟩
    rintro _ - - ⟨x, hx, expected, hrequest⟩
    rw [(hsent x hx).1] at hrequest
    contradiction
  raises := fun ⟨x, hx, hraised⟩ => absurd hraised (hsent x hx).2

/-- What raises an error returns no result. -/
theorem not_returned {e : ClientError} {P : AccountResult → Prop} :
    ∀ result, (.error e : Except ClientError AccountResult) = .ok result → P result := by
  intro result h
  contradiction

/-- Runs that a transport ends. -/
theorem ends_of_raised {sent : List Sent} {e : ClientError} {x : Sent} (hx : x ∈ sent)
    (hraised : x.Raised) (hshape : Provisioned repr c (.error e) sent) :
    ProvisioningEnds repr net isTransportError c (.error e) sent where
  shape := hshape
  reports := fun h => absurd hraised (h x hx)
  raises := fun _ => ⟨e, rfl⟩

/-! ### Reads -/

/-- The rule of a request of the administrator whose errors are handled: what is added to the
record, and how the code goes on. -/
theorem wp_request_bind {α : Type} {request : ProvisioningRequest}
    {parse : TransportResponse → Except ClientError α}
    {f : Except String α → ClientOp σ AccountResult}
    {post : Except ClientError AccountResult → Session σ → Prop}
    (hparse : ∀ response, OnlyProvisioning (parse response))
    (hraise : ∀ x e s', x.request = request → x.Raised → s'.sent = s.sent ++ [x] →
      post (.error (.other e)) s')
    (hrefuse : ∀ x message s', x.channel = .admin → x.request = request → ¬x.Raised →
      s'.sent = s.sent ++ [x] → wp .alone (f (.error message)) post s')
    (hok : ∀ x a s', x.channel = .admin → x.request = request → ¬x.Raised →
      s'.sent = s.sent ++ [x] → outcomeOf parse x.answer = .ok a → wp .alone (f (.ok a)) post s') :
    wp .alone (tryProvisioning (call net .admin request parse) >>= f) post s := by
  apply wp_try_call_bind hparse
  · intro e hanswer
    exact hraise _ e _ rfl ⟨rfl, e, hanswer⟩ rfl
  · intro response message hanswer
    exact hrefuse _ message _ rfl rfl (not_raised_of_answer hanswer) rfl
  · intro response a hanswer ha
    refine hok _ a _ rfl rfl (not_raised_of_answer hanswer) rfl ?_
    rw [hanswer]
    exact ha

/-- The rule of a read of the users whose errors are handled. -/
theorem wp_observe_bind {username : String}
    {f : Except String (Option UserRecord) → ClientOp σ AccountResult}
    {post : Except ClientError AccountResult → Session σ → Prop}
    (hraise : ∀ x e s', x.request = .listUsers → x.Raised → s'.sent = s.sent ++ [x] →
      post (.error (.other e)) s')
    (hrefuse : ∀ x message s', x.channel = .admin → x.request = .listUsers → ¬x.Raised →
      s'.sent = s.sent ++ [x] → wp .alone (f (.error message)) post s')
    (hok : ∀ x found s', x.Finds repr username found → ¬x.Raised → s'.sent = s.sent ++ [x] →
      wp .alone (f (.ok found)) post s') :
    wp .alone (tryProvisioning (observeUser? repr net username) >>= f) post s := by
  rw [observeUser?_eq]
  apply wp_request_bind (onlyProvisioning_foundUserOf repr username) hraise hrefuse
  intro x found s' hchannel hrequest hx hsent hfound
  exact hok x found s' ⟨hchannel, hrequest, hfound⟩ hx hsent

/-- What `_find_user` finds has the name. -/
theorem name_of_findUser {users : List UserRecord} {username : String} {record : UserRecord}
    (h : findUser repr users username = .ok (some record)) : record.user.name = username := by
  unfold findUser at h
  split at h
  · cases h
  · rename_i found heq
    cases h
    have hmem : record ∈ users.filter fun record => record.user.name = username := by
      rw [heq]
      exact List.mem_singleton_self record
    simpa using List.of_mem_filter hmem
  · cases h

theorem Sent.Finds.name {x : Sent} {username : String} {record : UserRecord}
    (h : x.Finds repr username (some record)) : record.user.name = username := by
  obtain ⟨response, -, hresponse⟩ := exists_of_outcomeOf_eq_ok h.2.2
  rw [foundUserOf, except_bind_eq_ok] at hresponse
  obtain ⟨users, -, hfound⟩ := hresponse
  exact name_of_findUser hfound

/-! ### Existing accounts -/

/-- No account is made on the way of an existing account. -/
theorem not_createUser_of_sync {pre : UserRecord} {first second patch : Sent} {rest : List Sent}
    (h : Sync repr c expected pre first second patch) (hrest : ∀ x ∈ rest, x.request = .listUsers)
    {x : Sent} (hx : x ∈ first :: second :: patch :: rest) {priv : Finset String} :
    x.request ≠ .createUser c.username c.password c.userDescr priv := by
  obtain ⟨existing, hfirst, hsecond, -, hrequest⟩ := h.same
  rcases List.mem_cons.mp hx with rfl | hx
  · simp [hfirst.2.1]
  rcases List.mem_cons.mp hx with rfl | hx
  · simp [hsecond.2.1]
  rcases List.mem_cons.mp hx with rfl | hx
  · simp [hrequest]
  · simp [hrest x hx]

/-- Runs that change an existing account and return. -/
theorem ends_of_sync {pre : UserRecord} {first second patch : Sent} {rest : List Sent}
    {result : AccountResult} (h : Sync repr c expected pre first second patch)
    (hrest : ∀ x ∈ rest, x.request = .listUsers)
    (hunraised : ∀ x ∈ first :: second :: patch :: rest, ¬x.Raised)
    (houtcome : result.outcome = .failed ∨
      result.outcome = .privilegesSynced ∧ ∃ final refreshed, rest = [final] ∧
        final.Finds repr c.username (some refreshed) ∧
        pre.user.priv ∪ expected ⊆ refreshed.user.priv) :
    ProvisioningEnds repr net isTransportError c (.ok result)
      (first :: second :: patch :: rest) where
  shape := .synced h hrest (by rintro _ ⟨⟩; exact houtcome)
  reports := by
    refine fun _ _ => ⟨⟨result, rfl⟩, ?_⟩
    rintro _ - - ⟨x, hx, priv, hrequest⟩
    exact absurd hrequest (not_createUser_of_sync h hrest hx)
  raises := fun ⟨x, hx, hraised⟩ => absurd hraised (hunraised x hx)

/-- No report of a missing privilege, and nothing lost: the account has all that it was to get. -/
theorem union_subset_of_verified {observed pre : Finset String}
    (hmissing : ¬((computeAccountDrift repr expected observed).findings.any fun f =>
      f.kind = .privilegeMissing) = true)
    (hlost : ¬pre \ observed ≠ ∅) : pre ∪ expected ⊆ observed := by
  apply Finset.union_subset
  · rw [ne_eq, not_not, Finset.sdiff_eq_empty_iff_subset] at hlost
    exact hlost
  · intro p hp
    by_contra hnot
    obtain ⟨f, hf, hkind, -⟩ :=
      (missing_iff repr).mpr (Finset.mem_sdiff.mpr ⟨hp, hnot⟩)
    exact hmissing (List.any_eq_true.mpr ⟨f, hf, decide_eq_true hkind⟩)

/-- The read after the PATCH. -/
theorem wp_verifySync {existing pre : UserRecord} {first second patch : Sent}
    {before : DriftReport} (h : Sync repr c expected pre first second patch)
    (hname : existing.user.name = c.username) (hs : s.sent = [first, second, patch])
    (hunraised : ∀ x ∈ s.sent, ¬x.Raised) :
    wp .alone (verifySync repr net existing pre expected c.userDescr before)
      (fun r s' => ProvisioningEnds repr net isTransportError c r s'.sent) s := by
  rw [verifySync, hname]
  -- However the read ends, nothing is sent after it.
  have hread : ∀ {x : Sent}, x.request = .listUsers → ∀ y ∈ [x], y.request = .listUsers := by
    rintro x hx y hy
    rw [List.mem_singleton.mp hy, hx]
  have hall : ∀ {x : Sent}, ¬x.Raised → ∀ y ∈ [first, second, patch, x], ¬y.Raised := by
    intro x hx y hy
    rw [show [first, second, patch, x] = s.sent ++ [x] by rw [hs]; rfl] at hy
    rcases List.mem_append.mp hy with hy | hy
    · exact hunraised y hy
    · rwa [List.mem_singleton.mp hy]
  apply wp_observe_bind
  · intro x e s' hx hraised hsent
    rw [hsent, hs]
    exact ends_of_raised (x := x) (by simp) hraised (.synced h (hread hx) not_returned)
  · intro x message s' _ hx hx' hsent
    show ProvisioningEnds repr net isTransportError c _ s'.sent
    rw [hsent, hs]
    exact ends_of_sync h (hread hx) (hall hx') (.inl rfl)
  · intro x found s' hx hx' hsent
    have hfailed : ∀ result : AccountResult, result.outcome = .failed →
        ProvisioningEnds repr net isTransportError c (.ok result) s'.sent := by
      intro result hresult
      rw [hsent, hs]
      exact ends_of_sync h (hread hx.2.1) (hall hx') (.inl hresult)
    rcases found with _ | refreshed
    · exact hfailed _ rfl
    dsimp only
    split_ifs with hidentity hmissing hlost
    · exact hfailed _ rfl
    · exact hfailed _ rfl
    · exact hfailed _ rfl
    · show ProvisioningEnds repr net isTransportError c _ s'.sent
      rw [hsent, hs]
      refine ends_of_sync h (hread hx.2.1) (hall hx') (.inr ⟨rfl, x, refreshed, rfl, hx, ?_⟩)
      exact union_subset_of_verified hmissing hlost

/-- The last read before the PATCH, and the PATCH. -/
theorem wp_syncPrivileges {existing : UserRecord} {first : Sent} {before : DriftReport}
    (hderived : deriveExpectedPrivileges repr c.schema c.targetProfile = .ok expected)
    (hfirst : first.Finds repr c.username (some existing)) (hs : s.sent = [first])
    (hunraised : ¬first.Raised) :
    wp .alone (syncPrivileges repr net existing expected c.userDescr before)
      (fun r s' => ProvisioningEnds repr net isTransportError c r s'.sent) s := by
  rw [syncPrivileges, hfirst.name]
  have hreads : ∀ {x : Sent}, x.request = .listUsers → ¬x.Raised →
      ∀ y ∈ [first, x], y.request = .listUsers ∧ ¬y.Raised := by
    intro x hx hx' y hy
    rcases List.mem_pair.mp hy with rfl | rfl
    · exact ⟨hfirst.2.1, hunraised⟩
    · exact ⟨hx, hx'⟩
  apply wp_observe_bind
  · intro x e s' hx hraised hsent
    rw [hsent, hs]
    refine ends_of_raised (x := x) (by simp) hraised (.unchanged ?_ not_returned)
    intro y hy
    rcases List.mem_pair.mp hy with rfl | rfl
    · exact hfirst.2.1 ▸ mutates_listUsers
    · exact hx ▸ mutates_listUsers
  · intro x message s' _ hx hx' hsent
    show ProvisioningEnds repr net isTransportError c _ s'.sent
    rw [hsent, hs]
    exact ends_of_reads (hreads hx hx') ⟨nofun, nofun⟩
  · intro x found s' hx hx' hsent
    rw [hs] at hsent
    have hends : ∀ result : AccountResult,
        result.outcome ≠ .privilegesSynced ∧ result.outcome ≠ .completed →
        ProvisioningEnds repr net isTransportError c (.ok result) s'.sent := by
      intro result hresult
      rw [hsent]
      exact ends_of_reads (hreads hx.2.1 hx') hresult
    dsimp only
    split
    · exact hends _ ⟨nofun, nofun⟩
    rename_i pre hpre
    rw [Option.filter_eq_some_iff] at hpre
    obtain ⟨rfl, hpre⟩ := hpre
    split_ifs with hbootstrap
    · exact hends _ ⟨nofun, nofun⟩
    have hid : pre.user.id = existing.user.id := (of_decide_eq_true hpre).1
    have hsync : ∀ {y : Sent}, y.channel = .admin →
        y.request = .updateUserPrivileges existing.id (pre.user.priv ∪ expected) →
        Sync repr c expected pre first x y := by
      intro y hchannel hrequest
      refine ⟨hderived, ⟨existing, hfirst, hx, hid, hrequest⟩, hchannel, ?_⟩
      rw [Finset.mem_union, not_or]
      exact ⟨hbootstrap, bootstrapOnlyPrivilege_notMem hderived⟩
    have hall : ∀ {y : Sent}, ¬y.Raised → ∀ z ∈ [first, x, y], ¬z.Raised := by
      intro y hy z hz
      simp only [List.mem_cons, List.not_mem_nil, or_false] at hz
      rcases hz with rfl | rfl | rfl
      · exact hunraised
      · exact hx'
      · exact hy
    have hnone : ∀ z ∈ ([] : List Sent), z.request = .listUsers := by simp
    rw [updateUserPrivileges]
    apply wp_request_bind (onlyProvisioning_userRecordOf _)
    · intro y e s'' hrequest hraised hsent'
      rw [hsent', hsent]
      exact ends_of_raised (x := y) (by simp) hraised
        (.synced (hsync hraised.1 hrequest) hnone not_returned)
    · intro y message s'' hchannel hrequest hy hsent'
      have hfailed : ∀ result : AccountResult, result.outcome = .failed →
          ProvisioningEnds repr net isTransportError c (.ok result) s''.sent := by
        intro result hresult
        rw [hsent', hsent]
        exact ends_of_sync (hsync hchannel hrequest) hnone (hall hy) (.inl hresult)
      exact hfailed _ rfl
    · intro y record s'' hchannel hrequest hy hsent' _
      rw [hsent] at hsent'
      apply wp_verifySync (hsync hchannel hrequest) hfirst.name hsent'
      rw [hsent']
      exact hall hy

/-- An account that exists. -/
theorem wp_provisionAgainstExistingAccount {existing : UserRecord} {first : Sent}
    (hderived : deriveExpectedPrivileges repr c.schema c.targetProfile = .ok expected)
    (hfirst : first.Finds repr c.username (some existing)) (hs : s.sent = [first])
    (hunraised : ¬first.Raised) :
    wp .alone (provisionAgainstExistingAccount repr net existing expected c.userDescr)
      (fun r s' => ProvisioningEnds repr net isTransportError c r s'.sent) s := by
  have hends : ∀ result : AccountResult,
      result.outcome ≠ .privilegesSynced ∧ result.outcome ≠ .completed →
      ProvisioningEnds repr net isTransportError c (.ok result) s.sent := by
    intro result hresult
    rw [hs]
    refine ends_of_reads (fun y hy => ?_) hresult
    rw [List.mem_singleton.mp hy]
    exact ⟨hfirst.2.1, hunraised⟩
  rw [provisionAgainstExistingAccount]
  dsimp only
  split_ifs
  · exact hends _ ⟨nofun, nofun⟩
  · exact hends _ ⟨nofun, nofun⟩
  · exact hends _ ⟨nofun, nofun⟩
  · exact hends _ ⟨nofun, nofun⟩
  · exact hends _ ⟨nofun, nofun⟩
  · exact wp_syncPrivileges hderived hfirst hs hunraised

/-! ### New accounts -/

/-- An account was made, and no request of the administrator has failed in transport. -/
structure Underway (repr : String → String) (c : ProvisioningCall) (expected : Finset String)
    (created : UserRecord) (sent : List Sent) : Prop where
  record : ∃ first creation rest, sent = first :: creation :: rest ∧
    Creation repr c expected first creation ∧
    outcomeOf (userRecordOf "create_user") creation.answer = .ok created ∧
    ∀ x ∈ rest, x.Follows c created
  unraised : ∀ x ∈ sent, ¬x.Raised

namespace Underway

variable {created : UserRecord} {sent : List Sent}

/-- The shape of the record does not depend on the last request having been answered. -/
theorem shape (h : Underway repr c expected created sent) {rest : List Sent}
    (hrest : ∀ x ∈ rest, x.Follows c created) {r : Except ClientError AccountResult}
    (houtcome : ∀ result, r = .ok result → result.outcome = .failed ∨
      result.outcome = .completed ∧ Verified repr c expected created result (sent ++ rest)) :
    Provisioned repr c r (sent ++ rest) := by
  obtain ⟨first, creation, before, rfl, hcreation, hanswer, hbefore⟩ := h.record
  refine .created hcreation hanswer (fun x hx => ?_) houtcome
  exact (List.mem_append.mp hx).elim (hbefore x) (hrest x)

theorem append (h : Underway repr c expected created sent) {x : Sent} (hx : x.Follows c created)
    (hx' : ¬x.Raised) : Underway repr c expected created (sent ++ [x]) where
  record := by
    obtain ⟨first, creation, rest, rfl, hcreation, hanswer, hrest⟩ := h.record
    refine ⟨first, creation, rest ++ [x], rfl, hcreation, hanswer, fun y hy => ?_⟩
    rcases List.mem_append.mp hy with hy | hy
    · exact hrest y hy
    · rwa [List.mem_singleton.mp hy]
  unraised := by
    intro y hy
    rcases List.mem_append.mp hy with hy | hy
    · exact h.unraised y hy
    · rwa [List.mem_singleton.mp hy]

/-- A transport ends the run. -/
theorem ends_raised (h : Underway repr c expected created sent) {x : Sent}
    (hx : x.Follows c created) (hraised : x.Raised) {e : ClientError} :
    ProvisioningEnds repr net isTransportError c (.error e) (sent ++ [x]) := by
  apply ends_of_raised (List.mem_append_right _ (List.mem_singleton_self x)) hraised
  refine h.shape (fun y hy => ?_) not_returned
  rwa [List.mem_singleton.mp hy]

/-- Another exception ends the run. -/
theorem ends_error (h : Underway repr c expected created sent) {e : ClientError}
    (hnet : ¬net.RaisesOnly isTransportError) :
    ProvisioningEnds repr net isTransportError c (.error e) sent where
  shape := by
    have hnone : ∀ x ∈ ([] : List Sent), x.Follows c created := by simp
    simpa using h.shape (r := .error e) hnone not_returned
  reports := fun _ h => absurd h hnet
  raises := fun _ => ⟨e, rfl⟩

/-- The run returns a result. -/
theorem ends_ok (h : Underway repr c expected created sent) {result : AccountResult}
    (houtcome : (result.outcome = .failed ∧ ∃ t detail, result.transaction = some t ∧
        t.state = .failed ∧ t.failureDetail = some detail) ∨
      result.outcome = .completed ∧ Verified repr c expected created result sent) :
    ProvisioningEnds repr net isTransportError c (.ok result) sent where
  shape := by
    have hnone : ∀ x ∈ ([] : List Sent), x.Follows c created := by simp
    have hshape := h.shape (r := .ok result) hnone
    rw [List.append_nil] at hshape
    apply hshape
    rintro _ ⟨⟩
    exact houtcome.imp And.left id
  reports := by
    refine fun _ _ => ⟨⟨result, rfl⟩, ?_⟩
    rintro _ ⟨⟩ hfailed -
    rcases houtcome with ⟨-, htransaction⟩ | ⟨hcompleted, -⟩
    · exact htransaction
    · rw [hcompleted] at hfailed
      contradiction
  raises := fun ⟨x, hx, hraised⟩ => absurd hraised (h.unraised x hx)

/-- The transaction fails, and the run returns it. -/
theorem wp_failTransaction (h : Underway repr c expected created s.sent) {t : BootstrapTransaction}
    (ht : t.state ≠ .verified ∧ t.state ≠ .failed) (detail : String) :
    wp .alone (failTransaction t detail)
      (fun r s' => ProvisioningEnds repr net isTransportError c r s'.sent) s := by
  have hfail : t.fail detail = .ok ⟨.failed, t.privileges, some detail⟩ :=
    if_neg (not_or.mpr ht)
  rw [failTransaction, hfail]
  exact h.ends_ok (.inl ⟨rfl, _, detail, rfl, rfl, rfl⟩)

/-- The transaction goes on, or it fails and the run returns it. -/
theorem wp_advance (h : Underway repr c expected created s.sent) {t : BootstrapTransaction}
    (ht : t.state ≠ .verified ∧ t.state ≠ .failed) {target : BootstrapState}
    {privileges : Finset String} {after : String}
    {next : BootstrapTransaction → ClientOp σ AccountResult}
    (hnext : ∀ t' : BootstrapTransaction, t'.state = target →
      wp .alone (next t') (fun r s' => ProvisioningEnds repr net isTransportError c r s'.sent) s) :
    wp .alone (advance t target privileges after next)
      (fun r s' => ProvisioningEnds repr net isTransportError c r s'.sent) s := by
  rw [advance]
  split
  · rename_i t' heq
    rw [BootstrapTransaction.transition] at heq
    split_ifs at heq
    rw [except_bind_eq_ok] at heq
    obtain ⟨-, -, ⟨⟩⟩ := heq
    exact hnext _ rfl
  · exact h.wp_failTransaction ht _

/-- A change of the privileges of the account. -/
theorem wp_update_bind (h : Underway repr c expected created s.sent) {priv : Finset String}
    {f : Except String UserRecord → ClientOp σ AccountResult}
    (hf : ∀ r x s', s'.sent = s.sent ++ [x] → Underway repr c expected created s'.sent →
      wp .alone (f r) (fun r s' => ProvisioningEnds repr net isTransportError c r s'.sent) s') :
    wp .alone (tryProvisioning (updateUserPrivileges net created.id priv) >>= f)
      (fun r s' => ProvisioningEnds repr net isTransportError c r s'.sent) s := by
  rw [updateUserPrivileges]
  apply wp_request_bind (onlyProvisioning_userRecordOf _)
  · intro x e s' hrequest hraised hsent
    rw [hsent]
    exact h.ends_raised (.inl ⟨hraised.1, .inr ⟨priv, hrequest⟩⟩) hraised
  · intro x message s' hchannel hrequest hx hsent
    refine hf _ x s' hsent ?_
    rw [hsent]
    exact h.append (.inl ⟨hchannel, .inr ⟨priv, hrequest⟩⟩) hx
  · intro x record s' hchannel hrequest hx hsent _
    refine hf _ x s' hsent ?_
    rw [hsent]
    exact h.append (.inl ⟨hchannel, .inr ⟨priv, hrequest⟩⟩) hx

/-- A read of the account that has to show it as it should be. -/
theorem wp_rereadAndCheck_bind (h : Underway repr c expected created s.sent)
    {priv : Finset String} {f : Bool → ClientOp σ AccountResult}
    (hfalse : ∀ s', Underway repr c expected created s'.sent →
      wp .alone (f false) (fun r s' => ProvisioningEnds repr net isTransportError c r s'.sent) s')
    (htrue : ∀ final record s', s'.sent = s.sent ++ [final] →
      final.Finds repr c.username (some record) → record.user.id = created.user.id →
      record.user.disabled = false → record.user.descr = c.userDescr → record.user.priv = priv →
      Underway repr c expected created s'.sent →
      wp .alone (f true) (fun r s' => ProvisioningEnds repr net isTransportError c r s'.sent) s') :
    wp .alone (rereadAndCheck repr net c.username priv created.user.id c.userDescr >>= f)
      (fun r s' => ProvisioningEnds repr net isTransportError c r s'.sent) s := by
  rw [rereadAndCheck, bind_assoc]
  apply wp_observe_bind
  · intro x e s' hrequest hraised hsent
    rw [hsent]
    exact h.ends_raised (.inl ⟨hraised.1, .inl hrequest⟩) hraised
  · intro x message s' hchannel hrequest hx hsent
    refine hfalse s' ?_
    rw [hsent]
    exact h.append (.inl ⟨hchannel, .inl hrequest⟩) hx
  · intro x found s' hfound hx hsent
    have hunderway : Underway repr c expected created s'.sent := by
      rw [hsent]
      exact h.append (.inl ⟨hfound.1, .inl hfound.2.1⟩) hx
    rcases found with _ | record
    · exact hfalse s' hunderway
    show wp .alone (f (decide _)) _ s'
    by_cases hrecord : record.user.id = created.user.id ∧ record.user.descr = c.userDescr ∧
        (!record.user.disabled) = true ∧ record.user.priv = priv
    · rw [decide_eq_true hrecord]
      obtain ⟨hid, hdescr, henabled, hpriv⟩ := hrecord
      rw [Bool.not_eq_true'] at henabled
      exact htrue x record s' hsent hfound hid henabled hdescr hpriv hunderway
    · rw [decide_eq_false hrecord]
      exact hfalse s' hunderway

/-- The last part: the privilege to make a key is taken back. -/
theorem wp_revokeBootstrapPrivilege (h : Underway repr c expected created s.sent)
    (hbootstrap : bootstrapOnlyPrivilege ∉ expected) {apiKey : ProvisionedApiKey}
    (hkey : ∃ x ∈ s.sent, x.request = .createAuthKey c.keyDescr ∧
      outcomeOf (provisionedApiKeyOf c.keyDescr) x.answer = .ok apiKey)
    {t : BootstrapTransaction} (ht : t.state = .keyGenerated) :
    wp .alone (revokeBootstrapPrivilege repr net c expected created apiKey t)
      (fun r s' => ProvisioningEnds repr net isTransportError c r s'.sent) s := by
  have hopen : t.state ≠ .verified ∧ t.state ≠ .failed := by
    rw [ht]
    exact ⟨nofun, nofun⟩
  rw [revokeBootstrapPrivilege]
  refine h.wp_update_bind fun r x s' hsent h' => ?_
  rcases r with message | record
  · exact h'.wp_failTransaction hopen _
  apply h'.wp_rereadAndCheck_bind
  · intro s'' h''
    exact h''.wp_failTransaction hopen _
  intro final record s'' hsent' hfound hid henabled hdescr hpriv h''
  refine h''.wp_advance hopen fun t' ht' => ?_
  have hopen' : t'.state ≠ .verified ∧ t'.state ≠ .failed := by
    rw [ht']
    exact ⟨nofun, nofun⟩
  refine h''.wp_advance hopen' fun t'' _ => ?_
  -- The read that was just made is the last one, and the key was made before it.
  apply h''.ends_ok
  refine .inr ⟨rfl, ⟨final, record, ?_, hfound, hid, henabled, hdescr, hpriv, ?_⟩, ?_⟩
  · rw [hsent', List.getLast?_concat]
  · rwa [hpriv]
  · obtain ⟨y, hy, hrequest, hanswer⟩ := hkey
    refine ⟨y, ?_, apiKey, hrequest, hanswer, rfl⟩
    rw [hsent', hsent]
    exact List.mem_append_left _ (List.mem_append_left _ hy)

/-- The third part: the account makes its key. -/
theorem wp_generateApiKey (h : Underway repr c expected created s.sent)
    (hbootstrap : bootstrapOnlyPrivilege ∉ expected) {t : BootstrapTransaction}
    (ht : t.state = .bootstrapPrivilegeGranted) :
    wp .alone (generateApiKey repr net isTransportError c expected created t)
      (fun r s' => ProvisioningEnds repr net isTransportError c r s'.sent) s := by
  have hopen : t.state ≠ .verified ∧ t.state ≠ .failed := by
    rw [ht]
    exact ⟨nofun, nofun⟩
  -- An exception of the transport is handled here, unless it is of another kind.
  have hother : ∀ {s' : Session σ} {e : Error}, Underway repr c expected created s'.sent →
      (net.RaisesOnly isTransportError → isTransportError e = true) → ∀ detail,
      wp .alone (if isTransportError e then failTransaction t detail else raise (.other e))
        (fun r s' => ProvisioningEnds repr net isTransportError c r s'.sent) s' := by
    intro s' e h' he detail
    split_ifs with hkind
    · exact h'.wp_failTransaction hopen _
    · exact h'.ends_error fun hnet => hkind (he hnet)
  rw [generateApiKey]
  rw [wp_bind, wp_attempt, wp_bind, wp_constructTransport]
  have hmade : Underway repr c expected created
      (s.afterConstruct net c.username c.password).sent := h
  rcases hconstruct : (net.construct c.username c.password s.world).1 with e | u
  · exact hother hmade (fun hnet => hnet.2 _ _ _ e hconstruct) _
  show wp .alone (call net _ _ _) _ (s.afterConstruct net c.username c.password)
  rw [wp_call]
  -- The record after the request of the account, whatever the answer.
  have h' : Underway repr c expected created ((s.afterConstruct net c.username c.password).after net
      (.selfService c.username c.password) (.createAuthKey c.keyDescr)).sent := by
    rw [Session.after_sent]
    refine hmade.append (.inr ⟨rfl, rfl⟩) ?_
    rintro ⟨hchannel, -⟩
    contradiction
  rcases hanswer : (s.afterConstruct net c.username c.password).answer net
      (.selfService c.username c.password) (.createAuthKey c.keyDescr) with e | response
  · exact hother h' (fun hnet => hnet.1 _ _ _ e hanswer) _
  rcases hresult : provisionedApiKeyOf c.keyDescr response with e | apiKey
  · obtain ⟨message, status, rfl⟩ := onlyProvisioning_provisionedApiKeyOf _ _ e hresult
    rw [outcomeOf_ok, hresult]
    exact h'.wp_failTransaction hopen _
  rw [outcomeOf_ok, hresult]
  refine h'.wp_advance hopen fun t' ht' => h'.wp_revokeBootstrapPrivilege hbootstrap ?_ ht'
  rw [Session.after_sent, hanswer]
  exact ⟨_, List.mem_append_right _ (List.mem_singleton_self _), rfl, hresult⟩

/-- The second part: the privilege to make a key is granted. -/
theorem wp_grantBootstrapPrivilege (h : Underway repr c expected created s.sent)
    (hbootstrap : bootstrapOnlyPrivilege ∉ expected) {t : BootstrapTransaction}
    (ht : t.state = .userCreated) :
    wp .alone (grantBootstrapPrivilege repr net isTransportError c expected created t)
      (fun r s' => ProvisioningEnds repr net isTransportError c r s'.sent) s := by
  have hopen : t.state ≠ .verified ∧ t.state ≠ .failed := by
    rw [ht]
    exact ⟨nofun, nofun⟩
  rw [grantBootstrapPrivilege]
  refine h.wp_update_bind fun r x s' _ h' => ?_
  rcases r with message | record
  · exact h'.wp_failTransaction hopen _
  apply h'.wp_rereadAndCheck_bind
  · intro s'' h''
    exact h''.wp_failTransaction hopen _
  · intro final record s'' _ _ _ _ _ _ h''
    exact h''.wp_advance hopen fun t' ht' => h''.wp_generateApiKey hbootstrap ht'

end Underway

/-- A new account. -/
theorem wp_provisionNewAccount {first : Sent}
    (hderived : deriveExpectedPrivileges repr c.schema c.targetProfile = .ok expected)
    (hfirst : first.Finds repr c.username none) (hs : s.sent = [first])
    (hunraised : ¬first.Raised) :
    wp .alone (provisionNewAccount repr net isTransportError c expected)
      (fun r s' => ProvisioningEnds repr net isTransportError c r s'.sent) s := by
  have hopen : BootstrapState.notStarted ≠ .verified ∧ BootstrapState.notStarted ≠ .failed :=
    ⟨nofun, nofun⟩
  have hcreation : ∀ {x : Sent}, x.channel = .admin →
      x.request = .createUser c.username c.password c.userDescr expected →
      Creation repr c expected first x := fun hchannel hrequest =>
    ⟨hderived, hfirst, hchannel, hrequest⟩
  rw [provisionNewAccount]
  apply wp_request_bind (onlyProvisioning_userRecordOf _)
  · intro x e s' hrequest hraised hsent
    rw [hsent, hs]
    exact ends_of_raised (x := x) (by simp) hraised
      (.notCreated (hcreation hraised.1 hrequest) not_returned)
  · intro x message s' hchannel hrequest hx hsent
    rw [hs] at hsent
    have hends : ∀ t : BootstrapTransaction, t.state = .failed → t.failureDetail.isSome →
        ProvisioningEnds repr net isTransportError c (.ok (failedResult t)) s'.sent := by
      intro t hstate hdetail
      obtain ⟨detail, hdetail⟩ := Option.isSome_iff_exists.mp hdetail
      refine ⟨?_, fun _ _ => ⟨⟨_, rfl⟩, ?_⟩, ?_⟩
      · rw [hsent]
        refine .notCreated (hcreation hchannel hrequest) ?_
        rintro _ ⟨⟩
        rfl
      · rintro _ ⟨⟩ - -
        exact ⟨t, detail, rfl, hstate, hdetail⟩
      · rintro ⟨y, hy, hraised⟩
        rw [hsent] at hy
        rcases List.mem_pair.mp hy with rfl | rfl
        · exact absurd hraised hunraised
        · exact absurd hraised hx
    rw [failTransaction, BootstrapTransaction.fail, if_neg (not_or.mpr hopen)]
    exact hends _ rfl rfl
  · intro x created s' hchannel hrequest hx hsent hanswer
    have h : Underway repr c expected created s'.sent := by
      rw [hsent, hs]
      refine ⟨⟨first, x, [], rfl, hcreation hchannel hrequest, hanswer, by simp⟩, ?_⟩
      intro y hy
      rcases List.mem_pair.mp hy with rfl | rfl
      · exact hunraised
      · exact hx
    apply h.wp_rereadAndCheck_bind
    · intro s'' h'
      exact h'.wp_failTransaction hopen _
    · intro final record s'' _ _ _ _ _ _ h'
      exact h'.wp_advance hopen fun t ht =>
        h'.wp_grantBootstrapPrivilege (bootstrapOnlyPrivilege_notMem hderived) ht

/-- Whatever the transports do, a provisioning ends in one of the shapes, and it reports where it
stopped if the transport of the administrator raised nothing. -/
theorem wp_provisionServiceAccount (hs : s.sent = []) :
    wp .alone (provisionServiceAccount repr net isTransportError c)
      (fun r s' => ProvisioningEnds repr net isTransportError c r s'.sent) s := by
  have hends : ∀ result : AccountResult,
      result.outcome ≠ .privilegesSynced ∧ result.outcome ≠ .completed →
      ProvisioningEnds repr net isTransportError c (.ok result) s.sent := by
    intro result hresult
    rw [hs]
    exact ends_of_reads (by simp) hresult
  rw [provisionServiceAccount]
  split
  · exact hends _ ⟨nofun, nofun⟩
  split
  · exact hends _ ⟨nofun, nofun⟩
  rename_i expected hderived
  apply wp_observe_bind
  · intro x e s' hrequest hraised hsent
    rw [hsent, hs]
    refine ends_of_raised (List.mem_singleton_self x) hraised
      (.unchanged (fun y hy => ?_) not_returned)
    rw [List.mem_singleton.mp hy, hrequest]
    rfl
  · intro x message s' _ hrequest hx hsent
    have hreads : ∀ y ∈ s'.sent, y.request = .listUsers ∧ ¬y.Raised := by
      intro y hy
      rw [hsent, hs] at hy
      rw [List.mem_singleton.mp hy]
      exact ⟨hrequest, hx⟩
    exact ends_of_reads hreads ⟨nofun, nofun⟩
  · intro x found s' hfound hx hsent
    rw [hs] at hsent
    rcases found with _ | existing
    · exact wp_provisionNewAccount hderived hfound hsent hx
    · exact wp_provisionAgainstExistingAccount hderived hfound hsent hx

/-- Where the outcome says so, no change was asked for. -/
theorem Provisioned.mutates_eq_false {r : Except ClientError AccountResult} {sent : List Sent}
    (h : Provisioned repr c r sent) {result : AccountResult} (hr : r = .ok result)
    (houtcome : result.outcome ≠ .failed ∧ result.outcome ≠ .privilegesSynced ∧
      result.outcome ≠ .completed) : ∀ x ∈ sent, x.request.mutates = false := by
  obtain ⟨hfailed, hsynced, hcompleted⟩ := houtcome
  rcases h with ⟨hsent, -⟩ | ⟨-, -, h⟩ | ⟨-, h⟩ | ⟨-, -, -, h⟩
  · exact hsent
  · exact (h result hr).elim (absurd · hfailed) fun h => absurd h.1 hsynced
  · exact absurd (h result hr) hfailed
  · exact (h result hr).elim (absurd · hfailed) fun h => absurd h.1 hcompleted

end

/-! ### Every run -/

/-- A run of the provisioning from its start. -/
def provisioningRun {σ : Type} (repr : String → String) (net : Network σ)
    (isTransportError : Error → Bool) (c : ProvisioningCall) (world : σ) :
    Ending (Session σ) Unit ClientError AccountResult :=
  (provisionServiceAccount repr net isTransportError c).run (fun _ => ()) ⟨world, []⟩

/-- Whatever the transports do: an existing account is only given what it misses, and success is
reported only of what the last read shows; of a new account, only its own id is changed, and it is
complete only as the last read shows it. An outcome that says that nothing was changed is right. -/
theorem provisionServiceAccount_safe {σ : Type} (repr : String → String) (net : Network σ)
    (isTransportError : Error → Bool) (c : ProvisioningCall) (world : σ) :
    let ending := provisioningRun repr net isTransportError c world
    Provisioned repr c ending.result ending.state.sent ∧
      ∀ result, ending.result = .ok result →
        result.outcome ∈ [.derivationFailed, .alreadySatisfied,
          .alreadySatisfiedWithExtraPrivileges, .blockedExistingPartial] →
        ∀ x ∈ ending.state.sent, x.request.mutates = false := by
  intro ending
  have hends : ProvisioningEnds repr net isTransportError c ending.result ending.state.sent :=
    run_of_wp_alone (wp_provisionServiceAccount rfl) _
  refine ⟨hends.shape, fun result hresult houtcome => hends.shape.mutates_eq_false hresult ?_⟩
  simp only [List.mem_cons, List.not_mem_nil, or_false] at houtcome
  rcases houtcome with h | h | h | h <;> simp [h]

/-- If the first read ends in an exception of the transport, so does the provisioning. -/
theorem result_of_first_raises {σ : Type} {repr : String → String} {net : Network σ}
    {isTransportError : Error → Bool} {c : ProvisioningCall} {expected : Finset String} {world : σ}
    (hversion : checkPackageVersion c.installedPackageVersion = none)
    (hderived : deriveExpectedPrivileges repr c.schema c.targetProfile = .ok expected) {e : Error}
    (hanswer : (net.request .admin .listUsers world).1 = .error e) :
    (provisioningRun repr net isTransportError c world).result = .error (.other e) := by
  have h : wp .alone (provisionServiceAccount repr net isTransportError c)
      (fun r _ => r = .error (.other e)) ⟨world, []⟩ := by
    rw [provisionServiceAccount, hversion, hderived, observeUser?_eq]
    apply wp_try_call_bind (onlyProvisioning_foundUserOf _ _)
    · intro e' hanswer'
      exact congrArg (Except.error ∘ ClientError.other)
        (Except.error.inj (hanswer'.symm.trans hanswer))
    · intro response message hanswer'
      exact absurd (hanswer'.symm.trans hanswer) nofun
    · intro response found hanswer'
      exact absurd (hanswer'.symm.trans hanswer) nofun
  exact run_of_wp_alone h _

/-- Transports that answer no request. -/
def silentNetwork : Network Unit where
  request _ _ world := (.error ⟨.transportTimeout, "timed out"⟩, world)
  construct _ _ world := (.ok (), world)

/-- A call with a schema that describes the endpoints. -/
def sampleCall : ProvisioningCall where
  username := "svc-mcp"
  targetProfile := .readOnly
  schema := some (describedSchema .readOnly)
  password := "made-up"

end Administration
