import Mathlib.Data.Nat.Notation
import PfsenseMcp.Signing.Verification
import PfsenseMcp.Tier1.Consumption
import PfsenseMcp.Tier1.ResumePrepared

/-!
# The execution coordinator

`ExecutionCoordinator.authorize_and_consume` of `tier1/execution_coordinator.py` passes the gates of
`security_authorization_verifier.py` and `security_plan_freshness.py`, and then consumes the
authorization. Any number of coordinators, and other callers of `try_consume`, share one store.

## Main results

* `consumption_of_reachable`: in every run, an identifier is answered with `True` at most once, and
  with `False` only if its row is there;
* `granted_of_reachable`: a call that is granted has passed every gate and has consumed its
  authorization, no other call is granted for it, and a call for which a gate is shut consumes
  nothing.
-/

namespace Tier1

open Python Concurrency Procedure Posture
open Signing (verifyPlanAuthorizationSignature
  planAuthorizationAuthorizesStep verifyPlanDigest)

section Model

variable [Platform]

/-! ### The gates -/

omit [Platform] in
/-- `plan_authorization_is_current`; `now` is `none` if it is no time in UTC. -/
def planAuthorizationIsCurrent (authz : Signing.PlanAuthorization) (now : Option DateTime) :
    Except Error Bool :=
  match now with
  | none => fail (.other "SecurityAuthorizationError")
    "plan_authorization_is_current() requires a timezone-aware UTC 'now'."
  | some now => .ok (decide (now < authz.expiresAt))

/-- `plan_authorization_is_fresh`; `str` is the function of Python's standard library. -/
def planAuthorizationIsFresh (str : Json → String) (env : DiscoveryEnvironment)
    (targetCapabilityPosture : CapabilityPosture) (targetAnchorAssurance : AnchorAssurance)
    (expectedPlanDigest : Text) : Except Error Bool :=
  match (do
    let freshPlan ←
      generateSecurityPosturePlan str env targetCapabilityPosture targetAnchorAssurance
    verifyPlanDigest freshPlan expectedPlanDigest) with
  | .ok fresh => .ok fresh
  | .error _ => fail (.other "PlanFreshnessError")
    "Unable to determine plan authorization freshness."

omit [Platform] in
/-- `except` one class: the gate is shut. -/
def catching (name : String) : Except Error Bool → Except Error Bool
  | .ok passed => .ok passed
  | .error e => if e.cls = .other name then .ok false else .error e

/-! ### The coordinator -/

/-- The arguments of `authorize_and_consume`. -/
structure AuthorizationRequest where
  authz : Signing.PlanAuthorization
  requestedPlanDigest : Text
  requestedStepId : Text
  targetCapabilityPosture : CapabilityPosture
  targetAnchorAssurance : AnchorAssurance
  now : Option DateTime

/-- `ExecutionCoordinator`, with what discovery uses of Python. -/
structure ExecutionCoordinator where
  authorities : VerifySignature
  consumptionStore : StoreIdentity
  str : Json → String

namespace ExecutionCoordinator

/-- `PreExecutionAuthorizationDenied`, unless the gate is open. -/
def gate (passed : Bool) : ConsumptionOp Unit :=
  .ofExcept (demand (passed = true) (.other "PreExecutionAuthorizationDenied")
    "Pre-execution authorization denied.")

variable (coordinator : ExecutionCoordinator)

/-- `_is_fresh`, on what a discovery finds. -/
def isFresh (request : AuthorizationRequest) (env : DiscoveryEnvironment) : Except Error Bool :=
  catching "PlanFreshnessError" (planAuthorizationIsFresh coordinator.str env
    request.targetCapabilityPosture request.targetAnchorAssurance
    (Text.ofString request.authz.planDigest))

/-- `_try_consume`. -/
def tryConsume (call : ℕ) (authorizationId : String) : ConsumptionOp Bool := do
  let answer ←
    (AuthorizationConsumptionStore.answer coordinator.consumptionStore call authorizationId).attempt
  .ofExcept (catching "AuthorizationConsumptionError" answer)

/-- `authorize_and_consume`: it returns if the authorization is granted. -/
def authorizeAndConsume (call : ℕ) (request : AuthorizationRequest) : ConsumptionOp Unit := do
  gate (request.requestedStepId ≠ [])
  let signed ← .ofExcept (verifyPlanAuthorizationSignature request.authz coordinator.authorities)
  gate signed
  let current ← .ofExcept (catching "SecurityAuthorizationError"
    (planAuthorizationIsCurrent request.authz request.now))
  gate current
  let authorized ← .ofExcept (planAuthorizationAuthorizesStep request.authz
    request.requestedPlanDigest request.requestedStepId)
  gate authorized
  let fresh ← AuthorizationConsumptionStore.look fun i _ => coordinator.isFresh request i.discovery
  gate fresh
  let first ← coordinator.tryConsume call request.authz.authorizationId
  gate first

/-- Every gate before the consumption is open. -/
structure Passes (request : AuthorizationRequest) : Prop where
  step : request.requestedStepId ≠ []
  signed : verifyPlanAuthorizationSignature request.authz coordinator.authorities = .ok true
  current : ∃ now, request.now = some now ∧ now < request.authz.expiresAt
  authorized : planAuthorizationAuthorizesStep request.authz request.requestedPlanDigest
    request.requestedStepId = .ok true
  fresh : ∃ env plan, generateSecurityPosturePlan coordinator.str env
    request.targetCapabilityPosture request.targetAnchorAssurance = .ok plan ∧
    verifyPlanDigest plan (Text.ofString request.authz.planDigest) = .ok true

end ExecutionCoordinator

/-- A call on the store. -/
inductive ConsumptionCall where
  /-- `authorize_and_consume`. -/
  | authorize (request : AuthorizationRequest)
  /-- `try_consume`, by someone else. -/
  | consume (authorizationId : String)

namespace ConsumptionCall

/-- The code of a call. -/
def code (coordinator : ExecutionCoordinator) (call : ℕ) : ConsumptionCall → ConsumptionOp Unit
  | authorize request => coordinator.authorizeAndConsume call request
  | consume authorizationId => do
    let _ ← AuthorizationConsumptionStore.answer coordinator.consumptionStore call authorizationId
    return ()

/-- What is known of a call when it inserts a row. -/
def Passed (coordinator : ExecutionCoordinator) (authorizationId : String) :
    ConsumptionCall → Prop
  | authorize request =>
    authorizationId = request.authz.authorizationId ∧ coordinator.Passes request
  | consume requested => authorizationId = requested

end ConsumptionCall

/-- The runs of calls on one store, which is empty at first. -/
def consumptionSystem (coordinator : ExecutionCoordinator) (calls : ℕ → ConsumptionCall) :
    System ConsumptionWorld ConsumptionAnswers Error where
  init s := s = {}
  program call p := p = (calls call).code coordinator call
  permit _ _ _ := True

/-! ### One call -/

section Call

open AuthorizationConsumptionStore ExecutionCoordinator

variable {coordinator : ExecutionCoordinator} {Passed : ℕ → String → Prop} {call : ℕ}
  {s : ConsumptionWorld}

omit [Platform] in
theorem ok_of_catching {name : String} {x : Except Error Bool} (h : catching name x = .ok true) :
    x = .ok true := by
  cases x with
  | ok passed => exact h
  | error e =>
    rw [catching] at h
    by_cases hname : e.cls = .other name
    · rw [if_pos hname] at h
      cases h
    · rw [if_neg hname] at h
      cases h

theorem wp_gate {store : StoreIdentity} {passed : Bool} {Q : Unit → ConsumptionWorld → Prop}
    (hpassed : passed = true → Q () s) :
    wp (consumptionContext store Passed) (gate passed) (Returning Q) s := by
  refine wp_ofExcept_returning fun u hgate => ?_
  by_cases h : passed = true
  · exact hpassed h
  · rw [demand, if_neg h] at hgate
    cases hgate

omit [Platform] in
theorem current_of_catching {authz : Signing.PlanAuthorization} {now : Option DateTime}
    (h : catching "SecurityAuthorizationError" (planAuthorizationIsCurrent authz now) = .ok true) :
    ∃ t, now = some t ∧ t < authz.expiresAt := by
  have h := ok_of_catching h
  cases now with
  | none => cases h
  | some t => exact ⟨t, rfl, of_decide_eq_true (Except.ok.inj h)⟩

theorem fresh_of_isFresh {request : AuthorizationRequest} {env : DiscoveryEnvironment}
    (h : coordinator.isFresh request env = .ok true) :
    ∃ plan, generateSecurityPosturePlan coordinator.str env request.targetCapabilityPosture
        request.targetAnchorAssurance = .ok plan ∧
      verifyPlanDigest plan (Text.ofString request.authz.planDigest) = .ok true := by
  have h := ok_of_catching h
  unfold planAuthorizationIsFresh at h
  split at h
  · rename_i fresh hplan
    cases h
    obtain ⟨plan, hplan, hdigest⟩ := bind_eq_ok.1 hplan
    exact ⟨plan, hplan, hdigest⟩
  · cases h

/-- A consumption that succeeds is an answer `True`. -/
theorem wp_coordinator_tryConsume {authorizationId : String}
    (hpassed : Passed call authorizationId) :
    wp (consumptionContext coordinator.consumptionStore Passed)
      (coordinator.tryConsume call authorizationId)
      (Returning fun first s => first = true → (call, authorizationId) ∈ s.inserted) s := by
  unfold ExecutionCoordinator.tryConsume
  rw [wp_bind, wp_attempt]
  refine wp_mono (wp_answer hpassed) fun r s hr => ?_
  rw [andThen_ok]
  refine wp_ofExcept_returning fun first hfirst hfirst' => ?_
  subst hfirst'
  rw [ok_of_catching hfirst] at hr
  exact hr.1 rfl

/-- A call that is granted has passed the gates, and has consumed the authorization. -/
theorem wp_authorizeAndConsume {request : AuthorizationRequest}
    (hpassed : coordinator.Passes request → Passed call request.authz.authorizationId) :
    wp (consumptionContext coordinator.consumptionStore Passed)
      (coordinator.authorizeAndConsume call request)
      (Returning fun _ s => coordinator.Passes request ∧
        (call, request.authz.authorizationId) ∈ s.inserted) s := by
  refine wp_seq (Q := fun _ _ => request.requestedStepId ≠ [])
    (wp_gate fun h => of_decide_eq_true h) fun _ s hstep => ?_
  refine wp_seq (Q := fun signed _ =>
      verifyPlanAuthorizationSignature request.authz coordinator.authorities = .ok signed)
    (wp_ofExcept_returning fun _ h => h) fun signed s hsigned => ?_
  refine wp_seq (Q := fun _ _ => signed = true) (wp_gate fun h => h) fun _ s h => ?_
  subst h
  refine wp_seq (Q := fun current _ => catching "SecurityAuthorizationError"
      (planAuthorizationIsCurrent request.authz request.now) = .ok current)
    (wp_ofExcept_returning fun _ h => h) fun current s hcurrent => ?_
  refine wp_seq (Q := fun _ _ => current = true) (wp_gate fun h => h) fun _ s h => ?_
  subst h
  refine wp_seq (Q := fun authorized _ => planAuthorizationAuthorizesStep request.authz
      request.requestedPlanDigest request.requestedStepId = .ok authorized)
    (wp_ofExcept_returning fun _ h => h) fun authorized s hauthorized => ?_
  refine wp_seq (Q := fun _ _ => authorized = true) (wp_gate fun h => h) fun _ s h => ?_
  subst h
  refine wp_seq (Q := fun fresh _ => ∃ env, coordinator.isFresh request env = .ok fresh)
    (wp_look fun i _ _ _ h => ⟨i.discovery, h⟩) fun fresh s hfresh => ?_
  refine wp_seq (Q := fun _ _ => fresh = true) (wp_gate fun h => h) fun _ s h => ?_
  subst h
  obtain ⟨env, hfresh⟩ := hfresh
  have hpasses : coordinator.Passes request :=
    ⟨hstep, hsigned, current_of_catching hcurrent, hauthorized, env, fresh_of_isFresh hfresh⟩
  refine wp_seq (wp_coordinator_tryConsume (hpassed hpasses)) fun first s hfirst => ?_
  exact wp_gate fun h => ⟨hpasses, hfirst h⟩

end Call

/-! ### All runs -/

section Runs

open AuthorizationConsumptionStore ExecutionCoordinator

/-- What holds once a call has been granted. -/
def Granted (coordinator : ExecutionCoordinator) (call : ℕ) (s : ConsumptionWorld) :
    ConsumptionCall → Prop
  | .authorize request =>
    coordinator.Passes request ∧ (call, request.authz.authorizationId) ∈ s.inserted
  | .consume _ => True

/-- What has to be shown of the calls one at a time. -/
def consumptionCertificate (coordinator : ExecutionCoordinator) (calls : ℕ → ConsumptionCall) :
    System.Certificate (consumptionSystem coordinator calls) where
  inv := Consumed coordinator.consumptionStore fun call authorizationId =>
    (calls call).Passed coordinator authorizationId
  rely _ := Grows
  guar _ := Grows
  fresh _ _ := True
  post call := Returning fun _ s => Granted coordinator call s (calls call)
  rely_refl _ s := List.Subset.refl _
  rely_trans _ := fun h h' => List.Subset.trans h h'
  rely_of_guar _ _ h := h
  fresh_of_guar _ _ _ := trivial
  post_stable := by
    intro call r s s' _ _ hgrows hpost
    cases r with
    | error e => trivial
    | ok u =>
      change Granted coordinator call s' (calls call)
      have hpost : Granted coordinator call s (calls call) := hpost
      cases hcall : calls call with
      | consume authorizationId => trivial
      | authorize request =>
        rw [hcall] at hpost
        exact ⟨hpost.1, hgrows hpost.2⟩
  of_init := by
    rintro s rfl
    exact ⟨consumed_start, fun _ => trivial⟩
  sound := by
    rintro call p s rfl - -
    cases hcall : calls call with
    | consume authorizationId =>
      have hpassed : (calls call).Passed coordinator authorizationId := by
        rw [hcall]
        rfl
      refine wp_seq (wp_answer hpassed) fun _ s _ => ?_
      trivial
    | authorize request =>
      have hpassed : coordinator.Passes request →
          (calls call).Passed coordinator request.authz.authorizationId := by
        intro hpasses
        rw [hcall]
        exact ⟨rfl, hpasses⟩
      refine wp_mono (wp_authorizeAndConsume hpassed) fun r s hr => ?_
      cases r with
      | error e => trivial
      | ok u => exact hr

variable {coordinator : ExecutionCoordinator} {calls : ℕ → ConsumptionCall}
  {cfg : Config ConsumptionWorld ConsumptionAnswers Error}

omit [Platform] in
/-- An identifier has been inserted by one call only. -/
theorem call_unique {s : ConsumptionWorld} (h : (s.inserted.map Prod.snd).Nodup)
    {call call' : ℕ} {authorizationId : String} (hcall : (call, authorizationId) ∈ s.inserted)
    (hcall' : (call', authorizationId) ∈ s.inserted) : call = call' :=
  congrArg Prod.fst (List.inj_on_of_nodup_map h hcall hcall' rfl)

/-- Whatever calls interleave, an authorization is consumed once. -/
theorem consumption_of_reachable (h : (consumptionSystem coordinator calls).Reachable cfg) :
    (∀ call call' authorizationId, (call, authorizationId, true) ∈ cfg.shared.answered →
      (call', authorizationId, true) ∈ cfg.shared.answered → call = call') ∧
    (∀ call authorizationId, (call, authorizationId, false) ∈ cfg.shared.answered →
      ∃ row ∈ cfg.shared.rows, row.authorizationId = authorizationId ∧
        rowMac coordinator.consumptionStore authorizationId row.consumedAt = .ok row.mac) ∧
    (cfg.shared.rows.map ConsumedRow.authorizationId).Nodup := by
  have hinv := ((consumptionCertificate coordinator calls).reachable h).inv
  have hinv : Consumed coordinator.consumptionStore (fun call authorizationId =>
    (calls call).Passed coordinator authorizationId) cfg.shared := hinv
  refine ⟨fun call call' authorizationId hcall hcall' => ?_,
    fun call authorizationId hcall => ?_, ?_⟩
  · exact call_unique hinv.nodup (hinv.first _ _ hcall) (hinv.first _ _ hcall')
  · obtain ⟨other, hother⟩ := hinv.replay _ _ hcall
    have hid : authorizationId ∈ cfg.shared.rows.map ConsumedRow.authorizationId := by
      rw [hinv.rows]
      exact List.mem_map_of_mem hother
    obtain ⟨row, hrow, rfl⟩ := List.mem_map.1 hid
    exact ⟨row, hrow, rfl, hinv.authentic row hrow⟩
  · rw [hinv.rows]
    exact hinv.nodup

end Runs

end Model

/-! ### A run with two calls -/

namespace ConsumptionSample

attribute [local instance] Sample.platform

open AuthorizationConsumptionStore ExecutionCoordinator

/-- Every signature is good. -/
def coordinator : ExecutionCoordinator where
  authorities _ _ _ := true
  consumptionStore := (Sample.store true none).toStoreIdentity
  str _ := ""

/-- The authorization is used for its plan and its step, a day before it expires. -/
def request : AuthorizationRequest where
  authz := Signing.VerificationSample.authorization
  requestedPlanDigest := Text.ofString Sample.hex
  requestedStepId := Text.ofString "restart"
  targetCapabilityPosture := .readOnly
  targetAnchorAssurance := .none
  now := some (Sample.midnight 1 Sample.isDay_one)

/-- Nothing is configured, and nothing fails. -/
def answers : ConsumptionAnswers where
  clock := some (Sample.midnight 1 Sample.isDay_one)
  sqlite := none
  commit := none
  discovery := {
    capabilityPosture := .ok .readOnly
    storeConfig := .ok none
    witnessBaseUrl := none
    witnessClientCert := none
    witnessClientKey := none
    witnessServerCa := none
    witness _ := .unreadable }

/-- The row of the authorization. -/
def row : ConsumedRow :=
  ⟨"authorization-1", (Sample.midnight 1 Sample.isDay_one).isoformat, Sample.hex⟩

/-- A call has consumed the authorization. -/
def consumed (call : ℕ) : ConsumptionWorld :=
  (({} : ConsumptionWorld).insert call row).answer call "authorization-1" true

theorem isIdentifier_authorization : isIdentifier "authorization-1" = true := by decide

theorem rowMac_row : rowMac coordinator.consumptionStore "authorization-1"
    (Sample.midnight 1 Sample.isDay_one).isoformat = .ok Sample.hex := by
  decide

theorem runs_demand {condition : Prop} [Decidable condition] (h : condition) (cls : ErrorClass)
    (message : String) (s : ConsumptionWorld) :
    Runs (fun _ _ _ => True) answers (.ofExcept (demand condition cls message)) s (.ok ()) s := by
  rw [demand, if_pos h]
  exact runs_ret ()

theorem runs_look {α : Type} {f : ConsumptionAnswers → ConsumptionWorld → Except Error α} {a : α}
    {s : ConsumptionWorld} (h : f answers s = .ok a) :
    Runs (fun _ _ _ => True) answers (look f) s (.ok a) s := by
  refine runs_atom trivial ?_
  rw [h]
  exact runs_ret a

/-- Up to the transaction, which inserts the row or not. -/
theorem runs_answer {s s' s'' : ConsumptionWorld} {call : ℕ} {inserted first : Bool}
    (hinsert : insertStep call row answers s = (s', .ok inserted))
    (hfirst : Runs (fun _ _ _ => True) answers
      (if inserted = true then return true
        else do
          let found ← select "authorization-1"
          .ofExcept (replayed coordinator.consumptionStore "authorization-1" found))
      s' (.ok first) s'') :
    Runs (fun _ _ _ => True) answers (answer coordinator.consumptionStore call "authorization-1") s
      (.ok first) (s''.answer call "authorization-1" first) := by
  have hmac : Runs (fun _ _ _ => True) answers (.ofExcept (rowMac coordinator.consumptionStore
      "authorization-1" (Sample.midnight 1 Sample.isDay_one).isoformat)) s (.ok Sample.hex) s := by
    rw [rowMac_row]
    exact runs_ret _
  have hrow : Runs (fun _ _ _ => True) answers (insert call row) s (.ok inserted) s' := by
    have hstate : s' = (insertStep call row answers s).1 := by rw [hinsert]
    rw [hstate]
    refine runs_atom trivial ?_
    rw [hinsert]
    exact runs_ret _
  refine Runs.bind (.bind (runs_demand isIdentifier_authorization _ _ s) (.bind (runs_look rfl)
    (.bind hmac (.bind hrow hfirst)))) ?_
  exact runs_atom trivial (runs_ret _)

/-- The first call inserts the row. -/
theorem runs_first (call : ℕ) :
    Runs (fun _ _ _ => True) answers (answer coordinator.consumptionStore call "authorization-1") {}
      (.ok true) (consumed call) :=
  runs_answer rfl (runs_ret true)

/-- A later call finds it. -/
theorem runs_again (call : ℕ) {s : ConsumptionWorld} (hs : s.rows = [row]) :
    Runs (fun _ _ _ => True) answers (answer coordinator.consumptionStore call "authorization-1") s
      (.ok false) (s.answer call "authorization-1" false) := by
  have hmem : row.authorizationId ∈ s.rows.map ConsumedRow.authorizationId := by
    rw [hs]
    exact List.mem_singleton_self _
  have hinsert : insertStep call row answers s = (s, .ok false) := if_pos hmem
  have hselect : s.rows.find? (fun row => row.authorizationId = "authorization-1") = some row := by
    rw [hs]
    rfl
  have hreplayed : replayed coordinator.consumptionStore "authorization-1" (some row) =
      .ok false := by
    have hmac : rowMac coordinator.consumptionStore "authorization-1" row.consumedAt =
      .ok row.mac := rowMac_row
    have hequal : compareDigest row.mac row.mac = .ok true := by decide
    refine bind_eq_ok.2 ⟨row.mac, hmac, bind_eq_ok.2 ⟨true, hequal, ?_⟩⟩
    rfl
  have hfound : Runs (fun _ _ _ => True) answers (select "authorization-1") s
      (.ok (some row)) s := runs_look (by rw [← hselect]; rfl)
  refine runs_answer hinsert (.bind hfound ?_)
  rw [hreplayed]
  exact runs_ret false

theorem permitted (p : ConsumptionOp Unit) (s : ConsumptionWorld) :
    p.Permitted (fun _ _ _ => True) (fun _ => answers) s :=
  permitted_of_forall p _ (fun _ _ _ => trivial) s

/-- The pool, after a call that runs alone. -/
theorem exists_call {S : System ConsumptionWorld ConsumptionAnswers Error}
    {cfg : Config ConsumptionWorld ConsumptionAnswers Error}
    (hpermit : S.permit = fun _ _ _ => True) (h : S.Reachable cfg) {p : ConsumptionOp Unit}
    (hp : S.program cfg.next p) {s' : ConsumptionWorld}
    (hruns : Runs (fun _ _ _ => True) answers p cfg.shared (.ok ()) s') :
    ∃ cfg', S.Reachable cfg' ∧ cfg'.shared = s' ∧ cfg'.next = cfg.next + 1 ∧
      cfg'.calls cfg.next = some (.ret ()) := by
  obtain ⟨cfg', h', hshared, hnext, hcall⟩ := System.reachable_call (fun _ => answers) h
    (by rw [hpermit]; exact hruns.permitted) hp
  rw [hruns.run] at hshared hcall
  exact ⟨cfg', h', hshared, hnext, hcall⟩

/-- Two calls of `try_consume` for one authorization. -/
theorem reachable_twice : ∃ cfg,
    (consumptionSystem coordinator fun _ => .consume "authorization-1").Reachable cfg ∧
      cfg.shared.answered = [(0, "authorization-1", true), (1, "authorization-1", false)] := by
  have hdone (call : ℕ) {s s' : ConsumptionWorld} {first : Bool}
      (h : Runs (fun _ _ _ => True) answers
        (answer coordinator.consumptionStore call "authorization-1") s (.ok first) s') :
      Runs (fun _ _ _ => True) answers
        ((ConsumptionCall.consume "authorization-1").code coordinator call) s (.ok ()) s' :=
    h.bind (runs_ret ())
  obtain ⟨cfg, h, hshared, hnext, -⟩ := exists_call rfl
    (.start rfl : (consumptionSystem coordinator fun _ => .consume "authorization-1").Reachable
      (.start {})) rfl (hdone 0 (runs_first 0))
  have hrows : cfg.shared.rows = [row] := by
    rw [hshared]
    rfl
  obtain ⟨cfg', h', hshared', -, -⟩ := exists_call rfl h rfl
    (hdone cfg.next (runs_again cfg.next hrows))
  refine ⟨cfg', h', ?_⟩
  rw [hshared', hnext, hshared]
  rfl

theorem consumption_of_reachable_sample : ∃ cfg,
    (consumptionSystem coordinator fun _ => .consume "authorization-1").Reachable cfg ∧
      cfg.shared.answered = [(0, "authorization-1", true), (1, "authorization-1", false)] ∧
      (∀ call, (call, "authorization-1", true) ∈ cfg.shared.answered → call = 0) ∧
      ∃ row ∈ cfg.shared.rows, row.authorizationId = "authorization-1" := by
  obtain ⟨cfg, h, hanswered⟩ := reachable_twice
  have hall := consumption_of_reachable h
  have htrue : (0, "authorization-1", true) ∈ cfg.shared.answered := by
    rw [hanswered]
    exact List.mem_cons_self
  have hfalse : (1, "authorization-1", false) ∈ cfg.shared.answered := by
    rw [hanswered]
    exact List.mem_cons_of_mem _ (List.mem_singleton_self _)
  obtain ⟨row, hrow, hid, -⟩ := hall.2.1 1 "authorization-1" hfalse
  exact ⟨cfg, h, hanswered, fun call hcall => hall.1 call 0 _ hcall htrue, row, hrow, hid⟩

/-- All digests are the same. -/
theorem digest_of_isModest {j : Json} (h : isModest j = true) (purpose : DigestPurpose) :
    digestValue purpose j [] = .ok Sample.hex := by
  obtain ⟨_, hdigest⟩ := @digestValue_of_isModest _ j h purpose [] (by decide) (by simp)
  exact hdigest

/-- What the authorization signs, as JSON. -/
theorem exists_signedFields : ∃ j, Value.ofJson j = Signing.dictOf request.authz.signedFields ∧
    isModest j = true := by
  refine ⟨.obj [("digest_purpose", .str DigestPurpose.planAuthorization.value),
    ("schema_version", .int 1), ("authorization_id", .str "authorization-1"),
    ("plan_digest", .str Sample.hex),
    ("authorized_step_ids", .arr [.str "restart"]), ("authority_id", .str "owner"),
    ("algorithm", .str Signing.authorizationSigningAlgorithm),
    ("issued_at", .str (Sample.midnight 1 Sample.isDay_one).isoformat),
    ("expires_at", .str (Sample.midnight 2 Sample.isDay_two).isoformat),
    ("risk_class", .str request.authz.riskClass.value),
    ("evidence_fingerprint", .obj [("capability_posture_value", .str "read_only"),
      ("anchor_assurance_value", .str "none"), ("anchor_evidence_state", .str "unconfigured"),
      ("anchor_baseline", .null), ("anchor_witness_value", .null),
      ("anchor_provisioned_at", .null)])],
    ?_, by decide⟩
  have hsteps : Signing.sortTexts request.authz.authorizedStepIds = [Text.ofString "restart"] :=
    List.mergeSort_singleton _
  simp only [Value.ofJson, Value.ofJsonItems, Value.ofJsonFields]
  rw [Signing.PlanAuthorization.signedFields, hsteps]
  rfl

theorem signed :
    verifyPlanAuthorizationSignature request.authz coordinator.authorities = .ok true := by
  obtain ⟨j, hj, hmodest⟩ := exists_signedFields
  have hdigest := digest_of_isModest hmodest .intent
  simp only [digestValue, bind_eq_ok] at hdigest
  obtain ⟨_, -, _, -, message, hmessage, -⟩ := hdigest
  have hpayload : (Signing.SignedArtifact.planAuthorization request.authz).signingPayload =
      .ok message := by
    rw [← hmessage, ← Value.canonicalJson_ofJson, hj]
    rfl
  rw [verifyPlanAuthorizationSignature, if_neg (not_not.2 request.authz.valid.2.2.2.1)]
  exact bind_eq_ok.2 ⟨message, hpayload, rfl⟩

theorem authorized : planAuthorizationAuthorizesStep request.authz request.requestedPlanDigest
    request.requestedStepId = .ok true := by
  decide

/-- The plan of the sample. -/
theorem exists_plan : ∃ plan, generateSecurityPosturePlan coordinator.str answers.discovery
    request.targetCapabilityPosture request.targetAnchorAssurance = .ok plan ∧
      isModest (planPayload plan) = true :=
  ⟨_, rfl, by decide⟩

theorem fresh : coordinator.isFresh request answers.discovery = .ok true := by
  obtain ⟨plan, hplan, hmodest⟩ := exists_plan
  have hcompute : computePlanDigest plan = .ok Sample.hex := digest_of_isModest hmodest .plan
  have hequal : Signing.compareTexts (Text.ofString Sample.hex)
      (Text.ofString request.authz.planDigest) = .ok true := by decide
  have hverify : verifyPlanDigest plan (Text.ofString request.authz.planDigest) = .ok true :=
    bind_eq_ok.2 ⟨Sample.hex, hcompute, hequal⟩
  rw [isFresh, planAuthorizationIsFresh, hplan, ok_bind, hverify]
  rfl

theorem runs_gate {passed : Bool} (h : passed = true) (s : ConsumptionWorld) :
    Runs (fun _ _ _ => True) answers (gate passed) s (.ok ()) s :=
  runs_demand h _ _ s

theorem runs_coordinator_tryConsume (call : ℕ) :
    Runs (fun _ _ _ => True) answers (coordinator.tryConsume call "authorization-1") {} (.ok true)
      (consumed call) :=
  .bind (runs_first call).attempt (runs_ret true)

theorem runs_authorizeAndConsume (call : ℕ) :
    Runs (fun _ _ _ => True) answers (coordinator.authorizeAndConsume call request) {} (.ok ())
      (consumed call) := by
  have hcurrent : catching "SecurityAuthorizationError"
      (planAuthorizationIsCurrent request.authz request.now) = .ok true := by decide
  have hanswer {x : Except Error Bool} (h : x = .ok true) :
      Runs (fun _ _ _ => True) answers (.ofExcept x) ({} : ConsumptionWorld) (.ok true) {} := by
    rw [h]
    exact runs_ret true
  -- one gate after the other, each behind what it asks
  refine .bind (runs_gate (by decide) _) ?_
  refine .bind (hanswer signed) (.bind (runs_gate rfl _) ?_)
  refine .bind (hanswer hcurrent) (.bind (runs_gate rfl _) ?_)
  refine .bind (hanswer authorized) (.bind (runs_gate rfl _) ?_)
  refine .bind (runs_look fresh) (.bind (runs_gate rfl _) ?_)
  exact .bind (runs_coordinator_tryConsume call) (runs_gate rfl _)

end ConsumptionSample

end Tier1
