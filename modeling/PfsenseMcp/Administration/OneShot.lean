import Mathlib.Data.Nat.Notation
import Mathlib.Data.List.Basic
import PfsenseMcp.Administration.AuthTransition

/-!
# The transition is made once

What a call of the coordinator does, whatever the transports do: it reads a bounded number of
times, changes the settings at most once, right after a reading that it was waiting for, and
reports a confirmed state only on such a reading.

## Main results

* `transition_oneShot`: over every sequence of calls each change is sent at most once, and what
  the last call returns is true.
-/

namespace Administration

open Python Concurrency Procedure Tier1

/-! ### The steps of a call -/

/-- A request whose delivery is known to have failed: no transport was made for it, or the
transport itself reported it unsent. -/
def Attempt.Unsent (a : Attempt) : Prop :=
  a.exchange = none ∨ ∃ e, a.exchange = some (.error e) ∧ e.notSent = true

/-- A coordinator after some attempts that changed nothing but the trace. -/
def Coordinator.traced (s : Coordinator) (attempts : List Attempt) : Coordinator :=
  { s with trace := s.trace ++ attempts }

section Steps

variable {s : Coordinator} {α : Type}

theorem wp_getCoordinator {post : Except ClientError Coordinator → Coordinator → Prop}
    (h : post (.ok s) s) : wp .alone getCoordinator post s :=
  wp_alone_atom.2 fun _ => h

theorem wp_modifyCoordinator {f : Coordinator → Coordinator}
    {post : Except ClientError Unit → Coordinator → Prop} (h : post (.ok ()) (f s)) :
    wp .alone (modifyCoordinator f) post s :=
  wp_alone_atom.2 fun _ => h

theorem wp_result {state : AuthTransitionState} {delivery : MutationDelivery}
    {finding : TransitionFinding} {attempts : ℕ} {preserved : Bool}
    {post : Except ClientError AuthTransitionResult → Coordinator → Prop}
    (h : post (.ok ⟨state, delivery, finding, attempts, preserved, (s.enter state).history⟩)
      (s.enter state)) :
    wp .alone (result state delivery finding attempts preserved) post s :=
  wp_alone_atom.2 fun _ => h

theorem wp_construct {operation : ClientOperation}
    {post : Except ClientError Unit → Coordinator → Prop}
    (hfail : ∀ e : ClientError, e.notSent = true →
      post (.error e) (s.attempted ⟨operation, none⟩))
    (hok : post (.ok ()) s) : wp .alone (construct operation) post s := by
  refine wp_alone_atom.2 fun i => ?_
  cases h : i.unconstructed with
  | true => exact hfail _ rfl
  | false => exact hok

theorem wp_request {operation : ClientOperation}
    {post : Except ClientError TransportResponse → Coordinator → Prop}
    (h : ∀ answer, post answer (s.attempted ⟨operation, some answer⟩)) :
    wp .alone (request operation) post s := by
  refine wp_alone_atom.2 fun i => ?_
  rw [wp_ofExcept]
  exact h i.answer

/-- The refusal of a response does not say that the request was unsent. -/
theorem notSent_of_checkResponse {response : TransportResponse} {operation : String}
    {e : ClientError} (h : checkResponse response operation = .error e) : e.notSent = false := by
  unfold checkResponse ClientError.refuse at h
  -- every refusal is a `BootstrapProvisioningError`
  split at h
  · split at h
    · cases h
      rfl
    · split at h <;> cases h
      rfl
    · cases h
      rfl
  · cases h
    rfl

/-- A mutation makes one attempt, and it is reported unsent only if it was. -/
theorem wp_deliver {sentState indeterminateState : AuthTransitionState}
    {operation : ClientOperation} {post : Except ClientError MutationDelivery → Coordinator → Prop}
    (h : ∀ a delivery state history, a.operation = operation →
      (delivery = .knownNotSent → a.Unsent) →
      post (.ok delivery) { s.attempted a with state := state, history := history }) :
    wp .alone (deliver sentState indeterminateState operation) post s := by
  -- how the handlers end, for an attempt that raised an exception
  have hraise : ∀ (a : Attempt) (e : ClientError) (state : Option AuthTransitionState)
      (history : List AuthTransitionState), a.operation = operation →
      (e.notSent = true → a.Unsent) →
      wp .alone (if e.notSent then return .knownNotSent
        else do
          modifyCoordinator fun s => s.enter indeterminateState
          return .sentResultIndeterminate) post
        { s.attempted a with state := state, history := history } := by
    intro a e state history ha hunsent
    split_ifs with he
    · exact h a .knownNotSent state history ha fun _ => hunsent he
    · rw [wp_bind]
      exact wp_modifyCoordinator (h a .sentResultIndeterminate _ _ ha nofun)
  rw [deliver, wp_bind, wp_attempt, freshMutation, wp_bind]
  refine wp_construct (fun e _ => ?_) ?_
  · exact hraise ⟨operation, none⟩ e s.state s.history rfl fun _ => .inl rfl
  rw [andThen_ok, wp_bind]
  refine wp_modifyCoordinator ?_
  rw [andThen_ok, wp_bind]
  refine wp_request fun answer => ?_
  cases answer with
  | error e =>
    exact hraise ⟨operation, some (.error e)⟩ e _ _ rfl fun he => .inr ⟨e, rfl, he⟩
  | ok response =>
    rw [andThen_ok, wp_bind, wp_ofExcept]
    cases hcheck : checkResponse response operation.name with
    | ok data => exact h ⟨operation, some (.ok response)⟩ .responseReceived _ _ rfl nofun
    | error e =>
      refine hraise ⟨operation, some (.ok response)⟩ e _ _ rfl fun he => ?_
      rw [notSent_of_checkResponse hcheck] at he
      cases he

end Steps

/-! ### Reading the trace -/

section Model

variable [Platform] {s : Coordinator}

namespace Attempt

/-- What the client makes of the answer to an attempt. -/
def reads {α : Type} (parse : TransportResponse → Except ClientError α) (a : Attempt) : Option α :=
  (a.exchange.bind Except.toOption).bind fun response => (parse response).toOption

/-- The settings that an attempt has shown. -/
def observed (a : Attempt) : Option ObservedAuthSettings :=
  if a.operation = .observeAuthSettings then a.reads authSettingsOf else none

end Attempt

/-- What the last attempt has shown. -/
def lastObserved (attempts : List Attempt) : Option ObservedAuthSettings :=
  attempts.getLast?.bind Attempt.observed

/-- The baseline: what was observed first. -/
def baseline (attempts : List Attempt) : Option ObservedAuthSettings :=
  attempts.findSome? Attempt.observed

/-- The methods that a state says are in force. -/
def AuthTransitionState.confirmedMethods : AuthTransitionState → Option (Finset String)
  | keyauthConfirmed | keyauthRestored => some keyOnly
  | basicauthConfirmed => some keyAndBasic
  | _ => none

omit [Platform] in
/-- A fresh call makes one attempt and returns what it reads. -/
theorem wp_freshCall {α : Type} {operation : ClientOperation}
    {parse : TransportResponse → Except ClientError α}
    {post : Except ClientError α → Coordinator → Prop}
    (h : ∀ a x, a.operation = operation → a.reads parse = Except.toOption x →
      post x (s.attempted a)) :
    wp .alone (freshCall operation parse) post s := by
  rw [freshCall, wp_bind]
  refine wp_construct (fun e _ => h ⟨operation, none⟩ (.error e) rfl rfl) ?_
  rw [andThen_ok, wp_bind]
  refine wp_request fun answer => ?_
  cases answer with
  | error e => exact h ⟨operation, some (.error e)⟩ (.error e) rfl rfl
  | ok response =>
    rw [andThen_ok, wp_ofExcept]
    exact h ⟨operation, some (.ok response)⟩ (parse response) rfl rfl

/-! ### Bounded observation -/

/-- Attempts of `_observe_bounded`, up to the first one that shows something. -/
structure Observes (bound : ℕ) (attempts : List Attempt) (shown : Option ObservedAuthSettings) :
    Prop where
  length_le : attempts.length ≤ bound
  operation : ∀ a ∈ attempts, a.operation = .observeAuthSettings
  shown : ∀ o, shown = some o →
    ∃ failed a, attempts = failed ++ [a] ∧ (∀ f ∈ failed, f.observed = none) ∧ a.observed = some o

namespace Observes

variable {bound : ℕ} {attempts : List Attempt} {o : ObservedAuthSettings}

theorem nil : Observes bound [] none := ⟨Nat.zero_le _, nofun, nofun⟩

/-- One more attempt before, which showed nothing. -/
theorem cons {shown : Option ObservedAuthSettings} {a : Attempt}
    (ha : a.operation = .observeAuthSettings) (hnone : a.observed = none)
    (h : Observes bound attempts shown) : Observes (bound + 1) (a :: attempts) shown where
  length_le := Nat.succ_le_succ h.length_le
  operation := List.forall_mem_cons.2 ⟨ha, h.operation⟩
  shown o ho := by
    obtain ⟨failed, b, rfl, hfailed, hb⟩ := h.shown o ho
    exact ⟨a :: failed, b, rfl, List.forall_mem_cons.2 ⟨hnone, hfailed⟩, hb⟩

theorem singleton {shown : Option ObservedAuthSettings} {a : Attempt}
    (ha : a.operation = .observeAuthSettings) (h : ∀ o, shown = some o → a.observed = some o) :
    Observes (bound + 1) [a] shown where
  length_le := Nat.succ_le_succ (Nat.zero_le _)
  operation := List.forall_mem_cons.2 ⟨ha, nofun⟩
  shown o ho := ⟨[], a, rfl, nofun, h o ho⟩

theorem lastObserved_append (h : Observes bound attempts (some o)) (earlier : List Attempt) :
    lastObserved (earlier ++ attempts) = some o := by
  obtain ⟨failed, a, rfl, -, ha⟩ := h.shown o rfl
  simp [lastObserved, ha]

theorem baseline_append (h : Observes bound attempts (some o)) (later : List Attempt) :
    baseline (attempts ++ later) = some o := by
  obtain ⟨failed, a, rfl, hfailed, ha⟩ := h.shown o rfl
  have hnone : failed.findSome? Attempt.observed = none := List.findSome?_eq_none_iff.2 hfailed
  simp [baseline, List.findSome?_append, hnone, ha]

end Observes

theorem wp_observeFrom (maximumAttempts : ℕ) {post : Except ClientError Observation → Coordinator → Prop}
    (left : ℕ) (h : ∀ attempts shown n finding, Observes left attempts shown →
      post (.ok (shown, n, finding)) (s.traced attempts)) :
    wp .alone (observeFrom maximumAttempts left) post s := by
  induction left generalizing s with
  | zero =>
    have := h [] none maximumAttempts (some .reconnectExhausted) .nil
    rwa [Coordinator.traced, List.append_nil] at this
  | succ left ih =>
    rw [observeFrom, wp_bind, wp_attempt]
    refine wp_freshCall fun a x ha hreads => ?_
    have hobserved : a.observed = x.toOption := by rw [Attempt.observed, if_pos ha, hreads]
    cases x with
    | ok o =>
      refine h [a] (some o) _ none (.singleton ha fun o' ho' => ?_)
      rw [hobserved, ← ho']
      rfl
    | error e =>
      -- the attempt is repeated, or it is the last one
      have hnext : wp .alone (observeFrom maximumAttempts left) post (s.attempted a) := by
        refine ih fun attempts shown n finding hobs => ?_
        have := h (a :: attempts) shown n finding (hobs.cons ha hobserved)
        rwa [Coordinator.traced, List.append_cons] at this
      have hlast : ∀ n finding, post (.ok (none, n, finding)) (s.attempted a) :=
        fun n finding => h [a] none n finding (.singleton ha nofun)
      rw [andThen_ok]
      dsimp only
      split_ifs
      · exact hnext
      · split
        · split_ifs
          · exact hnext
          · exact hlast _ _
        · exact hlast _ _
        · exact hlast _ _

theorem wp_observeBounded {policy : ReconnectPolicy}
    {post : Except ClientError Observation → Coordinator → Prop}
    (h : ∀ attempts shown n finding, Observes policy.maximumAttempts attempts shown →
      post (.ok (shown, n, finding)) (s.traced attempts)) :
    wp .alone (observeBounded policy) post s :=
  wp_observeFrom _ _ h

/-! ### What a call establishes -/

omit [Platform] in
/-- The methods that have to be in force before an operation changes them. -/
def ClientOperation.startingMethods : ClientOperation → Finset String
  | .enableBasicAuth => keyOnly
  | .restoreKeyAuth => keyAndBasic
  | _ => ∅

/-- A reading shows the given methods, and no other setting differs from the baseline. -/
def Shows (attempts : List Attempt) (reading : Option ObservedAuthSettings)
    (methods : Finset String) : Prop :=
  ∃ o b, reading = some o ∧ o.authMethods = methods ∧ baseline attempts = some b ∧
    o.unrelatedDigest = b.unrelatedDigest

/-- What is true of a call that made `attempts` after `earlier` ones and returned a value. -/
structure Truthful (policy : ReconnectPolicy) (earlier attempts : List Attempt)
    (value : CallResult) : Prop where
  /-- The number of readings is bounded. -/
  reads_le : attempts.countP (fun a => !a.operation.mutates) ≤ 2 * policy.maximumAttempts
  /-- A change is attempted right after the call has read what it has to start from. -/
  mutation : ∀ before a after, attempts = before ++ a :: after → a.operation.mutates = true →
    Shows (earlier ++ before) (lastObserved before) a.operation.startingMethods
  /-- A confirmed state is what the last attempt has shown. -/
  confirmed : ∀ t methods, value = .inl t → t.state.confirmedMethods = some methods →
    Shows (earlier ++ attempts) (lastObserved attempts) methods
  /-- A change is reported unsent only if it was. -/
  unsent : ∀ t, value = .inl t → t.delivery = .knownNotSent →
    ∀ a ∈ attempts, a.operation.mutates = true → a.Unsent

/-- What holds between two calls. -/
structure Consistent (s : Coordinator) : Prop where
  fresh : s.state = none → s.trace = []
  enable_le : s.trace.countP (fun a => a.operation = .enableBasicAuth) ≤ 1
  restore_le : s.trace.countP (fun a => a.operation = .restoreKeyAuth) ≤ s.restoreAttempted.toNat
  baseline : s.state = some .basicauthConfirmed →
    ∃ b, baseline s.trace = some b ∧ s.baselineDigest = some b.unrelatedDigest

/-- The postcondition of a call from `s`. -/
def Reports (policy : ReconnectPolicy) (s : Coordinator) (value : CallResult)
    (s' : Coordinator) : Prop :=
  ∃ attempts, s'.trace = s.trace ++ attempts ∧ Truthful policy s.trace attempts value ∧
    Consistent s'

theorem Observes.reading {bound : ℕ} {attempts : List Attempt} {shown : Option ObservedAuthSettings}
    (h : Observes bound attempts shown) : ∀ a ∈ attempts, a.operation.mutates = false := by
  intro a ha
  rw [h.operation a ha]
  decide

omit [Platform] in
theorem countP_operation_eq_zero {attempts : List Attempt}
    (h : ∀ a ∈ attempts, a.operation.mutates = false) (operation : ClientOperation)
    (hop : operation.mutates = true) :
    attempts.countP (fun a => a.operation = operation) = 0 := by
  refine List.countP_eq_zero.2 fun a ha heq => ?_
  have := h a ha
  rw [of_decide_eq_true heq, hop] at this
  cases this

section Calls

variable {policy : ReconnectPolicy} {earlier attempts first second : List Attempt}
  {shown : Option ObservedAuthSettings} {o b : ObservedAuthSettings} {a : Attempt}

/-- A call that only reads reports nothing about a change. -/
theorem truthful_of_reading {value : CallResult}
    (hread : ∀ a ∈ attempts, a.operation.mutates = false)
    (hlen : attempts.length ≤ policy.maximumAttempts)
    (hvalue : ∀ t, value = .inl t →
      t.state = .outOfBandRecoveryRequired ∧ t.delivery = .notAttempted) :
    Truthful policy earlier attempts value where
  reads_le := by
    have := List.countP_le_length (p := fun a => !a.operation.mutates) (l := attempts)
    omega
  mutation before a after hsplit ha := by
    have := hread a (by rw [hsplit]; simp)
    rw [this] at ha
    cases ha
  confirmed t methods ht hmethods := by
    rw [(hvalue t ht).1] at hmethods
    cases hmethods
  unsent t ht hdelivery := by
    rw [(hvalue t ht).2] at hdelivery
    cases hdelivery

/-- A call that reads, changes and reads again is truthful if it has read what it had to. -/
theorem truthful_of_mutation {t : AuthTransitionResult}
    (hfirst : Observes policy.maximumAttempts first (some o))
    (hsecond : Observes policy.maximumAttempts second shown)
    (ha : a.operation.mutates = true) (hmethods : o.authMethods = a.operation.startingMethods)
    (hbaseline : baseline (earlier ++ first) = some b)
    (hdigest : o.unrelatedDigest = b.unrelatedDigest)
    (hunsent : t.delivery = .knownNotSent → a.Unsent)
    (hconfirmed : ∀ methods, t.state.confirmedMethods = some methods →
      ∃ o', shown = some o' ∧ o'.authMethods = methods ∧ o'.unrelatedDigest = b.unrelatedDigest) :
    Truthful policy earlier (first ++ a :: second) (.inl t) where
  reads_le := by
    have h₁ := List.countP_le_length (p := fun a : Attempt => !a.operation.mutates) (l := first)
    have h₂ := List.countP_le_length (p := fun a : Attempt => !a.operation.mutates) (l := second)
    have h₃ := hfirst.length_le
    have h₄ := hsecond.length_le
    rw [List.countP_append, List.countP_cons_of_neg (by simp [ha])]
    omega
  mutation before a' after hsplit ha' := by
    -- only one attempt of the call is a change
    have hne : ∀ {l : List Attempt}, (∀ x ∈ l, x.operation.mutates = false) → a' ∉ l := by
      intro l hl hmem
      rw [hl a' hmem] at ha'
      cases ha'
    obtain ⟨rfl, rfl, -⟩ := (List.append_cons_inj_of_notMem (hne hfirst.reading)
      (hne hsecond.reading)).1 hsplit
    exact ⟨o, b, hfirst.lastObserved_append [], hmethods, hbaseline, hdigest⟩
  confirmed t' methods ht hmethods' := by
    cases ht
    obtain ⟨o', rfl, hauth, hdigest'⟩ := hconfirmed methods hmethods'
    refine ⟨o', b, ?_, hauth, ?_, hdigest'⟩
    · have := hsecond.lastObserved_append (first ++ [a])
      rwa [List.append_assoc] at this
    · rw [← List.append_assoc, baseline, List.findSome?_append]
      rw [baseline] at hbaseline
      rw [hbaseline]
      rfl
  unsent t' ht hdelivery x hx hmutates := by
    cases ht
    rcases List.mem_append.1 hx with hx | hx
    · rw [hfirst.reading x hx] at hmutates
      cases hmutates
    · rcases List.mem_cons.1 hx with rfl | hx
      · exact hunsent hdelivery
      · rw [hsecond.reading x hx] at hmutates
        cases hmutates

/-- A call that ends without a change and without a confirmed state keeps consistency. -/
theorem Consistent.refused (h : Consistent s) (hread : ∀ a ∈ attempts, a.operation.mutates = false) :
    Consistent ((s.traced attempts).enter .outOfBandRecoveryRequired) where
  fresh := nofun
  enable_le := by
    have := countP_operation_eq_zero hread .enableBasicAuth (by decide)
    have := h.enable_le
    simp only [Coordinator.enter, Coordinator.traced, List.countP_append]
    omega
  restore_le := by
    have := countP_operation_eq_zero hread .restoreKeyAuth (by decide)
    have := h.restore_le
    simp only [Coordinator.enter, Coordinator.traced, List.countP_append]
    omega
  baseline := nofun

/-- Reading keeps the coordinator consistent once it has left its first state. -/
theorem Consistent.traced (h : Consistent s) (hread : ∀ a ∈ attempts, a.operation.mutates = false)
    (hstate : s.state ≠ none) : Consistent (s.traced attempts) where
  fresh hnone := absurd hnone hstate
  enable_le := (h.refused hread).enable_le
  restore_le := (h.refused hread).restore_le
  baseline hconfirmed := by
    obtain ⟨b, hb, hdigest⟩ := h.baseline hconfirmed
    refine ⟨b, ?_, hdigest⟩
    rw [Administration.baseline] at hb
    rw [Coordinator.traced, Administration.baseline, List.findSome?_append, hb]
    rfl

/-- A call that refuses after it has read reports so. -/
theorem reports_refused (policy : ReconnectPolicy) (h : Consistent s) {delivery : MutationDelivery}
    (hread : ∀ a ∈ attempts, a.operation.mutates = false)
    (hlen : attempts.length ≤ policy.maximumAttempts) (finding : TransitionFinding) (n : ℕ)
    (preserved : Bool) (history : List AuthTransitionState) (hdelivery : delivery = .notAttempted) :
    Reports policy s
      (.inl ⟨.outOfBandRecoveryRequired, delivery, finding, n, preserved, history⟩)
      ((s.traced attempts).enter .outOfBandRecoveryRequired) := by
  refine ⟨attempts, rfl, truthful_of_reading hread hlen fun t ht => ?_, h.refused hread⟩
  cases ht
  exact ⟨rfl, hdelivery⟩

/-- A call that makes a change, the first of its kind, keeps the coordinator consistent. -/
theorem Consistent.mutated {s' : Coordinator} {operation : ClientOperation} (h : Consistent s)
    (ha : a.operation = operation) (hfirst : ∀ a ∈ first, a.operation.mutates = false)
    (hsecond : ∀ a ∈ second, a.operation.mutates = false)
    (htrace : s'.trace = s.trace ++ (first ++ a :: second)) (hstate : s'.state ≠ none)
    (henable : operation = .enableBasicAuth →
      s.trace.countP (fun a => a.operation = .enableBasicAuth) = 0)
    (hrestore : operation = .restoreKeyAuth →
      s.restoreAttempted = false ∧ s'.restoreAttempted = true)
    (hattempted : s.restoreAttempted = true → s'.restoreAttempted = true)
    (hbaseline : Administration.baseline (s.trace ++ first) = some b)
    (hdigest : s'.baselineDigest = some b.unrelatedDigest) : Consistent s' where
  fresh hnone := absurd hnone hstate
  enable_le := by
    have h₁ := countP_operation_eq_zero hfirst .enableBasicAuth (by decide)
    have h₂ := countP_operation_eq_zero hsecond .enableBasicAuth (by decide)
    have h₃ := h.enable_le
    rw [htrace, List.countP_append, List.countP_append, List.countP_cons, ha, h₁, h₂]
    split_ifs with hop
    · rw [henable (of_decide_eq_true hop)]
    · omega
  restore_le := by
    have h₁ := countP_operation_eq_zero hfirst .restoreKeyAuth (by decide)
    have h₂ := countP_operation_eq_zero hsecond .restoreKeyAuth (by decide)
    have h₃ := h.restore_le
    rw [htrace, List.countP_append, List.countP_append, List.countP_cons, ha, h₁, h₂]
    split_ifs with hop
    · obtain ⟨hbefore, hafter⟩ := hrestore (of_decide_eq_true hop)
      rw [hbefore] at h₃
      rw [hafter]
      simp only [Bool.toNat_false, Bool.toNat_true] at h₃ ⊢
      omega
    · cases hs : s.restoreAttempted with
      | true =>
        rw [hattempted hs]
        rw [hs] at h₃
        exact h₃
      | false =>
        rw [hs] at h₃
        simp only [Bool.toNat_false] at h₃
        omega
  baseline _ := by
    refine ⟨b, ?_, hdigest⟩
    rw [Administration.baseline] at hbaseline
    rw [htrace, ← List.append_assoc, Administration.baseline, List.findSome?_append, hbaseline]
    rfl

/-! ### The calls -/

/-- What the second observation of a call has to show for a state to be reported as confirmed. -/
def Confirms (s : Coordinator) (shown : Option ObservedAuthSettings) (t : AuthTransitionResult) :
    Prop :=
  ∀ methods, t.state.confirmedMethods = some methods →
    ∃ o, shown = some o ∧ o.authMethods = methods ∧ some o.unrelatedDigest = s.baselineDigest

omit [Platform] in
theorem wp_concludeEnable {delivery : MutationDelivery} {n : ℕ}
    {finding : Option TransitionFinding}
    {post : Except ClientError AuthTransitionResult → Coordinator → Prop}
    (h : ∀ t, t.delivery = delivery → Confirms s shown t → post (.ok t) (s.enter t.state)) :
    wp .alone (concludeEnable delivery (shown, n, finding)) post s := by
  cases shown with
  | none => exact wp_result (h _ rfl nofun)
  | some o =>
    rw [concludeEnable, wp_bind]
    refine wp_getCoordinator ?_
    rw [andThen_ok]
    split_ifs with hdigest hboth honly
    · exact wp_result (h _ rfl nofun)
    · refine wp_result (h _ rfl fun methods hmethods => ⟨o, rfl, ?_, not_not.1 hdigest⟩)
      exact hboth.trans (Option.some.inj hmethods)
    · refine wp_result (h _ rfl fun methods hmethods => ⟨o, rfl, ?_, not_not.1 hdigest⟩)
      exact honly.1.trans (Option.some.inj hmethods)
    · exact wp_result (h _ rfl nofun)

omit [Platform] in
theorem wp_concludeRestore {delivery : MutationDelivery} {n : ℕ}
    {finding : Option TransitionFinding}
    {post : Except ClientError AuthTransitionResult → Coordinator → Prop}
    (h : ∀ t, t.delivery = delivery → Confirms s shown t → post (.ok t) (s.enter t.state)) :
    wp .alone (concludeRestore delivery (shown, n, finding)) post s := by
  cases shown with
  | none => exact wp_result (h _ rfl nofun)
  | some o =>
    rw [concludeRestore, wp_bind]
    refine wp_getCoordinator ?_
    rw [andThen_ok]
    dsimp only
    split_ifs with honly hboth hchanged
    · refine wp_result (h _ rfl fun methods hmethods => ⟨o, rfl, ?_, of_decide_eq_true honly.1⟩)
      exact honly.2.trans (Option.some.inj hmethods)
    · refine wp_result (h _ rfl fun methods hmethods => ⟨o, rfl, ?_, of_decide_eq_true hboth.1⟩)
      exact hboth.2.1.trans (Option.some.inj hmethods)
    · exact wp_result (h _ rfl nofun)
    · exact wp_result (h _ rfl nofun)

/-- The postcondition of a call that returns the result of a transition. -/
def Transitions (policy : ReconnectPolicy) (s : Coordinator) :
    Except ClientError AuthTransitionResult → Coordinator → Prop :=
  fun r s' => ∃ t, r = .ok t ∧ Reports policy s (.inl t) s'

theorem wp_invalidSequence (h : Consistent s) :
    wp .alone invalidSequence (Transitions policy s) s := by
  have hnone : ∀ a ∈ ([] : List Attempt), a.operation.mutates = false := nofun
  have hreports := reports_refused policy h hnone (Nat.zero_le _) .invalidSequence 0 false
    (s.enter .outOfBandRecoveryRequired).history rfl
  rw [Coordinator.traced, List.append_nil] at hreports
  exact wp_result ⟨_, rfl, hreports⟩

theorem wp_enableBasicAuth (h : Consistent s) :
    wp .alone (enableBasicAuth policy) (Transitions policy s) s := by
  rw [enableBasicAuth, wp_bind]
  refine wp_getCoordinator ?_
  rw [andThen_ok]
  split_ifs with hsequence
  · exact wp_invalidSequence h
  rw [not_or, not_not] at hsequence
  have htrace : s.trace = [] := h.fresh hsequence.2
  rw [wp_bind]
  refine wp_observeBounded fun first shown n finding hfirst => ?_
  rw [andThen_ok]
  cases shown with
  | none =>
    exact wp_result ⟨_, rfl, reports_refused policy h hfirst.reading hfirst.length_le _ _ _ _ rfl⟩
  | some initial =>
    rw [enableFrom]
    split_ifs with hmethods
    · exact wp_result ⟨_, rfl, reports_refused policy h hfirst.reading hfirst.length_le _ _ _ _ rfl⟩
    rw [not_not] at hmethods
    -- what was read first is the baseline from now on
    have hbaseline : baseline (s.trace ++ first) = some initial := by
      have := hfirst.baseline_append []
      rwa [List.append_nil, ← List.nil_append first, ← htrace] at this
    rw [wp_bind]
    refine wp_modifyCoordinator ?_
    rw [andThen_ok, wp_bind]
    refine wp_deliver fun a delivery state history ha hunsent => ?_
    rw [andThen_ok, wp_bind]
    refine wp_observeBounded fun second shown n finding hsecond => ?_
    rw [andThen_ok]
    refine wp_concludeEnable fun t ht hconfirms => ⟨t, rfl, first ++ a :: second, ?_, ?_, ?_⟩
    · simp [Coordinator.enter, Coordinator.traced, Coordinator.attempted]
    · refine truthful_of_mutation hfirst hsecond (by rw [ha]; decide) (by rw [ha]; exact hmethods)
        hbaseline rfl (fun hd => hunsent (ht ▸ hd)) fun methods hm => ?_
      obtain ⟨o, ho, hauth, hdigest⟩ := hconfirms methods hm
      exact ⟨o, ho, hauth, Option.some.inj hdigest⟩
    · refine h.mutated ha hfirst.reading hsecond.reading ?_ nofun ?_ ?_ id hbaseline rfl
      · simp [Coordinator.enter, Coordinator.traced, Coordinator.attempted]
      · -- nothing was sent before
        intro _
        rw [htrace]
        rfl
      · exact fun hop => by cases hop

theorem wp_restoreKeyAuth (h : Consistent s) :
    wp .alone (restoreKeyAuth policy) (Transitions policy s) s := by
  rw [restoreKeyAuth, wp_bind]
  refine wp_getCoordinator ?_
  rw [andThen_ok]
  split_ifs with hsequence
  · exact wp_invalidSequence h
  rw [not_or, not_not, Bool.not_eq_true] at hsequence
  obtain ⟨b, hb, hdigest⟩ := h.baseline hsequence.2
  rw [wp_bind]
  refine wp_observeBounded fun first shown n finding hfirst => ?_
  rw [andThen_ok]
  cases shown with
  | none =>
    exact wp_result ⟨_, rfl, reports_refused policy h hfirst.reading hfirst.length_le _ _ _ _ rfl⟩
  | some current =>
    rw [restoreFrom, wp_bind]
    refine wp_getCoordinator ?_
    rw [andThen_ok]
    split_ifs with hstart hchanged
    · exact wp_result ⟨_, rfl, reports_refused policy h hfirst.reading hfirst.length_le _ _ _ _ rfl⟩
    · exact wp_result ⟨_, rfl, reports_refused policy h hfirst.reading hfirst.length_le _ _ _ _ rfl⟩
    rw [not_or, not_not, not_not] at hstart
    have hcurrent : current.unrelatedDigest = b.unrelatedDigest :=
      Option.some.inj (hstart.2.trans hdigest)
    have hbaseline : baseline (s.trace ++ first) = some b := by
      rw [baseline] at hb
      rw [baseline, List.findSome?_append, hb]
      rfl
    rw [wp_bind]
    refine wp_modifyCoordinator ?_
    rw [andThen_ok, wp_bind]
    refine wp_deliver fun a delivery state history ha hunsent => ?_
    rw [andThen_ok, wp_bind]
    refine wp_observeBounded fun second shown n finding hsecond => ?_
    rw [andThen_ok]
    refine wp_concludeRestore fun t ht hconfirms => ⟨t, rfl, first ++ a :: second, ?_, ?_, ?_⟩
    · simp [Coordinator.enter, Coordinator.traced, Coordinator.attempted]
    · refine truthful_of_mutation hfirst hsecond (by rw [ha]; decide) (by rw [ha]; exact hstart.1)
        hbaseline hcurrent (fun hd => hunsent (ht ▸ hd)) fun methods hm => ?_
      obtain ⟨o, ho, hauth, hdigest'⟩ := hconfirms methods hm
      exact ⟨o, ho, hauth, Option.some.inj (hdigest'.trans hdigest)⟩
    · refine h.mutated ha hfirst.reading hsecond.reading ?_ nofun ?_ ?_
        (fun _ => rfl) hbaseline hdigest
      · simp [Coordinator.enter, Coordinator.traced, Coordinator.attempted]
      · exact fun hop => by cases hop
      · -- the attempt is recorded before the change is sent
        intro _
        exact ⟨hsequence.1, rfl⟩

omit [Platform] in
theorem wp_verifyFrom (maximumAttempts : ℕ)
    {post : Except ClientError BasicAuthAvailability → Coordinator → Prop} (left : ℕ)
    (h : ∀ attempts value, attempts.length ≤ left →
      (∀ a ∈ attempts, a.operation.mutates = false) → post (.ok value) (s.traced attempts)) :
    wp .alone (verifyFrom maximumAttempts left) post s := by
  induction left generalizing s with
  | zero =>
    have := h [] ⟨false, maximumAttempts⟩ (Nat.zero_le _) nofun
    rwa [Coordinator.traced, List.append_nil] at this
  | succ left ih =>
    rw [verifyFrom, wp_bind, wp_attempt]
    refine wp_freshCall fun a x ha _ => ?_
    have hread : a.operation.mutates = false := by
      rw [ha]
      decide
    have hlast : ∀ value, post (.ok value) (s.attempted a) := fun value =>
      h [a] value (Nat.succ_le_succ (Nat.zero_le _)) (List.forall_mem_cons.2 ⟨hread, nofun⟩)
    cases x with
    | ok users => exact hlast _
    | error e =>
      rw [andThen_ok]
      dsimp only
      split_ifs
      · refine ih fun attempts value hlen hattempts => ?_
        have := h (a :: attempts) value (Nat.succ_le_succ hlen)
          (List.forall_mem_cons.2 ⟨hread, hattempts⟩)
        rwa [Coordinator.traced, List.append_cons] at this
      · exact hlast _

theorem wp_verifyBasicAuthAvailable (h : Consistent s) :
    wp .alone (verifyBasicAuthAvailable policy)
      (fun r s' => ∃ v, r = .ok v ∧ Reports policy s (.inr v) s') s := by
  rw [verifyBasicAuthAvailable, wp_bind]
  refine wp_getCoordinator ?_
  rw [andThen_ok]
  split_ifs with hstate
  · exact ⟨_, rfl, [], (List.append_nil _).symm,
      truthful_of_reading nofun (Nat.zero_le _) nofun, h⟩
  · refine wp_verifyFrom _ _ fun attempts value hlen hread => ⟨value, rfl, attempts, rfl, ?_, ?_⟩
    · exact truthful_of_reading hread hlen nofun
    · refine h.traced hread ?_
      rw [not_not.1 hstate]
      nofun

variable (policy) in
/-- Every call returns, truthfully, and leaves a consistent coordinator. -/
theorem wp_program (call : CoordinatorCall) (h : Consistent s) :
    wp .alone (call.program policy) (fun r s' => ∃ value, r = .ok value ∧ Reports policy s value s')
      s := by
  cases call with
  | enableBasicAuth =>
    rw [CoordinatorCall.program, map_eq_pure_bind, wp_bind]
    refine wp_mono (wp_enableBasicAuth h) ?_
    rintro _ _ ⟨t, rfl, hreports⟩
    exact ⟨_, rfl, hreports⟩
  | verifyBasicAuthAvailable =>
    rw [CoordinatorCall.program, map_eq_pure_bind, wp_bind]
    refine wp_mono (wp_verifyBasicAuthAvailable h) ?_
    rintro _ _ ⟨v, rfl, hreports⟩
    exact ⟨_, rfl, hreports⟩
  | restoreKeyAuth =>
    rw [CoordinatorCall.program, map_eq_pure_bind, wp_bind]
    refine wp_mono (wp_restoreKeyAuth h) ?_
    rintro _ _ ⟨t, rfl, hreports⟩
    exact ⟨_, rfl, hreports⟩

theorem consistent_initial : Consistent {} where
  fresh _ := rfl
  enable_le := Nat.zero_le _
  restore_le := Nat.zero_le _
  baseline := nofun

/-- Every sequence of calls leaves a consistent coordinator. -/
theorem consistent_afterCalls (policy : ReconnectPolicy)
    (calls : List (CoordinatorCall × (ℕ → TransportAnswers))) :
    Consistent (afterCalls policy calls) := by
  induction calls with
  | nil => exact consistent_initial
  | cons call earlier ih =>
    obtain ⟨value, -, attempts, -, -, hconsistent⟩ :=
      run_of_wp_alone (wp_program policy call.1 ih) call.2
    exact hconsistent

end Calls

end Model

/-- After every sequence of calls on one coordinator, whatever the transports did, each change was
attempted at most once, and one more call raises nothing and is truthful: it reads at most twice
as often as the policy allows attempts, changes the settings only right after it has read exactly
the methods it starts from and no other change since the baseline, reports a confirmed state only
if the last reading showed exactly its methods and no other change, and reports a change unsent
only if it was. -/
theorem transition_oneShot [Platform] (policy : ReconnectPolicy)
    (calls : List (CoordinatorCall × (ℕ → TransportAnswers))) (call : CoordinatorCall)
    (answers : ℕ → TransportAnswers) :
    let s := afterCalls policy calls
    let ending := (call.program policy).run answers s
    ending.state.trace.countP (fun a => a.operation = .enableBasicAuth) ≤ 1 ∧
      ending.state.trace.countP (fun a => a.operation = .restoreKeyAuth) ≤ 1 ∧
      ∃ value attempts, ending.result = .ok value ∧ ending.state.trace = s.trace ++ attempts ∧
        Truthful policy s.trace attempts value := by
  intro s ending
  obtain ⟨value, hvalue, attempts, htrace, htruthful, hconsistent⟩ :=
    run_of_wp_alone (wp_program policy call (consistent_afterCalls policy calls)) answers
  refine ⟨hconsistent.enable_le, ?_, value, attempts, hvalue, htrace, htruthful⟩
  exact hconsistent.restore_le.trans (Bool.toNat_le _)

end Administration
