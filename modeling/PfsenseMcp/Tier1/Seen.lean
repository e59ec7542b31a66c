import Mathlib.Data.Nat.Notation
import PfsenseMcp.Concurrency.Recorded
import PfsenseMcp.Tier1.OperationSteps

/-!
# What a call has seen

An operation may rest on something that the call has read or asked for before. Most of its steps
rest on nothing: they leave the trace alone, or they commit a state that needs no proof. What is
left are the requests that are handed to the write client, and the commits of `VERIFIED` and
`ROLLED_BACK`.

## Main results

* `transition_unproven`: no step of `transition` needs a proof;
* `past_of_does`, `past_of_wp`: operations without such steps;
* `load_past`: what a call has seen when it has loaded a contract.
-/

namespace Tier1

open Python Concurrency Procedure RecoveryState Op

variable [Platform]

/-- What a call has seen and done so far. -/
abbrev Past := List (Taken World Answers)

/-- The call saw something before it changed anything. -/
def SawFirst (call : ℕ) (past : Past) (P : Answers → World → Prop) : Prop :=
  ∃ t ∈ past, own call t.before.trace = [] ∧ P t.input t.before

namespace SawFirst

variable {call : ℕ} {past past' : Past} {P : Answers → World → Prop}

theorem mono (h : SawFirst call past P) (hpast : past <+: past') : SawFirst call past' P := by
  obtain ⟨t, ht, hown, hP⟩ := h
  exact ⟨t, hpast.subset ht, hown, hP⟩

/-- What a step has just shown. -/
theorem now {i : Answers} {s s' : World} (hown : own call s.trace = []) (h : P i s) :
    SawFirst call (past ++ [⟨i, s, s'⟩]) P :=
  ⟨_, List.mem_append_right _ (List.mem_singleton_self _), hown, h⟩

end SawFirst

/-! ### Steps that need no proof -/

/-- A step that leaves the trace alone, or commits a state that needs no proof. -/
def Unproven (s s' : World) : Prop :=
  s'.trace = s.trace ∨ ∃ k, s'.trace = s.trace ++ [.committed k] ∧
    k.after.state ≠ verified ∧ k.after.state ≠ rolledBack

section Unproven

variable {store : Store} {call : ℕ}

theorem unproven_refl (i : Answers) (s : World) : (fun _ => Unproven) i s s := .inl rfl

theorem executingGate_unproven (policy : ExecutionSecurityPolicy) :
    (store.executingGate policy).Does fun _ => Unproven := by
  refine does_atomic fun i s => .inl ?_
  split
  · rfl
  · dsimp only
    split <;> rfl

theorem enterExecuting_unproven (current : RecoveryContract) (target : RecoveryState)
    (instant : DateTime) (policy : Option ExecutionSecurityPolicy) :
    (store.enterExecuting current target instant policy).Does fun _ => Unproven := by
  unfold Store.enterExecuting
  by_cases htarget : target = executing
  · rw [if_pos htarget]
    refine does_bind (does_check _) fun _ => ?_
    cases policy with
    | none => exact does_check _
    | some policy =>
      dsimp only
      split_ifs
      · exact executingGate_unproven policy
      · trivial
  · rw [if_neg htarget]
    trivial

/-- `transition` neither verifies a contract nor takes it back. -/
theorem transition_unproven (contractId : String) (expectedState : RecoveryState)
    (expectedVersion : ℤ) (target : RecoveryState) (policy : Option ExecutionSecurityPolicy)
    (eventType : String) : (store.transition call contractId expectedState expectedVersion target
      policy eventType).Does fun _ => Unproven := by
  refine does_bind (does_check _) fun _ => ?_
  refine does_bind (does_check _) fun _ => ?_
  refine does_check_bind fun _ hverified => ?_
  refine does_check_bind fun _ hrolledBack => ?_
  refine does_bind (reads_load unproven_refl _) fun current => ?_
  refine does_bind (does_check _) fun _ => ?_
  refine does_bind (reads_now unproven_refl) fun _ => ?_
  refine does_bind (does_check _) fun _ => ?_
  refine does_bind (enterExecuting_unproven _ _ _ _) fun _ => ?_
  refine does_check_bind fun updated hupdated => ?_
  have hstate : updated.state = target := by
    rw [RecoveryContract.ofFields_eq_ok.1 hupdated, Store.moved]
  refine does_transact unproven_refl fun i s db t _ => .inr ⟨_, rfl, ?_, ?_⟩
  · rw [hstate]
    exact demand_eq_ok.1 hverified
  · rw [hstate]
    exact demand_eq_ok.1 hrolledBack

end Unproven

/-! ### The rules for operations -/

/-- Steps that need no proof rest on nothing. -/
def Lenient (rests : Past → Taken World Answers → Prop) : Prop :=
  ∀ past t, Unproven t.before t.after → rests past t

section Rules

variable {store : Store} {call : ℕ} {S : Setting call} {rests : Past → Taken World Answers → Prop}
  {α β : Type} {s : World} {past : Past} {post : Except Error α → World → Past → Prop}

theorem past_check {x : Except Error β} {f : β → Op α}
    (herr : ∀ e, x = .error e → post (.error e) s past)
    (hok : ∀ b, x = .ok b → wpPast (S.context store) rests (f b) post s past) :
    wpPast (S.context store) rests (Op.check x >>= f) post s past := by
  cases x with
  | error e => exact herr e rfl
  | ok b => exact hok b rfl

theorem past_demand {condition : Prop} [Decidable condition] {cls : ErrorClass} {message : String}
    {f : Unit → Op α} (herr : ∀ e, post (.error e) s past)
    (hok : condition → wpPast (S.context store) rests (f ()) post s past) :
    wpPast (S.context store) rests (Op.check (demand condition cls message) >>= f) post s past :=
  past_check (fun e _ => herr e) fun _ h => hok (demand_eq_ok.1 h)

variable (hrests : Lenient rests)

include hrests

/-- A step that leaves the world alone. -/
theorem past_consult {f : Answers → Except Error α}
    (h : ∀ s' i, Coherent store s' → S.rely s s' → post (f i) s' (past ++ [⟨i, s', s'⟩])) :
    wpPast (S.context store) rests (Op.consult f) post s past := by
  intro s' hinv hrely i _
  exact ⟨hrests _ _ (.inl rfl), (wpPast_ofExcept _ _).2 (h s' i hinv hrely)⟩

theorem rests_of_does {p : Op α} (hdoes : p.Does fun _ => Unproven) :
    p.Does fun i s s' => ∀ past, rests past ⟨i, s, s'⟩ :=
  hdoes.mono fun _ _ _ hstep _ => hrests _ _ hstep

/-- An operation that needs no proof rests on nothing. -/
theorem past_of_does {p : Op α} (hdoes : p.Does fun _ => Unproven)
    (hpost : ∀ r s past', past <+: past' → post r s past') :
    wpPast (S.context store) rests p post s past :=
  wpPast_mono (wpPast_of_does (rests_of_does hrests hdoes)) fun r s past' => hpost r s past'

/-- It may be verified without regard to what the call has seen. -/
theorem past_of_wp {p : Op α} {post' : Except Error α → World → Prop}
    (hdoes : p.Does fun _ => Unproven) (h : wp (S.context store) p post' s)
    (hpost : ∀ r s past', post' r s → past <+: past' → post r s past') :
    wpPast (S.context store) rests p post s past :=
  wpPast_mono (wpPast_of_wp (rests_of_does hrests hdoes) h) fun r s past' hr =>
    hpost r s past' hr.1 hr.2

/-- A change of a contract that needs a proof. -/
theorem past_replace {current updated : RecoveryContract} {eventType : String}
    {checkedAt : Option DateTime} {post : Except Error RecoveryContract → World → Past → Prop}
    (hproof : ∀ t : Taken World Answers, (∃ recordedAt, t.after.trace = t.before.trace ++
      [.committed ⟨call, some current, updated, eventType, recordedAt, checkedAt⟩]) →
        rests past t)
    (hpost : ∀ r s past', post r s past') :
    wpPast (S.context store) rests (store.replace call current updated eventType checkedAt) post s
      past := by
  have hdoes : (store.replace call current updated eventType checkedAt).Does fun _ s s' =>
      s'.trace = s.trace ∨ ∃ t, s'.trace = s.trace ++
        [.committed ⟨call, some current, updated, eventType, t, checkedAt⟩] :=
    does_transact (fun _ _ => .inl rfl) fun _ _ _ t _ => .inr ⟨t, rfl⟩
  intro s' _ _ i _
  refine ⟨?_, (wpPast_ofExcept _ _).2 (hpost _ _ _)⟩
  rcases (hdoes i s').1 with hsame | hcommit
  · exact hrests _ _ (.inl hsame)
  · exact hproof _ hcommit

/-- `load` reads the row of a contract that is the latest at that time. -/
theorem load_past {contractId : String}
    {post : Except Error RecoveryContract → World → Past → Prop}
    (hown : own call s.trace = []) (herr : ∀ s' past' e, post (.error e) s' past')
    (hok : ∀ s' past' c, Coherent store s' → S.rely s s' → s'.Recorded c →
      c.contractId = contractId → past <+: past' →
      SawFirst call past' (fun _ s => s.latest contractId = some c) →
      post (.ok c) s' past') :
    wpPast (S.context store) rests (store.load contractId) post s past := by
  refine (wpPast_bind _ _ _).2 ?_
  intro s₁ hs₁ h₁ i _
  refine ⟨hrests _ _ (.inl rfl), (wpPast_ofExcept _ _).2 ?_⟩
  have hown₁ : own call s₁.trace = [] := (S.frame h₁).own.trans hown
  dsimp only
  cases i.sqlite with
  | some e => exact herr _ _ e
  | none =>
    dsimp only
    cases hrow : Store.requireRow (s₁.db.selectContract contractId) with
    | error e => exact herr _ _ e
    | ok row =>
      obtain ⟨c, hlatest, hdecode⟩ := hs₁.selectContract hrow
      refine past_check (fun e _ => herr _ _ e) fun c' hc' => ?_
      rw [hdecode] at hc'
      cases hc'
      refine past_demand (fun e => herr _ _ e) fun hid => (wpPast_bind _ _ _).2 ?_
      have hrelated : wp (S.context store) (store.verifyRelatedState c)
          (fun _ s₂ => Coherent store s₂ ∧ S.rely s₁ s₂) s₁ :=
        verifyRelatedState_spec fun s₂ r hs₂ h₂ => ⟨hs₂, h₂⟩
      refine past_of_wp hrests (reads_verifyRelatedState unproven_refl c) hrelated ?_
      rintro r s₂ past' ⟨hs₂, h₂⟩ hpast
      cases r with
      | error e => exact herr _ _ e
      | ok _ =>
        have hrecorded : s₂.Recorded c := (S.frame h₂).recorded (recorded_of_latest hlatest)
        have hsaw : SawFirst call (past ++ [⟨i, s₁, s₁⟩])
            fun _ s => s.latest contractId = some c := .now hown₁ hlatest
        exact hok s₂ past' c hs₂ (S.trans h₁ h₂) hrecorded hid
          ((List.prefix_append _ _).trans hpast) (hsaw.mono hpast)

end Rules

end Tier1
