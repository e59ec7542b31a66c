import Mathlib.Data.Nat.Notation
import PfsenseMcp.Concurrency.Steps

/-!
# Runs with a record of every call

What a call may do can depend on what it has seen: it sends only after a check, and it reports only
what it has read. Such a dependency is about the atoms that the call itself has taken, with their
inputs, and not about the shared state. Here a run is recorded, and a procedure is verified against
a condition on each of its atoms that may mention the atoms before it.

## Main results

* `wpPast_bind`, `wpPast_attempt`, `wpPast_of_wp`: the rules of the weakest precondition over what
  a call has seen;
* `System.Account.rests`: in every recorded run, every atom of every call meets its condition;
* `System.Recorded.exists_taken`: what has come about has been brought about by an atom.
-/

namespace Concurrency

variable {σ ι ε α β : Type}

/-- An atom that a call has taken, with its input and the state before and after. -/
structure Taken (σ ι : Type) where
  input : ι
  before : σ
  after : σ

namespace Procedure

/-- After the atoms `past`, whatever the environment and the other procedures do, every atom of a
procedure meets the condition `rests`, and the procedure ends in `post`. -/
def wpPast (C : Context σ ι) (rests : List (Taken σ ι) → Taken σ ι → Prop) :
    Procedure σ ι ε α → (Except ε α → σ → List (Taken σ ι) → Prop) → σ → List (Taken σ ι) → Prop
  | ret a, post, s, past => post (.ok a) s past
  | raise e, post, s, past => post (.error e) s past
  | atom u k, post, s, past => ∀ s', C.inv s' → C.rely s s' → ∀ i, C.permit i s' (u i s') →
      rests past ⟨i, s', u i s'⟩ ∧
        wpPast C rests (k i s') post (u i s') (past ++ [⟨i, s', u i s'⟩])

theorem Does.mono {R R' : ι → σ → σ → Prop} {p : Procedure σ ι ε α} (h : p.Does R)
    (hR : ∀ i s s', R i s s' → R' i s s') : p.Does R' := by
  induction p with
  | ret a => trivial
  | raise e => trivial
  | atom u k ih => exact fun i s => ⟨hR _ _ _ (h i s).1, ih i s (h i s).2⟩

theorem does_of_forall {R : ι → σ → σ → Prop} (h : ∀ i s s', R i s s')
    (p : Procedure σ ι ε α) : p.Does R := by
  induction p with
  | ret a => trivial
  | raise e => trivial
  | atom u k ih => exact fun i s => ⟨h _ _ _, ih i s⟩

variable {C : Context σ ι} {rests : List (Taken σ ι) → Taken σ ι → Prop} {s : σ}
  {past : List (Taken σ ι)}

theorem wpPast_ofExcept (x : Except ε α) (post : Except ε α → σ → List (Taken σ ι) → Prop) :
    wpPast C rests (ofExcept x) post s past ↔ post x s past := by
  cases x <;> rfl

/-- The continuation of a composition, as a postcondition of its first part. -/
def andThenPast (C : Context σ ι) (rests : List (Taken σ ι) → Taken σ ι → Prop)
    (f : α → Procedure σ ι ε β) (post : Except ε β → σ → List (Taken σ ι) → Prop) :
    Except ε α → σ → List (Taken σ ι) → Prop
  | .ok a, s, past => wpPast C rests (f a) post s past
  | .error e, s, past => post (.error e) s past

@[simp]
theorem andThenPast_ok (f : α → Procedure σ ι ε β)
    (post : Except ε β → σ → List (Taken σ ι) → Prop) (a : α) :
    andThenPast C rests f post (.ok a) s past ↔ wpPast C rests (f a) post s past := Iff.rfl

@[simp]
theorem andThenPast_error (f : α → Procedure σ ι ε β)
    (post : Except ε β → σ → List (Taken σ ι) → Prop) (e : ε) :
    andThenPast C rests f post (.error e) s past ↔ post (.error e) s past := Iff.rfl

theorem wpPast_bind (p : Procedure σ ι ε α) (f : α → Procedure σ ι ε β)
    (post : Except ε β → σ → List (Taken σ ι) → Prop) :
    wpPast C rests (p >>= f) post s past ↔
      wpPast C rests p (andThenPast C rests f post) s past := by
  induction p generalizing s past with
  | ret a => rfl
  | raise e => rfl
  | atom u k ih =>
    exact forall₅_congr fun s' _ _ i _ => and_congr_right fun _ => ih i s'

theorem wpPast_attempt (p : Procedure σ ι ε α)
    (post : Except ε (Except ε α) → σ → List (Taken σ ι) → Prop) :
    wpPast C rests p.attempt post s past ↔
      wpPast C rests p (fun r s past => post (.ok r) s past) s past := by
  induction p generalizing s past with
  | ret a => rfl
  | raise e => rfl
  | atom u k ih =>
    exact forall₅_congr fun s' _ _ i _ => and_congr_right fun _ => ih i s'

/-- A procedure whose atoms meet the condition after any past may be verified without one. -/
theorem wpPast_of_wp {p : Procedure σ ι ε α} {post : Except ε α → σ → Prop}
    (hrests : p.Does fun i s s' => ∀ past, rests past ⟨i, s, s'⟩) (h : wp C p post s) :
    wpPast C rests p (fun r s past' => post r s ∧ past <+: past') s past := by
  -- what has been seen before stays at the front
  suffices ∀ front, front <+: past →
      wpPast C rests p (fun r s past' => post r s ∧ front <+: past') s past from
    this past (List.prefix_refl _)
  induction p generalizing s past with
  | ret a => exact fun front hfront => ⟨h, hfront⟩
  | raise e => exact fun front hfront => ⟨h, hfront⟩
  | atom u k ih =>
    intro front hfront s' hinv hrely i hi
    obtain ⟨-, -, hrest⟩ := h s' hinv hrely i hi
    obtain ⟨hatom, hnext⟩ := hrests i s'
    exact ⟨hatom past, ih _ _ hnext hrest front (hfront.trans (List.prefix_append _ _))⟩

/-- Nothing else has to be verified if nothing is asked of its end. -/
theorem wpPast_of_does {p : Procedure σ ι ε α}
    (hrests : p.Does fun i s s' => ∀ past, rests past ⟨i, s, s'⟩) :
    wpPast C rests p (fun _ _ past' => past <+: past') s past := by
  suffices ∀ front, front <+: past →
      wpPast C rests p (fun _ _ past' => front <+: past') s past from this past (List.prefix_refl _)
  induction p generalizing s past with
  | ret a => exact fun front hfront => hfront
  | raise e => exact fun front hfront => hfront
  | atom u k ih =>
    intro front hfront s' _ _ i _
    obtain ⟨hatom, hnext⟩ := hrests i s'
    exact ⟨hatom past, ih _ _ hnext front (hfront.trans (List.prefix_append _ _))⟩

theorem wpPast_mono {p : Procedure σ ι ε α}
    {post post' : Except ε α → σ → List (Taken σ ι) → Prop} (h : wpPast C rests p post s past)
    (hpost : ∀ r s past, post r s past → post' r s past) : wpPast C rests p post' s past := by
  induction p generalizing s past with
  | ret a => exact hpost _ _ _ h
  | raise e => exact hpost _ _ _ h
  | atom u k ih =>
    intro s' hinv hrely i hi
    obtain ⟨hatom, hrest⟩ := h s' hinv hrely i hi
    exact ⟨hatom, ih _ _ hrest⟩

theorem wpPast_imp {rests' : List (Taken σ ι) → Taken σ ι → Prop} {p : Procedure σ ι ε α}
    {post : Except ε α → σ → List (Taken σ ι) → Prop} (h : wpPast C rests p post s past)
    (hrests : ∀ past t, rests past t → rests' past t) : wpPast C rests' p post s past := by
  induction p generalizing s past with
  | ret a => exact h
  | raise e => exact h
  | atom u k ih =>
    intro s' hinv hrely i hi
    obtain ⟨hatom, hrest⟩ := h s' hinv hrely i hi
    exact ⟨hrests _ _ hatom, ih _ _ hrest⟩

/-- Steps of the other procedures preserve it. -/
theorem wpPast_stable {p : Procedure σ ι ε α} {s' : σ}
    (htrans : ∀ {a b c}, C.rely a b → C.rely b c → C.rely a c)
    (h : wpPast C rests p (fun _ _ _ => True) s past) (hrely : C.rely s s') :
    wpPast C rests p (fun _ _ _ => True) s' past := by
  cases p with
  | ret a => trivial
  | raise e => trivial
  | atom u k => exact fun t hinv ht i hi => h t hinv (htrans hrely ht) i hi

end Procedure

open Procedure

namespace System

/-- The runs of a system, with the atoms that each call has taken. -/
inductive Recorded (S : System σ ι ε) : Config σ ι ε → (ℕ → List (Taken σ ι)) → Prop
  | start {s : σ} (h : S.init s) : Recorded S (.start s) fun _ => []
  | call {cfg : Config σ ι ε} {past : ℕ → List (Taken σ ι)} (h : Recorded S cfg past)
      (p : Procedure σ ι ε Unit) (hp : S.program cfg.next p) :
      Recorded S ⟨cfg.shared, Function.update cfg.calls cfg.next (some p), cfg.next + 1⟩ past
  | atom {cfg : Config σ ι ε} {past : ℕ → List (Taken σ ι)} (h : Recorded S cfg past) (c : ℕ)
      (u : ι → σ → σ) (k : ι → σ → Procedure σ ι ε Unit) (i : ι)
      (hc : cfg.calls c = some (.atom u k)) (hi : S.permit i cfg.shared (u i cfg.shared)) :
      Recorded S ⟨u i cfg.shared, Function.update cfg.calls c (some (k i cfg.shared)), cfg.next⟩
        (Function.update past c (past c ++ [⟨i, cfg.shared, u i cfg.shared⟩]))
  | crash {cfg : Config σ ι ε} {past : ℕ → List (Taken σ ι)} (h : Recorded S cfg past)
      (calls : ℕ → Option (Procedure σ ι ε Unit))
      (hcalls : ∀ c, calls c = none ∨ calls c = cfg.calls c) :
      Recorded S ⟨cfg.shared, calls, cfg.next⟩ past

variable {S : System σ ι ε} {cfg : Config σ ι ε} {past : ℕ → List (Taken σ ι)}

/-- A recorded run is a run. -/
theorem Recorded.reachable (h : S.Recorded cfg past) : S.Reachable cfg := by
  induction h with
  | start h => exact .start h
  | call _ p hp ih => exact ih.step (.call _ p hp)
  | atom _ c u k i hc hi ih => exact ih.step (.atom _ c u k i hc hi)
  | crash _ calls hcalls ih => exact ih.step (.crash _ calls hcalls)

/-- Every run can be recorded. -/
theorem Reachable.exists_recorded (h : S.Reachable cfg) : ∃ past, S.Recorded cfg past := by
  induction h with
  | start h => exact ⟨_, .start h⟩
  | step _ hstep ih =>
    obtain ⟨past, hpast⟩ := ih
    cases hstep with
    | call p hp => exact ⟨_, hpast.call p hp⟩
    | atom c u k i hc hi => exact ⟨_, hpast.atom c u k i hc hi⟩
    | crash calls hcalls => exact ⟨_, hpast.crash calls hcalls⟩

/-- The call `c` took the atom `t` after the atoms `before`. -/
def TookAfter (past : ℕ → List (Taken σ ι)) (c : ℕ) (before : List (Taken σ ι))
    (t : Taken σ ι) : Prop :=
  before ++ [t] <+: past c

/-- The atoms of a call are those before, and the last one. -/
theorem tookAfter_update {c c' : ℕ} {t t' : Taken σ ι} {before : List (Taken σ ι)}
    (h : TookAfter (Function.update past c (past c ++ [t])) c' before t') :
    TookAfter past c' before t' ∨ (c' = c ∧ before = past c ∧ t' = t) := by
  unfold TookAfter at h
  by_cases hc : c' = c
  · subst hc
    rw [Function.update_self, List.prefix_concat_iff] at h
    rcases h with h | h
    · obtain ⟨hbefore, ht⟩ := List.append_inj' h rfl
      exact .inr ⟨rfl, hbefore, List.singleton_inj.1 ht⟩
    · exact .inl h
  · rw [Function.update_of_ne hc] at h
    exact .inl h

/-- What holds now and not at first has been brought about by an atom of a call. -/
theorem Recorded.exists_taken (h : S.Recorded cfg past) {P : σ → Prop}
    (hinit : ∀ s, S.init s → ¬P s) (hP : P cfg.shared) :
    ∃ c before t, TookAfter past c before t ∧ ¬P t.before ∧ P t.after := by
  induction h with
  | start h => exact absurd hP (hinit _ h)
  | call _ p hp ih => exact ih hP
  | crash _ calls hcalls ih => exact ih hP
  | @atom cfg past _ c u k i hc hi ih =>
    by_cases hbefore : P cfg.shared
    · obtain ⟨c', before, t, htook, ht⟩ := ih hbefore
      refine ⟨c', before, t, ?_, ht⟩
      unfold TookAfter at htook ⊢
      by_cases hne : c' = c
      · subst hne
        rw [Function.update_self]
        exact htook.trans (List.prefix_append _ _)
      · rwa [Function.update_of_ne hne]
    · refine ⟨c, past c, ⟨i, cfg.shared, u i cfg.shared⟩, ?_, hbefore, hP⟩
      unfold TookAfter
      simp only [Function.update_self, List.prefix_refl]

/-- Conditions on the atoms of the calls of a certified system, verified one procedure at a
time. -/
structure Account (cert : Certificate S) where
  /-- What an atom of a call rests on. -/
  rests : ℕ → List (Taken σ ι) → Taken σ ι → Prop
  sound : ∀ {c p s}, S.program c p → cert.inv s → cert.fresh c s →
    wpPast (cert.context c) (rests c) p (fun _ _ _ => True) s []

namespace Account

variable {cert : Certificate S} (account : Account cert)

/-- What holds of a recorded configuration. -/
structure Holds (cfg : Config σ ι ε) (past : ℕ → List (Taken σ ι)) : Prop where
  /-- No call that has not started has taken an atom. -/
  fresh : ∀ c, cfg.next ≤ c → past c = []
  calls : ∀ c p, cfg.calls c = some p →
    wpPast (cert.context c) (account.rests c) p (fun _ _ _ => True) cfg.shared (past c)
  took : ∀ c before t, TookAfter past c before t →
    account.rests c before t ∧ cert.inv t.before ∧ cert.guar c t.before t.after

theorem holds_call {p : Procedure σ ι ε Unit} (hp : S.program cfg.next p)
    (hcert : cert.Holds cfg) (h : account.Holds cfg past) :
    account.Holds ⟨cfg.shared, Function.update cfg.calls cfg.next (some p), cfg.next + 1⟩
      past := by
  refine ⟨fun c hc => h.fresh c (Nat.le_of_succ_le hc), fun c q hq => ?_, h.took⟩
  by_cases hne : c = cfg.next
  · subst hne
    simp only [Function.update_self, Option.some.injEq] at hq
    subst hq
    rw [h.fresh _ (Nat.le_refl _)]
    exact account.sound hp hcert.inv (hcert.fresh _ (Nat.le_refl _)).2
  · simp only [Function.update_of_ne hne] at hq
    exact h.calls c q hq

theorem holds_atom {c : ℕ} {u : ι → σ → σ} {k : ι → σ → Procedure σ ι ε Unit} {i : ι}
    (hc : cfg.calls c = some (.atom u k)) (hi : S.permit i cfg.shared (u i cfg.shared))
    (hcert : cert.Holds cfg) (h : account.Holds cfg past) :
    account.Holds ⟨u i cfg.shared, Function.update cfg.calls c (some (k i cfg.shared)), cfg.next⟩
      (Function.update past c (past c ++ [⟨i, cfg.shared, u i cfg.shared⟩])) := by
  have hrefl : (cert.context c).rely cfg.shared cfg.shared := cert.rely_refl c _
  obtain ⟨-, hguar, -⟩ := hcert.calls c _ hc cfg.shared hcert.inv hrefl i hi
  obtain ⟨hrests, hwp⟩ := h.calls c _ hc cfg.shared hcert.inv hrefl i hi
  refine ⟨fun c' hc' => ?_, fun c' q hq => ?_, fun c' before t htook => ?_⟩
  · have hne : c' ≠ c := by
      rintro rfl
      rw [(hcert.fresh _ hc').1] at hc
      cases hc
    rw [Function.update_of_ne hne]
    exact h.fresh c' hc'
  · by_cases hne : c' = c
    · subst hne
      simp only [Function.update_self, Option.some.injEq] at hq
      subst hq
      rw [Function.update_self]
      exact hwp
    · simp only [Function.update_of_ne hne] at hq
      rw [Function.update_of_ne hne]
      have hrely : cert.rely c' cfg.shared (u i cfg.shared) :=
        cert.rely_of_guar (Ne.symm hne) hcert.inv hguar
      exact wpPast_stable (cert.rely_trans c') (h.calls c' q hq) hrely
  · rcases tookAfter_update htook with htook | ⟨rfl, rfl, rfl⟩
    · exact h.took c' before t htook
    · exact ⟨hrests, hcert.inv, hguar⟩

/-- The rule for recorded runs. -/
theorem recorded (h : S.Recorded cfg past) : account.Holds cfg past := by
  induction h with
  | start hs =>
    refine ⟨fun _ _ => rfl, fun c p hp => ?_, fun c before t htook => ?_⟩
    · cases hp
    · exact absurd (List.prefix_nil.1 htook) (by simp)
  | call hrun p hp ih => exact account.holds_call hp (cert.reachable hrun.reachable) ih
  | atom hrun c u k i hc hi ih => exact account.holds_atom hc hi (cert.reachable hrun.reachable) ih
  | @crash cfg past _ calls hcalls ih =>
    refine ⟨ih.fresh, fun c p hp => ?_, ih.took⟩
    have hp : calls c = some p := hp
    rcases hcalls c with hlost | hkept
    · rw [hlost] at hp
      cases hp
    · exact ih.calls c p (hkept.symm.trans hp)

end Account

end System

end Concurrency
