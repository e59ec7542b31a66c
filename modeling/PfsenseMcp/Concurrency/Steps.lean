import Mathlib.Data.Nat.Notation
import PfsenseMcp.Concurrency.Pool

/-!
# What every step of a run does

A relation between the input of an atom, the state before and the state after can be checked on
the code of the calls, atom by atom and without regard to what the other calls do. It then holds of
every step of a run.

## Main results

* `does_bind`, `does_attempt`: the relation is checked part by part;
* `System.steps_induction`: what such steps preserve holds in every reachable configuration;
* `System.Reachable.restrict`: a run whose steps meet a stronger condition is a run under it.
-/

namespace Concurrency

variable {σ ι ε α β : Type}

namespace Procedure

/-- Every atom of a procedure relates its input and the state before to the state after,
whatever they are. -/
def Does (R : ι → σ → σ → Prop) : Procedure σ ι ε α → Prop
  | atom u k => ∀ i s, R i s (u i s) ∧ (k i s).Does R
  | _ => True

variable {R : ι → σ → σ → Prop}

theorem does_bind {p : Procedure σ ι ε α} {f : α → Procedure σ ι ε β} (hp : p.Does R)
    (hf : ∀ a, (f a).Does R) : (p >>= f).Does R := by
  induction p with
  | ret a => exact hf a
  | raise e => trivial
  | atom u k ih => exact fun i s => ⟨(hp i s).1, ih i s (hp i s).2⟩

theorem does_attempt {p : Procedure σ ι ε α} (hp : p.Does R) : p.attempt.Does R := by
  induction p with
  | ret a => trivial
  | raise e => trivial
  | atom u k ih => exact fun i s => ⟨(hp i s).1, ih i s (hp i s).2⟩

theorem does_ofExcept (x : Except ε α) : (ofExcept x : Procedure σ ι ε α).Does R := by
  cases x <;> trivial

end Procedure

open Procedure

namespace System

variable {S : System σ ι ε} {R : ι → σ → σ → Prop}

/-- What is left of a call does what its procedure does. -/
theorem Reachable.does (hprogram : ∀ c p, S.program c p → p.Does R) {cfg : Config σ ι ε}
    (h : S.Reachable cfg) : ∀ c p, cfg.calls c = some p → p.Does R := by
  induction h with
  | start hs => exact nofun
  | @step cfg cfg' _ hstep ih =>
    cases hstep with
    | call p hp =>
      intro c q hq
      by_cases hc : c = cfg.next
      · rw [hc] at hq
        simp only [Function.update_self, Option.some.injEq] at hq
        exact hq ▸ hprogram _ p hp
      · exact ih c q (by simpa only [Function.update_of_ne hc] using hq)
    | atom c u k i hc hi =>
      intro c' q hq
      by_cases hne : c' = c
      · rw [hne] at hq
        simp only [Function.update_self, Option.some.injEq] at hq
        exact hq ▸ (ih c _ hc i cfg.shared).2
      · exact ih c' q (by simpa only [Function.update_of_ne hne] using hq)
    | crash calls hcalls =>
      intro c q hq
      rcases hcalls c with hnone | hsame
      · exact absurd (hnone.symm.trans hq) (by simp)
      · exact ih c q (hsame ▸ hq)

/-- What holds initially, and is preserved by every permitted step that does what the procedures
do, holds in every reachable configuration. -/
theorem steps_induction (hprogram : ∀ c p, S.program c p → p.Does R) {P : σ → Prop}
    (hinit : ∀ s, S.init s → P s)
    (hstep : ∀ {cfg cfg' i}, S.Reachable cfg → S.Reachable cfg' →
      S.permit i cfg.shared cfg'.shared → R i cfg.shared cfg'.shared → P cfg.shared →
        P cfg'.shared)
    {cfg : Config σ ι ε} (h : S.Reachable cfg) : P cfg.shared := by
  induction h with
  | start hs => exact hinit _ hs
  | @step cfg cfg' hreach hnext ih =>
    have hreach' := hreach.step hnext
    cases hnext with
    | call p hp => exact ih
    | atom c u k i hc hi =>
      exact hstep hreach hreach' hi (hreach.does hprogram c _ hc i cfg.shared).1 ih
    | crash calls hcalls => exact ih

/-- A run whose steps all meet a condition is a run under that condition. Only steps to states that
come before the last one need to be considered. -/
theorem Reachable.restrict {T : System σ ι ε} (hinit : ∀ s, S.init s → T.init s)
    (hprogram : ∀ c p, S.program c p → T.program c p) {before : σ → σ → Prop}
    (hrefl : ∀ s, before s s) (htrans : ∀ {s₁ s₂ s₃}, before s₁ s₂ → before s₂ s₃ → before s₁ s₃)
    (hbefore : ∀ {cfg cfg'}, S.Reachable cfg → Step S cfg cfg' → before cfg.shared cfg'.shared)
    {cfg : Config σ ι ε} (h : S.Reachable cfg)
    (hpermit : ∀ {i s s'}, before s s' → before s' cfg.shared → S.permit i s s' →
      T.permit i s s') : T.Reachable cfg := by
  induction h with
  | start hs => exact .start (hinit _ hs)
  | @step cfg cfg' hreach hstep ih =>
    have hlast := hbefore hreach hstep
    have hprev : T.Reachable cfg := ih fun hs hs' hi => hpermit hs (htrans hs' hlast) hi
    refine hprev.step ?_
    cases hstep with
    | call p hp => exact .call cfg p (hprogram _ _ hp)
    | atom c u k i hc hi => exact .atom cfg c u k i hc (hpermit hlast (hrefl _) hi)
    | crash calls hcalls => exact .crash cfg calls hcalls

end System

end Concurrency
