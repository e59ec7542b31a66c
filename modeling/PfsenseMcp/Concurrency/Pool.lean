import Mathlib.Data.Nat.Notation
import Mathlib.Logic.Function.Basic
import PfsenseMcp.Concurrency.Procedure

/-!
# Pools of interleaved calls

A `System` says which procedures may be called and which atomic steps are considered. Its runs
interleave any number of calls over one shared state: a new call may start at any time, any call
in progress may take its next atom, and any set of calls may be lost in a crash. Calls are
numbered in the order in which they start, and a number is never reused.

A `Certificate` collects what has to be shown about every procedure on its own, and
`Certificate.reachable` is the invariant rule: the shared invariant holds in every reachable
configuration, and every call in progress still meets its weakest precondition there.
-/

namespace Concurrency

open Procedure

variable {σ ι ε : Type}

/-- Which calls may be made, from which states, and which atomic steps are considered. -/
structure System (σ ι ε : Type) where
  /-- The initial shared states. -/
  init : σ → Prop
  /-- `program c p`: the call with number `c` may run the procedure `p`. -/
  program : ℕ → Procedure σ ι ε Unit → Prop
  /-- The atomic steps that are considered, by their input, the state before and after. -/
  permit : ι → σ → σ → Prop

/-- A shared state with the calls in progress. A call that has ended stays as its `ret` or
`raise`. -/
structure Config (σ ι ε : Type) where
  /-- The shared state. -/
  shared : σ
  /-- What is left of each call. -/
  calls : ℕ → Option (Procedure σ ι ε Unit)
  /-- The number of the next call. -/
  next : ℕ

namespace Config

/-- No call has been made. -/
def start (s : σ) : Config σ ι ε := ⟨s, fun _ => none, 0⟩

end Config

namespace System

/-- One step of a run. -/
inductive Step (S : System σ ι ε) : Config σ ι ε → Config σ ι ε → Prop
  /-- A new call starts. -/
  | call (cfg : Config σ ι ε) (p : Procedure σ ι ε Unit) (h : S.program cfg.next p) :
      Step S cfg ⟨cfg.shared, Function.update cfg.calls cfg.next (some p), cfg.next + 1⟩
  /-- A call in progress takes its next atom. -/
  | atom (cfg : Config σ ι ε) (c : ℕ) (u : ι → σ → σ) (k : ι → σ → Procedure σ ι ε Unit) (i : ι)
      (h : cfg.calls c = some (.atom u k)) (hi : S.permit i cfg.shared (u i cfg.shared)) :
      Step S cfg ⟨u i cfg.shared, Function.update cfg.calls c (some (k i cfg.shared)), cfg.next⟩
  /-- A crash loses some of the calls; the shared state stays. -/
  | crash (cfg : Config σ ι ε) (calls : ℕ → Option (Procedure σ ι ε Unit))
      (h : ∀ c, calls c = none ∨ calls c = cfg.calls c) :
      Step S cfg ⟨cfg.shared, calls, cfg.next⟩

/-- The configurations of all runs. -/
inductive Reachable (S : System σ ι ε) : Config σ ι ε → Prop
  | start {s : σ} (h : S.init s) : Reachable S (.start s)
  | step {cfg cfg' : Config σ ι ε} (h : Reachable S cfg) (hstep : Step S cfg cfg') :
      Reachable S cfg'

/-- The proof obligations of a system, one procedure at a time. `fresh c s` is what holds of `s`
before call `c` starts, and `post c` what holds once it has ended. -/
structure Certificate (S : System σ ι ε) where
  /-- The invariant of the shared state. -/
  inv : σ → Prop
  /-- What the other calls may do between two atoms of a call. -/
  rely : ℕ → σ → σ → Prop
  /-- What a call may do in one atom. -/
  guar : ℕ → σ → σ → Prop
  /-- What holds of the state before a call starts. -/
  fresh : ℕ → σ → Prop
  /-- What holds of the result of a call and of every later state. -/
  post : ℕ → Except ε Unit → σ → Prop
  rely_refl : ∀ c s, rely c s s
  rely_trans : ∀ c {s₁ s₂ s₃}, rely c s₁ s₂ → rely c s₂ s₃ → rely c s₁ s₃
  rely_of_guar : ∀ {c c' s s'}, c ≠ c' → inv s → guar c s s' → rely c' s s'
  fresh_of_guar : ∀ {c c' s s'}, c ≠ c' → guar c s s' → fresh c' s → fresh c' s'
  post_stable : ∀ {c r s s'}, inv s → inv s' → rely c s s' → post c r s → post c r s'
  of_init : ∀ {s}, S.init s → inv s ∧ ∀ c, fresh c s
  sound : ∀ {c p s}, S.program c p → inv s → fresh c s →
    wp ⟨inv, rely c, guar c, S.permit⟩ p (post c) s

namespace Certificate

variable {S : System σ ι ε}

/-- The context in which call `c` is verified. -/
def context (cert : Certificate S) (c : ℕ) : Context σ ι :=
  ⟨cert.inv, cert.rely c, cert.guar c, S.permit⟩

/-- What the invariant rule establishes of a configuration. -/
structure Holds (cert : Certificate S) (cfg : Config σ ι ε) : Prop where
  inv : cert.inv cfg.shared
  fresh : ∀ c, cfg.next ≤ c → cfg.calls c = none ∧ cert.fresh c cfg.shared
  calls : ∀ c p, cfg.calls c = some p → wp (cert.context c) p (cert.post c) cfg.shared

/-- A new call starts with its weakest precondition. -/
theorem holds_call (cert : Certificate S) {cfg : Config σ ι ε} {p : Procedure σ ι ε Unit}
    (hp : S.program cfg.next p) (h : cert.Holds cfg) :
    cert.Holds ⟨cfg.shared, Function.update cfg.calls cfg.next (some p), cfg.next + 1⟩ := by
  refine ⟨h.inv, fun c hc => ?_, fun c q hq => ?_⟩
  · have hne : c ≠ cfg.next := by rintro rfl; exact absurd hc (Nat.not_succ_le_self _)
    exact ⟨by simpa [Function.update_of_ne hne] using (h.fresh c (Nat.le_of_succ_le hc)).1,
      (h.fresh c (Nat.le_of_succ_le hc)).2⟩
  · by_cases hne : c = cfg.next
    · subst hne
      simp only [Function.update_self, Option.some.injEq] at hq
      subst hq
      exact cert.sound hp h.inv (h.fresh _ (Nat.le_refl _)).2
    · simp only [Function.update_of_ne hne] at hq
      exact h.calls c q hq

/-- An atom of one call preserves the weakest preconditions of all others. -/
theorem holds_atom (cert : Certificate S) {cfg : Config σ ι ε} {c : ℕ} {u : ι → σ → σ}
    {k : ι → σ → Procedure σ ι ε Unit} {i : ι} (hc : cfg.calls c = some (.atom u k))
    (hi : S.permit i cfg.shared (u i cfg.shared)) (h : cert.Holds cfg) :
    cert.Holds
      ⟨u i cfg.shared, Function.update cfg.calls c (some (k i cfg.shared)), cfg.next⟩ := by
  obtain ⟨hinv, hguar, hwp⟩ := h.calls c _ hc cfg.shared h.inv (cert.rely_refl c _) i hi
  refine ⟨hinv, fun c' hc' => ?_, fun c' q hq => ?_⟩
  · -- a call that has not started yet is not the one that moved
    have hne : c ≠ c' := by
      rintro rfl
      rw [(h.fresh c hc').1] at hc
      exact absurd hc (by simp)
    exact ⟨by simpa [Function.update_of_ne hne.symm] using (h.fresh c' hc').1,
      cert.fresh_of_guar hne hguar (h.fresh c' hc').2⟩
  · by_cases hne : c' = c
    · subst hne
      simp only [Function.update_self, Option.some.injEq] at hq
      subst hq
      exact hwp
    · simp only [Function.update_of_ne hne] at hq
      have hrely : cert.rely c' cfg.shared (u i cfg.shared) :=
        cert.rely_of_guar (Ne.symm hne) h.inv hguar
      exact wp_stable (cert.rely_trans c') (fun r => cert.post_stable h.inv hinv hrely)
        (h.calls c' q hq) hrely

/-- The invariant rule: every reachable configuration satisfies the certificate. -/
theorem reachable (cert : Certificate S) {cfg : Config σ ι ε} (h : S.Reachable cfg) :
    cert.Holds cfg := by
  induction h with
  | start hs =>
    obtain ⟨hinv, hfresh⟩ := cert.of_init hs
    exact ⟨hinv, fun c _ => ⟨rfl, hfresh c⟩, fun c p hp => by simp [Config.start] at hp⟩
  | step _ hstep ih =>
    cases hstep with
    | call p hp => exact cert.holds_call hp ih
    | atom c u k i hc hi => exact cert.holds_atom hc hi ih
    | crash calls hcalls =>
      refine ⟨ih.inv, fun c hc => ⟨?_, (ih.fresh c hc).2⟩, fun c p hp => ?_⟩
      · rcases hcalls c with h | h
        · exact h
        · exact h.trans (ih.fresh c hc).1
      · rcases hcalls c with h | h
        · exact absurd (h.symm.trans hp) (by simp)
        · exact ih.calls c p (h.symm.trans hp)

/-- A step of a run leaves the shared state alone, or is within the guarantee of a call. -/
theorem guar_of_step (cert : Certificate S) {cfg cfg' : Config σ ι ε} (h : S.Reachable cfg)
    (hstep : S.Step cfg cfg') :
    cfg'.shared = cfg.shared ∨ ∃ c, cert.guar c cfg.shared cfg'.shared := by
  have hholds := cert.reachable h
  cases hstep with
  | call p hp => exact .inl rfl
  | atom c u k i hc hi =>
    have hatom := hholds.calls c _ hc cfg.shared hholds.inv (cert.rely_refl c _) i hi
    exact .inr ⟨c, hatom.2.1⟩
  | crash calls hcalls => exact .inl rfl

end Certificate

/-! ### A call made alone is a run of the pool -/

/-- If the steps of an execution of `p` are permitted, the pool can follow it. -/
theorem reachable_run {S : System σ ι ε} {c : ℕ} (p : Procedure σ ι ε Unit) (inputs : ℕ → ι)
    {cfg : Config σ ι ε} (h : S.Reachable cfg) (hpermit : p.Permitted S.permit inputs cfg.shared)
    (hc : cfg.calls c = some p) :
    ∃ cfg', S.Reachable cfg' ∧ cfg'.shared = (p.run inputs cfg.shared).state ∧
      cfg'.next = cfg.next ∧
      cfg'.calls c = some (ofExcept (p.run inputs cfg.shared).result) ∧
      ∀ c' ≠ c, cfg'.calls c' = cfg.calls c' := by
  induction p generalizing inputs cfg with
  | ret a => exact ⟨cfg, h, rfl, rfl, hc, fun _ _ => rfl⟩
  | raise e => exact ⟨cfg, h, rfl, rfl, hc, fun _ _ => rfl⟩
  | atom u k ih =>
    have hstep := Step.atom cfg c u k (inputs 0) hc hpermit.1
    obtain ⟨cfg', h₁, h₂, h₃, h₄, h₅⟩ := ih (inputs 0) cfg.shared (fun n => inputs (n + 1))
      (h.step hstep) hpermit.2 (by simp)
    refine ⟨cfg', h₁, h₂, h₃, h₄, fun c' hne => ?_⟩
    rw [h₅ c' hne]
    exact Function.update_of_ne hne _ _

/-- A complete call made alone from a reachable configuration reaches the state it ends in. -/
theorem reachable_call {S : System σ ι ε} {p : Procedure σ ι ε Unit} (inputs : ℕ → ι)
    {cfg : Config σ ι ε} (h : S.Reachable cfg) (hpermit : p.Permitted S.permit inputs cfg.shared)
    (hp : S.program cfg.next p) :
    ∃ cfg', S.Reachable cfg' ∧ cfg'.shared = (p.run inputs cfg.shared).state ∧
      cfg'.next = cfg.next + 1 ∧
      cfg'.calls cfg.next = some (ofExcept (p.run inputs cfg.shared).result) := by
  obtain ⟨cfg', h₁, h₂, h₃, h₄, -⟩ :=
    reachable_run (c := cfg.next) p inputs (h.step (Step.call cfg p hp)) hpermit (by simp)
  exact ⟨cfg', h₁, h₂, h₃, h₄⟩

/-- If the first part of a call runs alone, the pool can follow it. -/
theorem exists_runs {S : System σ ι ε} {α : Type} {p : Procedure σ ι ε α}
    {f : α → Procedure σ ι ε Unit} {i : ι} {a : α} {s' : σ} {c : ℕ} {cfg : Config σ ι ε}
    (h : S.Reachable cfg) (hc : cfg.calls c = some (p >>= f))
    (hr : Runs S.permit i p cfg.shared (.ok a) s') :
    ∃ cfg', S.Reachable cfg' ∧ cfg'.shared = s' ∧ cfg'.next = cfg.next ∧
      cfg'.calls = Function.update cfg.calls c (some (f a)) := by
  induction p generalizing cfg with
  | ret b =>
    obtain ⟨hrun, -⟩ := hr
    cases hrun
    exact ⟨cfg, h, rfl, rfl, (Function.update_eq_self_iff.2 hc.symm).symm⟩
  | raise e =>
    obtain ⟨hrun, -⟩ := hr
    cases hrun
  | atom u k ih =>
    have hstep := Step.atom cfg c u (fun i s => k i s >>= f) i hc hr.permitted.1
    obtain ⟨cfg', h₁, h₂, h₃, h₄⟩ := ih i cfg.shared (h.step hstep) (Function.update_self _ _ _)
      ⟨hr.run, hr.permitted.2⟩
    refine ⟨cfg', h₁, h₂, h₃, ?_⟩
    rw [h₄, Function.update_idem]

/-! ### Single steps -/

/-- A new call starts, and the others stay where they are. -/
theorem exists_start {S : System σ ι ε} {p : Procedure σ ι ε Unit} {cfg : Config σ ι ε}
    (h : S.Reachable cfg) (hp : S.program cfg.next p) :
    ∃ cfg', S.Reachable cfg' ∧ cfg'.shared = cfg.shared ∧ cfg'.next = cfg.next + 1 ∧
      cfg'.calls = Function.update cfg.calls cfg.next (some p) :=
  ⟨_, h.step (Step.call cfg p hp), rfl, rfl, rfl⟩

/-- A call takes its next atom, and the others stay where they are. -/
theorem exists_atom {S : System σ ι ε} {cfg : Config σ ι ε} {c : ℕ} {u : ι → σ → σ}
    {k : ι → σ → Procedure σ ι ε Unit} (i : ι) (h : S.Reachable cfg)
    (hc : cfg.calls c = some (.atom u k)) (hi : S.permit i cfg.shared (u i cfg.shared)) :
    ∃ cfg', S.Reachable cfg' ∧ cfg'.shared = u i cfg.shared ∧ cfg'.next = cfg.next ∧
      cfg'.calls = Function.update cfg.calls c (some (k i cfg.shared)) :=
  ⟨_, h.step (Step.atom cfg c u k i hc hi), rfl, rfl, rfl⟩

end System

end Concurrency
