import PfsenseMcp.Concurrency.Procedure

/-!
# Procedures cut off by a crash

A crash may come between two atoms of a procedure or inside of one of them. What an atom leaves
behind when it is torn is a relation between the state before it, the state that it would have left,
and the state that is found.

## Main results

* `cutOff_atom`, `cutOff_bind`, `cutOff_map`: where a procedure may be cut off, by its parts;
* `cutOff_run`: a crash may come after the last atom.
-/

namespace Concurrency

namespace Procedure

variable {σ ι ε α β : Type}

/-- A procedure, started in the first state while the environment answers in the same way all along,
may be cut off in the second. -/
inductive CutOff (tear : σ → σ → σ → Prop) (i : ι) : Procedure σ ι ε α → σ → σ → Prop
  /-- The crash comes before the next atom. -/
  | before (p : Procedure σ ι ε α) (s : σ) : CutOff tear i p s s
  /-- The crash tears an atom. -/
  | during {u : ι → σ → σ} {k : ι → σ → Procedure σ ι ε α} {s s' : σ} (h : tear s (u i s) s') :
    CutOff tear i (atom u k) s s'
  /-- The crash comes later. -/
  | after {u : ι → σ → σ} {k : ι → σ → Procedure σ ι ε α} {s s' : σ}
    (h : CutOff tear i (k i s) (u i s) s') : CutOff tear i (atom u k) s s'

variable {tear : σ → σ → σ → Prop} {i : ι} {s s' : σ}

theorem cutOff_ret {a : α} : CutOff tear i (ret a : Procedure σ ι ε α) s s' ↔ s' = s := by
  constructor
  · rintro ⟨⟩
    rfl
  · rintro rfl
    exact .before _ _

theorem cutOff_raise {e : ε} : CutOff tear i (raise e : Procedure σ ι ε α) s s' ↔ s' = s := by
  constructor
  · rintro ⟨⟩
    rfl
  · rintro rfl
    exact .before _ _

theorem cutOff_ofExcept {x : Except ε α} :
    CutOff tear i (ofExcept x : Procedure σ ι ε α) s s' ↔ s' = s := by
  rcases x with e | a
  · exact cutOff_raise
  · exact cutOff_ret

theorem cutOff_atom {u : ι → σ → σ} {k : ι → σ → Procedure σ ι ε α} :
    CutOff tear i (atom u k) s s' ↔
      s' = s ∨ tear s (u i s) s' ∨ CutOff tear i (k i s) (u i s) s' := by
  constructor
  · rintro (- | h | h)
    · exact .inl rfl
    · exact .inr (.inl h)
    · exact .inr (.inr h)
  · rintro (rfl | h | h)
    · exact .before _ _
    · exact .during h
    · exact .after h

/-- A composition is cut off in its first part, or in its second part after the first returned. -/
theorem cutOff_bind {p : Procedure σ ι ε α} {f : α → Procedure σ ι ε β} :
    CutOff tear i (p >>= f) s s' ↔ CutOff tear i p s s' ∨
      ∃ a t, p.run (fun _ => i) s = ⟨.ok a, t, fun _ => i⟩ ∧ CutOff tear i (f a) t s' := by
  induction p generalizing s with
  | ret a =>
    rw [ret_bind, cutOff_ret]
    constructor
    · intro h
      exact .inr ⟨a, s, rfl, h⟩
    · rintro (rfl | ⟨b, t, hrun, h⟩)
      · exact .before _ _
      · obtain ⟨rfl, rfl⟩ : a = b ∧ s = t := by simpa using hrun
        exact h
  | raise e =>
    rw [raise_bind, cutOff_raise, cutOff_raise]
    constructor
    · exact .inl
    · rintro (h | ⟨b, t, hrun, -⟩)
      · exact h
      · exact absurd hrun (by simp)
  | atom u k ih =>
    rw [atom_bind, cutOff_atom, cutOff_atom, ih, run_atom, or_assoc, or_assoc]

/-- A procedure that only computes on is not cut off later. -/
theorem cutOff_map {p : Procedure σ ι ε α} {f : α → β} :
    CutOff tear i (p >>= fun a => ret (f a)) s s' ↔ CutOff tear i p s s' := by
  induction p generalizing s with
  | ret a => rw [ret_bind, cutOff_ret, cutOff_ret]
  | raise e => rw [raise_bind, cutOff_raise, cutOff_raise]
  | atom u k ih => rw [atom_bind, cutOff_atom, cutOff_atom, ih]

/-- A procedure may be cut off after its last atom. -/
theorem cutOff_run (p : Procedure σ ι ε α) : CutOff tear i p s (p.run (fun _ => i) s).state := by
  induction p generalizing s with
  | ret a => exact .before _ _
  | raise e => exact .before _ _
  | atom u k ih => exact .after (ih _ _)

end Procedure

end Concurrency
