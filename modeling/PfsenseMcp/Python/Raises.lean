import Mathlib.Data.List.Basic

/-!
# Which errors are raised

Rules for the errors that a computation can raise, along its steps.
-/

namespace Python

variable {ε α β : Type}

/-- The errors that a computation raises are among the given ones. -/
def OnlyRaises (errors : ε → Prop) (x : Except ε α) : Prop := ∀ e, x = .error e → errors e

namespace OnlyRaises

variable {errors : ε → Prop}

theorem ok (a : α) : OnlyRaises errors (.ok a) := by
  intro e h
  cases h

theorem error {e : ε} (he : errors e) : OnlyRaises errors (.error e : Except ε α) := by
  intro e' h
  cases h
  exact he

theorem bind {x : Except ε α} {f : α → Except ε β} (hx : OnlyRaises errors x)
    (hf : ∀ a, x = .ok a → OnlyRaises errors (f a)) : OnlyRaises errors (x >>= f) := by
  intro e h
  rcases hvalue : x with e' | a
  · rw [hvalue] at h
    cases h
    exact hx _ hvalue
  · rw [hvalue] at h
    exact hf a hvalue e h

theorem mono {errors' : ε → Prop} {x : Except ε α} (hx : OnlyRaises errors x)
    (h : ∀ e, errors e → errors' e) : OnlyRaises errors' x :=
  fun e he => h e (hx e he)

theorem mapM {f : α → Except ε β} {items : List α} (hf : ∀ a ∈ items, OnlyRaises errors (f a)) :
    OnlyRaises errors (items.mapM f) := by
  induction items with
  | nil =>
    rw [List.mapM_nil]
    exact ok _
  | cons a items ih =>
    rw [List.forall_mem_cons] at hf
    rw [List.mapM_cons]
    exact hf.1.bind fun _ _ => (ih hf.2).bind fun _ _ => ok _

end OnlyRaises

/-- A computation whose first step succeeds. -/
theorem bind_of_ok {x : Except ε α} {f : α → Except ε β} {a : α} {y : Except ε β}
    (hx : x = .ok a) (hf : f a = y) : (x >>= f) = y := by
  rw [hx]
  exact hf

theorem mapM_of_ok {f : α → Except ε β} {items : List α} {g : α → β}
    (hf : ∀ a ∈ items, f a = .ok (g a)) : items.mapM f = .ok (items.map g) := by
  induction items with
  | nil => rfl
  | cons a items ih =>
    rw [List.forall_mem_cons] at hf
    rw [List.mapM_cons]
    exact bind_of_ok hf.1 (bind_of_ok (ih hf.2) rfl)

end Python
