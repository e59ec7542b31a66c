import Mathlib.Data.Nat.Notation
import Mathlib.Logic.Function.Basic

/-!
# Procedures over a shared state

A `Procedure` is a piece of sequential code that touches a state shared with other code. It is
cut into *atoms*: an atom reads the shared state and one input of the environment (a clock
reading, an answer from the network, an injected fault), replaces the state, and continues.
Between two atoms any other procedure may run.

A procedure ends by returning a value or by raising an error, and `attempt` is a `try` block.
The semantics given are the following.

* `run` executes a procedure alone, against a stream of environment inputs, and `runFor` stops it
  after a number of atoms.
* `wp` is a weakest precondition in rely/guarantee style: the state may change between two
  atoms as `rely` allows, every atom has to preserve `inv` and to stay within `guar`.

## Main results

* `run_bind`, `run_attempt`: executions compose;
* `wp_bind`, `wp_attempt`, `wp_mono`, `wp_stable`: the rules of the weakest precondition;
* `wp_unless`: to end in a postcondition unless something irrevocable happens;
* `Ends.post`: every execution, whatever the others do meanwhile, ends as the weakest precondition
  says;
* `run_of_wp`: a procedure run alone ends as its weakest precondition says.
-/

namespace Concurrency

/-- Code over a shared state `σ` and environment inputs `ι`. It raises errors `ε` or returns a
value of type `α`. -/
inductive Procedure (σ ι ε α : Type) : Type
  /-- Return a value. -/
  | ret (value : α)
  /-- Raise an error. -/
  | raise (error : ε)
  /-- Take one input and one look at the shared state, replace the state, and go on. -/
  | atom (update : ι → σ → σ) (next : ι → σ → Procedure σ ι ε α)

namespace Procedure

variable {σ ι ε α β : Type}

/-- Sequential composition: an error skips the continuation. -/
def bind : Procedure σ ι ε α → (α → Procedure σ ι ε β) → Procedure σ ι ε β
  | ret a, f => f a
  | raise e, _ => raise e
  | atom u k, f => atom u fun i s => (k i s).bind f

instance : Monad (Procedure σ ι ε) where
  pure := ret
  bind := bind

instance : LawfulMonad (Procedure σ ι ε) :=
  LawfulMonad.mk' _
    (fun p => by
      induction p with
      | ret a => rfl
      | raise e => rfl
      | atom u k ih => exact congrArg (atom u) (funext fun i => funext fun s => ih i s))
    (fun _ _ => rfl)
    (fun p f g => by
      induction p with
      | ret a => rfl
      | raise e => rfl
      | atom u k ih => exact congrArg (atom u) (funext fun i => funext fun s => ih i s))

/-- A `try` block: the error becomes a value. -/
def attempt : Procedure σ ι ε α → Procedure σ ι ε (Except ε α)
  | ret a => ret (.ok a)
  | raise e => ret (.error e)
  | atom u k => atom u fun i s => (k i s).attempt

/-- Raise the error of a computation without effects, or go on with its value. -/
def ofExcept : Except ε α → Procedure σ ι ε α
  | .ok a => ret a
  | .error e => raise e

/-- Raise `e` unless the condition holds. -/
def require (condition : Prop) [Decidable condition] (e : ε) : Procedure σ ι ε Unit :=
  if condition then ret () else raise e

@[simp]
theorem pure_eq_ret (a : α) : (pure a : Procedure σ ι ε α) = ret a := rfl

@[simp]
theorem ret_bind (a : α) (f : α → Procedure σ ι ε β) : (ret a >>= f) = f a := rfl

@[simp]
theorem raise_bind (e : ε) (f : α → Procedure σ ι ε β) : (raise e >>= f) = raise e := rfl

@[simp]
theorem atom_bind (u : ι → σ → σ) (k : ι → σ → Procedure σ ι ε α)
    (f : α → Procedure σ ι ε β) :
    (atom u k >>= f) = atom u fun i s => k i s >>= f := rfl

@[simp]
theorem ofExcept_ok (a : α) : (ofExcept (.ok a) : Procedure σ ι ε α) = ret a := rfl

@[simp]
theorem ofExcept_error (e : ε) : (ofExcept (.error e) : Procedure σ ι ε α) = raise e := rfl

/-! ### Running a procedure alone -/

/-- How an execution ended: its result, the state it left and the inputs it did not use. -/
structure Ending (σ ι ε α : Type) where
  /-- The returned value or the raised error. -/
  result : Except ε α
  /-- The shared state at the end. -/
  state : σ
  /-- The environment inputs that are left. -/
  rest : ℕ → ι

/-- Execute a procedure alone. Each atom takes the next input of the stream. -/
def run : Procedure σ ι ε α → (ℕ → ι) → σ → Ending σ ι ε α
  | ret a, inputs, s => ⟨.ok a, s, inputs⟩
  | raise e, inputs, s => ⟨.error e, s, inputs⟩
  | atom u k, inputs, s => (k (inputs 0) s).run (fun n => inputs (n + 1)) (u (inputs 0) s)

@[simp]
theorem run_ret (a : α) (inputs : ℕ → ι) (s : σ) :
    (ret a : Procedure σ ι ε α).run inputs s = ⟨.ok a, s, inputs⟩ := rfl

@[simp]
theorem run_raise (e : ε) (inputs : ℕ → ι) (s : σ) :
    (raise e : Procedure σ ι ε α).run inputs s = ⟨.error e, s, inputs⟩ := rfl

@[simp]
theorem run_atom (u : ι → σ → σ) (k : ι → σ → Procedure σ ι ε α) (inputs : ℕ → ι) (s : σ) :
    (atom u k).run inputs s =
      (k (inputs 0) s).run (fun n => inputs (n + 1)) (u (inputs 0) s) := rfl

/-- An execution of a composition is an execution of the first part followed, unless that
raised, by one of the second. -/
theorem run_bind (p : Procedure σ ι ε α) (f : α → Procedure σ ι ε β) (inputs : ℕ → ι) (s : σ) :
    (p >>= f).run inputs s =
      match p.run inputs s with
      | ⟨.ok a, s', rest⟩ => (f a).run rest s'
      | ⟨.error e, s', rest⟩ => ⟨.error e, s', rest⟩ := by
  induction p generalizing inputs s with
  | ret a => rfl
  | raise e => rfl
  | atom u k ih => exact ih _ _ _ _

/-- A `try` block runs its body and returns how it ended. -/
theorem run_attempt (p : Procedure σ ι ε α) (inputs : ℕ → ι) (s : σ) :
    p.attempt.run inputs s =
      ⟨.ok (p.run inputs s).result, (p.run inputs s).state, (p.run inputs s).rest⟩ := by
  induction p generalizing inputs s with
  | ret a => rfl
  | raise e => rfl
  | atom u k ih => exact ih _ _ _ _

/-- The atoms of an execution are among the steps that are considered, by their input, the state
before and after. -/
def Permitted (permit : ι → σ → σ → Prop) : Procedure σ ι ε α → (ℕ → ι) → σ → Prop
  | atom u k, inputs, s => permit (inputs 0) s (u (inputs 0) s) ∧
      (k (inputs 0) s).Permitted permit (fun n => inputs (n + 1)) (u (inputs 0) s)
  | _, _, _ => True

theorem permitted_of_forall {permit : ι → σ → σ → Prop} (p : Procedure σ ι ε α) (inputs : ℕ → ι)
    (h : ∀ n s s', permit (inputs n) s s') (s : σ) : p.Permitted permit inputs s := by
  induction p generalizing inputs s with
  | ret a => trivial
  | raise e => trivial
  | atom u k ih => exact ⟨h 0 _ _, ih _ _ _ (fun n => h (n + 1)) _⟩

/-- Execute at most `n` atoms of a procedure alone; what is left of it, and the state. This is
where the procedure is when it stops after `n` atoms. -/
def runFor : ℕ → Procedure σ ι ε α → (ℕ → ι) → σ → Procedure σ ι ε α × σ
  | n + 1, atom u k, inputs, s =>
    runFor n (k (inputs 0) s) (fun m => inputs (m + 1)) (u (inputs 0) s)
  | _, p, _, s => (p, s)

/-- Where a procedure can stop: after some of its atoms, each of which got the usual input, except
the last one, which may have got any. -/
inductive Stopped (usual : ι) : Procedure σ ι ε α → σ → σ → Prop
  | here (p : Procedure σ ι ε α) (s : σ) : Stopped usual p s s
  | last (u : ι → σ → σ) (k : ι → σ → Procedure σ ι ε α) (i : ι) (s : σ) :
    Stopped usual (atom u k) s (u i s)
  | next {u : ι → σ → σ} {k : ι → σ → Procedure σ ι ε α} {s s' : σ}
    (h : Stopped usual (k usual s) (u usual s) s') : Stopped usual (atom u k) s s'

theorem stopped_ret {usual : ι} {a : α} {s s' : σ} :
    Stopped usual (ret a : Procedure σ ι ε α) s s' ↔ s' = s := by
  constructor
  · intro h
    cases h
    rfl
  · rintro rfl
    exact .here _ _

theorem stopped_raise {usual : ι} {e : ε} {s s' : σ} :
    Stopped usual (raise e : Procedure σ ι ε α) s s' ↔ s' = s := by
  constructor
  · intro h
    cases h
    rfl
  · rintro rfl
    exact .here _ _

theorem stopped_atom {usual : ι} {u : ι → σ → σ} {k : ι → σ → Procedure σ ι ε α} {s s' : σ} :
    Stopped usual (atom u k) s s' ↔
      s' = s ∨ (∃ i, s' = u i s) ∨ Stopped usual (k usual s) (u usual s) s' := by
  constructor
  · intro h
    cases h with
    | here => exact .inl rfl
    | last _ _ i => exact .inr (.inl ⟨i, rfl⟩)
    | next h => exact .inr (.inr h)
  · rintro (rfl | ⟨i, rfl⟩ | h)
    · exact .here _ _
    · exact .last _ _ _ _
    · exact .next h

@[simp]
theorem runFor_zero (p : Procedure σ ι ε α) (inputs : ℕ → ι) (s : σ) :
    p.runFor 0 inputs s = (p, s) := by
  cases p <;> rfl

@[simp]
theorem runFor_ret (n : ℕ) (a : α) (inputs : ℕ → ι) (s : σ) :
    (ret a : Procedure σ ι ε α).runFor n inputs s = (ret a, s) := by
  cases n <;> rfl

@[simp]
theorem runFor_raise (n : ℕ) (e : ε) (inputs : ℕ → ι) (s : σ) :
    (raise e : Procedure σ ι ε α).runFor n inputs s = (raise e, s) := by
  cases n <;> rfl

@[simp]
theorem runFor_atom (n : ℕ) (u : ι → σ → σ) (k : ι → σ → Procedure σ ι ε α) (inputs : ℕ → ι)
    (s : σ) : (atom u k).runFor (n + 1) inputs s =
      (k (inputs 0) s).runFor n (fun m => inputs (m + 1)) (u (inputs 0) s) := rfl

/-- A procedure that runs alone ends in a result and a state, by steps that are considered, when the
environment answers in the same way all along. -/
structure Runs (permit : ι → σ → σ → Prop) (i : ι) (p : Procedure σ ι ε α) (s : σ)
    (r : Except ε α) (s' : σ) : Prop where
  run : p.run (fun _ => i) s = ⟨r, s', fun _ => i⟩
  permitted : p.Permitted permit (fun _ => i) s

section Runs

variable {permit : ι → σ → σ → Prop} {i : ι} {s s' s'' : σ}

theorem runs_ret (a : α) : Runs permit i (ret a : Procedure σ ι ε α) s (.ok a) s := ⟨rfl, trivial⟩

theorem runs_raise (e : ε) : Runs permit i (raise e : Procedure σ ι ε α) s (.error e) s :=
  ⟨rfl, trivial⟩

theorem runs_ofExcept (r : Except ε α) : Runs permit i (ofExcept r) s r s := by
  cases r with
  | ok a => exact runs_ret a
  | error e => exact runs_raise e

theorem runs_atom {u : ι → σ → σ} {k : ι → σ → Procedure σ ι ε α} {r : Except ε α}
    (hi : permit i s (u i s)) (h : Runs permit i (k i s) (u i s) r s') :
    Runs permit i (atom u k) s r s' :=
  ⟨h.run, hi, h.permitted⟩

theorem permitted_bind {p : Procedure σ ι ε α} {f : α → Procedure σ ι ε β} {inputs : ℕ → ι}
    (hp : p.Permitted permit inputs s)
    (hf : ∀ a, (p.run inputs s).result = .ok a →
      (f a).Permitted permit (p.run inputs s).rest (p.run inputs s).state) :
    (p >>= f).Permitted permit inputs s := by
  induction p generalizing inputs s with
  | ret a => exact hf a rfl
  | raise e => trivial
  | atom u k ih => exact ⟨hp.1, ih _ _ hp.2 hf⟩

/-- First one procedure runs, and then the other. -/
theorem Runs.bind {p : Procedure σ ι ε α} {f : α → Procedure σ ι ε β} {a : α} {r : Except ε β}
    (hp : Runs permit i p s (.ok a) s') (hf : Runs permit i (f a) s' r s'') :
    Runs permit i (p >>= f) s r s'' := by
  constructor
  · rw [run_bind, hp.run]
    exact hf.run
  · refine permitted_bind hp.permitted fun b hb => ?_
    rw [hp.run] at hb ⊢
    cases hb
    exact hf.permitted

/-- The first procedure raises an error. -/
theorem Runs.bind_error {p : Procedure σ ι ε α} {f : α → Procedure σ ι ε β} {e : ε}
    (hp : Runs permit i p s (.error e) s') : Runs permit i (p >>= f) s (.error e) s' := by
  constructor
  · rw [run_bind, hp.run]
  · refine permitted_bind hp.permitted fun b hb => ?_
    rw [hp.run] at hb
    cases hb

theorem permitted_attempt {p : Procedure σ ι ε α} {inputs : ℕ → ι}
    (h : p.Permitted permit inputs s) : p.attempt.Permitted permit inputs s := by
  induction p generalizing inputs s with
  | ret a => trivial
  | raise e => trivial
  | atom u k ih => exact ⟨h.1, ih _ _ h.2⟩

theorem Runs.attempt {p : Procedure σ ι ε α} {r : Except ε α} (hp : Runs permit i p s r s') :
    Runs permit i p.attempt s (.ok r) s' := by
  constructor
  · rw [run_attempt, hp.run]
  · exact permitted_attempt hp.permitted

end Runs

/-! ### What every atom does -/

/-- Every atom of a procedure is within a relation, whatever its input and the state before it. -/
def Within (R : σ → σ → Prop) : Procedure σ ι ε α → Prop
  | atom u k => ∀ i s, R s (u i s) ∧ (k i s).Within R
  | _ => True

theorem within_bind {R : σ → σ → Prop} {p : Procedure σ ι ε α} {f : α → Procedure σ ι ε β}
    (hp : p.Within R) (hf : ∀ a, (f a).Within R) : (p >>= f).Within R := by
  induction p with
  | ret a => exact hf a
  | raise e => trivial
  | atom u k ih => exact fun i s => ⟨(hp i s).1, ih i s (hp i s).2⟩

theorem within_attempt {R : σ → σ → Prop} {p : Procedure σ ι ε α} (hp : p.Within R) :
    p.attempt.Within R := by
  induction p with
  | ret a => trivial
  | raise e => trivial
  | atom u k ih => exact fun i s => ⟨(hp i s).1, ih i s (hp i s).2⟩

theorem within_ofExcept {R : σ → σ → Prop} (x : Except ε α) :
    (ofExcept x : Procedure σ ι ε α).Within R := by
  cases x <;> trivial

theorem within_require {R : σ → σ → Prop} (condition : Prop) [Decidable condition] (e : ε) :
    (require condition e : Procedure σ ι ε Unit).Within R := by
  unfold require
  split <;> trivial

/-! ### Rely/guarantee weakest preconditions -/

/-- What a procedure is verified against. -/
structure Context (σ ι : Type) where
  /-- The invariant of the shared state. -/
  inv : σ → Prop
  /-- What the other procedures may do between two atoms. -/
  rely : σ → σ → Prop
  /-- What each atom of this procedure may do. -/
  guar : σ → σ → Prop
  /-- The atomic steps that are considered, by their input, the state before and after. -/
  permit : ι → σ → σ → Prop

/-- From `s`, under every permitted behaviour of the environment and of the other procedures,
every atom preserves the invariant and stays within the guarantee, and the procedure ends in
`post`. -/
def wp (C : Context σ ι) : Procedure σ ι ε α → (Except ε α → σ → Prop) → σ → Prop
  | ret a, post, s => post (.ok a) s
  | raise e, post, s => post (.error e) s
  | atom u k, post, s => ∀ s', C.inv s' → C.rely s s' → ∀ i, C.permit i s' (u i s') →
      C.inv (u i s') ∧ C.guar s' (u i s') ∧ wp C (k i s') post (u i s')

variable {C : Context σ ι}

@[simp]
theorem wp_ret (a : α) (post : Except ε α → σ → Prop) (s : σ) :
    wp C (ret a) post s ↔ post (.ok a) s := Iff.rfl

@[simp]
theorem wp_raise (e : ε) (post : Except ε α → σ → Prop) (s : σ) :
    wp C (raise e) post s ↔ post (.error e) s := Iff.rfl

theorem wp_ofExcept (r : Except ε α) (post : Except ε α → σ → Prop) (s : σ) :
    wp C (ofExcept r) post s ↔ post r s := by
  cases r <;> rfl

theorem wp_atom (u : ι → σ → σ) (k : ι → σ → Procedure σ ι ε α)
    (post : Except ε α → σ → Prop) (s : σ) :
    wp C (atom u k) post s ↔ ∀ s', C.inv s' → C.rely s s' → ∀ i, C.permit i s' (u i s') →
      C.inv (u i s') ∧ C.guar s' (u i s') ∧ wp C (k i s') post (u i s') := Iff.rfl

/-- The continuation of a composition, as a postcondition of its first part. -/
def andThen (C : Context σ ι) (f : α → Procedure σ ι ε β) (post : Except ε β → σ → Prop) :
    Except ε α → σ → Prop
  | .ok a, s => wp C (f a) post s
  | .error e, s => post (.error e) s

@[simp]
theorem andThen_ok (f : α → Procedure σ ι ε β) (post : Except ε β → σ → Prop) (a : α) (s : σ) :
    andThen C f post (.ok a) s ↔ wp C (f a) post s := Iff.rfl

@[simp]
theorem andThen_error (f : α → Procedure σ ι ε β) (post : Except ε β → σ → Prop) (e : ε)
    (s : σ) : andThen C f post (.error e) s ↔ post (.error e) s := Iff.rfl

/-- The weakest precondition of a composition is that of its first part for `andThen`. -/
theorem wp_bind (p : Procedure σ ι ε α) (f : α → Procedure σ ι ε β)
    (post : Except ε β → σ → Prop) (s : σ) :
    wp C (p >>= f) post s ↔ wp C p (andThen C f post) s := by
  induction p generalizing s with
  | ret a => rfl
  | raise e => rfl
  | atom u k ih =>
    rw [atom_bind, wp_atom, wp_atom]
    refine forall₅_congr fun s' _ _ i _ => ?_
    rw [ih]

/-- A weaker postcondition has a weaker precondition. -/
theorem wp_mono {p : Procedure σ ι ε α} {post post' : Except ε α → σ → Prop} {s : σ}
    (h : wp C p post s) (hpost : ∀ r s, post r s → post' r s) : wp C p post' s := by
  induction p generalizing s with
  | ret a => exact hpost _ _ h
  | raise e => exact hpost _ _ h
  | atom u k ih =>
    intro s' hinv hrely i hi
    obtain ⟨h₁, h₂, h₃⟩ := h s' hinv hrely i hi
    exact ⟨h₁, h₂, ih _ _ h₃⟩

/-- A `try` block hands every ending of its body to the postcondition as a value. -/
theorem wp_attempt (p : Procedure σ ι ε α) (post : Except ε (Except ε α) → σ → Prop) (s : σ) :
    wp C p.attempt post s ↔ wp C p (fun r s => post (.ok r) s) s := by
  induction p generalizing s with
  | ret a => rfl
  | raise e => rfl
  | atom u k ih =>
    rw [attempt, wp_atom, wp_atom]
    refine forall₅_congr fun s' _ _ i _ => ?_
    rw [ih]

/-- What holds if a procedure returns a value. -/
def Returning (Q : α → σ → Prop) : Except ε α → σ → Prop
  | .ok a, s => Q a s
  | .error _, _ => True

/-- To verify the returns of a composition, verify those of its parts. -/
theorem wp_seq {p : Procedure σ ι ε α} {f : α → Procedure σ ι ε β} {Q : α → σ → Prop}
    {R : β → σ → Prop} {s : σ} (hp : wp C p (Returning Q) s)
    (hf : ∀ a s, Q a s → wp C (f a) (Returning R) s) : wp C (p >>= f) (Returning R) s := by
  rw [wp_bind]
  refine wp_mono hp fun r s hr => ?_
  cases r with
  | ok a => exact hf a s hr
  | error e => trivial

/-- Steps of the other procedures preserve the weakest precondition of a stable
postcondition. -/
theorem wp_stable {p : Procedure σ ι ε α} {post : Except ε α → σ → Prop} {s s' : σ}
    (htrans : ∀ {a b c}, C.rely a b → C.rely b c → C.rely a c)
    (hpost : ∀ r, post r s → post r s')
    (h : wp C p post s) (hrely : C.rely s s') : wp C p post s' := by
  cases p with
  | ret a => exact hpost _ h
  | raise e => exact hpost _ h
  | atom u k =>
    intro t hinv ht i hi
    exact h t hinv (htrans hrely ht) i hi

/-- What neither the other procedures nor this one can undo holds at the end if it holds before. -/
theorem wp_invariant {p : Procedure σ ι ε α} {post : Except ε α → σ → Prop} {Q : σ → Prop} {s : σ}
    (hrely : ∀ {s s'}, C.inv s → C.inv s' → C.rely s s' → Q s → Q s')
    (hguar : ∀ {s s'}, C.inv s → C.inv s' → C.guar s s' → Q s → Q s')
    (hs : C.inv s) (hQ : Q s) (h : wp C p post s) :
    wp C p (fun r s => post r s ∧ Q s) s := by
  induction p generalizing s with
  | ret a => exact ⟨h, hQ⟩
  | raise e => exact ⟨h, hQ⟩
  | atom u k ih =>
    intro s' hs' hss' i hi
    obtain ⟨h₁, h₂, h₃⟩ := h s' hs' hss' i hi
    exact ⟨h₁, h₂, ih _ _ h₁ (hguar hs' h₁ h₂ (hrely hs hs' hss' hQ)) h₃⟩

/-- The context in which the other procedures do not bring about `Q`. -/
def Context.unless (C : Context σ ι) (Q : σ → Prop) : Context σ ι :=
  { C with rely := fun s s' => C.rely s s' ∧ (Q s' → Q s) }

/-- To end in `post` unless `Q` comes about, which cannot be undone, a procedure may be verified
as if it did not. -/
theorem wp_unless {p : Procedure σ ι ε α} {post : Except ε α → σ → Prop} {Q : σ → Prop} {s : σ}
    (hrely : ∀ {s s'}, C.inv s → C.inv s' → C.rely s s' → Q s → Q s')
    (hguar : ∀ {s s'}, C.inv s → C.inv s' → C.guar s s' → Q s → Q s')
    (hsafe : wp C p (fun _ _ => True) s) (h : wp (C.unless Q) p post s) :
    wp C p (fun r s => Q s ∨ post r s) s := by
  induction p generalizing s with
  | ret a => exact .inr h
  | raise e => exact .inr h
  | atom u k ih =>
    intro s' hs' hss' i hi
    obtain ⟨h₁, h₂, h₃⟩ := hsafe s' hs' hss' i hi
    refine ⟨h₁, h₂, ?_⟩
    by_cases hQ : Q s'
    · refine wp_mono (wp_invariant hrely hguar h₁ (hguar hs' h₁ h₂ hQ) h₃) fun r s hr => ?_
      exact .inl hr.2
    · exact ih _ _ h₃ (h s' hs' ⟨hss', fun hQ' => absurd hQ' hQ⟩ i hi).2.2

/-- An execution of a procedure during which the others take the steps they may take. -/
inductive Ends (C : Context σ ι) : Procedure σ ι ε α → σ → Except ε α → σ → Prop
  | ret (a : α) (s : σ) : Ends C (ret a) s (.ok a) s
  | raise (e : ε) (s : σ) : Ends C (raise e) s (.error e) s
  | atom {u : ι → σ → σ} {k : ι → σ → Procedure σ ι ε α} {s s' t : σ} {i : ι} {r : Except ε α}
    (hinv : C.inv s') (hrely : C.rely s s') (hi : C.permit i s' (u i s'))
    (h : Ends C (k i s') (u i s') r t) : Ends C (atom u k) s r t

/-- Every execution ends as the weakest precondition says. -/
theorem Ends.post {p : Procedure σ ι ε α} {post : Except ε α → σ → Prop} {s s' : σ}
    {r : Except ε α} (hends : Ends C p s r s') (h : wp C p post s) : post r s' := by
  induction hends with
  | ret a s => exact h
  | raise e s => exact h
  | atom hinv hrely hi _ ih => exact ih (h _ hinv hrely _ hi).2.2

/-- A procedure that runs alone is executed. -/
theorem ends_run {p : Procedure σ ι ε α} {post : Except ε α → σ → Prop} {s : σ}
    (hrefl : ∀ s, C.rely s s) (inputs : ℕ → ι) (hpermit : ∀ n s s', C.permit (inputs n) s s')
    (hinv : C.inv s) (h : wp C p post s) :
    Ends C p s (p.run inputs s).result (p.run inputs s).state := by
  induction p generalizing inputs s with
  | ret a => exact .ret a s
  | raise e => exact .raise e s
  | atom u k ih =>
    obtain ⟨h₁, -, h₃⟩ := h s hinv (hrefl s) (inputs 0) (hpermit 0 _ _)
    exact .atom hinv (hrefl s) (hpermit 0 _ _) (ih _ _ _ (fun n => hpermit (n + 1)) h₁ h₃)

/-- Run alone, on inputs whose steps are permitted, a procedure ends in its postcondition. -/
theorem run_of_wp {p : Procedure σ ι ε α} {post : Except ε α → σ → Prop} {s : σ}
    (hrefl : ∀ s, C.rely s s) (inputs : ℕ → ι) (hpermit : ∀ n s s', C.permit (inputs n) s s')
    (hinv : C.inv s) (h : wp C p post s) :
    C.inv (p.run inputs s).state ∧ post (p.run inputs s).result (p.run inputs s).state := by
  induction p generalizing inputs s with
  | ret a => exact ⟨hinv, h⟩
  | raise e => exact ⟨hinv, h⟩
  | atom u k ih =>
    obtain ⟨h₁, -, h₃⟩ := h s hinv (hrefl s) (inputs 0) (hpermit 0 _ _)
    exact ih _ _ _ (fun n => hpermit (n + 1)) h₁ h₃

/-- Run alone, every step of a procedure does what its context asks for, so it is permitted where
that is. -/
theorem permitted_of_wp {permit : ι → σ → σ → Prop} {p : Procedure σ ι ε α}
    {post : Except ε α → σ → Prop} {s : σ} (hrefl : ∀ s, C.rely s s) (inputs : ℕ → ι)
    (hpermit : ∀ n s s', C.permit (inputs n) s s')
    (hguar : ∀ n s s', C.guar s s' → permit (inputs n) s s') (hinv : C.inv s)
    (h : wp C p post s) : p.Permitted permit inputs s := by
  induction p generalizing inputs s with
  | ret a => trivial
  | raise e => trivial
  | atom u k ih =>
    obtain ⟨h₁, h₂, h₃⟩ := h s hinv (hrefl s) (inputs 0) (hpermit 0 _ _)
    exact ⟨hguar 0 _ _ h₂, ih _ _ _ (fun n => hpermit (n + 1)) (fun n => hguar (n + 1)) h₁ h₃⟩

/-! ### Procedures that run alone -/

/-- The context of a procedure that no other one interferes with. -/
def Context.alone : Context σ ι := ⟨fun _ => True, Eq, fun _ _ => True, fun _ _ _ => True⟩

/-- Alone, an atom sees the state that the one before it left. -/
theorem wp_alone_atom {u : ι → σ → σ} {k : ι → σ → Procedure σ ι ε α}
    {post : Except ε α → σ → Prop} {s : σ} :
    wp .alone (atom u k) post s ↔ ∀ i, wp .alone (k i s) post (u i s) := by
  rw [wp_atom]
  constructor
  · intro h i
    exact (h s trivial rfl i trivial).2.2
  · rintro h s' - rfl i -
    exact ⟨trivial, trivial, h i⟩

/-- An execution ends as its weakest precondition says. -/
theorem run_of_wp_alone {p : Procedure σ ι ε α} {post : Except ε α → σ → Prop} {s : σ}
    (h : wp .alone p post s) (inputs : ℕ → ι) :
    post (p.run inputs s).result (p.run inputs s).state :=
  (run_of_wp (fun _ => rfl) inputs (fun _ _ _ => trivial) trivial h).2

end Procedure

end Concurrency
