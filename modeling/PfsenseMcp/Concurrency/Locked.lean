import Mathlib.Data.Nat.Notation
import Mathlib.Logic.Function.Basic
import PfsenseMcp.Concurrency.Procedure

/-!
# Procedures under a lock

An object whose methods all run under one lock is called by any number of threads. A call waits
for the lock, runs its procedure while it holds it, and releases it however the procedure ends. A
procedure that does not touch the shared state needs no lock. When the process dies, the calls that
have not ended are lost, the one that holds the lock in the middle of its procedure.

## Main results

* `goes_bind`, `goes_attempt`: how far a composition has come, and how far a `try` block;
* `Guarded.Reachable.serial`: whatever the schedule, the shared state is the one after the calls
  were executed one after the other, and every call that ended has its result from there;
* `Guarded.Reachable.call`: a call may be executed while the lock is free;
* `Serial.invariant`, `Serial.pairwise`: what holds of such an execution, from one call at a time.
-/

namespace Concurrency

variable {σ ι ε α β : Type}

namespace Procedure

/-- A procedure that runs alone, by steps that are considered, comes from one state to another one,
where the second procedure is left of it. -/
inductive Goes (permit : ι → σ → σ → Prop) :
    Procedure σ ι ε α → σ → Procedure σ ι ε α → σ → Prop
  | here (p : Procedure σ ι ε α) (s : σ) : Goes permit p s p s
  | atom {u : ι → σ → σ} {k : ι → σ → Procedure σ ι ε α} {q : Procedure σ ι ε α} {s s' : σ}
    (i : ι) (hi : permit i s (u i s)) (h : Goes permit (k i s) (u i s) q s') :
    Goes permit (atom u k) s q s'

variable {permit : ι → σ → σ → Prop} {p q : Procedure σ ι ε α} {s s' s'' : σ}

theorem goes_ret {a : α} : Goes permit (ret a) s q s' ↔ q = ret a ∧ s' = s := by
  constructor
  · rintro ⟨⟩
    exact ⟨rfl, rfl⟩
  · rintro ⟨rfl, rfl⟩
    exact .here _ _

theorem goes_raise {e : ε} : Goes permit (raise e) s q s' ↔ q = raise e ∧ s' = s := by
  constructor
  · rintro ⟨⟩
    exact ⟨rfl, rfl⟩
  · rintro ⟨rfl, rfl⟩
    exact .here _ _

theorem goes_atom {u : ι → σ → σ} {k : ι → σ → Procedure σ ι ε α} :
    Goes permit (atom u k) s q s' ↔ q = atom u k ∧ s' = s ∨
      ∃ i, permit i s (u i s) ∧ Goes permit (k i s) (u i s) q s' := by
  constructor
  · intro h
    cases h with
    | here => exact .inl ⟨rfl, rfl⟩
    | atom i hi h => exact .inr ⟨i, hi, h⟩
  · rintro (⟨rfl, rfl⟩ | ⟨i, hi, h⟩)
    · exact .here _ _
    · exact .atom i hi h

/-- The next atom. -/
theorem Goes.step {u : ι → σ → σ} {k : ι → σ → Procedure σ ι ε α}
    (h : Goes permit p s (Procedure.atom u k) s') (i : ι) (hi : permit i s' (u i s')) :
    Goes permit p s (k i s') (u i s') := by
  generalize hq : Procedure.atom u k = q at h
  induction h with
  | here p s =>
    subst hq
    exact .atom i hi (.here _ _)
  | atom j hj h ih => exact .atom j hj (ih hi hq)

theorem bind_ne_ret {f : α → Procedure σ ι ε β} (h : ∀ a, p ≠ ret a) (b : β) :
    (p >>= f) ≠ ret b := by
  cases p with
  | ret a => exact absurd rfl (h a)
  | raise e => exact fun heq => by cases heq
  | atom u k => exact fun heq => by cases heq

/-- A composition is in its first part still, or has left it. -/
theorem goes_bind {f : α → Procedure σ ι ε β} {r : Procedure σ ι ε β} :
    Goes permit (p >>= f) s r s' ↔
      (∃ q, Goes permit p s q s' ∧ (∀ a, q ≠ ret a) ∧ r = q >>= f) ∨
      ∃ a t, Goes permit p s (ret a) t ∧ Goes permit (f a) t r s' := by
  constructor
  · intro h
    induction p generalizing s with
    | ret a => exact .inr ⟨a, s, .here _ _, h⟩
    | raise e =>
      obtain ⟨rfl, rfl⟩ := goes_raise.1 h
      exact .inl ⟨raise e, .here _ _, fun a heq => (by cases heq), rfl⟩
    | atom u k ih =>
      rcases goes_atom.1 h with ⟨rfl, rfl⟩ | ⟨i, hi, h⟩
      · exact .inl ⟨atom u k, .here _ _, fun a heq => (by cases heq), rfl⟩
      · rcases ih i s h with ⟨q, hq, hne, rfl⟩ | ⟨a, t, ha, hf⟩
        · exact .inl ⟨q, .atom i hi hq, hne, rfl⟩
        · exact .inr ⟨a, t, .atom i hi ha, hf⟩
  · rintro (⟨q, hq, -, rfl⟩ | ⟨a, t, ha, hf⟩)
    · induction hq with
      | here p s => exact .here _ _
      | atom i hi _ ih => exact .atom i hi ih
    · generalize hp : ret a = q at ha
      induction ha with
      | here p s =>
        subst hp
        exact hf
      | atom i hi _ ih => exact .atom i hi (ih hf hp)

/-- A `try` block has come as far as its body. -/
theorem goes_attempt {r : Procedure σ ι ε (Except ε α)} :
    Goes permit p.attempt s r s' ↔ ∃ q, Goes permit p s q s' ∧ r = q.attempt := by
  constructor
  · intro h
    induction p generalizing s with
    | ret a =>
      obtain ⟨rfl, rfl⟩ := goes_ret.1 h
      exact ⟨ret a, .here _ _, rfl⟩
    | raise e =>
      obtain ⟨rfl, rfl⟩ := goes_ret.1 h
      exact ⟨raise e, .here _ _, rfl⟩
    | atom u k ih =>
      rcases goes_atom.1 h with ⟨rfl, rfl⟩ | ⟨i, hi, h⟩
      · exact ⟨atom u k, .here _ _, rfl⟩
      · obtain ⟨q, hq, rfl⟩ := ih i s h
        exact ⟨q, .atom i hi hq, rfl⟩
  · rintro ⟨q, hq, rfl⟩
    induction hq with
    | here p s => exact .here _ _
    | atom i hi _ ih => exact .atom i hi ih

theorem attempt_eq_ret {x : Except ε α} : p.attempt = ret x ↔ p = ofExcept x := by
  cases p <;> cases x <;> simp [attempt, ofExcept]

theorem goes_ofExcept {x : Except ε α} :
    Goes permit (ofExcept x) s q s' ↔ q = ofExcept x ∧ s' = s := by
  cases x with
  | error e => exact goes_raise
  | ok a => exact goes_ret

end Procedure

open Procedure

/-! ### One call after the other -/

/-- The execution of a call, as far as it went. -/
structure Execution (σ ι ε α : Type) where
  /-- The number of the call. -/
  call : ℕ
  /-- What it runs. -/
  procedure : Procedure σ ι ε α
  /-- What is left of it: its result, unless it was cut off. -/
  rest : Procedure σ ι ε α

/-- Calls are executed one after the other, from the first state to the second one. -/
inductive Serial (permit : ι → σ → σ → Prop) (s₀ : σ) : List (Execution σ ι ε α) → σ → Prop
  | start : Serial permit s₀ [] s₀
  | next {log : List (Execution σ ι ε α)} {s s' : σ} (h : Serial permit s₀ log s)
    (e : Execution σ ι ε α) (he : Goes permit e.procedure s e.rest s') :
    Serial permit s₀ (log ++ [e]) s'

section Serial

variable {permit : ι → σ → σ → Prop} {s₀ s : σ} {log : List (Execution σ ι ε α)}

/-- What every call preserves. -/
theorem Serial.invariant {P : σ → Prop} (h : Serial permit s₀ log s) (hstart : P s₀)
    (hcall : ∀ e ∈ log, ∀ s s', P s → Goes permit e.procedure s e.rest s' → P s') : P s := by
  induction h with
  | start => exact hstart
  | @next log s s' h e he ih =>
    have hnew : e ∈ log ++ [e] := List.mem_append_right _ (List.mem_singleton_self e)
    exact hcall e hnew s s' (ih fun e' he' => hcall e' (List.mem_append_left _ he')) he

/-- What relates every call to the later ones: it leaves something behind that lasts, and tells the
later calls about it. -/
theorem Serial.pairwise {P : σ → Prop} {R : Execution σ ι ε α → Execution σ ι ε α → Prop}
    {After : Execution σ ι ε α → σ → Prop} (h : Serial permit s₀ log s) (hstart : P s₀)
    (hcall : ∀ e ∈ log, ∀ s s', P s → Goes permit e.procedure s e.rest s' → P s')
    (hleft : ∀ e ∈ log, ∀ s s', P s → Goes permit e.procedure s e.rest s' → After e s')
    (hlasts : ∀ e' ∈ log, ∀ e s s', Goes permit e'.procedure s e'.rest s' → After e s → After e s')
    (htells : ∀ e' ∈ log, ∀ e s s', After e s → Goes permit e'.procedure s e'.rest s' → R e e') :
    log.Pairwise R ∧ ∀ e ∈ log, After e s := by
  induction h with
  | start => exact ⟨.nil, fun e he => absurd he List.not_mem_nil⟩
  | @next log s s' h e he ih =>
    have hold : ∀ e' ∈ log, e' ∈ log ++ [e] := fun e' he' => List.mem_append_left _ he'
    have hnew : e ∈ log ++ [e] := List.mem_append_right _ (List.mem_singleton_self e)
    obtain ⟨hpairwise, hafter⟩ := ih (fun e' he' => hcall e' (hold e' he'))
      (fun e' he' => hleft e' (hold e' he')) (fun e' he' => hlasts e' (hold e' he'))
      (fun e' he' => htells e' (hold e' he'))
    have hP : P s := h.invariant hstart fun e' he' => hcall e' (hold e' he')
    refine ⟨List.pairwise_append.2 ⟨hpairwise, List.pairwise_singleton _ _, ?_⟩, ?_⟩
    · intro e₁ he₁ e₂ he₂
      obtain rfl := List.mem_singleton.1 he₂
      exact htells e₂ hnew e₁ s s' (hafter e₁ he₁) he
    · intro e₁ he₁
      rcases List.mem_append.1 he₁ with he₁ | he₁
      · exact hlasts e hnew e₁ s s' he (hafter e₁ he₁)
      · obtain rfl := List.mem_singleton.1 he₁
        exact hleft e₁ hnew s s' hP he

end Serial

/-! ### Any number of threads -/

/-- Which calls may be made of an object under a lock, and which atomic steps are considered. -/
structure Guarded (σ ι ε α : Type) where
  /-- The initial states. -/
  init : σ → Prop
  /-- The call with the given number may run the procedure. -/
  program : ℕ → Procedure σ ι ε α → Prop
  /-- The atomic steps that are considered, by their input, the state before and after. -/
  permit : ι → σ → σ → Prop

namespace Guarded

/-- Where a call is. -/
inductive Phase (σ ι ε α : Type) where
  /-- It waits for the lock. -/
  | waiting (p : Procedure σ ι ε α)
  /-- It holds the lock, and the procedure is left to be run. -/
  | holding (p : Procedure σ ι ε α)
  /-- It has released the lock and answered. -/
  | ended (result : Except ε α)

/-- The shared state and the calls that have been made. -/
structure Config (σ ι ε α : Type) where
  /-- The shared state. -/
  shared : σ
  /-- Where each call is. -/
  calls : ℕ → Option (Phase σ ι ε α)
  /-- The number of the next call. -/
  next : ℕ

/-- No call has been made. -/
def Config.start (s : σ) : Config σ ι ε α := ⟨s, fun _ => none, 0⟩

/-- The lock is free. -/
def Config.Free (cfg : Config σ ι ε α) : Prop := ∀ c p, cfg.calls c ≠ some (.holding p)

/-- One step of a run. -/
inductive Step (G : Guarded σ ι ε α) : Config σ ι ε α → Config σ ι ε α → Prop
  /-- A call arrives. -/
  | arrive (cfg : Config σ ι ε α) (p : Procedure σ ι ε α) (h : G.program cfg.next p) :
    Step G cfg ⟨cfg.shared, Function.update cfg.calls cfg.next (some (.waiting p)), cfg.next + 1⟩
  /-- A call is answered without the lock. -/
  | answer (cfg : Config σ ι ε α) (c : ℕ) (r : Except ε α)
    (h : cfg.calls c = some (.waiting (ofExcept r))) :
    Step G cfg ⟨cfg.shared, Function.update cfg.calls c (some (.ended r)), cfg.next⟩
  /-- A call takes the lock. -/
  | acquire (cfg : Config σ ι ε α) (c : ℕ) (p : Procedure σ ι ε α)
    (h : cfg.calls c = some (.waiting p)) (hfree : cfg.Free) :
    Step G cfg ⟨cfg.shared, Function.update cfg.calls c (some (.holding p)), cfg.next⟩
  /-- The call that holds the lock takes its next atom. -/
  | atom (cfg : Config σ ι ε α) (c : ℕ) (u : ι → σ → σ) (k : ι → σ → Procedure σ ι ε α) (i : ι)
    (h : cfg.calls c = some (.holding (.atom u k))) (hi : G.permit i cfg.shared (u i cfg.shared)) :
    Step G cfg ⟨u i cfg.shared,
      Function.update cfg.calls c (some (.holding (k i cfg.shared))), cfg.next⟩
  /-- It releases the lock. -/
  | release (cfg : Config σ ι ε α) (c : ℕ) (r : Except ε α)
    (h : cfg.calls c = some (.holding (ofExcept r))) :
    Step G cfg ⟨cfg.shared, Function.update cfg.calls c (some (.ended r)), cfg.next⟩
  /-- The process dies, and is started again. -/
  | restart (cfg : Config σ ι ε α) (calls : ℕ → Option (Phase σ ι ε α))
    (h : ∀ c, calls c = none ∨ calls c = cfg.calls c)
    (hlost : ∀ c p, calls c ≠ some (.waiting p) ∧ calls c ≠ some (.holding p)) :
    Step G cfg ⟨cfg.shared, calls, cfg.next⟩

/-- The configurations of all runs. -/
inductive Reachable (G : Guarded σ ι ε α) (s₀ : σ) : Config σ ι ε α → Prop
  | start (h : G.init s₀) : Reachable G s₀ (.start s₀)
  | step {cfg cfg' : Config σ ι ε α} (h : Reachable G s₀ cfg) (hstep : Step G cfg cfg') :
    Reachable G s₀ cfg'

variable {G : Guarded σ ι ε α} {s₀ : σ}

/-- How a configuration comes from a serial execution that leads to the second state. -/
structure Explains (G : Guarded σ ι ε α) (s₀ : σ) (log : List (Execution σ ι ε α)) (s₁ : σ)
    (cfg : Config σ ι ε α) : Prop where
  serial : Serial G.permit s₀ log s₁
  /-- What is executed has been called, and only once. -/
  program : ∀ e ∈ log, G.program e.call e.procedure ∧ e.call < cfg.next
  nodup : (log.map Execution.call).Nodup
  /-- Every answer is that of the serial execution. -/
  ended : ∀ c r, cfg.calls c = some (.ended r) → ∃ p, ⟨c, p, ofExcept r⟩ ∈ log
  /-- What is executed does not wait or hold the lock any more. -/
  executed : ∀ e ∈ log, ∀ p,
    cfg.calls e.call ≠ some (.waiting p) ∧ cfg.calls e.call ≠ some (.holding p)
  waiting : ∀ c p, cfg.calls c = some (.waiting p) → G.program c p
  /-- Who holds the lock is executed next, and has come as far as the shared state says. -/
  holding : ∀ c q, cfg.calls c = some (.holding q) →
    ∃ p, G.program c p ∧ Goes G.permit p s₁ q cfg.shared
  alone : ∀ c q c' q', cfg.calls c = some (.holding q) → cfg.calls c' = some (.holding q') →
    c = c'
  free : cfg.Free → s₁ = cfg.shared
  fresh : ∀ c, cfg.next ≤ c → cfg.calls c = none

namespace Explains

variable {log : List (Execution σ ι ε α)} {s₁ : σ} {cfg : Config σ ι ε α}

theorem lt_next (h : G.Explains s₀ log s₁ cfg) {c : ℕ} {phase : Phase σ ι ε α}
    (hc : cfg.calls c = some phase) : c < cfg.next := by
  by_contra hge
  rw [h.fresh c (Nat.le_of_not_lt hge)] at hc
  cases hc

/-- A call that is being executed has not been executed before. -/
theorem not_mem (h : G.Explains s₀ log s₁ cfg) {c : ℕ} {p : Procedure σ ι ε α}
    (hc : cfg.calls c = some (.waiting p) ∨ cfg.calls c = some (.holding p)) :
    c ∉ log.map Execution.call := by
  intro hmem
  obtain ⟨e, he, rfl⟩ := List.mem_map.1 hmem
  rcases hc with hc | hc
  · exact (h.executed e he p).1 hc
  · exact (h.executed e he p).2 hc

/-- A call is executed, and moves on to another phase. -/
theorem executes (h : G.Explains s₀ log s₁ cfg) {c : ℕ} {p q r : Procedure σ ι ε α}
    (hc : cfg.calls c = some (.waiting r) ∨ cfg.calls c = some (.holding r))
    (hp : G.program c p) {s₂ : σ} (hgoes : Goes G.permit p s₁ q s₂) :
    Serial G.permit s₀ (log ++ [⟨c, p, q⟩]) s₂ ∧
      (∀ e ∈ log ++ [⟨c, p, q⟩], G.program e.call e.procedure ∧ e.call < cfg.next) ∧
      ((log ++ [(⟨c, p, q⟩ : Execution σ ι ε α)]).map Execution.call).Nodup := by
  refine ⟨.next h.serial ⟨c, p, q⟩ hgoes, ?_, ?_⟩
  · intro e he
    rcases List.mem_append.1 he with he | he
    · exact h.program e he
    · obtain rfl := List.mem_singleton.1 he
      refine ⟨hp, ?_⟩
      rcases hc with hc | hc
      · exact h.lt_next hc
      · exact h.lt_next hc
  · rw [List.map_append]
    refine List.nodup_append.2 ⟨h.nodup, by simp, ?_⟩
    intro a ha b hb heq
    obtain rfl := List.mem_singleton.1 hb
    exact h.not_mem hc (heq ▸ ha)

/-- Moving a call on changes what is known of this call only. -/
theorem update_eq_some {f : ℕ → Option (Phase σ ι ε α)} {c d : ℕ} {phase phase' : Phase σ ι ε α} :
    Function.update f c (some phase) d = some phase' ↔
      d = c ∧ phase = phase' ∨ d ≠ c ∧ f d = some phase' := by
  by_cases hd : d = c
  · subst hd
    simp
  · simp [hd]

theorem start : G.Explains s₀ [] s₀ (.start s₀) where
  serial := .start
  program e he := absurd he List.not_mem_nil
  nodup := .nil
  ended c r hc := by cases hc
  executed e he := absurd he List.not_mem_nil
  waiting c p hc := by cases hc
  holding c q hc := by cases hc
  alone c q c' q' hc := by cases hc
  free _ := rfl
  fresh _ _ := rfl

theorem arrive (h : G.Explains s₀ log s₁ cfg) {p : Procedure σ ι ε α}
    (hp : G.program cfg.next p) :
    G.Explains s₀ log s₁ ⟨cfg.shared, Function.update cfg.calls cfg.next (some (.waiting p)),
      cfg.next + 1⟩ where
  serial := h.serial
  program e he := ⟨(h.program e he).1, Nat.lt_succ_of_lt (h.program e he).2⟩
  nodup := h.nodup
  ended c r hc := by
    rcases update_eq_some.1 hc with ⟨-, hphase⟩ | ⟨-, hc⟩
    · cases hphase
    · exact h.ended c r hc
  executed e he q := by
    have hne : e.call ≠ cfg.next := Nat.ne_of_lt (h.program e he).2
    dsimp only
    rw [Function.update_of_ne hne]
    exact h.executed e he q
  waiting c q hc := by
    rcases update_eq_some.1 hc with ⟨rfl, hphase⟩ | ⟨-, hc⟩
    · cases hphase
      exact hp
    · exact h.waiting c q hc
  holding c q hc := by
    rcases update_eq_some.1 hc with ⟨-, hphase⟩ | ⟨-, hc⟩
    · cases hphase
    · exact h.holding c q hc
  alone c q c' q' hc hc' := by
    rcases update_eq_some.1 hc with ⟨-, hphase⟩ | ⟨-, hc⟩
    · cases hphase
    rcases update_eq_some.1 hc' with ⟨-, hphase⟩ | ⟨-, hc'⟩
    · cases hphase
    exact h.alone c q c' q' hc hc'
  free hfree := by
    refine h.free fun c q hc => hfree c q ?_
    exact update_eq_some.2 (.inr ⟨Nat.ne_of_lt (h.lt_next hc), hc⟩)
  fresh c hle := by
    have hlt : cfg.next < c := hle
    dsimp only
    rw [Function.update_of_ne (Nat.ne_of_gt hlt)]
    exact h.fresh c (Nat.le_of_lt hlt)

/-- The calls are as before, but for one that is not executed yet and now holds the lock. -/
theorem acquire (h : G.Explains s₀ log s₁ cfg) {c : ℕ} {p : Procedure σ ι ε α}
    (hc : cfg.calls c = some (.waiting p)) (hfree : cfg.Free) :
    G.Explains s₀ log s₁
      ⟨cfg.shared, Function.update cfg.calls c (some (.holding p)), cfg.next⟩ where
  serial := h.serial
  program := h.program
  nodup := h.nodup
  ended c' r hc' := by
    rcases update_eq_some.1 hc' with ⟨-, hphase⟩ | ⟨-, hc'⟩
    · cases hphase
    · exact h.ended c' r hc'
  executed e he q := by
    have hne : e.call ≠ c := fun heq => (h.executed e he p).1 (heq ▸ hc)
    dsimp only
    rw [Function.update_of_ne hne]
    exact h.executed e he q
  waiting c' q hc' := by
    rcases update_eq_some.1 hc' with ⟨-, hphase⟩ | ⟨-, hc'⟩
    · cases hphase
    · exact h.waiting c' q hc'
  holding c' q hc' := by
    rcases update_eq_some.1 hc' with ⟨rfl, hphase⟩ | ⟨-, hc'⟩
    · cases hphase
      refine ⟨p, h.waiting c' p hc, ?_⟩
      rw [h.free hfree]
      exact .here _ _
    · exact absurd hc' (hfree c' q)
  alone c₁ q₁ c₂ q₂ h₁ h₂ := by
    rcases update_eq_some.1 h₁ with ⟨rfl, -⟩ | ⟨-, h₁⟩
    · rcases update_eq_some.1 h₂ with ⟨rfl, -⟩ | ⟨-, h₂⟩
      · rfl
      · exact absurd h₂ (hfree c₂ q₂)
    · exact absurd h₁ (hfree c₁ q₁)
  free hfree' := absurd (Function.update_self ..) (hfree' c p)
  fresh c' hle := by
    have hne : c' ≠ c := Nat.ne_of_gt (Nat.lt_of_lt_of_le (h.lt_next hc) hle)
    dsimp only
    rw [Function.update_of_ne hne]
    exact h.fresh c' hle

theorem atom (h : G.Explains s₀ log s₁ cfg) {c : ℕ} {u : ι → σ → σ}
    {k : ι → σ → Procedure σ ι ε α} {i : ι} (hc : cfg.calls c = some (.holding (.atom u k)))
    (hi : G.permit i cfg.shared (u i cfg.shared)) :
    G.Explains s₀ log s₁ ⟨u i cfg.shared,
      Function.update cfg.calls c (some (.holding (k i cfg.shared))), cfg.next⟩ where
  serial := h.serial
  program := h.program
  nodup := h.nodup
  ended c' r hc' := by
    rcases update_eq_some.1 hc' with ⟨-, hphase⟩ | ⟨-, hc'⟩
    · cases hphase
    · exact h.ended c' r hc'
  executed e he q := by
    have hne : e.call ≠ c := fun heq => (h.executed e he _).2 (heq ▸ hc)
    dsimp only
    rw [Function.update_of_ne hne]
    exact h.executed e he q
  waiting c' q hc' := by
    rcases update_eq_some.1 hc' with ⟨-, hphase⟩ | ⟨-, hc'⟩
    · cases hphase
    · exact h.waiting c' q hc'
  holding c' q hc' := by
    rcases update_eq_some.1 hc' with ⟨rfl, hphase⟩ | ⟨hne, hc'⟩
    · cases hphase
      obtain ⟨p, hp, hgoes⟩ := h.holding c' _ hc
      exact ⟨p, hp, hgoes.step i hi⟩
    · exact absurd (h.alone c' q c _ hc' hc) hne
  alone c₁ q₁ c₂ q₂ h₁ h₂ := by
    have hsame : ∀ d q, Function.update cfg.calls c (some (.holding (k i cfg.shared))) d =
        some (.holding q) → d = c := by
      intro d q hd
      rcases update_eq_some.1 hd with ⟨hd, -⟩ | ⟨-, hd⟩
      · exact hd
      · exact h.alone d q c _ hd hc
    rw [hsame c₁ q₁ h₁, hsame c₂ q₂ h₂]
  free hfree := absurd (Function.update_self ..) (hfree c _)
  fresh c' hle := by
    have hne : c' ≠ c := Nat.ne_of_gt (Nat.lt_of_lt_of_le (h.lt_next hc) hle)
    dsimp only
    rw [Function.update_of_ne hne]
    exact h.fresh c' hle

/-- A call ends, and its execution is complete. -/
theorem finish (h : G.Explains s₀ log s₁ cfg) {c : ℕ} {r : Except ε α} {p : Procedure σ ι ε α}
    (hc : cfg.calls c = some (.waiting (ofExcept r)) ∨ cfg.calls c = some (.holding (ofExcept r)))
    (hp : G.program c p) {s₂ : σ} (hgoes : Goes G.permit p s₁ (ofExcept r) s₂)
    (hothers : ∀ c' q, c' ≠ c → cfg.calls c' = some (.holding q) → s₂ = s₁)
    (hfree : (∀ c' q, c' ≠ c → cfg.calls c' ≠ some (.holding q)) → s₂ = cfg.shared) :
    G.Explains s₀ (log ++ [⟨c, p, ofExcept r⟩]) s₂
      ⟨cfg.shared, Function.update cfg.calls c (some (.ended r)), cfg.next⟩ where
  serial := (h.executes hc hp hgoes).1
  program := (h.executes hc hp hgoes).2.1
  nodup := (h.executes hc hp hgoes).2.2
  ended c' r' hc' := by
    rcases update_eq_some.1 hc' with ⟨rfl, hphase⟩ | ⟨-, hc'⟩
    · cases hphase
      exact ⟨p, List.mem_append_right _ (List.mem_singleton_self _)⟩
    · obtain ⟨p', hmem⟩ := h.ended c' r' hc'
      exact ⟨p', List.mem_append_left _ hmem⟩
  executed e he q := by
    rcases List.mem_append.1 he with he | he
    · dsimp only
      by_cases hne : e.call = c
      · rw [hne, Function.update_self]
        exact ⟨by simp, by simp⟩
      · rw [Function.update_of_ne hne]
        exact h.executed e he q
    · obtain rfl := List.mem_singleton.1 he
      dsimp only
      rw [Function.update_self]
      exact ⟨by simp, by simp⟩
  waiting c' q hc' := by
    rcases update_eq_some.1 hc' with ⟨-, hphase⟩ | ⟨-, hc'⟩
    · cases hphase
    · exact h.waiting c' q hc'
  holding c' q hc' := by
    rcases update_eq_some.1 hc' with ⟨-, hphase⟩ | ⟨hne, hc'⟩
    · cases hphase
    · rw [hothers c' q hne hc']
      exact h.holding c' q hc'
  alone c₁ q₁ c₂ q₂ h₁ h₂ := by
    rcases update_eq_some.1 h₁ with ⟨-, hphase⟩ | ⟨-, h₁⟩
    · cases hphase
    rcases update_eq_some.1 h₂ with ⟨-, hphase⟩ | ⟨-, h₂⟩
    · cases hphase
    exact h.alone c₁ q₁ c₂ q₂ h₁ h₂
  free hfree' := hfree fun c' q hne hc' => hfree' c' q (update_eq_some.2 (.inr ⟨hne, hc'⟩))
  fresh c' hle := by
    have hlt : c < cfg.next := hc.elim (fun hc => h.lt_next hc) fun hc => h.lt_next hc
    dsimp only
    rw [Function.update_of_ne (Nat.ne_of_gt (Nat.lt_of_lt_of_le hlt hle))]
    exact h.fresh c' hle

/-- The process dies: who holds the lock is cut off. -/
theorem restart (h : G.Explains s₀ log s₁ cfg) {calls : ℕ → Option (Phase σ ι ε α)}
    (hcalls : ∀ c, calls c = none ∨ calls c = cfg.calls c)
    (hlost : ∀ c p, calls c ≠ some (.waiting p) ∧ calls c ≠ some (.holding p)) :
    ∃ log' s₂, G.Explains s₀ log' s₂ ⟨cfg.shared, calls, cfg.next⟩ := by
  have hended : ∀ c r, calls c = some (.ended r) → cfg.calls c = some (.ended r) := by
    intro c r hc
    rcases hcalls c with hnone | hsame
    · rw [hnone] at hc
      cases hc
    · rw [← hsame, hc]
  have hfresh : ∀ c, cfg.next ≤ c → calls c = none := by
    intro c hle
    rcases hcalls c with hnone | hsame
    · exact hnone
    · rw [hsame, h.fresh c hle]
  by_cases hholder : ∃ c q, cfg.calls c = some (.holding q)
  · obtain ⟨c, q, hc⟩ := hholder
    obtain ⟨p, hp, hgoes⟩ := h.holding c q hc
    obtain ⟨hserial, hprogram, hnodup⟩ := h.executes (.inr hc) hp hgoes
    refine ⟨_, _, hserial, hprogram, hnodup, fun c' r hc' => ?_, fun e _ q => hlost _ q,
      fun c' q hc' => absurd hc' (hlost c' q).1, fun c' q hc' => absurd hc' (hlost c' q).2,
      fun c' q _ _ hc' => absurd hc' (hlost c' q).2, fun _ => rfl, hfresh⟩
    obtain ⟨p', hmem⟩ := h.ended c' r (hended c' r hc')
    exact ⟨p', List.mem_append_left _ hmem⟩
  · have hfree : cfg.Free := fun c q hc => hholder ⟨c, q, hc⟩
    exact ⟨log, s₁, h.serial, h.program, h.nodup, fun c r hc => h.ended c r (hended c r hc),
      fun e _ q => hlost _ q, fun c' q hc' => absurd hc' (hlost c' q).1,
      fun c' q hc' => absurd hc' (hlost c' q).2, fun c' q _ _ hc' => absurd hc' (hlost c' q).2,
      fun _ => h.free hfree, hfresh⟩

end Explains

/-- Whatever the schedule, the calls might have been executed one after the other. -/
theorem Reachable.serial {cfg : Config σ ι ε α} (h : G.Reachable s₀ cfg) :
    ∃ log s₁, G.Explains s₀ log s₁ cfg := by
  induction h with
  | start hinit =>
    exact ⟨[], s₀, .start⟩
  | step _ hstep ih =>
    obtain ⟨log, s₁, h⟩ := ih
    cases hstep with
    | arrive p hp => exact ⟨_, _, h.arrive hp⟩
    | answer c r hc =>
      -- the answer needs no state, so that it may come before the call that holds the lock
      exact ⟨_, _, h.finish (.inl hc) (h.waiting c _ hc) (.here _ _) (fun _ _ _ _ => rfl)
        fun hothers => h.free fun c' q hc' => by
          by_cases hne : c' = c
          · rw [hne, hc] at hc'
            cases hc'
          · exact hothers c' q hne hc'⟩
    | acquire c p hc hfree => exact ⟨_, _, h.acquire hc hfree⟩
    | atom c u k i hc hi => exact ⟨_, _, h.atom hc hi⟩
    | release c r hc =>
      obtain ⟨p, hp, hgoes⟩ := h.holding c _ hc
      exact ⟨_, _, h.finish (.inr hc) hp hgoes
        (fun c' q hne hc' => absurd (h.alone c' q c _ hc' hc) hne) fun _ => rfl⟩
    | restart calls hcalls hlost => exact h.restart hcalls hlost

/-- The call that holds the lock goes on to its end. -/
theorem Reachable.run {calls : ℕ → Option (Phase σ ι ε α)} {next c : ℕ} {p : Procedure σ ι ε α}
    {s s' : σ} {r : Except ε α} (hgoes : Goes G.permit p s (ofExcept r) s')
    (h : G.Reachable s₀ ⟨s, Function.update calls c (some (.holding p)), next⟩) :
    G.Reachable s₀ ⟨s', Function.update calls c (some (.ended r)), next⟩ := by
  generalize hq : ofExcept r = q at hgoes
  induction hgoes with
  | here p s =>
    subst hq
    have hstep := h.step (.release _ c r (Function.update_self ..))
    rwa [Function.update_idem] at hstep
  | atom i hi _ ih =>
    refine ih ?_ hq
    have hstep := h.step (.atom _ c _ _ i (Function.update_self ..) hi)
    rwa [Function.update_idem] at hstep

/-- A call may be made and executed while the lock is free. -/
theorem Reachable.call {cfg : Config σ ι ε α} (h : G.Reachable s₀ cfg) (hfree : cfg.Free)
    {p : Procedure σ ι ε α} (hp : G.program cfg.next p) {r : Except ε α} {s' : σ}
    (hgoes : Goes G.permit p cfg.shared (ofExcept r) s') :
    G.Reachable s₀ ⟨s', Function.update cfg.calls cfg.next (some (.ended r)), cfg.next + 1⟩ := by
  refine Reachable.run hgoes ?_
  have hwaiting := h.step (.arrive cfg p hp)
  have hstep := hwaiting.step (.acquire _ cfg.next p (Function.update_self ..) fun c q hc => by
    rcases Explains.update_eq_some.1 hc with ⟨-, hphase⟩ | ⟨-, hc⟩
    · cases hphase
    · exact hfree c q hc)
  rwa [Function.update_idem] at hstep

end Guarded

end Concurrency
