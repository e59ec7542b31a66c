import Mathlib.Data.List.Nodup
import Mathlib.Data.Nat.Notation
import PfsenseMcp.Concurrency.Pool
import PfsenseMcp.Posture.Plan
import PfsenseMcp.Tier1.DomainSeparation

/-!
# One-time consumption of authorizations

`SqliteAuthorizationConsumptionStore` of `tier1/authorization_consumption_store.py`: a table with a
row for every authorization that has been consumed. `try_consume` inserts a row in one transaction,
and reads the row of another call if there is one. Any number of calls may interleave.

## Main results

* `wp_answer`: what a call of `try_consume` establishes, whatever the others do;
* `Consumed`: what all of them keep.
-/

namespace Tier1

open Python Concurrency Procedure

/-! ### The table -/

/-- A row of `consumed_authorizations`. -/
structure ConsumedRow where
  authorizationId : String
  consumedAt : String
  mac : String

/-- The table, and what the calls have done. -/
structure ConsumptionWorld where
  rows : List ConsumedRow := []
  /-- The calls that have inserted a row, with its identifier, the oldest first. -/
  inserted : List (ℕ × String) := []
  /-- The calls that have been answered, for which identifier, and how. -/
  answered : List (ℕ × String × Bool) := []

namespace ConsumptionWorld

/-- A call has inserted a row. -/
def insert (s : ConsumptionWorld) (call : ℕ) (row : ConsumedRow) : ConsumptionWorld :=
  { s with rows := s.rows ++ [row], inserted := s.inserted ++ [(call, row.authorizationId)] }

/-- A call has been answered. -/
def answer (s : ConsumptionWorld) (call : ℕ) (authorizationId : String) (first : Bool) :
    ConsumptionWorld :=
  { s with answered := s.answered ++ [(call, authorizationId, first)] }

end ConsumptionWorld

/-- What the environment answers in a step. -/
structure ConsumptionAnswers where
  /-- The clock of the store; `none` is an instant that is not in UTC. -/
  clock : Option DateTime
  /-- The failure of opening the database or of a statement. -/
  sqlite : Option Error
  /-- The failure of a commit, and whether the row is there nevertheless. -/
  commit : Option (Error × Bool)
  /-- What a discovery of the security posture finds. -/
  discovery : Posture.DiscoveryEnvironment

/-- Code that runs on the table. -/
abbrev ConsumptionOp (α : Type) := Procedure ConsumptionWorld ConsumptionAnswers Error α

/-! ### `try_consume` -/

namespace AuthorizationConsumptionStore

/-- `AuthorizationConsumptionError`. -/
def consumptionError : ErrorClass := .other "AuthorizationConsumptionError"

/-- A step that only looks at the table or at the environment. -/
def look {α : Type} (f : ConsumptionAnswers → ConsumptionWorld → Except Error α) :
    ConsumptionOp α :=
  .atom (fun _ s => s) fun i s => .ofExcept (f i s)

/-- `_now`. -/
def now : ConsumptionOp DateTime :=
  look fun i _ => match i.clock with
    | some instant => .ok instant
    | none => fail consumptionError "Authorization consumption store clock must return UTC."

/-- The transaction of `try_consume`, with the table after it: `false` is an `IntegrityError`. -/
def insertStep (call : ℕ) (row : ConsumedRow) (i : ConsumptionAnswers) (s : ConsumptionWorld) :
    ConsumptionWorld × Except Error Bool :=
  match i.sqlite with
  | some e => (s, .error e)
  | none =>
    -- `authorization_id` is the primary key
    if row.authorizationId ∈ s.rows.map ConsumedRow.authorizationId then (s, .ok false)
    else
      match i.commit with
      | none => (s.insert call row, .ok true)
      | some (e, true) => (s.insert call row, .error e)
      | some (e, false) => (s, .error e)

/-- The transaction of `try_consume`. -/
def insert (call : ℕ) (row : ConsumedRow) : ConsumptionOp Bool :=
  .atom (fun i s => (insertStep call row i s).1) fun i s => .ofExcept (insertStep call row i s).2

/-- The row of an identifier. -/
def select (authorizationId : String) : ConsumptionOp (Option ConsumedRow) :=
  look fun i s => match i.sqlite with
    | some e => .error e
    | none => .ok (s.rows.find? fun row => row.authorizationId = authorizationId)

section Store

variable [Platform] (store : StoreIdentity)

/-- What `try_consume` does with the row of another call. -/
def replayed (authorizationId : String) : Option ConsumedRow → Except Error Bool
  | none =>
    fail consumptionError "Authorization consumption store is in an inconsistent state."
  | some row => do
    let expected ← rowMac store authorizationId row.consumedAt
    let equal ← compareDigest row.mac expected
    demand (equal = true) consumptionError
      "Stored authorization consumption record failed integrity verification."
    .ok false

/-- `try_consume`. -/
def tryConsume (call : ℕ) (authorizationId : String) : ConsumptionOp Bool := do
  .ofExcept (demand (isIdentifier authorizationId = true) consumptionError
    "authorization_id is invalid.")
  let instant ← now
  let code ← .ofExcept (rowMac store authorizationId instant.isoformat)
  let first ← insert call ⟨authorizationId, instant.isoformat, code⟩
  if first = true then return true
  else do
    let found ← select authorizationId
    .ofExcept (replayed store authorizationId found)

/-- A call of `try_consume`, with a record of its answer. -/
def answer (call : ℕ) (authorizationId : String) : ConsumptionOp Bool := do
  let first ← tryConsume store call authorizationId
  .atom (fun _ s => s.answer call authorizationId first) fun _ _ => .ret first

/-! ### What the calls keep -/

/-- The invariant of the table: rows are authentic and inserted once each, by calls of which
something is known, and answers are right. -/
structure Consumed (Passed : ℕ → String → Prop) (s : ConsumptionWorld) : Prop where
  rows : s.rows.map ConsumedRow.authorizationId = s.inserted.map Prod.snd
  nodup : (s.inserted.map Prod.snd).Nodup
  authentic : ∀ row ∈ s.rows,
    rowMac store row.authorizationId row.consumedAt = .ok row.mac
  passed : ∀ call authorizationId, (call, authorizationId) ∈ s.inserted →
    Passed call authorizationId
  first : ∀ call authorizationId, (call, authorizationId, true) ∈ s.answered →
    (call, authorizationId) ∈ s.inserted
  replay : ∀ call authorizationId, (call, authorizationId, false) ∈ s.answered →
    ∃ other, (other, authorizationId) ∈ s.inserted

/-- What a call knows from the answer of `try_consume`. -/
def Tells (call : ℕ) (authorizationId : String) (first : Bool) (s : ConsumptionWorld) : Prop :=
  (first = true → (call, authorizationId) ∈ s.inserted) ∧
    (first = false → ∃ other, (other, authorizationId) ∈ s.inserted)

/-- Rows are never deleted. -/
def Grows (s s' : ConsumptionWorld) : Prop := s.inserted ⊆ s'.inserted

/-- The context in which a call is verified. -/
def consumptionContext (Passed : ℕ → String → Prop) :
    Context ConsumptionWorld ConsumptionAnswers where
  inv := Consumed store Passed
  rely := Grows
  guar := Grows
  permit _ _ _ := True

variable {store} {Passed : ℕ → String → Prop} {call : ℕ} {authorizationId : String}
  {s : ConsumptionWorld}

omit [Platform] in
theorem Tells.of_grows {first : Bool} {s' : ConsumptionWorld}
    (h : Tells call authorizationId first s) (hgrows : Grows s s') :
    Tells call authorizationId first s' :=
  ⟨fun hfirst => hgrows (h.1 hfirst), fun hfirst => (h.2 hfirst).imp fun _ hother => hgrows hother⟩

omit [Platform] in
theorem tells_true (h : (call, authorizationId) ∈ s.inserted) : Tells call authorizationId true s :=
  ⟨fun _ => h, fun hfirst => absurd hfirst (by decide)⟩

omit [Platform] in
theorem tells_false (h : ∃ other, (other, authorizationId) ∈ s.inserted) :
    Tells call authorizationId false s :=
  ⟨fun hfirst => absurd hfirst (by decide), fun _ => h⟩

theorem consumed_start : Consumed store Passed {} where
  rows := rfl
  nodup := .nil
  authentic _ h := absurd h List.not_mem_nil
  passed _ _ h := absurd h List.not_mem_nil
  first _ _ h := absurd h List.not_mem_nil
  replay _ _ h := absurd h List.not_mem_nil

/-- A row with a new identifier keeps the invariant. -/
theorem Consumed.insert (h : Consumed store Passed s) {row : ConsumedRow}
    (hnew : row.authorizationId ∉ s.rows.map ConsumedRow.authorizationId)
    (hmac : rowMac store row.authorizationId row.consumedAt = .ok row.mac)
    (hpassed : Passed call row.authorizationId) :
    Consumed store Passed (s.insert call row) where
  rows := by
    have hrows := h.rows
    simp [ConsumptionWorld.insert, hrows]
  nodup := by
    rw [h.rows] at hnew
    rw [ConsumptionWorld.insert, List.map_append]
    refine List.nodup_append.2 ⟨h.nodup, List.nodup_singleton _, ?_⟩
    intro a ha b hb heq
    obtain rfl : b = row.authorizationId := List.mem_singleton.1 hb
    exact hnew (heq ▸ ha)
  authentic row' hrow := by
    rcases List.mem_append.1 hrow with hrow | hrow
    · exact h.authentic row' hrow
    · obtain rfl := List.mem_singleton.1 hrow
      exact hmac
  passed call' authorizationId hmem := by
    rcases List.mem_append.1 hmem with hmem | hmem
    · exact h.passed call' authorizationId hmem
    · cases List.mem_singleton.1 hmem
      exact hpassed
  first call' authorizationId hmem :=
    List.mem_append_left _ (h.first call' authorizationId hmem)
  replay call' authorizationId hmem :=
    (h.replay call' authorizationId hmem).imp fun _ hother => List.mem_append_left _ hother

/-- So does a right answer. -/
theorem Consumed.answer (h : Consumed store Passed s) {first : Bool}
    (htells : Tells call authorizationId first s) :
    Consumed store Passed (s.answer call authorizationId first) where
  rows := h.rows
  nodup := h.nodup
  authentic := h.authentic
  passed := h.passed
  first call' authorizationId' hmem := by
    rcases List.mem_append.1 hmem with hmem | hmem
    · exact h.first call' authorizationId' hmem
    · cases List.mem_singleton.1 hmem
      exact htells.1 rfl
  replay call' authorizationId' hmem := by
    rcases List.mem_append.1 hmem with hmem | hmem
    · exact h.replay call' authorizationId' hmem
    · cases List.mem_singleton.1 hmem
      exact htells.2 rfl

/-- A step that only looks. -/
theorem wp_look {α : Type} {f : ConsumptionAnswers → ConsumptionWorld → Except Error α}
    {Q : α → ConsumptionWorld → Prop} (hf : ∀ i s' a, Grows s s' → f i s' = .ok a → Q a s') :
    wp (consumptionContext store Passed) (look f) (Returning Q) s := by
  intro s' hinv hgrows i _
  refine ⟨hinv, List.Subset.refl _, (Procedure.wp_ofExcept _ _ _).2 ?_⟩
  cases hanswer : f i s' with
  | error e => trivial
  | ok a => exact hf i s' a hgrows hanswer

theorem wp_ofExcept_returning {α : Type} {x : Except Error α} {Q : α → ConsumptionWorld → Prop}
    (hx : ∀ a, x = .ok a → Q a s) :
    wp (consumptionContext store Passed) (.ofExcept x) (Returning Q) s := by
  rw [Procedure.wp_ofExcept]
  cases x with
  | error e => trivial
  | ok a => exact hx a rfl

/-- The transaction inserts a row, or finds one. -/
theorem wp_insert {row : ConsumedRow}
    (hmac : rowMac store row.authorizationId row.consumedAt = .ok row.mac)
    (hpassed : Passed call row.authorizationId) :
    wp (consumptionContext store Passed) (insert call row)
      (Returning (Tells call row.authorizationId)) s := by
  intro s' hinv _ i _
  have hinv : Consumed store Passed s' := hinv
  have hsame : Grows s' s' := List.Subset.refl _
  have hgrows : Grows s' (s'.insert call row) := List.subset_append_left _ _
  have hmem : (call, row.authorizationId) ∈ (s'.insert call row).inserted :=
    List.mem_append_right _ (List.mem_singleton_self _)
  change Consumed store Passed (insertStep call row i s').1 ∧
    Grows s' (insertStep call row i s').1 ∧
    wp _ (.ofExcept (insertStep call row i s').2) _ (insertStep call row i s').1
  rw [Procedure.wp_ofExcept]
  unfold insertStep
  cases i.sqlite with
  | some e => exact ⟨hinv, hsame, trivial⟩
  | none =>
    dsimp only
    by_cases hold : row.authorizationId ∈ s'.rows.map ConsumedRow.authorizationId
    · rw [if_pos hold]
      refine ⟨hinv, hsame, tells_false ?_⟩
      rw [hinv.rows] at hold
      obtain ⟨⟨other, _⟩, hother, rfl⟩ := List.mem_map.1 hold
      exact ⟨other, hother⟩
    · rw [if_neg hold]
      rcases i.commit with _ | ⟨e, _ | _⟩
      · exact ⟨hinv.insert hold hmac hpassed, hgrows, tells_true hmem⟩
      · exact ⟨hinv, hsame, trivial⟩
      · exact ⟨hinv.insert hold hmac hpassed, hgrows, trivial⟩

theorem eq_false_of_replayed {found : Option ConsumedRow} {first : Bool}
    (h : replayed store authorizationId found = .ok first) : first = false := by
  cases found with
  | none => cases h
  | some row =>
    simp only [replayed, bind_eq_ok] at h
    obtain ⟨_, -, _, -, _, -, h⟩ := h
    cases h
    rfl

theorem wp_tryConsume (hpassed : Passed call authorizationId) :
    wp (consumptionContext store Passed) (tryConsume store call authorizationId)
      (Returning (Tells call authorizationId)) s := by
  refine wp_seq (Q := fun _ _ => True) (wp_ofExcept_returning fun _ _ => trivial) fun _ s _ => ?_
  refine wp_seq (Q := fun _ _ => True) (wp_look fun _ _ _ _ _ => trivial) fun instant s _ => ?_
  refine wp_seq (Q := fun code _ => rowMac store authorizationId instant.isoformat = .ok code)
    (wp_ofExcept_returning fun _ hcode => hcode) fun code s hcode => ?_
  refine wp_seq (wp_insert hcode hpassed) fun first s htells => ?_
  by_cases hfirst : first = true
  · rw [if_pos hfirst]
    subst hfirst
    exact htells
  · rw [if_neg hfirst]
    have hreplay : ∃ other, (other, authorizationId) ∈ s.inserted :=
      htells.2 (eq_false_of_ne_true hfirst)
    refine wp_seq (Q := fun _ s => ∃ other, (other, authorizationId) ∈ s.inserted)
      (wp_look fun _ _ _ hgrows _ => hreplay.imp fun _ hother => hgrows hother) fun found s h => ?_
    refine wp_ofExcept_returning fun first hfirst => ?_
    obtain rfl := eq_false_of_replayed hfirst
    exact tells_false h

/-- An answer of `try_consume` is right, whatever the other calls do. -/
theorem wp_answer (hpassed : Passed call authorizationId) :
    wp (consumptionContext store Passed) (answer store call authorizationId)
      (Returning (Tells call authorizationId)) s := by
  refine wp_seq (wp_tryConsume hpassed) fun first s htells => ?_
  intro s' hinv hgrows i _
  have hinv : Consumed store Passed s' := hinv
  exact ⟨hinv.answer (htells.of_grows hgrows), List.Subset.refl _, htells.of_grows hgrows⟩

end Store

end AuthorizationConsumptionStore

end Tier1
