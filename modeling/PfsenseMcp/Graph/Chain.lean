import Mathlib.Data.Finset.Card
import Mathlib.Data.List.Dedup
import Mathlib.Logic.Relation

/-!
# Chains

A partial function `next` makes chains: from an element to the next one, until there is none or for
ever. Three walks along a chain are given with what they find: one that remembers where it has
been, one that counts its steps, and one that takes so many steps at most.

## Main results

* `ends_iff_forall_not_leadsTo`: if `next` is defined on finitely many elements, a chain ends
  exactly if it comes to no cycle;
* `walk_returns`, `walk_found_iff`, `walk_cycled`: the walk with a memory returns on every chain;
* `count_returns_iff`, `count_lt`: the walk that counts returns exactly on the chains that end;
* `mem_collect_iff`: as many steps as there are elements are enough to collect all of a chain;
* `returns_iff_exists`: a loop that more steps do not change returns what it returns once.
-/

namespace Chain

open Relation

variable {α : Type} (next : α → Option α)

/-- The element `a` is followed by `b`. -/
def Follows (a b : α) : Prop := next a = some b

/-- The chain from `a` comes to `b`, in one step or in more. -/
abbrev LeadsTo : α → α → Prop := TransGen (Follows next)

/-- A chain that may be empty comes to `b`. -/
def Meets (start : Option α) (b : α) : Prop := ∃ a, start = some a ∧ ReflTransGen (Follows next) a b

/-- The chain from `a` ends. -/
inductive Ends : α → Prop
  | intro {a : α} (h : ∀ b, next a = some b → Ends b) : Ends a

/-- A chain that may be empty ends. -/
def EndsFrom (start : Option α) : Prop := ∀ a, start = some a → Ends next a

/-- `next` is defined on the elements of the list only. -/
def DefinedOn (domain : List α) : Prop := ∀ a b, next a = some b → a ∈ domain

/-- The element in the chain after so many steps. -/
def nth : ℕ → α → Option α
  | 0, a => some a
  | n + 1, a => (next a).bind (nth n)

section Reach

variable {next} {a b c : α}

theorem meets_some : Meets next (some a) b ↔ ReflTransGen (Follows next) a b := by
  constructor
  · rintro ⟨_, ⟨⟩, h⟩
    exact h
  · exact fun h => ⟨a, rfl, h⟩

theorem meets_next_iff : Meets next (next a) b ↔ LeadsTo next a b := by
  constructor
  · rintro ⟨c, hac, hcb⟩
    exact TransGen.head' hac hcb
  · exact fun h => TransGen.head'_iff.mp h

/-- A chain that starts with `a` has `a` in it and what comes next. -/
theorem meets_some_iff : Meets next (some a) b ↔ b = a ∨ Meets next (next a) b := by
  rw [meets_some, ReflTransGen.cases_head_iff, eq_comm]
  exact Iff.rfl

theorem not_meets_none : ¬Meets next none b := by
  rintro ⟨_, h, -⟩
  cases h

/-- Two elements of one chain: the chain from one of them comes to the other. -/
theorem reach_total (hb : ReflTransGen (Follows next) a b) (hc : ReflTransGen (Follows next) a c) :
    ReflTransGen (Follows next) b c ∨ ReflTransGen (Follows next) c b := by
  refine ReflTransGen.total_of_right_unique (fun x y z hy hz => ?_) hb hc
  exact Option.some.inj (hy.symm.trans hz)

/-- From a cycle every element of it is reached. -/
theorem leadsTo_of_leadsTo_self (h : LeadsTo next a a) (hb : LeadsTo next a b) :
    LeadsTo next b a := by
  induction hb with
  | single hab =>
    -- the cycle takes the same first step
    obtain ⟨c, hac, hca⟩ := TransGen.head'_iff.mp h
    cases Option.some.inj (hac.symm.trans hab)
    rcases (reflTransGen_iff_eq_or_transGen.mp hca) with rfl | hca
    · exact h
    · exact hca
  | tail _ hbc ih =>
    obtain ⟨d, hbd, hda⟩ := TransGen.head'_iff.mp ih
    cases Option.some.inj (hbd.symm.trans hbc)
    rcases (reflTransGen_iff_eq_or_transGen.mp hda) with rfl | hda
    · exact h
    · exact hda

theorem nth_add (m n : ℕ) : nth next (m + n) a = (nth next m a).bind (nth next n) := by
  induction m generalizing a with
  | zero => rw [Nat.zero_add, nth, Option.bind_some]
  | succ m ih =>
    rw [Nat.succ_add, nth, nth, Option.bind_assoc]
    congr 1
    funext b
    exact ih

theorem reach_iff_nth : ReflTransGen (Follows next) a b ↔ ∃ n, nth next n a = some b := by
  constructor
  · intro h
    induction h using ReflTransGen.head_induction_on with
    | refl => exact ⟨0, rfl⟩
    | head hac _ ih =>
      obtain ⟨n, hn⟩ := ih
      exact ⟨n + 1, by rw [nth, hac, Option.bind_some, hn]⟩
  · rintro ⟨n, hn⟩
    induction n generalizing a with
    | zero =>
      cases hn
      exact .refl
    | succ n ih =>
      obtain ⟨c, hac, hc⟩ := Option.bind_eq_some_iff.mp hn
      exact .head hac (ih hc)

end Reach

/-! ### Chains that end -/

section Ends

variable {next} {a b : α}

theorem ends_of_eq_none (h : next a = none) : Ends next a :=
  .intro fun b hb => by rw [h] at hb; cases hb

theorem Ends.of_next (h : Ends next a) (hb : next a = some b) : Ends next b := by
  cases h with
  | intro h => exact h b hb

theorem Ends.of_reach (h : Ends next a) (hb : ReflTransGen (Follows next) a b) : Ends next b := by
  induction hb with
  | refl => exact h
  | tail _ hbc ih => exact ih.of_next hbc

theorem endsFrom_some : EndsFrom next (some a) ↔ Ends next a := by
  constructor
  · exact fun h => h a rfl
  · rintro h _ ⟨⟩
    exact h

theorem endsFrom_next : EndsFrom next (next a) ↔ Ends next a :=
  ⟨fun h => .intro h, fun h _ hb => h.of_next hb⟩

theorem endsFrom_none : EndsFrom next none := fun _ h => by cases h

/-- A chain that ends does not come back. -/
theorem Ends.not_leadsTo_self (h : Ends next a) : ¬LeadsTo next a a := by
  induction h with
  | intro _ ih =>
    intro hself
    obtain ⟨b, hab, hba⟩ := TransGen.head'_iff.mp hself
    exact ih b hab (TransGen.tail' hba hab)

theorem ends_of_nth_eq_none {n : ℕ} (h : nth next n a = none) : Ends next a := by
  induction n generalizing a with
  | zero => cases h
  | succ n ih =>
    refine .intro fun b hb => ih ?_
    rwa [nth, hb, Option.bind_some] at h

end Ends

/-! ### Finitely many elements -/

section Finite

variable {next} {domain : List α} {a b : α}

/-- An element that comes twice in a chain leads to itself. -/
theorem leadsTo_self_of_nth {i j : ℕ} (hij : i < j) (hi : nth next i a = some b)
    (hj : nth next j a = some b) : LeadsTo next b b := by
  obtain ⟨k, rfl⟩ := Nat.exists_eq_add_of_lt hij
  rw [Nat.add_assoc, nth_add, hi, Option.bind_some, nth] at hj
  obtain ⟨c, hbc, hcb⟩ := Option.bind_eq_some_iff.mp hj
  exact TransGen.head' hbc (reach_iff_nth.mpr ⟨k, hcb⟩)

/-- Of more steps than there are elements, two come to the same element. -/
theorem exists_nth_eq [DecidableEq α] {n : ℕ} (hn : domain.length < n)
    (h : ∀ i < n, ∃ b ∈ domain, nth next i a = some b) :
    ∃ i j b, i < j ∧ j < n ∧ nth next i a = some b ∧ nth next j a = some b := by
  have hmaps : Set.MapsTo (fun i => nth next i a) (Finset.range n : Set ℕ)
      ((domain.map some).toFinset : Set (Option α)) := by
    intro i hi
    obtain ⟨b, hb, hnth⟩ := h i (by simpa using hi)
    have hmem : nth next i a ∈ domain.map some := List.mem_map.mpr ⟨b, hb, hnth.symm⟩
    simpa using hmem
  have hcard : (domain.map some).toFinset.card < (Finset.range n).card := by
    rw [Finset.card_range]
    refine lt_of_le_of_lt (List.toFinset_card_le _) ?_
    rwa [List.length_map]
  obtain ⟨i, hi, j, hj, hne, heq⟩ := Finset.exists_ne_map_eq_of_card_lt_of_maps_to hcard hmaps
  rw [Finset.mem_range] at hi hj
  obtain ⟨b, -, hb⟩ := h i hi
  rcases Nat.lt_or_gt_of_ne hne with hlt | hlt
  · exact ⟨i, j, b, hlt, hj, hb, heq ▸ hb⟩
  · exact ⟨j, i, b, hlt, hi, heq ▸ hb, hb⟩

/-- A chain ends exactly if it comes to no cycle. -/
theorem ends_iff_forall_not_leadsTo (hdomain : DefinedOn next domain) :
    Ends next a ↔ ∀ b, ReflTransGen (Follows next) a b → ¬LeadsTo next b b := by
  classical
  refine ⟨fun h b hb => (h.of_reach hb).not_leadsTo_self, fun h => ?_⟩
  by_contra hends
  have hsome : ∀ n, ∃ b, nth next n a = some b := by
    intro n
    cases hn : nth next n a with
    | none => exact absurd (ends_of_nth_eq_none hn) hends
    | some b => exact ⟨b, rfl⟩
  obtain ⟨i, j, b, hij, -, hi, hj⟩ := exists_nth_eq (Nat.lt_succ_self _) fun i _ => by
    obtain ⟨b, hb⟩ := hsome i
    obtain ⟨c, hc⟩ := hsome (i + 1)
    rw [nth_add, hb, Option.bind_some, nth] at hc
    obtain ⟨d, hbd, -⟩ := Option.bind_eq_some_iff.mp hc
    exact ⟨b, hdomain b d hbd, hb⟩
  exact h b (reach_iff_nth.mpr ⟨i, hi⟩) (leadsTo_self_of_nth hij hi hj)

/-- Whatever a chain comes to, it comes to in fewer steps than there are elements, or in as many. -/
theorem exists_nth_le (hdomain : DefinedOn next domain) (h : ReflTransGen (Follows next) a b) :
    ∃ n ≤ domain.length, nth next n a = some b := by
  classical
  obtain ⟨n, hn⟩ := reach_iff_nth.mp h
  induction n using Nat.strong_induction_on with
  | _ n ih =>
    by_cases hle : n ≤ domain.length
    · exact ⟨n, hle, hn⟩
    have hsteps : ∀ i < n, ∃ c ∈ domain, nth next i a = some c := by
      intro i hin
      obtain ⟨k, rfl⟩ := Nat.exists_eq_add_of_lt hin
      rw [Nat.add_assoc, nth_add] at hn
      obtain ⟨c, hc, hrest⟩ := Option.bind_eq_some_iff.mp hn
      obtain ⟨d, hcd, -⟩ := Option.bind_eq_some_iff.mp hrest
      exact ⟨c, hdomain c d hcd, hc⟩
    -- two of the steps come to the same element, and what is between them can be left out
    obtain ⟨i, j, c, hij, hjn, hi, hj⟩ := exists_nth_eq (Nat.lt_of_not_le hle) hsteps
    obtain ⟨k, rfl⟩ := Nat.exists_eq_add_of_lt hjn
    refine ih (i + (k + 1)) (by omega) ?_
    rw [Nat.add_assoc, nth_add, hj] at hn
    rw [nth_add, hi]
    exact hn

end Finite

/-! ### Walking with a memory -/

/-- How a walk ends. -/
inductive Outcome (α : Type)
  /-- At an element that was looked for. -/
  | found
  /-- At an element where it has been. -/
  | cycled (a : α)
  /-- At the end of the chain. -/
  | ended
deriving DecidableEq

/-- Walk along a chain until an element is looked for, or has been visited; so many steps at most
are taken. -/
def walk [DecidableEq α] (stop : α → Bool) : ℕ → Option α → List α → Option (Outcome α)
  | 0, _, _ => none
  | _ + 1, none, _ => some .ended
  | fuel + 1, some a, visited =>
    if stop a then some .found
    else if a ∈ visited then some (.cycled a)
    else walk stop fuel (next a) (a :: visited)

/-- What was visited is not looked for, and leads to what was visited or where the walk stands. -/
def Closed (stop : α → Bool) (visited : List α) (start : Option α) : Prop :=
  ∀ v ∈ visited, stop v = false ∧ ∀ w, next v = some w → w ∈ visited ∨ start = some w

section Walk

variable {next} [DecidableEq α] {stop : α → Bool} {domain visited : List α} {start : Option α}
  {fuel : ℕ}

/-- Each element is visited once only. -/
theorem walk_returns (hdomain : DefinedOn next domain)
    (h : (domain.filter (· ∉ visited)).length + 1 < fuel) :
    ∃ outcome, walk next stop fuel start visited = some outcome := by
  induction fuel generalizing start visited with
  | zero => omega
  | succ fuel ih =>
    cases start with
    | none => exact ⟨_, rfl⟩
    | some a =>
      rw [walk]
      by_cases hstop : stop a = true
      · exact ⟨_, if_pos hstop⟩
      rw [if_neg hstop]
      by_cases hvisited : a ∈ visited
      · exact ⟨_, if_pos hvisited⟩
      rw [if_neg hvisited]
      cases hnext : next a with
      | none =>
        obtain ⟨fuel, rfl⟩ := Nat.exists_eq_succ_of_ne_zero (show fuel ≠ 0 by omega)
        exact ⟨_, rfl⟩
      | some b =>
        refine ih ?_
        have hsub : (domain.filter (· ∉ a :: visited)).Sublist (domain.filter (· ∉ visited)) :=
          List.monotone_filter_right _ fun c hc => by
            simp only [decide_eq_true_eq, List.mem_cons, not_or] at hc ⊢
            exact hc.2
        have hlt : (domain.filter (· ∉ a :: visited)).length <
            (domain.filter (· ∉ visited)).length := by
          refine Nat.lt_of_le_of_ne hsub.length_le fun heq => ?_
          have hmem : a ∈ domain.filter (· ∉ visited) :=
            List.mem_filter.mpr ⟨hdomain a b hnext, by simpa using hvisited⟩
          rw [← hsub.eq_of_length heq, List.mem_filter] at hmem
          simp at hmem
        omega

/-- More steps do not change the outcome. -/
theorem walk_mono {outcome : Outcome α} (h : walk next stop fuel start visited = some outcome)
    {more : ℕ} (hle : fuel ≤ more) : walk next stop more start visited = some outcome := by
  induction fuel generalizing start visited more with
  | zero => cases h
  | succ fuel ih =>
    obtain ⟨more, rfl⟩ := Nat.exists_eq_succ_of_ne_zero (show more ≠ 0 by omega)
    cases start with
    | none => exact h
    | some a =>
      rw [walk] at h ⊢
      split_ifs at h ⊢
      · exact h
      · exact h
      · exact ih h (by omega)

/-- What is found is in the chain. -/
theorem exists_of_walk_found (h : walk next stop fuel start visited = some .found) :
    ∃ b, Meets next start b ∧ stop b = true := by
  induction fuel generalizing start visited with
  | zero => cases h
  | succ fuel ih =>
    cases start with
    | none => cases h
    | some a =>
      rw [walk] at h
      by_cases hstop : stop a = true
      · exact ⟨a, meets_some.mpr .refl, hstop⟩
      rw [if_neg hstop] at h
      by_cases hvisited : a ∈ visited
      · rw [if_pos hvisited] at h
        cases h
      rw [if_neg hvisited] at h
      obtain ⟨b, hb, hb'⟩ := ih h
      exact ⟨b, meets_some_iff.mpr (.inr hb), hb'⟩

/-- A walk that does not find anything has seen the whole chain. -/
theorem stop_eq_false_of_walk {outcome : Outcome α}
    (h : walk next stop fuel start visited = some outcome) (hne : outcome ≠ .found)
    (hclosed : Closed next stop visited start) :
    ∀ b, Meets next start b → stop b = false := by
  induction fuel generalizing start visited with
  | zero => cases h
  | succ fuel ih =>
    cases start with
    | none => exact fun b hb => absurd hb not_meets_none
    | some a =>
      rw [walk] at h
      by_cases hstop : stop a = true
      · rw [if_pos hstop] at h
        cases h
        exact absurd rfl hne
      rw [if_neg hstop] at h
      have hstop : stop a = false := by simpa using hstop
      by_cases hvisited : a ∈ visited
      · -- the chain goes on through what was visited
        have hall : ∀ b, ReflTransGen (Follows next) a b → b ∈ visited := by
          intro b hb
          induction hb with
          | refl => exact hvisited
          | tail _ hbc ihb =>
            rcases (hclosed _ ihb).2 _ hbc with hc | hc
            · exact hc
            · cases hc
              exact hvisited
        exact fun b hb => (hclosed b (hall b (meets_some.mp hb))).1
      · rw [if_neg hvisited] at h
        intro b hb
        rcases meets_some_iff.mp hb with rfl | hb
        · exact hstop
        refine ih h ?_ b hb
        intro v hv
        rcases List.mem_cons.mp hv with rfl | hv
        · exact ⟨hstop, fun w hw => .inr hw⟩
        · refine ⟨(hclosed v hv).1, fun w hw => .inl ?_⟩
          rcases (hclosed v hv).2 w hw with hw | hw
          · exact List.mem_cons_of_mem _ hw
          · cases hw
            exact List.mem_cons_self

/-- The walk finds what is in the chain. -/
theorem walk_found_iff {outcome : Outcome α}
    (h : walk next stop fuel start [] = some outcome) :
    outcome = .found ↔ ∃ b, Meets next start b ∧ stop b = true := by
  constructor
  · rintro rfl
    exact exists_of_walk_found h
  · rintro ⟨b, hb, hstop⟩
    by_contra hne
    have hfalse := stop_eq_false_of_walk h hne (fun _ hv => absurd hv List.not_mem_nil) b hb
    rw [hstop] at hfalse
    cases hfalse

/-- A walk that comes to the end was on a chain that ends. -/
theorem endsFrom_of_walk (h : walk next stop fuel start visited = some .ended) :
    EndsFrom next start := by
  induction fuel generalizing start visited with
  | zero => cases h
  | succ fuel ih =>
    cases start with
    | none => exact endsFrom_none
    | some a =>
      rw [walk] at h
      split_ifs at h with hstop hvisited
      · cases h
      · cases h
      · exact endsFrom_some.mpr (endsFrom_next.mp (ih h))

/-- A walk that comes back was on a chain that comes to a cycle, if what it has visited before leads
to where it starts. -/
theorem leadsTo_of_walk {a : α} (h : walk next stop fuel start visited = some (.cycled a))
    (hvisited : ∀ v ∈ visited, ∀ b, start = some b → LeadsTo next v b) :
    Meets next start a ∧ LeadsTo next a a := by
  induction fuel generalizing start visited with
  | zero => cases h
  | succ fuel ih =>
    cases start with
    | none => cases h
    | some b =>
      rw [walk] at h
      split_ifs at h with hstop hmem
      · cases h
      · cases h
        exact ⟨meets_some.mpr .refl, hvisited _ hmem _ rfl⟩
      · refine (ih h ?_).imp_left fun hmeets => meets_some_iff.mpr (.inr hmeets)
        intro v hv c hc
        rcases List.mem_cons.mp hv with rfl | hv
        · exact .single hc
        · exact (hvisited v hv b rfl).tail hc

end Walk

/-! ### Counting the steps -/

/-- The steps until the chain leaves the elements that are `inside`, in addition to `steps`. -/
def count (inside : α → Bool) : ℕ → Option α → ℕ → Option ℕ
  | 0, _, _ => none
  | _ + 1, none, steps => some steps
  | fuel + 1, some a, steps =>
    if inside a then count inside fuel (next a) (steps + 1) else some steps

section Count

variable {next} {inside : α → Bool} {start : Option α} {fuel steps : ℕ}

/-- The steps of a chain that ends are counted. -/
theorem exists_count (inside : α → Bool) (h : EndsFrom next start) :
    ∃ n, ∀ fuel > n, ∀ steps, count next inside fuel start steps = some (steps + n) := by
  cases start with
  | none =>
    refine ⟨0, fun fuel hfuel steps => ?_⟩
    obtain ⟨fuel, rfl⟩ := Nat.exists_eq_succ_of_ne_zero (show fuel ≠ 0 by omega)
    rfl
  | some a =>
    have ha := endsFrom_some.mp h
    clear h
    induction ha with
    | @intro a _ ih =>
      by_cases hinside : inside a = true
      · -- what follows is counted, and one step
        obtain ⟨n, hn⟩ : ∃ n, ∀ fuel > n, ∀ steps,
            count next inside fuel (next a) steps = some (steps + n) := by
          cases hnext : next a with
          | none =>
            refine ⟨0, fun fuel hfuel steps => ?_⟩
            obtain ⟨fuel, rfl⟩ := Nat.exists_eq_succ_of_ne_zero (show fuel ≠ 0 by omega)
            rfl
          | some b => exact ih b hnext
        refine ⟨n + 1, fun fuel hfuel steps => ?_⟩
        obtain ⟨fuel, rfl⟩ := Nat.exists_eq_succ_of_ne_zero (show fuel ≠ 0 by omega)
        rw [count, if_pos hinside, hn fuel (by omega)]
        congr 1
        omega
      · refine ⟨0, fun fuel hfuel steps => ?_⟩
        obtain ⟨fuel, rfl⟩ := Nat.exists_eq_succ_of_ne_zero (show fuel ≠ 0 by omega)
        rw [count, if_neg hinside]
        rfl

/-- If only chains of elements inside go on, a chain of which the steps are counted ends. -/
theorem endsFrom_of_count (hinside : ∀ a b, next a = some b → inside a = true) {n : ℕ}
    (h : count next inside fuel start steps = some n) : EndsFrom next start := by
  induction fuel generalizing start steps with
  | zero => cases h
  | succ fuel ih =>
    cases start with
    | none => exact endsFrom_none
    | some a =>
      refine endsFrom_some.mpr ?_
      rw [count] at h
      by_cases ha : inside a = true
      · rw [if_pos ha] at h
        exact endsFrom_next.mp (ih h)
      · refine ends_of_eq_none ?_
        cases hnext : next a with
        | none => rfl
        | some b => exact absurd (hinside a b hnext) ha

/-- The steps of a chain are as many as may be counted with more steps. -/
theorem count_mono {n : ℕ} (h : count next inside fuel start steps = some n) {more : ℕ}
    (hle : fuel ≤ more) : count next inside more start steps = some n := by
  induction fuel generalizing start steps more with
  | zero => cases h
  | succ fuel ih =>
    obtain ⟨more, rfl⟩ := Nat.exists_eq_succ_of_ne_zero (show more ≠ 0 by omega)
    cases start with
    | none => exact h
    | some a =>
      rw [count] at h ⊢
      split_ifs at h ⊢
      · exact ih h (by omega)
      · exact h

/-- The steps that were taken before are in the count. -/
theorem le_of_count {n : ℕ} (h : count next inside fuel start steps = some n) : steps ≤ n := by
  induction fuel generalizing start steps with
  | zero => cases h
  | succ fuel ih =>
    cases start with
    | none =>
      cases h
      exact Nat.le_refl _
    | some a =>
      rw [count] at h
      split_ifs at h
      · exact Nat.le_of_succ_le (ih h)
      · cases h
        exact Nat.le_refl _

/-- The steps that were taken before are added. -/
theorem count_add (k : ℕ) :
    count next inside fuel start (steps + k) = (count next inside fuel start steps).map (· + k) := by
  induction fuel generalizing start steps with
  | zero => rfl
  | succ fuel ih =>
    cases start with
    | none => rfl
    | some a =>
      rw [count, count]
      split_ifs
      · rw [Nat.add_right_comm, ih]
      · rfl

/-- One step is counted, and then those that follow. -/
theorem exists_count_of_follows {a b : α} (hab : next a = some b) (hb : inside b = true) {m : ℕ}
    (h : count next inside fuel (next a) 0 = some m) :
    ∃ fuel' m', m = m' + 1 ∧ count next inside fuel' (next b) 0 = some m' := by
  cases fuel with
  | zero => cases h
  | succ fuel =>
    rw [hab, count, if_pos hb, count_add 1] at h
    obtain ⟨m', hm', rfl⟩ := Option.map_eq_some_iff.mp h
    exact ⟨fuel, m', rfl, hm'⟩

/-- Along a chain there is less and less to count. -/
theorem count_lt {a b : α} (hinside : ∀ a b, next a = some b → inside a = true)
    (hb : inside b = true) (hab : LeadsTo next a b) {more m n : ℕ}
    (hm : count next inside fuel (next a) 0 = some m)
    (hn : count next inside more (next b) 0 = some n) : n < m := by
  induction hab using TransGen.head_induction_on generalizing m fuel with
  | single hab =>
    obtain ⟨fuel', m', rfl, hm'⟩ := exists_count_of_follows hab hb hm
    have heq : m' = n := Option.some.inj <|
      (count_mono hm' (Nat.le_max_left fuel' more)).symm.trans
        (count_mono hn (Nat.le_max_right fuel' more))
    omega
  | head hac hcb ih =>
    obtain ⟨d, hcd, -⟩ := TransGen.head'_iff.mp hcb
    obtain ⟨fuel', m', rfl, hm'⟩ := exists_count_of_follows hac (hinside _ d hcd) hm
    exact Nat.lt_succ_of_lt (ih hm')

end Count

/-! ### So many steps at most -/

/-- The elements of a chain as long as they are `inside`, so many at most. -/
def collect (inside : α → Bool) : ℕ → Option α → List α
  | 0, _ => []
  | _ + 1, none => []
  | n + 1, some a => if inside a then a :: collect inside n (next a) else []

section Collect

variable {next} {inside : α → Bool} {start : Option α}

/-- What is collected is in the chain. -/
theorem of_mem_collect {n : ℕ} {b : α} (h : b ∈ collect next inside n start) :
    Meets next start b ∧ inside b = true := by
  induction n generalizing start with
  | zero => cases h
  | succ n ih =>
    cases start with
    | none => cases h
    | some a =>
      rw [collect] at h
      split_ifs at h with ha
      · rcases List.mem_cons.mp h with rfl | h
        · exact ⟨meets_some.mpr .refl, ha⟩
        · exact (ih h).imp_left fun hmeets => meets_some_iff.mpr (.inr hmeets)
      · cases h

/-- What a chain comes to in a few steps is collected. -/
theorem mem_collect_of_nth (hinside : ∀ a b, next a = some b → inside a = true) {n k : ℕ} {a b : α}
    (h : nth next k a = some b) (hb : inside b = true) (hlt : k < n) :
    b ∈ collect next inside n (some a) := by
  induction n generalizing a k with
  | zero => omega
  | succ n ih =>
    rw [collect]
    cases k with
    | zero =>
      cases h
      rw [if_pos hb]
      exact List.mem_cons_self
    | succ k =>
      obtain ⟨c, hac, hc⟩ := Option.bind_eq_some_iff.mp h
      rw [if_pos (hinside a c hac), hac]
      exact List.mem_cons_of_mem _ (ih hc (by omega))

/-- As many steps as there are elements, and one, are enough. -/
theorem mem_collect_iff {domain : List α} (hdomain : DefinedOn next domain)
    (hinside : ∀ a b, next a = some b → inside a = true) {n : ℕ} (hn : domain.length < n) {b : α} :
    b ∈ collect next inside n start ↔ Meets next start b ∧ inside b = true := by
  refine ⟨of_mem_collect, fun ⟨⟨a, ha, hab⟩, hb⟩ => ?_⟩
  obtain ⟨k, hk, hnth⟩ := exists_nth_le hdomain hab
  rw [ha]
  exact mem_collect_of_nth hinside hnth hb (by omega)

end Collect

/-! ### Loops that return -/

section Returns

variable {β : Type} {f : ℕ → Option β} {r r' : β}

/-- A loop that may take enough steps returns a value. -/
def Returns (f : ℕ → Option β) (r : β) : Prop := ∃ enough, ∀ fuel ≥ enough, f fuel = some r

theorem Returns.unique (h : Returns f r) (h' : Returns f r') : r = r' := by
  obtain ⟨m, hm⟩ := h
  obtain ⟨n, hn⟩ := h'
  have heq := (hm (max m n) (Nat.le_max_left m n)).symm.trans (hn (max m n) (Nat.le_max_right m n))
  exact Option.some.inj heq

/-- If more steps do not change what a loop returns, it returns what it returns once. -/
theorem returns_iff_exists (hmono : ∀ m n r, m ≤ n → f m = some r → f n = some r) :
    Returns f r ↔ ∃ fuel, f fuel = some r :=
  ⟨fun ⟨n, hn⟩ => ⟨n, hn n le_rfl⟩, fun ⟨m, hm⟩ => ⟨m, fun n hle => hmono m n r hle hm⟩⟩

/-- So many steps that they are enough for each of the elements. -/
theorem exists_enough {p : ℕ → α → Prop} {l : List α}
    (h : ∀ a ∈ l, ∃ enough, ∀ fuel ≥ enough, p fuel a) :
    ∃ enough, ∀ fuel ≥ enough, ∀ a ∈ l, p fuel a := by
  induction l with
  | nil => exact ⟨0, fun _ _ a ha => absurd ha List.not_mem_nil⟩
  | cons a l ih =>
    obtain ⟨m, hm⟩ := h a List.mem_cons_self
    obtain ⟨n, hn⟩ := ih fun b hb => h b (List.mem_cons_of_mem a hb)
    refine ⟨max m n, fun fuel hfuel => List.forall_mem_cons.mpr ⟨?_, ?_⟩⟩
    · exact hm fuel (le_of_max_le_left hfuel)
    · exact hn fuel (le_of_max_le_right hfuel)

end Returns

end Chain
