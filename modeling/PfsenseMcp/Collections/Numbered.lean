import Mathlib.Data.List.Basic
import Mathlib.Data.List.Nodup
import Mathlib.Data.List.Perm.Subperm

/-!
# Collections of numbered objects

A store may give each object of a collection a number of its own, or number the objects by their
place. Who deletes an object by its number and looks again sees the same objects as before without
that one; but under the second numbering those behind it have moved up.

A client that keys what it sees by the number compares two looks as dictionaries.

## Main results

* `sameDict_iff_perm`: two looks with distinct numbers are the same dictionary if they are equal up
  to order;
* `perm_cons_iff`: what a client checks to know that one object went and the others did not;
* `shown_remove`: the objects keep their numbers if these are their own or the last one went;
* `mem_shown_remove`: otherwise the number of the deleted object is seen again;
* `perm_shown`, `kept_of_perm`: so what was seen is what is seen and that object exactly if the
  numbers are the objects' own or the last one went.
-/

namespace Collections

/-! ### Dictionaries -/

section

variable {κ α : Type} [DecidableEq κ] (key : α → κ)

/-- Two lists, as dictionaries by a key, are equal. -/
def SameDict [DecidableEq α] (a b : List α) : Bool :=
  a.length == b.length && a.all fun x => b.find? (fun y => key y = key x) == some x

variable {key} {a b : List α} {x : α}

theorem find?_key_eq_some_iff (hb : (b.map key).Nodup) :
    b.find? (fun y => key y = key x) = some x ↔ x ∈ b := by
  constructor
  · exact List.mem_of_find?_eq_some
  · intro hx
    obtain ⟨y, hy⟩ : ∃ y, b.find? (fun y => key y = key x) = some y :=
      Option.isSome_iff_exists.mp (List.find?_isSome.mpr ⟨x, hx, by simp⟩)
    have hkey : key y = key x := by simpa using List.find?_some hy
    rw [hy, List.inj_on_of_nodup_map hb (List.mem_of_find?_eq_some hy) hx hkey]

/-- Lists with distinct keys are equal as dictionaries if they are equal up to order. -/
theorem sameDict_iff_perm [DecidableEq α] (ha : (a.map key).Nodup) (hb : (b.map key).Nodup) :
    SameDict key a b = true ↔ a.Perm b := by
  simp only [SameDict, Bool.and_eq_true, beq_iff_eq, List.all_eq_true,
    find?_key_eq_some_iff hb]
  constructor
  · rintro ⟨hlength, hsub⟩
    have hsubperm : a.Subperm b := List.subperm_of_subset (List.Nodup.of_map key ha) hsub
    exact hsubperm.perm_of_length_le (Nat.le_of_eq hlength.symm)
  · intro h
    exact ⟨h.length_eq, fun x hx => h.subset hx⟩

/-- In a list with distinct keys, one object is dropped by its key. -/
theorem filter_append_cons (h : ((a ++ x :: b).map key).Nodup) :
    ((a ++ x :: b).filter fun y => key y ≠ key x) = a ++ b := by
  rw [List.map_append, List.map_cons, List.nodup_append, List.nodup_cons] at h
  have ha : ∀ y ∈ a, key y ≠ key x := fun y hy =>
    h.2.2 (key y) (List.mem_map_of_mem hy) (key x) List.mem_cons_self
  have hb : ∀ y ∈ b, key y ≠ key x := by
    intro y hy heq
    exact h.2.1.1 (heq ▸ List.mem_map_of_mem hy)
  rw [List.filter_append, List.filter_cons_of_neg (by simp),
    List.filter_eq_self.mpr fun y hy => decide_eq_true (ha y hy),
    List.filter_eq_self.mpr fun y hy => decide_eq_true (hb y hy)]

/-- What a client checks after it deleted an object says that the others are all there. -/
theorem perm_cons_iff [DecidableEq α] (hb : (b.map key).Nodup) (hx : x ∈ b) :
    b.Perm (x :: a) ↔ (a.map key).Nodup ∧ (∀ y ∈ a, key y ≠ key x) ∧
      SameDict key a (b.filter fun y => key y ≠ key x) = true := by
  obtain ⟨front, back, rfl⟩ := List.append_of_mem hx
  have hkept : ((front ++ back).map key).Nodup :=
    hb.sublist ((List.sublist_cons_self x back).append_left front |>.map key)
  rw [filter_append_cons hb]
  constructor
  · intro h
    have hall : (key x :: a.map key).Nodup := (h.map key).nodup_iff.mp hb
    have hperm : a.Perm (front ++ back) :=
      ((List.perm_cons x).mp (h.symm.trans List.perm_middle))
    refine ⟨hall.of_cons, ?_, (sameDict_iff_perm hall.of_cons hkept).mpr hperm⟩
    intro y hy heq
    exact (List.nodup_cons.mp hall).1 (heq ▸ List.mem_map_of_mem hy)
  · rintro ⟨ha, -, hsame⟩
    exact List.perm_middle.trans (((sameDict_iff_perm ha hkept).mp hsame).symm.cons x)

end

/-! ### Numbers -/

/-- How a collection numbers its objects. -/
inductive Numbering where
  /-- Each object has a number of its own. -/
  | stable
  /-- The number of an object is its place. -/
  | positional
deriving DecidableEq, Repr

section

variable {β : Type}

/-- The objects with the numbers that are seen; what is stored has a number of its own. -/
def shown : Numbering → List (ℕ × β) → List (ℕ × β)
  | .stable, stored => stored
  | .positional, stored => stored.mapIdx fun place object => (place, object.2)

/-- Delete the object that is seen under a number. -/
def remove : Numbering → ℕ → List (ℕ × β) → List (ℕ × β)
  | .stable, number, stored => stored.filter fun object => object.1 ≠ number
  | .positional, number, stored => stored.eraseIdx number

/-- The number under which an object is seen that is stored behind others. -/
def numberBehind : Numbering → List (ℕ × β) → ℕ × β → ℕ
  | .stable, _, object => object.1
  | .positional, before, _ => before.length

variable {numbering : Numbering} {stored before behind : List (ℕ × β)} {object : ℕ × β}

@[simp]
theorem length_shown : (shown numbering stored).length = stored.length := by
  cases numbering with
  | stable => rfl
  | positional => exact List.length_mapIdx

@[simp]
theorem map_snd_shown : (shown numbering stored).map Prod.snd = stored.map Prod.snd := by
  cases numbering with
  | stable => rfl
  | positional =>
    apply List.ext_getElem
    · simp [shown]
    · intro i hi hi'
      simp [shown]

theorem map_fst_shown_positional :
    (shown .positional stored).map Prod.fst = List.range stored.length := by
  apply List.ext_getElem
  · simp [shown]
  · intro i hi hi'
    simp [shown]

/-- The numbers that are seen are distinct if those of the objects' own are. -/
theorem nodup_shown (h : (stored.map Prod.fst).Nodup) :
    ((shown numbering stored).map Prod.fst).Nodup := by
  cases numbering with
  | stable => exact h
  | positional =>
    rw [map_fst_shown_positional]
    exact List.nodup_range

/-- What is seen of the objects behind some others. -/
def shownBehind : Numbering → ℕ → List (ℕ × β) → List (ℕ × β)
  | .stable, _, stored => stored
  | .positional, count, stored => stored.mapIdx fun place object => (place + count, object.2)

theorem shown_append : shown numbering (before ++ behind) =
    shown numbering before ++ shownBehind numbering before.length behind := by
  cases numbering with
  | stable => rfl
  | positional => exact List.mapIdx_append

theorem shownBehind_cons {count : ℕ} : shownBehind numbering count (object :: behind) =
    ((match numbering with | .stable => object.1 | .positional => count), object.2) ::
      shownBehind numbering (count + 1) behind := by
  cases numbering with
  | stable => rfl
  | positional => simp [shownBehind, List.mapIdx_cons, Nat.add_assoc, Nat.add_comm 1]

/-- What is seen of a collection around one of its objects. -/
theorem shown_append_cons : shown numbering (before ++ object :: behind) =
    shown numbering before ++ (numberBehind numbering before object, object.2) ::
      shownBehind numbering (before.length + 1) behind := by
  rw [shown_append, shownBehind_cons]
  cases numbering <;> rfl

theorem remove_sublist (numbering : Numbering) (number : ℕ) (stored : List (ℕ × β)) :
    (remove numbering number stored).Sublist stored := by
  cases numbering with
  | stable => exact List.filter_sublist
  | positional => exact List.eraseIdx_sublist _ _

/-- Deleting an object by the number under which it is seen deletes this object. -/
theorem remove_numberBehind (h : ((before ++ object :: behind).map Prod.fst).Nodup) :
    remove numbering (numberBehind numbering before object) (before ++ object :: behind) =
      before ++ behind := by
  cases numbering with
  | stable => exact filter_append_cons h
  | positional => simp [remove, numberBehind, List.eraseIdx_append_of_length_le]

/-- If the numbers are the objects' own, or the last object goes, the others are seen as before. -/
theorem shown_remove (h : ((before ++ object :: behind).map Prod.fst).Nodup)
    (hkept : numbering = .stable ∨ behind = []) :
    shown numbering (before ++ behind) =
      (shown numbering (before ++ object :: behind)).filter fun seen =>
        seen.1 ≠ numberBehind numbering before object := by
  have hnodup : ((shown numbering (before ++ object :: behind)).map Prod.fst).Nodup := nodup_shown h
  rw [shown_append_cons] at hnodup ⊢
  rw [filter_append_cons hnodup, shown_append]
  rcases hkept with rfl | rfl
  · rfl
  · cases numbering <;> rfl

/-- Then what was seen is that one with what is seen. -/
theorem perm_shown (h : ((before ++ object :: behind).map Prod.fst).Nodup)
    (hkept : numbering = .stable ∨ behind = []) :
    (shown numbering (before ++ object :: behind)).Perm
      ((numberBehind numbering before object, object.2) :: shown numbering (before ++ behind)) := by
  have hnodup : ((shown numbering (before ++ object :: behind)).map Prod.fst).Nodup := nodup_shown h
  rw [shown_remove h hkept]
  rw [shown_append_cons] at hnodup ⊢
  rw [filter_append_cons hnodup]
  exact List.perm_middle

/-- If the places are the numbers and an object is not the last one, its number is seen again after
it is deleted. -/
theorem mem_shown_remove (hbehind : behind ≠ []) :
    numberBehind .positional before object ∈
      (shown .positional (before ++ behind)).map Prod.fst := by
  rw [map_fst_shown_positional, List.mem_range, List.length_append, numberBehind]
  exact Nat.lt_add_of_pos_right (List.length_pos_iff.mpr hbehind)

/-- If the numbers that were seen are its number with those that are seen, then no object moved. -/
theorem kept_of_perm (h : ((before ++ object :: behind).map Prod.fst).Nodup)
    (hperm : ((shown numbering (before ++ object :: behind)).map Prod.fst).Perm
      (numberBehind numbering before object ::
        (shown numbering (before ++ behind)).map Prod.fst)) :
    numbering = .stable ∨ behind = [] := by
  have hnodup := hperm.nodup_iff.mp (nodup_shown h)
  cases numbering with
  | stable => exact .inl rfl
  | positional =>
    by_contra hmoved
    rw [not_or] at hmoved
    exact (List.nodup_cons.mp hnodup).1 (mem_shown_remove hmoved.2)

/-! ### One object among others -/

section

variable {γ : Type} {p : γ → Bool} {items : List γ}

/-- The only item of a kind, with those before and behind it. -/
theorem exists_append_of_countP (h : items.countP p = 1) :
    ∃ front x back, items = front ++ x :: back ∧ p x = true ∧ (∀ y ∈ front, p y = false) ∧
      ∀ y ∈ back, p y = false := by
  obtain ⟨x, hx, hpx⟩ := List.countP_pos_iff.mp (h ▸ Nat.one_pos)
  obtain ⟨front, back, rfl⟩ := List.append_of_mem hx
  rw [List.countP_append, List.countP_cons_of_pos hpx] at h
  have hfront : front.countP p = 0 := by omega
  have hback : back.countP p = 0 := by omega
  rw [List.countP_eq_zero] at hfront hback
  exact ⟨front, x, back, rfl, hpx, fun y hy => by simpa using hfront y hy,
    fun y hy => by simpa using hback y hy⟩

/-- It is the last item if none is behind it. -/
theorem exists_getLast_iff {front back : List γ} {x : γ} (hx : p x = true)
    (hback : ∀ y ∈ back, p y = false) :
    (∃ y, (front ++ x :: back).getLast? = some y ∧ p y = true) ↔ back = [] := by
  constructor
  · rintro ⟨y, hlast, hy⟩
    by_contra hne
    obtain ⟨z, hz⟩ : ∃ z, back.getLast? = some z := by
      rw [List.getLast?_eq_some_getLast hne]
      exact ⟨_, rfl⟩
    rw [List.getLast?_append, List.getLast?_cons, hz] at hlast
    have heq : z = y := by simpa using hlast
    exact absurd hy (by simp [hback y (heq ▸ List.mem_of_getLast? hz)])
  · rintro rfl
    exact ⟨x, by simp, hx⟩

end

/-- What is seen of the only object of a kind. -/
theorem filter_shown {p : β → Bool} (hobject : p object.2 = true)
    (hbefore : ∀ x ∈ before, p x.2 = false) (hbehind : ∀ x ∈ behind, p x.2 = false) :
    ((shown numbering (before ++ object :: behind)).filter fun x => p x.2) =
      [(numberBehind numbering before object, object.2)] := by
  have hnone : ∀ {stored seen : List (ℕ × β)}, seen.map Prod.snd = stored.map Prod.snd →
      (∀ x ∈ stored, p x.2 = false) → seen.filter (fun x => p x.2) = [] := by
    intro stored seen hmap hstored
    rw [List.filter_eq_nil_iff]
    intro x hx
    obtain ⟨y, hy, heq⟩ := List.mem_map.mp (hmap ▸ List.mem_map_of_mem (f := Prod.snd) hx)
    simp [← heq, hstored y hy]
  have hmapBehind : (shownBehind numbering (before.length + 1) behind).map Prod.snd =
      behind.map Prod.snd := by
    cases numbering with
    | stable => rfl
    | positional =>
      apply List.ext_getElem
      · simp [shownBehind]
      · intro i hi hi'
        simp [shownBehind]
  rw [shown_append_cons, List.filter_append, hnone map_snd_shown hbefore,
    List.filter_cons_of_pos (by exact hobject), hnone hmapBehind hbehind, List.nil_append]

end

end Collections
