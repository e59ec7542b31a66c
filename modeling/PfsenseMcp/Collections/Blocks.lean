import Mathlib.Data.List.Basic
import Mathlib.Data.List.Infix

/-!
# Texts that are read back by their marks

A list is written as blocks one after the other, each with a mark on its first item and on no other;
or as two parts with a separator between them. Where the marks and the separator occur nowhere else,
the blocks and the parts are read back from what was written.

## Main results

* `splitOn_intercalate_flatMap`: the lines of joined texts are those of the texts;
* `flatten_inj_of_isBlock`: blocks are read back from the list of their items;
* `eq_of_append_separator`: two parts are read back when the separator does not occur earlier.
-/

namespace Collections

variable {α : Type}

/-! ### Lines -/

/-- The lines of joined texts are those of the texts, one after the other. -/
theorem splitOn_intercalate_flatMap [DecidableEq α] (x : α) {texts : List (List α)}
    (hne : texts ≠ []) :
    ([x].intercalate texts).splitOn x = texts.flatMap (List.splitOn x) := by
  induction texts with
  | nil => exact absurd rfl hne
  | cons text texts ih =>
    rcases texts with _ | ⟨next, rest⟩
    · simp
    · rw [List.intercalate_cons_cons, List.append_assoc, List.singleton_append,
        List.flatMap_cons, ← ih (List.cons_ne_nil _ _)]
      exact List.splitOn_append_cons_of_beq _ _ (beq_self_eq_true x)

/-- What is put before a text, without a line break, is put before its first line. -/
theorem splitOn_append_of_not_mem [DecidableEq α] {x : α} {beginning : List α}
    (h : x ∉ beginning) (text : List α) :
    (beginning ++ text).splitOn x = (text.splitOn x).modifyHead (beginning ++ ·) := by
  induction beginning with
  | nil =>
    obtain ⟨line, rest, hlines⟩ := List.exists_cons_of_ne_nil (List.splitOn_ne_nil x text)
    rw [List.nil_append, hlines, List.modifyHead_cons, List.nil_append]
  | cons y beginning ih =>
    rw [List.mem_cons, not_or] at h
    have hne : ¬(y == x) = true := by
      rw [beq_iff_eq]
      exact fun heq => h.1 heq.symm
    rw [List.cons_append, List.splitOn_cons_eq_if_modifyHead, if_neg hne, ih h.2,
      List.modifyHead_modifyHead]
    rfl

/-! ### Blocks -/

/-- A block: its first item bears the mark, and no other does. -/
def IsBlock (mark : α → Prop) (block : List α) : Prop :=
  ∃ head tail, block = head :: tail ∧ mark head ∧ ∀ x ∈ tail, ¬mark x

/-- The rest of a block ends where the next one begins. -/
theorem append_inj_of_not_mark {mark : α → Prop} {tail tail' rest rest' : List α}
    (htail : ∀ x ∈ tail, ¬mark x) (htail' : ∀ x ∈ tail', ¬mark x)
    (hrest : ∀ x ∈ rest.head?, mark x) (hrest' : ∀ x ∈ rest'.head?, mark x)
    (h : tail ++ rest = tail' ++ rest') : tail = tail' ∧ rest = rest' := by
  induction tail generalizing tail' with
  | nil =>
    rcases tail' with _ | ⟨y, tail'⟩
    · exact ⟨rfl, h⟩
    · have hmark := hrest y (by rw [show rest = y :: (tail' ++ rest') from h]; rfl)
      exact absurd hmark (htail' y List.mem_cons_self)
  | cons x tail ih =>
    rcases tail' with _ | ⟨y, tail'⟩
    · have hmark := hrest' x (by rw [show rest' = x :: (tail ++ rest) from h.symm]; rfl)
      exact absurd hmark (htail x List.mem_cons_self)
    · obtain ⟨rfl, hitems⟩ := List.cons.inj h
      rw [List.forall_mem_cons] at htail htail'
      obtain ⟨rfl, heq⟩ := ih htail.2 htail'.2 hitems
      exact ⟨rfl, heq⟩

theorem mark_head?_flatten {mark : α → Prop} {blocks : List (List α)}
    (h : ∀ block ∈ blocks, IsBlock mark block) : ∀ x ∈ blocks.flatten.head?, mark x := by
  rcases blocks with _ | ⟨block, blocks⟩
  · simp
  · obtain ⟨head, tail, rfl, hmark, -⟩ := h block List.mem_cons_self
    intro x hx
    rw [List.flatten_cons, List.cons_append, List.head?_cons, Option.mem_some_iff] at hx
    exact hx ▸ hmark

/-- Blocks are read back from the list of their items. -/
theorem flatten_inj_of_isBlock {mark : α → Prop} {blocks blocks' : List (List α)}
    (hblocks : ∀ block ∈ blocks, IsBlock mark block)
    (hblocks' : ∀ block ∈ blocks', IsBlock mark block)
    (h : blocks.flatten = blocks'.flatten) : blocks = blocks' := by
  induction blocks generalizing blocks' with
  | nil =>
    rcases blocks' with _ | ⟨block', blocks'⟩
    · rfl
    · obtain ⟨head, tail, rfl, -⟩ := hblocks' block' List.mem_cons_self
      cases h
  | cons block blocks ih =>
    rcases blocks' with _ | ⟨block', blocks'⟩
    · obtain ⟨head, tail, rfl, -⟩ := hblocks block List.mem_cons_self
      cases h
    · rw [List.forall_mem_cons] at hblocks hblocks'
      obtain ⟨head, tail, rfl, -, htail⟩ := hblocks.1
      obtain ⟨head', tail', rfl, -, htail'⟩ := hblocks'.1
      rw [List.flatten_cons, List.flatten_cons, List.cons_append, List.cons_append] at h
      obtain ⟨rfl, hitems⟩ := List.cons.inj h
      obtain ⟨rfl, hrest⟩ := append_inj_of_not_mark htail htail'
        (mark_head?_flatten hblocks.2) (mark_head?_flatten hblocks'.2) hitems
      rw [ih hblocks.2 hblocks'.2 hrest]

/-- Items are read back one by one. -/
theorem map_inj_of_forall {β : Type} {f : α → β} {xs ys : List α}
    (hf : ∀ x ∈ xs, ∀ y ∈ ys, f x = f y → x = y) (h : xs.map f = ys.map f) : xs = ys := by
  induction xs generalizing ys with
  | nil => exact (List.map_eq_nil_iff.mp h.symm).symm
  | cons x xs ih =>
    rcases ys with _ | ⟨y, ys⟩
    · cases h
    · rw [List.map_cons, List.map_cons, List.cons.injEq] at h
      have hhead := hf x List.mem_cons_self y List.mem_cons_self h.1
      have htail := ih (fun x hx y hy =>
        hf x (List.mem_cons_of_mem _ hx) y (List.mem_cons_of_mem _ hy)) h.2
      rw [hhead, htail]

/-! ### Separators -/

/-- A separator that begins in the longer one of two first parts occurs in it, or on its border. -/
theorem infix_of_append_separator {a a' v v' separator : List α} (hne : separator ≠ [])
    (hlength : a.length < a'.length) (h : a ++ separator ++ v = a' ++ separator ++ v') :
    separator <:+: a' ++ separator.dropLast := by
  have hpos := List.length_pos_of_ne_nil hne
  have hprefix : a ++ separator <+: a' ++ separator.dropLast := by
    refine List.prefix_of_prefix_length_le (List.prefix_append _ v) ?_ ?_
    · rw [h, List.append_assoc]
      exact (List.prefix_append_right_inj a').mpr
        ((List.dropLast_prefix separator).trans (List.prefix_append separator v'))
    · rw [List.length_append, List.length_append, List.length_dropLast]
      omega
  exact (List.suffix_append a separator).isInfix.trans hprefix.isInfix

/-- Two parts are read back when the separator does not occur earlier. -/
theorem eq_of_append_separator {a a' v v' separator : List α} (hne : separator ≠ [])
    (ha : ¬separator <:+: a ++ separator.dropLast)
    (ha' : ¬separator <:+: a' ++ separator.dropLast)
    (h : a ++ separator ++ v = a' ++ separator ++ v') : a = a' ∧ v = v' := by
  rcases Nat.lt_trichotomy a.length a'.length with hlt | heq | hgt
  · exact absurd (infix_of_append_separator hne hlt h) ha'
  · rw [List.append_assoc, List.append_assoc] at h
    obtain ⟨rfl, hrest⟩ := List.append_inj h heq
    exact ⟨rfl, List.append_cancel_left hrest⟩
  · exact absurd (infix_of_append_separator hne hgt h.symm) ha

end Collections
