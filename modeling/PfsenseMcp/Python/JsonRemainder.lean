import Mathlib.Data.List.Infix
import PfsenseMcp.Python.Json

/-!
# What a JSON reader leaves

Every part of the reader consumes a prefix of the text. An object is therefore read only from a text
in which its closing brace stands, so that a text that breaks off inside of an object is refused.

## Main results

* `readValue_suffix`: what follows a value is a suffix of the text;
* `mem_of_loads_obj`: the text of an object has a closing brace.
-/

namespace Python

namespace Json

/-- What is left after white space. -/
theorem skipSpace_suffix (cs : List Char) : skipSpace cs <:+ cs := List.dropWhile_suffix _

theorem readUnit_suffix {cs : List Char} {u : ℕ} {r : List Char} (h : readUnit cs = some (u, r)) :
    r <:+ cs := by
  rcases cs with - | ⟨a, - | ⟨b, - | ⟨c, - | ⟨d, rest⟩⟩⟩⟩
  iterate 4 exact absurd h (by simp [readUnit])
  simp only [readUnit, Option.bind_eq_bind, Option.bind_eq_some_iff, Option.pure_def,
    Option.some.injEq, Prod.mk.injEq] at h
  obtain ⟨_, -, _, -, _, -, _, -, -, rfl⟩ := h
  exact ⟨[a, b, c, d], rfl⟩

theorem readEscape_suffix {cs : List Char} {c : Char} {r : List Char}
    (h : readEscape cs = some (c, r)) : r <:+ cs := by
  unfold readEscape at h
  split at h
  iterate 8
    · obtain ⟨-, rfl⟩ := Prod.mk.inj (Option.some.inj h)
      exact List.suffix_cons _ _
  · rename_i rest
    simp only [Option.bind_eq_bind, Option.bind_eq_some_iff, Prod.exists] at h
    obtain ⟨u, r₁, hunit, h⟩ := h
    have hfirst := (readUnit_suffix hunit).trans (List.suffix_cons 'u' rest)
    split_ifs at h
    · obtain ⟨-, rfl⟩ := Prod.mk.inj (Option.some.inj h)
      exact hfirst
    · split at h
      · rename_i r₂
        simp only [Option.bind_eq_some_iff, Prod.exists] at h
        obtain ⟨v, r₃, hunit', h⟩ := h
        split_ifs at h
        obtain ⟨-, rfl⟩ := Prod.mk.inj (Option.some.inj h)
        exact (readUnit_suffix hunit').trans
          (((List.suffix_cons _ _).trans (List.suffix_cons _ _)).trans hfirst)
      · cases h
  · cases h

theorem readChars_suffix {n : ℕ} {cs text r : List Char} (h : readChars n cs = some (text, r)) :
    r <:+ cs := by
  induction n generalizing cs text with
  | zero => exact absurd h (by simp [readChars])
  | succ n ih =>
    rcases cs with - | ⟨c, rest⟩
    · exact absurd h (by simp [readChars])
    rw [readChars] at h
    split_ifs at h
    · obtain ⟨-, rfl⟩ := Prod.mk.inj (Option.some.inj h)
      exact List.suffix_cons _ _
    · simp only [Option.bind_eq_bind, Option.bind_eq_some_iff, Prod.exists] at h
      obtain ⟨e, r₁, hescape, text', r₂, hchars, h⟩ := h
      obtain ⟨-, rfl⟩ := Prod.mk.inj (Option.some.inj h)
      exact ((ih hchars).trans (readEscape_suffix hescape)).trans (List.suffix_cons _ _)
    · simp only [Option.bind_eq_bind, Option.bind_eq_some_iff, Prod.exists] at h
      obtain ⟨text', r₁, hchars, h⟩ := h
      obtain ⟨-, rfl⟩ := Prod.mk.inj (Option.some.inj h)
      exact (ih hchars).trans (List.suffix_cons _ _)

/-! ### Numbers and constants -/

theorem spanDigits_suffix {cs ds r : List Char} (h : spanDigits cs = (ds, r)) : r <:+ cs := by
  obtain ⟨-, rfl⟩ := Prod.mk.inj h
  exact List.dropWhile_suffix _

theorem readFraction_suffix {cs text r : List Char} (h : readFraction cs = (text, r)) :
    r <:+ cs := by
  unfold readFraction at h
  dsimp only at h
  -- The text after the fraction is empty, or the exponent is looked for.
  split at h
  · rename_i e rest hfraction
    have hfirst : e :: rest <:+ cs := by
      rw [← hfraction]
      split
      · split
        · exact List.suffix_rfl
        · rename_i hspan
          exact (spanDigits_suffix hspan).trans (List.suffix_cons _ _)
      · exact List.suffix_rfl
    split_ifs at h
    · split at h
      · obtain ⟨-, rfl⟩ := Prod.mk.inj h
        rw [hfraction]
        exact hfirst
      · rename_i hspan
        obtain ⟨-, rfl⟩ := Prod.mk.inj h
        refine (spanDigits_suffix hspan).trans (List.IsSuffix.trans ?_ hfirst)
        split
        · exact (List.suffix_cons _ _).trans (List.suffix_cons _ _)
        · exact (List.suffix_cons _ _).trans (List.suffix_cons _ _)
        · exact List.suffix_cons _ _
    · obtain ⟨-, rfl⟩ := Prod.mk.inj h
      rw [hfraction]
      exact hfirst
  · rename_i hfraction
    obtain ⟨-, rfl⟩ := Prod.mk.inj h
    rw [hfraction]
    exact List.nil_suffix

theorem readNumber_suffix {sign cs : List Char} {v : Json} {r : List Char}
    (h : readNumber sign cs = some (v, r)) : r <:+ cs := by
  unfold readNumber at h
  split at h
  · cases h
  · rename_i d ds rest hspan
    have htext : cs = (d :: ds) ++ rest := by
      obtain ⟨htake, rfl⟩ := Prod.mk.inj hspan
      rw [← htake, List.takeWhile_append_dropWhile]
    have hinteger : (if d = '0' then (['0'], ds ++ rest) else (d :: ds, rest)).2 <:+ cs := by
      rw [htext]
      split_ifs
      · exact List.suffix_cons _ _
      · exact List.suffix_append _ _
    generalize (if d = '0' then (['0'], ds ++ rest) else (d :: ds, rest)) = integer at h hinteger
    dsimp only at h
    split at h
    · obtain ⟨-, rfl⟩ := Prod.mk.inj (Option.some.inj h)
      exact hinteger
    · rename_i hfraction
      obtain ⟨-, rfl⟩ := Prod.mk.inj (Option.some.inj h)
      exact (readFraction_suffix hfraction).trans hinteger

theorem readWord_suffix {word cs r : List Char} (h : readWord word cs = some r) : r <:+ cs := by
  induction word generalizing cs with
  | nil =>
    obtain rfl := Option.some.inj h
    exact List.suffix_rfl
  | cons w ws ih =>
    rcases cs with - | ⟨c, rest⟩
    · cases h
    rw [readWord] at h
    split_ifs at h
    exact (ih h).trans (List.suffix_cons _ _)

/-- A constant is no object, and what follows it is a suffix. -/
theorem readConstant_suffix {cs : List Char} {v : Json} {r : List Char}
    (h : readConstant cs = some (v, r)) : r <:+ cs ∧ ∀ fields, v ≠ .obj fields := by
  have hword : ∀ {word : List Char} {value : Json}, (∀ fields, value ≠ .obj fields) →
      (readWord word cs).map (value, ·) = some (v, r) → r <:+ cs ∧ ∀ fields, v ≠ .obj fields := by
    intro word value hvalue hmap
    obtain ⟨r', hread, heq⟩ := Option.map_eq_some_iff.mp hmap
    obtain ⟨rfl, rfl⟩ := Prod.mk.inj heq
    exact ⟨readWord_suffix hread, hvalue⟩
  simp only [readConstant, Option.orElse_eq_orElse, Option.orElse_eq_or, Option.or_eq_some_iff] at h
  rcases h with h | ⟨-, h | ⟨-, h | ⟨-, h | ⟨-, h | ⟨-, h⟩⟩⟩⟩⟩
  all_goals exact hword (by simp) h

/-- A number is no object. -/
theorem ne_obj_of_readNumber {sign cs : List Char} {v : Json} {r : List Char}
    (h : readNumber sign cs = some (v, r)) (fields : List (String × Json)) : v ≠ .obj fields := by
  unfold readNumber at h
  split at h
  · cases h
  · dsimp only at h
    split at h
    · obtain ⟨rfl, -⟩ := Prod.mk.inj (Option.some.inj h)
      simp
    · obtain ⟨rfl, -⟩ := Prod.mk.inj (Option.some.inj h)
      simp

/-- What is neither a string nor an array nor an object. -/
theorem readScalar_suffix {sign cs text : List Char} {v : Json} {r : List Char}
    (htext : cs <:+ text) (h : (readConstant text <|> readNumber sign cs) = some (v, r)) :
    r <:+ text ∧ ∀ fields, v ≠ .obj fields := by
  rw [Option.orElse_eq_orElse, Option.orElse_eq_or, Option.or_eq_some_iff] at h
  rcases h with h | ⟨-, h⟩
  · exact readConstant_suffix h
  · exact ⟨(readNumber_suffix h).trans htext, ne_obj_of_readNumber h⟩

/-- A step of the fields of an object: a key, a colon and a value, and then the closing brace or a
comma and further fields. -/
theorem exists_of_readFields {n : ℕ} {cs : List Char} {fs : List (String × Json)} {r : List Char}
    (h : readFields (n + 1) cs = some (fs, r)) :
    ∃ chars key r₁ r₂ v r₃, cs = '"' :: chars ∧ readChars n chars = some (key, r₁) ∧
      skipSpace r₁ = ':' :: r₂ ∧ readValue n (skipSpace r₂) = some (v, r₃) ∧
      (skipSpace r₃ = '}' :: r ∨ ∃ r₄ fs', skipSpace r₃ = ',' :: r₄ ∧
        readFields n (skipSpace r₄) = some (fs', r)) := by
  unfold readFields at h
  split at h
  · rename_i m chars hm
    obtain rfl := Nat.succ.inj hm
    simp only [Option.bind_eq_bind, Option.bind_eq_some_iff, Prod.exists] at h
    obtain ⟨key, r₁, hkey, h⟩ := h
    split at h
    · rename_i r₂ hcolon
      simp only [Option.bind_eq_some_iff, Prod.exists] at h
      obtain ⟨v, r₃, hvalue, h⟩ := h
      refine ⟨chars, key, r₁, r₂, v, r₃, rfl, hkey, hcolon, hvalue, ?_⟩
      split at h
      · rename_i hbrace
        obtain ⟨-, rfl⟩ := Prod.mk.inj (Option.some.inj h)
        exact Or.inl hbrace
      · rename_i r₄ hcomma
        simp only [Option.bind_eq_some_iff, Prod.exists] at h
        obtain ⟨fs', r₅, hrest, h⟩ := h
        obtain ⟨-, rfl⟩ := Prod.mk.inj (Option.some.inj h)
        exact Or.inr ⟨r₄, fs', hcomma, hrest⟩
      · cases h
    · cases h
  · cases h

/-- What follows the value of a field. -/
theorem skipSpace_suffix_of_field {n : ℕ} {chars key r₁ r₂ r₃ : List Char}
    (hkey : readChars n chars = some (key, r₁)) (hcolon : skipSpace r₁ = ':' :: r₂)
    (hvalue : r₃ <:+ skipSpace r₂) : skipSpace r₃ <:+ '"' :: chars := by
  have hcolonText : ':' :: r₂ <:+ '"' :: chars :=
    hcolon ▸ (skipSpace_suffix r₁).trans ((readChars_suffix hkey).trans (List.suffix_cons _ _))
  have hvalueText := (skipSpace_suffix r₂).trans ((List.suffix_cons _ _).trans hcolonText)
  exact (skipSpace_suffix r₃).trans (hvalue.trans hvalueText)

/-! ### Values -/

/-- What is left of a text after a value, after the items of an array and after the fields of an
object; by induction on the bound, as the three call each other. -/
theorem suffix_of_read (n : ℕ) :
    (∀ {cs v r}, readValue n cs = some (v, r) → r <:+ cs) ∧
    (∀ {cs xs r}, readItems n cs = some (xs, r) → r <:+ cs) ∧
    (∀ {cs fs r}, readFields n cs = some (fs, r) → r <:+ cs) := by
  induction n with
  | zero => simp [readValue, readItems, readFields]
  | succ n ih =>
    obtain ⟨hvalue, hitems, hfields⟩ := ih
    refine ⟨fun {cs v r} h => ?_, fun {cs xs r} h => ?_, fun {cs fs r} h => ?_⟩
    · rcases cs with - | ⟨c, cs⟩
      · exact absurd h (by simp [readValue])
      have hspace := (skipSpace_suffix cs).trans (List.suffix_cons c cs)
      rw [readValue] at h
      split_ifs at h
      · simp only [Option.bind_eq_bind, Option.bind_eq_some_iff, Prod.exists] at h
        obtain ⟨text, r', hchars, h⟩ := h
        obtain ⟨-, rfl⟩ := Prod.mk.inj (Option.some.inj h)
        exact (readChars_suffix hchars).trans (List.suffix_cons _ _)
      · split at h
        · rename_i hskip
          obtain ⟨-, rfl⟩ := Prod.mk.inj (Option.some.inj h)
          exact (List.suffix_cons _ _).trans (hskip ▸ hspace)
        · simp only [Option.bind_eq_bind, Option.bind_eq_some_iff, Prod.exists] at h
          obtain ⟨fs, r', hread, h⟩ := h
          obtain ⟨-, rfl⟩ := Prod.mk.inj (Option.some.inj h)
          exact (hfields hread).trans hspace
      · split at h
        · rename_i hskip
          obtain ⟨-, rfl⟩ := Prod.mk.inj (Option.some.inj h)
          exact (List.suffix_cons _ _).trans (hskip ▸ hspace)
        · simp only [Option.bind_eq_bind, Option.bind_eq_some_iff, Prod.exists] at h
          obtain ⟨fs, r', hread, h⟩ := h
          obtain ⟨-, rfl⟩ := Prod.mk.inj (Option.some.inj h)
          exact (hitems hread).trans hspace
      · exact (readScalar_suffix (List.suffix_cons _ _) h).1
      · exact (readScalar_suffix List.suffix_rfl h).1
    · rw [readItems] at h
      simp only [Option.bind_eq_bind, Option.bind_eq_some_iff, Prod.exists] at h
      obtain ⟨x, r₁, hread, h⟩ := h
      have hspace := (skipSpace_suffix r₁).trans (hvalue hread)
      split at h
      · rename_i hskip
        obtain ⟨-, rfl⟩ := Prod.mk.inj (Option.some.inj h)
        exact (List.suffix_cons _ _).trans (hskip ▸ hspace)
      · rename_i r₂ hskip
        simp only [Option.bind_eq_some_iff, Prod.exists] at h
        obtain ⟨xs', r₃, hrest, h⟩ := h
        obtain ⟨-, rfl⟩ := Prod.mk.inj (Option.some.inj h)
        exact ((hitems hrest).trans (skipSpace_suffix r₂)).trans
          ((List.suffix_cons _ _).trans (hskip ▸ hspace))
      · cases h
    · obtain ⟨chars, key, r₁, r₂, v, r₃, rfl, hkey, hcolon, hread, h⟩ := exists_of_readFields h
      have hspace := skipSpace_suffix_of_field hkey hcolon (hvalue hread)
      rcases h with hbrace | ⟨r₄, fs', hcomma, hrest⟩
      · exact (List.suffix_cons _ _).trans (hbrace ▸ hspace)
      · exact ((hfields hrest).trans (skipSpace_suffix r₄)).trans
          ((List.suffix_cons _ _).trans (hcomma ▸ hspace))

theorem readValue_suffix {n : ℕ} {cs : List Char} {v : Json} {r : List Char}
    (h : readValue n cs = some (v, r)) : r <:+ cs := (suffix_of_read n).1 h

/-! ### Closing braces -/

/-- The fields of an object end with its closing brace. -/
theorem mem_of_readFields {n : ℕ} {cs : List Char} {fs : List (String × Json)} {r : List Char}
    (h : readFields n cs = some (fs, r)) : '}' ∈ cs := by
  induction n generalizing cs fs with
  | zero => exact absurd h (by simp [readFields])
  | succ n ih =>
    obtain ⟨chars, key, r₁, r₂, v, r₃, rfl, hkey, hcolon, hread, h⟩ := exists_of_readFields h
    have hspace := skipSpace_suffix_of_field hkey hcolon (readValue_suffix hread)
    rcases h with hbrace | ⟨r₄, fs', hcomma, hrest⟩
    · apply hspace.mem
      rw [hbrace]
      exact List.mem_cons_self
    · apply (((skipSpace_suffix r₄).trans (List.suffix_cons ',' r₄)).trans (hcomma ▸ hspace)).mem
      exact ih hrest

theorem mem_of_readValue_obj {n : ℕ} {cs : List Char} {fs : List (String × Json)} {r : List Char}
    (h : readValue n cs = some (.obj fs, r)) : '}' ∈ cs := by
  rcases n with - | n
  · exact absurd h (by simp [readValue])
  rcases cs with - | ⟨c, cs⟩
  · exact absurd h (by simp [readValue])
  have hspace := (skipSpace_suffix cs).trans (List.suffix_cons c cs)
  rw [readValue] at h
  split_ifs at h
  · simp only [Option.bind_eq_bind, Option.bind_eq_some_iff, Prod.exists] at h
    obtain ⟨text, r', -, h⟩ := h
    exact absurd (Prod.mk.inj (Option.some.inj h)).1 (by simp)
  · apply hspace.mem
    split at h
    · rename_i hskip
      rw [hskip]
      exact List.mem_cons_self
    · simp only [Option.bind_eq_bind, Option.bind_eq_some_iff, Prod.exists] at h
      obtain ⟨fs', r', hread, -⟩ := h
      exact mem_of_readFields hread
  · split at h
    · exact absurd (Prod.mk.inj (Option.some.inj h)).1 (by simp)
    · simp only [Option.bind_eq_bind, Option.bind_eq_some_iff, Prod.exists] at h
      obtain ⟨xs, r', -, h⟩ := h
      exact absurd (Prod.mk.inj (Option.some.inj h)).1 (by simp)
  · exact absurd rfl ((readScalar_suffix (List.suffix_cons _ _) h).2 fs)
  · exact absurd rfl ((readScalar_suffix List.suffix_rfl h).2 fs)

/-- The text of an object has a closing brace. -/
theorem mem_of_loads_obj {text : String} {fs : List (String × Json)}
    (h : loads text = some (.obj fs)) : '}' ∈ text.toList := by
  simp only [loads, Option.bind_eq_bind, Option.bind_eq_some_iff, Prod.exists] at h
  obtain ⟨value, r, hread, h⟩ := h
  split at h
  · obtain rfl := Option.some.inj h
    exact (skipSpace_suffix _).mem (mem_of_readValue_obj hread)
  · cases h

end Json

end Python
