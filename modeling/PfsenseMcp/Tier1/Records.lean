import Mathlib.Data.List.Nodup
import Mathlib.Data.Nat.Notation
import PfsenseMcp.Python.Equality
import PfsenseMcp.Tier1.Canonical

/-!
# Records of the appliance

The models of the settings that an appliance reports (`pfsense_mcp/models`) are records: a value of
the annotated type for every field. `Record schema` is such a record, for any list of fields with
their annotations; `Record.ofDict` is `model_validate(…, strict=True)` on a dictionary with exactly
these keys, and `Record.patch` is what a `PATCH` of some fields does to it.

## Main results

* `ofDict_asDict`: a record is read back from its dictionary;
* `get_patch_of_mem`, `get_patch_of_not_mem`: a patch sets its fields and keeps all others;
* `pyEq_get`: on the fields of two records, Python's `==` is equality.
-/

namespace Tier1

open Python

/-- The annotations of the models. -/
inductive FieldType where
  | str
  | bool
  | int
  /-- `str | None`. -/
  | optStr
  /-- `bool | None`. -/
  | optBool
  /-- `list[str] | None`. -/
  | optStrs
deriving DecidableEq

/-- `isinstance(value, str)`. -/
def isStr : Json → Bool
  | .str _ => true
  | _ => false

/-- `isinstance(value, bool)`. -/
def isBool : Json → Bool
  | .bool _ => true
  | _ => false

/-- An integer that is no truth value. -/
def isInt : Json → Bool
  | .int _ => true
  | _ => false

/-- Strict validation of a value. -/
def FieldType.accepts : FieldType → Json → Bool
  | str, value => isStr value
  | bool, value => isBool value
  | int, value => isInt value
  | optStr, .null | optBool, .null | optStrs, .null => true
  | optStr, value => isStr value
  | optBool, value => isBool value
  | optStrs, .arr items => items.all isStr
  | optStrs, _ => false

/-- The fields of a model, in the order of the class. -/
abbrev Schema := List (String × FieldType)

/-- The names of the fields. -/
def Schema.keys (schema : Schema) : List String := schema.map Prod.fst

/-- A record of a model. -/
@[ext]
structure Record (schema : Schema) where
  /-- The value of a field; there is nothing under any other name. -/
  get : String → Json
  typed : ∀ f ∈ schema, f.2.accepts (get f.1) = true
  outside : ∀ key, key ∉ schema.keys → get key = .null

/-- A text, a truth value or an integer. -/
def isScalar (value : Json) : Bool := isStr value || isBool value || isInt value

/-- A flat object that was written is read back. -/
theorem parse_flat {fields : List (String × Json)} (hkeys : (fields.map Prod.fst).Nodup)
    (hscalar : ∀ f ∈ fields, isScalar f.2 = true) :
    Json.parse (Json.dumps false (.obj fields)) = some (.obj fields) := by
  have hvalue : ∀ v : Json, isScalar v = true → v.plain = true ∧ v.Distinct := by
    intro v hv
    cases v with
    | str _ | bool _ | int _ => exact ⟨rfl, trivial⟩
    | _ => cases hv
  have hfields : ∀ fs : List (String × Json), (∀ f ∈ fs, isScalar f.2 = true) →
      Json.plainFields fs = true ∧ Json.DistinctFields fs := by
    intro fs
    induction fs with
    | nil => exact fun _ => ⟨rfl, trivial⟩
    | cons f fs ih =>
      intro h
      rw [List.forall_mem_cons] at h
      obtain ⟨hplain, hdistinct⟩ := hvalue f.2 h.1
      exact ⟨Bool.and_eq_true_iff.mpr ⟨hplain, (ih h.2).1⟩, hdistinct, (ih h.2).2⟩
  exact Json.parse_dumps false (hfields fields hscalar).1 ⟨hkeys, (hfields fields hscalar).2⟩

namespace Record

variable {schema : Schema}

/-- The fields as a dictionary. The order of its keys is not observed: dictionaries are compared
and encoded without regard to it. -/
def asDict (r : Record schema) : List (String × Json) :=
  schema.keys.map fun key => (key, r.get key)

/-- The dictionary has exactly the keys of the model, and values of the annotated types. -/
def Validates (schema : Schema) (fields : List (String × Json)) : Prop :=
  (∀ f ∈ fields, f.1 ∈ schema.keys) ∧
    ∀ f ∈ schema, ∃ v, fields.lookup f.1 = some v ∧ f.2.accepts v = true

instance (schema : Schema) (fields : List (String × Json)) :
    Decidable (Validates schema fields) :=
  have (f : String × FieldType) :
      Decidable (∃ v, fields.lookup f.1 = some v ∧ f.2.accepts v = true) :=
    match h : fields.lookup f.1 with
    | some v =>
      if hv : f.2.accepts v = true then isTrue ⟨v, rfl, hv⟩
      else isFalse (by rintro ⟨_, ⟨⟩, h⟩; exact hv h)
    | none => isFalse (by rintro ⟨_, ⟨⟩, -⟩)
  inferInstanceAs (Decidable (_ ∧ _))

/-- The record that a dictionary is validated to; `none` is a `ValidationError`, or another set of
keys. -/
def ofDict (fields : List (String × Json)) : Option (Record schema) :=
  if h : Validates schema fields then
    some
      { get := fun key => if key ∈ schema.keys then (fields.lookup key).getD .null else .null
        typed := fun f hf => by
          obtain ⟨v, hv, htyped⟩ := h.2 f hf
          have hkey : f.1 ∈ schema.keys := List.mem_map_of_mem hf
          rw [if_pos hkey, hv]
          exact htyped
        outside := fun key hkey => if_neg hkey }
  else none

/-- The type of the fields with a name. -/
def accepts (schema : Schema) (key : String) (value : Json) : Bool :=
  schema.all fun f => f.1 ≠ key || f.2.accepts value

/-- The value of a field after a `PATCH` with the given fields. A field that the model does not
have, or a value of another type, is no part of it. -/
def patched (r : Record schema) (changes : List (String × Json)) (key : String) : Json :=
  match changes.lookup key with
  | some value => if key ∈ schema.keys ∧ accepts schema key value = true then value else r.get key
  | none => r.get key

/-- What a `PATCH` with the given fields makes of a record. -/
def patch (r : Record schema) (changes : List (String × Json)) : Record schema where
  get := r.patched changes
  typed f hf := by
    unfold patched
    split
    · split
      · rename_i value _ h
        have htyped := List.all_eq_true.mp h.2 f hf
        simpa using htyped
      · exact r.typed f hf
    · exact r.typed f hf
  outside key hkey := by
    unfold patched
    split
    · rw [if_neg fun h => hkey h.1]
      exact r.outside key hkey
    · exact r.outside key hkey

/-! ### Dictionaries -/

theorem keys_asDict (r : Record schema) : r.asDict.map Prod.fst = schema.keys := by
  rw [asDict, List.map_map]
  exact List.map_id _

theorem lookup_asDict (r : Record schema) {key : String} (hkey : key ∈ schema.keys) :
    r.asDict.lookup key = some (r.get key) := Json.lookup_map hkey r.get

theorem lookup_asDict_eq_none (r : Record schema) {key : String} (hkey : key ∉ schema.keys) :
    r.asDict.lookup key = none := by
  rw [List.lookup_eq_none_iff]
  intro f hf
  rw [bne_iff_ne]
  rintro rfl
  exact hkey (r.keys_asDict ▸ List.mem_map_of_mem hf)

theorem validates_asDict (r : Record schema) : Validates schema r.asDict := by
  refine ⟨fun f hf => r.keys_asDict ▸ List.mem_map_of_mem hf, fun f hf => ?_⟩
  exact ⟨r.get f.1, r.lookup_asDict (List.mem_map_of_mem hf), r.typed f hf⟩

/-- A record is read back from its dictionary. -/
theorem ofDict_asDict (r : Record schema) : ofDict r.asDict = some r := by
  rw [ofDict, dif_pos r.validates_asDict, Option.some.injEq]
  ext key
  by_cases hkey : key ∈ schema.keys
  · simp only [if_pos hkey, r.lookup_asDict hkey, Option.getD_some]
  · simp only [if_neg hkey, r.outside key hkey]

/-! ### Patches -/

/-- The fields of a patch are fields of the model, with values of their types. -/
def Fits (schema : Schema) (changes : List (String × Json)) : Prop :=
  ∀ f ∈ changes, f.1 ∈ schema.keys ∧ accepts schema f.1 f.2 = true

theorem get_patch_of_lookup (r : Record schema) {changes : List (String × Json)}
    (h : Fits schema changes) {key : String} {value : Json}
    (hvalue : changes.lookup key = some value) : (r.patch changes).get key = value := by
  change r.patched changes key = value
  unfold patched
  rw [hvalue]
  exact if_pos (h _ (Json.mem_of_lookup hvalue))

/-- A patch keeps all other fields. -/
theorem get_patch_of_not_mem (r : Record schema) {changes : List (String × Json)} {key : String}
    (h : key ∉ changes.map Prod.fst) : (r.patch changes).get key = r.get key := by
  have hnone : changes.lookup key = none := by
    rw [List.lookup_eq_none_iff]
    intro f hf
    rw [bne_iff_ne]
    rintro rfl
    exact h (List.mem_map_of_mem hf)
  change r.patched changes key = r.get key
  rw [patched, hnone]

/-! ### Comparison -/

theorem exists_of_isStr {v : Json} (h : isStr v = true) : ∃ s, v = .str s := by
  cases v with
  | str s => exact ⟨s, rfl⟩
  | _ => cases h

theorem exists_of_isBool {v : Json} (h : isBool v = true) : ∃ b, v = .bool b := by
  cases v with
  | bool b => exact ⟨b, rfl⟩
  | _ => cases h

theorem exists_of_isInt {v : Json} (h : isInt v = true) : ∃ n, v = .int n := by
  cases v with
  | int n => exact ⟨n, rfl⟩
  | _ => cases h

theorem exists_of_all_isStr {items : List Json} (h : items.all isStr = true) :
    ∃ texts : List String, items = texts.map .str := by
  induction items with
  | nil => exact ⟨[], rfl⟩
  | cons item items ih =>
    rw [List.all_cons, Bool.and_eq_true] at h
    obtain ⟨text, rfl⟩ := exists_of_isStr h.1
    obtain ⟨texts, rfl⟩ := ih h.2
    exact ⟨text :: texts, rfl⟩

/-- The values of an optional field: none, or one of the type. -/
theorem null_or_of_accepts {v : Json} :
    (FieldType.optStr.accepts v = true → v = .null ∨ isStr v = true) ∧
    (FieldType.optBool.accepts v = true → v = .null ∨ isBool v = true) ∧
    (FieldType.optStrs.accepts v = true → v = .null ∨ ∃ texts : List String,
      v = .arr (texts.map .str)) := by
  cases v with
  | null => exact ⟨fun _ => .inl rfl, fun _ => .inl rfl, fun _ => .inl rfl⟩
  | arr items =>
    refine ⟨fun h => .inr h, fun h => .inr h, fun h => .inr ?_⟩
    obtain ⟨texts, rfl⟩ := exists_of_all_isStr h
    exact ⟨texts, rfl⟩
  | _ => exact ⟨fun h => .inr h, fun h => .inr h, fun h => by cases h⟩

/-- On values of one type, Python's `==` is equality. -/
theorem pyEq_of_accepts {type : FieldType} {v w : Json} (hv : type.accepts v = true)
    (hw : type.accepts w = true) : Json.pyEq v w = true ↔ v = w := by
  cases type with
  | str =>
    obtain ⟨s, rfl⟩ := exists_of_isStr hv
    obtain ⟨t, rfl⟩ := exists_of_isStr hw
    rw [Json.pyEq_str, Json.str.injEq]
  | bool =>
    obtain ⟨a, rfl⟩ := exists_of_isBool hv
    obtain ⟨b, rfl⟩ := exists_of_isBool hw
    rw [Json.pyEq_bool, Json.bool.injEq]
  | int =>
    obtain ⟨m, rfl⟩ := exists_of_isInt hv
    obtain ⟨n, rfl⟩ := exists_of_isInt hw
    rw [Json.pyEq_int, Json.int.injEq]
  | optStr =>
    rcases null_or_of_accepts.1 hv with rfl | hv <;> rcases null_or_of_accepts.1 hw with rfl | hw
    · exact iff_of_true rfl rfl
    · obtain ⟨t, rfl⟩ := exists_of_isStr hw
      exact iff_of_false Bool.false_ne_true nofun
    · obtain ⟨s, rfl⟩ := exists_of_isStr hv
      exact iff_of_false Bool.false_ne_true nofun
    · obtain ⟨s, rfl⟩ := exists_of_isStr hv
      obtain ⟨t, rfl⟩ := exists_of_isStr hw
      rw [Json.pyEq_str, Json.str.injEq]
  | optBool =>
    rcases null_or_of_accepts.2.1 hv with rfl | hv <;> rcases null_or_of_accepts.2.1 hw with rfl | hw
    · exact iff_of_true rfl rfl
    · obtain ⟨b, rfl⟩ := exists_of_isBool hw
      exact iff_of_false Bool.false_ne_true nofun
    · obtain ⟨a, rfl⟩ := exists_of_isBool hv
      exact iff_of_false Bool.false_ne_true nofun
    · obtain ⟨a, rfl⟩ := exists_of_isBool hv
      obtain ⟨b, rfl⟩ := exists_of_isBool hw
      rw [Json.pyEq_bool, Json.bool.injEq]
  | optStrs =>
    rcases null_or_of_accepts.2.2 hv with rfl | ⟨xs, rfl⟩ <;>
      rcases null_or_of_accepts.2.2 hw with rfl | ⟨ys, rfl⟩
    · exact iff_of_true rfl rfl
    · exact iff_of_false Bool.false_ne_true nofun
    · exact iff_of_false Bool.false_ne_true nofun
    · rw [Json.pyEq, Json.pyEqItems_str, Json.arr.injEq]
      exact ⟨congrArg _, fun h => List.map_injective_iff.mpr (fun _ _ => Json.str.inj) h⟩

/-- On the fields of two records, Python's `==` is equality. -/
theorem pyEq_get (r s : Record schema) {key : String} (hkey : key ∈ schema.keys) :
    Json.pyEq (r.get key) (s.get key) = true ↔ r.get key = s.get key := by
  obtain ⟨f, hf, rfl⟩ := List.mem_map.mp hkey
  exact pyEq_of_accepts (r.typed f hf) (s.typed f hf)

end Record

end Tier1
