import Mathlib.Data.Bool.AllAny
import PfsenseMcp.Tier1.CanonicalForm
import PfsenseMcp.Tier1.Contract

/-!
# Prepared execution intents

`tier1/prepared_execution_intent.py`: the values of an intent are validated and frozen one by one,
and its digest is computed of all of them together.

## Main results

* `Frozen.thaw_freeze`, `Frozen.thaw_injective`: a frozen value is the validated one, with its keys
  in order;
* `PreparedExecutionIntent.digestBinds_iff`: the intent has a digest exactly if its four values stay
  within the limits together, one level deeper; the digest then binds every field.
-/

namespace Tier1

open Python

/-! ### Frozen values -/

/-- `_FrozenCanonicalValue`: a list or a dictionary as a tuple. -/
inductive Frozen where
  | null
  | bool (value : Bool)
  | int (value : ℤ)
  | float (text : String)
  | str (value : String)
  | list (items : List Frozen)
  | object (items : List (String × Frozen))

namespace Frozen

/-- Insert an item before the first item with a larger key. -/
def insertItem (item : String × Frozen) : List (String × Frozen) → List (String × Frozen)
  | [] => [item]
  | x :: xs => if Json.keyLt x.1 item.1 then x :: insertItem item xs else item :: x :: xs

mutual

/-- `_freeze`: the items of a dictionary are sorted by their keys, which differ. -/
def freeze : Json → Frozen
  | .null => null
  | .bool b => bool b
  | .int n => int n
  | .float t => float t
  | .str s => str s
  | .arr items => list (freezeItems items)
  | .obj fields => object (freezeFields fields)

/-- `_freeze` of every item. -/
def freezeItems : List Json → List Frozen
  | [] => []
  | x :: xs => freeze x :: freezeItems xs

/-- `_freeze` of the values of a dictionary, in the order of the keys. -/
def freezeFields : List (String × Json) → List (String × Frozen)
  | [] => []
  | (k, v) :: fs => insertItem (k, freeze v) (freezeFields fs)

end

mutual

/-- `_thaw`. -/
def thaw : Frozen → Json
  | null => .null
  | bool b => .bool b
  | int n => .int n
  | float t => .float t
  | str s => .str s
  | list items => .arr (thawItems items)
  | object items => .obj (thawFields items)

/-- `_thaw` of every item. -/
def thawItems : List Frozen → List Json
  | [] => []
  | x :: xs => thaw x :: thawItems xs

/-- `_thaw` of the value of every item. -/
def thawFields : List (String × Frozen) → List (String × Json)
  | [] => []
  | (k, v) :: xs => (k, thaw v) :: thawFields xs

end

theorem thawFields_insertItem (item : String × Frozen) (items : List (String × Frozen)) :
    thawFields (insertItem item items) = Json.insertField (item.1, thaw item.2) (thawFields items) := by
  induction items with
  | nil => rfl
  | cons x xs ih =>
    obtain ⟨k, v⟩ := x
    rw [insertItem, thawFields, Json.insertField]
    by_cases h : Json.keyLt k item.1 = true
    · rw [if_pos h, if_pos h, thawFields, ih]
    · rw [if_neg h, if_neg h]
      rfl

mutual

/-- Thawing gives the value back, with its keys in order. -/
theorem thaw_freeze : ∀ v : Json, thaw (freeze v) = v.sortKeys
  | .null => rfl
  | .bool _ => rfl
  | .int _ => rfl
  | .float _ => rfl
  | .str _ => rfl
  | .arr items => by rw [freeze, thaw, Json.sortKeys, thawItems_freezeItems items]
  | .obj fields => by rw [freeze, thaw, Json.sortKeys, thawFields_freezeFields fields]

/-- `thaw_freeze` for the items of a list. -/
theorem thawItems_freezeItems : ∀ items : List Json,
    thawItems (freezeItems items) = Json.sortItems items
  | [] => rfl
  | x :: xs => by
    rw [freezeItems, thawItems, Json.sortItems, thaw_freeze x, thawItems_freezeItems xs]

/-- `thaw_freeze` for the fields of a dictionary. -/
theorem thawFields_freezeFields : ∀ fields : List (String × Json),
    thawFields (freezeFields fields) = Json.sortFields fields
  | [] => rfl
  | (k, v) :: fs => by
    rw [freezeFields, Json.sortFields, thawFields_insertItem, thaw_freeze v,
      thawFields_freezeFields fs]

end

mutual

/-- The frozen value that thaws to a given one. -/
def ofThawed : Json → Frozen
  | .null => null
  | .bool b => bool b
  | .int n => int n
  | .float t => float t
  | .str s => str s
  | .arr items => list (ofThawedItems items)
  | .obj fields => object (ofThawedFields fields)

/-- `ofThawed` of every item. -/
def ofThawedItems : List Json → List Frozen
  | [] => []
  | x :: xs => ofThawed x :: ofThawedItems xs

/-- `ofThawed` of the value of every field. -/
def ofThawedFields : List (String × Json) → List (String × Frozen)
  | [] => []
  | (k, v) :: fs => (k, ofThawed v) :: ofThawedFields fs

end

mutual

theorem ofThawed_thaw : ∀ x : Frozen, ofThawed (thaw x) = x
  | null => rfl
  | bool _ => rfl
  | int _ => rfl
  | float _ => rfl
  | str _ => rfl
  | list items => by rw [thaw, ofThawed, ofThawedItems_thawItems items]
  | object items => by rw [thaw, ofThawed, ofThawedFields_thawFields items]

/-- `ofThawed_thaw` for the items of a list. -/
theorem ofThawedItems_thawItems : ∀ items : List Frozen, ofThawedItems (thawItems items) = items
  | [] => rfl
  | x :: xs => by rw [thawItems, ofThawedItems, ofThawed_thaw x, ofThawedItems_thawItems xs]

/-- `ofThawed_thaw` for the items of a dictionary. -/
theorem ofThawedFields_thawFields : ∀ items : List (String × Frozen),
    ofThawedFields (thawFields items) = items
  | [] => rfl
  | (k, v) :: xs => by
    rw [thawFields, ofThawedFields, ofThawed_thaw v, ofThawedFields_thawFields xs]

end

/-- What is thawed determines the frozen value. -/
theorem thaw_injective {x y : Frozen} (h : thaw x = thaw y) : x = y := by
  rw [← ofThawed_thaw x, h, ofThawed_thaw]

end Frozen

/-! ### Depth of a value -/

namespace Value

mutual

/-- How many levels a value is nested. -/
def depth : Json → ℕ
  | .arr items => depthItems items
  | .obj fields => depthFields fields
  | _ => 0

/-- One level more than the deepest item. -/
def depthItems : List Json → ℕ
  | [] => 0
  | x :: xs => max (depth x + 1) (depthItems xs)

/-- One level more than the deepest value. -/
def depthFields : List (String × Json) → ℕ
  | [] => 0
  | (_, v) :: fs => max (depth v + 1) (depthFields fs)

end

section Model

variable [Platform]

mutual

/-- A canonical value ends within the nesting limit. -/
theorem depth_le_of_canonical : ∀ (y : Json) (d : ℕ), Canonical d y →
    d + depth y ≤ maxCanonicalDepth
  | .null, _, h => h
  | .bool _, _, h => h
  | .int _, _, h => h.1
  | .float _, _, h => h.elim
  | .str _, _, h => h.1
  | .arr items, d, h => depthItems_le_of_canonical items d h.1 h.2.2
  | .obj fields, d, h => depthFields_le_of_canonical fields d h.1 h.2.2.2

/-- `depth_le_of_canonical` for the items of a list. -/
theorem depthItems_le_of_canonical : ∀ (items : List Json) (d : ℕ), d ≤ maxCanonicalDepth →
    CanonicalItems (d + 1) items → d + depthItems items ≤ maxCanonicalDepth
  | [], _, hd, _ => hd
  | x :: xs, d, hd, h => by
    have hx := depth_le_of_canonical x (d + 1) h.1
    have hxs := depthItems_le_of_canonical xs d hd h.2
    rw [depthItems]
    omega

/-- `depth_le_of_canonical` for the fields of a dictionary. -/
theorem depthFields_le_of_canonical : ∀ (fields : List (String × Json)) (d : ℕ),
    d ≤ maxCanonicalDepth → CanonicalFields (d + 1) fields →
    d + depthFields fields ≤ maxCanonicalDepth
  | [], _, hd, _ => hd
  | (_, v) :: fs, d, hd, h => by
    have hv := depth_le_of_canonical v (d + 1) h.2.1
    have hfs := depthFields_le_of_canonical fs d hd h.2.2
    rw [depthFields]
    omega

end

mutual

/-- A canonical value is canonical at every level from which it ends within the limit. -/
theorem canonical_of_depth_le : ∀ (y : Json) (d d' : ℕ), Canonical d y →
    d' + depth y ≤ maxCanonicalDepth → Canonical d' y
  | .null, _, _, _, h => h
  | .bool _, _, _, _, h => h
  | .int _, _, _, hy, h => ⟨h, hy.2⟩
  | .float _, _, _, hy, _ => hy.elim
  | .str _, _, _, hy, h => ⟨h, hy.2⟩
  | .arr items, d, d', hy, h => by
    rw [depth] at h
    refine ⟨by omega, hy.2.1, canonicalItems_of_depth_le items (d + 1) d' hy.2.2 h⟩
  | .obj fields, d, d', hy, h => by
    rw [depth] at h
    refine ⟨by omega, hy.2.1, hy.2.2.1, canonicalFields_of_depth_le fields (d + 1) d' hy.2.2.2 h⟩

/-- `canonical_of_depth_le` for the items of a list. -/
theorem canonicalItems_of_depth_le : ∀ (items : List Json) (d d' : ℕ), CanonicalItems d items →
    d' + depthItems items ≤ maxCanonicalDepth → CanonicalItems (d' + 1) items
  | [], _, _, _, _ => trivial
  | x :: xs, d, d', hxs, h => by
    rw [depthItems] at h
    exact ⟨canonical_of_depth_le x d (d' + 1) hxs.1 (by omega),
      canonicalItems_of_depth_le xs d d' hxs.2 (by omega)⟩

/-- `canonical_of_depth_le` for the fields of a dictionary. -/
theorem canonicalFields_of_depth_le : ∀ (fields : List (String × Json)) (d d' : ℕ),
    CanonicalFields d fields → d' + depthFields fields ≤ maxCanonicalDepth →
    CanonicalFields (d' + 1) fields
  | [], _, _, _, _ => trivial
  | (_, v) :: fs, d, d', hfs, h => by
    rw [depthFields] at h
    exact ⟨hfs.1, canonical_of_depth_le v d (d' + 1) hfs.2.1 (by omega),
      canonicalFields_of_depth_le fs d d' hfs.2.2 (by omega)⟩

end

mutual

/-- Wherever a canonical value is normalised without an error, it stays what it is. -/
theorem eq_of_normalize : ∀ (y : Json) (c depth nodes : ℕ) (z : Json) (m : ℕ), Canonical c y →
    Tier1.normalize depth nodes y = .ok (z, m) → z = y
  | .null, _, _, _, z, m, _, h => by
    simp only [Tier1.normalize, bind_eq_ok, Except.ok.injEq, Prod.mk.injEq] at h
    obtain ⟨_, -, rfl, -⟩ := h
    rfl
  | .bool _, _, _, _, z, m, _, h => by
    simp only [Tier1.normalize, bind_eq_ok, Except.ok.injEq, Prod.mk.injEq] at h
    obtain ⟨_, -, rfl, -⟩ := h
    rfl
  | .int _, _, _, _, z, m, _, h => by
    simp only [Tier1.normalize, bind_eq_ok, Except.ok.injEq, Prod.mk.injEq] at h
    obtain ⟨_, -, _, -, rfl, -⟩ := h
    rfl
  | .float _, _, _, _, z, m, hy, _ => hy.elim
  | .str s, _, _, _, z, m, hy, h => by
    simp only [Tier1.normalize, bind_eq_ok, hy.2, Except.ok.injEq, Prod.mk.injEq] at h
    obtain ⟨_, -, _, rfl, rfl, -⟩ := h
    rfl
  | .arr items, c, depth, nodes, z, m, hy, h => by
    simp only [Tier1.normalize, bind_eq_ok, Except.ok.injEq, Prod.mk.injEq] at h
    obtain ⟨_, -, _, -, ⟨xs, k⟩, hxs, rfl, -⟩ := h
    rw [eq_of_normalizeItems items (c + 1) _ _ xs k hy.2.2 hxs]
  | .obj fields, c, depth, nodes, z, m, hy, h => by
    simp only [Tier1.normalize, bind_eq_ok, Except.ok.injEq, Prod.mk.injEq] at h
    obtain ⟨_, -, _, -, ⟨fs, k⟩, hfs, rfl, -⟩ := h
    rw [eq_of_normalizeFields fields (c + 1) _ _ [] fs k hy.2.2.2 hfs]

/-- `eq_of_normalize` for the items of a list. -/
theorem eq_of_normalizeItems : ∀ (items : List Json) (c depth nodes : ℕ) (zs : List Json) (m : ℕ),
    CanonicalItems c items → Tier1.normalizeItems depth nodes items = .ok (zs, m) → zs = items
  | [], _, _, _, zs, m, _, h => by
    simp only [Tier1.normalizeItems, Except.ok.injEq, Prod.mk.injEq] at h
    exact h.1.symm
  | x :: xs, c, depth, nodes, zs, m, hy, h => by
    simp only [Tier1.normalizeItems, bind_eq_ok, Except.ok.injEq, Prod.mk.injEq] at h
    obtain ⟨⟨y, k⟩, hx, ⟨ys, l⟩, hxs, rfl, -⟩ := h
    rw [eq_of_normalize x c _ _ y k hy.1 hx, eq_of_normalizeItems xs c _ _ ys l hy.2 hxs]

/-- `eq_of_normalize` for the fields of a dictionary. -/
theorem eq_of_normalizeFields : ∀ (fields : List (String × Json)) (c depth nodes : ℕ)
    (seen : List String) (gs : List (String × Json)) (m : ℕ), CanonicalFields c fields →
    Tier1.normalizeFields depth nodes seen fields = .ok (gs, m) → gs = fields
  | [], _, _, _, _, gs, m, _, h => by
    simp only [Tier1.normalizeFields, Except.ok.injEq, Prod.mk.injEq] at h
    exact h.1.symm
  | (k, v) :: fs, c, depth, nodes, seen, gs, m, hy, h => by
    simp only [Tier1.normalizeFields, bind_eq_ok, hy.1, Except.ok.injEq, Prod.mk.injEq] at h
    obtain ⟨_, rfl, _, -, ⟨y, j⟩, hv, ⟨ys, l⟩, hfs, rfl, -⟩ := h
    rw [eq_of_normalize v c _ _ y j hy.2.1 hv, eq_of_normalizeFields fs c _ _ _ ys l hy.2.2 hfs]

end

end Model

end Value

/-! ### Sizes of texts -/

/-- The number of bytes of the compact text of a value. -/
def textSize (v : Json) : ℕ := (Bytes.encodeUtf8 (Json.dumps false v)).length

/-- The number of bytes of a sequence of characters. -/
def charsSize (cs : List Char) : ℕ := (cs.map Char.utf8Size).sum

theorem textSize_eq (v : Json) : textSize v = charsSize (Json.dumpValue false v) := by
  rw [textSize, Bytes.length_encodeUtf8, Json.dumps, String.toList_ofList, charsSize]

theorem charsSize_append (cs ds : List Char) :
    charsSize (cs ++ ds) = charsSize cs + charsSize ds := by
  simp only [charsSize, List.map_append, List.sum_append]

theorem charsSize_cons (c : Char) (cs : List Char) :
    charsSize (c :: cs) = c.utf8Size + charsSize cs := by
  simp only [charsSize, List.map_cons, List.sum_cons]

/-- The sizes of the keys and the values of an object, with a colon and a comma for each. -/
def fieldsSize (fields : List (String × Json)) : ℕ :=
  (fields.map fun f => textSize (.str f.1) + textSize f.2 + 2).sum

theorem charsSize_dumpFields (fields : List (String × Json)) :
    charsSize (Json.dumpFields false fields) = fieldsSize fields + 1 := by
  induction fields with
  | nil => rfl
  | cons f fs ih =>
    obtain ⟨k, v⟩ := f
    have hcomma : Char.utf8Size ',' = 1 := rfl
    have hcolon : Char.utf8Size ':' = 1 := rfl
    simp only [Json.dumpFields, charsSize_cons, charsSize_append, ih, fieldsSize, List.map_cons,
      List.sum_cons, textSize_eq, Json.dumpValue, hcomma, hcolon]
    omega

theorem textSize_obj (f : String × Json) (fs : List (String × Json)) :
    textSize (.obj (f :: fs)) = fieldsSize (f :: fs) + 1 := by
  obtain ⟨k, v⟩ := f
  have hbrace : Char.utf8Size '\x7b' = 1 := rfl
  have hcolon : Char.utf8Size ':' = 1 := rfl
  simp only [textSize_eq (.obj _), Json.dumpValue, charsSize_cons, charsSize_append,
    charsSize_dumpFields, fieldsSize, List.map_cons, List.sum_cons, textSize_eq, hbrace, hcolon]
  omega

/-! ### Intents -/

/-- The arguments of `PreparedExecutionIntentV1`, which may be any objects. -/
structure IntentArguments where
  schemaVersion : Value
  /-- `none` is an object that is no `Capability`. -/
  capability : Option Capability
  endpointSymbol : Value
  httpMethod : Value
  adapterVersion : Value
  rollbackPlanVersion : Value
  resourceTarget : Value
  targetPrecondition : Value
  normalizedMutationIntent : Value
  rollbackSnapshot : Value

/-- `PreparedExecutionIntentV1`. -/
structure PreparedExecutionIntent where
  schemaVersion : ℤ
  capability : Capability
  endpointSymbol : String
  httpMethod : String
  adapterVersion : String
  rollbackPlanVersion : String
  resourceTarget : Frozen
  targetPrecondition : Frozen
  normalizedMutationIntent : Frozen
  rollbackSnapshot : Frozen

/-- A `str` without surrogates. -/
def Value.string? : Value → Option String
  | .str t => t.toString?
  | _ => Option.none

/-- `_MUTATING_METHODS`. -/
def mutatingMethods : List String := ["POST", "PUT", "PATCH", "DELETE"]

/-- The value, or a `PreparedExecutionIntentError`. -/
def orRefused {α : Type} (value : Option α) (message : String) : Except Error α :=
  match value with
  | some a => .ok a
  | none => fail (.other "PreparedExecutionIntentError") message

theorem orRefused_eq_ok {α : Type} {value : Option α} {message : String} {a : α} :
    orRefused value message = .ok a ↔ value = some a := by
  cases value <;> simp [orRefused, fail]

section Model

variable [Platform]

/-- `_validated_frozen`. -/
def validatedFrozen (value : Value) (fieldName : String) (requireObject : Bool) :
    Except Error Frozen :=
  match Value.normalize 0 0 value with
  | .error e =>
    if e.cls = .canonicalization then
      fail (.other "PreparedExecutionIntentError")
        (fieldName ++ " is not a supported canonical value.")
    else .error e
  | .ok (.null, _) =>
    fail (.other "PreparedExecutionIntentError") (fieldName ++ " must be explicit and non-null.")
  | .ok (.obj fields, _) => .ok (Frozen.freeze (.obj fields))
  | .ok (canonical, _) =>
    if requireObject = true then
      fail (.other "PreparedExecutionIntentError") (fieldName ++ " must be a canonical object.")
    else .ok (Frozen.freeze canonical)

namespace PreparedExecutionIntent

/-- The constructor of `PreparedExecutionIntentV1`. -/
def new (arguments : IntentArguments) : Except Error PreparedExecutionIntent := do
  let schemaVersion ← orRefused (match arguments.schemaVersion with
    | .int n => if n = 1 then some n else none
    | _ => none) "Unsupported prepared execution-intent schema version."
  let capability ← orRefused (arguments.capability.filter Capability.isWrite)
    "Prepared execution intent requires a WRITE capability."
  let endpointSymbol ← orRefused (arguments.endpointSymbol.string?.filter isIdentifier)
    "Prepared execution-intent identifier is invalid."
  let adapterVersion ← orRefused (arguments.adapterVersion.string?.filter isIdentifier)
    "Prepared execution-intent identifier is invalid."
  let rollbackPlanVersion ← orRefused (arguments.rollbackPlanVersion.string?.filter isIdentifier)
    "Prepared execution-intent identifier is invalid."
  let httpMethod ← orRefused
    (arguments.httpMethod.string?.filter fun method => method ∈ mutatingMethods)
    "Prepared execution-intent HTTP method is invalid."
  let resourceTarget ← validatedFrozen arguments.resourceTarget "resource_target" false
  let targetPrecondition ← validatedFrozen arguments.targetPrecondition "target_precondition" false
  let normalizedMutationIntent ← validatedFrozen arguments.normalizedMutationIntent
    "normalized_mutation_intent" true
  let rollbackSnapshot ← validatedFrozen arguments.rollbackSnapshot "rollback_snapshot" false
  .ok {
    schemaVersion, capability, endpointSymbol, httpMethod, adapterVersion, rollbackPlanVersion,
    resourceTarget, targetPrecondition, normalizedMutationIntent, rollbackSnapshot }

omit [Platform] in
/-- `prepared_execution_intent_payload_of`. -/
def payload (intent : PreparedExecutionIntent) : Json :=
  .obj [("schema_version", .int intent.schemaVersion),
    ("capability", .str intent.capability.name),
    ("endpoint_symbol", .str intent.endpointSymbol),
    ("http_method", .str intent.httpMethod),
    ("adapter_version", .str intent.adapterVersion),
    ("resource_target", intent.resourceTarget.thaw),
    ("target_precondition", intent.targetPrecondition.thaw),
    ("normalized_mutation_intent", intent.normalizedMutationIntent.thaw),
    ("rollback_snapshot", intent.rollbackSnapshot.thaw),
    ("rollback_plan_version", .str intent.rollbackPlanVersion)]

/-- `compute_execution_intent_digest`. -/
def computeExecutionIntentDigest (intent : PreparedExecutionIntent) : Except Error String :=
  digestValue .executionIntent intent.payload ["PreparedExecutionIntentV1"]

/-- The bytes that `compute_execution_intent_digest` hashes. -/
def digestInput (intent : PreparedExecutionIntent) : Except Error Bytes :=
  Value.digestMessage .executionIntent (Value.ofJson intent.payload)
    [Text.ofString "PreparedExecutionIntentV1"]

theorem computeExecutionIntentDigest_eq (intent : PreparedExecutionIntent) :
    intent.computeExecutionIntentDigest = (do
      let message ← intent.digestInput
      .ok (Platform.sha256 message)) := by
  have h := Value.digestValue_ofJson .executionIntent intent.payload ["PreparedExecutionIntentV1"]
  rw [computeExecutionIntentDigest, ← h]
  rfl

end PreparedExecutionIntent

end Model

section Model

variable [Platform]

/-- Normalisation form C leaves ASCII texts as they are. -/
def NfcAscii : Prop := ∀ s : String, (∀ c ∈ s.toList, c.toNat < 128) → Platform.nfc s = s

/-- A frozen value is what a validated argument was frozen to. -/
def Validated (argument : Value) (frozen : Frozen) : Prop :=
  ∃ canonical nodes, Value.normalize 0 0 argument = .ok (canonical, nodes) ∧
    frozen = Frozen.freeze canonical

theorem validated_of_validatedFrozen {value : Value} {fieldName : String} {requireObject : Bool}
    {frozen : Frozen} (h : validatedFrozen value fieldName requireObject = .ok frozen) :
    Validated value frozen := by
  unfold validatedFrozen fail at h
  split at h
  · split_ifs at h
  · cases h
  · cases h
    exact ⟨_, _, ‹_›, rfl⟩
  · split_ifs at h
    cases h
    exact ⟨_, _, ‹_›, rfl⟩

/-- A validated value is canonical, and its keys are in order. -/
theorem Validated.canonical (hnfc : Value.NfcIdempotent) {argument : Value} {frozen : Frozen}
    (h : Validated argument frozen) :
    Value.Canonical 0 frozen.thaw ∧ Json.sortKeys frozen.thaw = frozen.thaw := by
  obtain ⟨canonical, nodes, hnormalize, rfl⟩ := h
  obtain ⟨hcanonical, -, -⟩ := Value.canonical_of_normalize hnfc argument 0 0 _ _ hnormalize
  rw [Frozen.thaw_freeze]
  exact ⟨(Value.canonical_sortKeys canonical 0 hcanonical).1,
    Json.sortKeys_sortKeys (Value.plain_of_canonical canonical 0 hcanonical).2⟩

/-- Thawing gives back the value that the argument was normalised to. -/
def Thaws (argument : Value) (frozen : Frozen) : Prop :=
  ∃ canonical nodes, Value.normalize 0 0 argument = .ok (canonical, nodes) ∧
    frozen.thaw.unordered = canonical.unordered

theorem Validated.thaws (hnfc : Value.NfcIdempotent) {argument : Value} {frozen : Frozen}
    (h : Validated argument frozen) : Thaws argument frozen := by
  obtain ⟨canonical, nodes, hnormalize, rfl⟩ := h
  obtain ⟨hcanonical, -, -⟩ := Value.canonical_of_normalize hnfc argument 0 0 _ _ hnormalize
  refine ⟨canonical, nodes, hnormalize, ?_⟩
  rw [Frozen.thaw_freeze, Json.unordered_sortKeys _ (Value.plain_of_canonical canonical 0 hcanonical).2]

/-- Two validated values that thaw to the same value are the same. -/
theorem Validated.eq_of_unordered (hnfc : Value.NfcIdempotent) {argument argument' : Value}
    {frozen frozen' : Frozen} (h : Validated argument frozen) (h' : Validated argument' frozen')
    (hequal : frozen.thaw.unordered = frozen'.thaw.unordered) : frozen = frozen' := by
  obtain ⟨hcanonical, hsorted⟩ := h.canonical hnfc
  obtain ⟨hcanonical', hsorted'⟩ := h'.canonical hnfc
  have hkeys := (Json.sortKeys_eq_iff (Value.plain_of_canonical _ 0 hcanonical).2
    (Value.plain_of_canonical _ 0 hcanonical').2).mpr hequal
  rw [hsorted, hsorted'] at hkeys
  exact Frozen.thaw_injective hkeys

namespace PreparedExecutionIntent

/-- What the constructor has checked. -/
structure Prepared (arguments : IntentArguments) (intent : PreparedExecutionIntent) : Prop where
  schemaVersion : intent.schemaVersion = 1
  capability : intent.capability.isWrite = true
  endpointSymbol : isIdentifier intent.endpointSymbol = true
  adapterVersion : isIdentifier intent.adapterVersion = true
  rollbackPlanVersion : isIdentifier intent.rollbackPlanVersion = true
  httpMethod : intent.httpMethod ∈ mutatingMethods
  resourceTarget : Validated arguments.resourceTarget intent.resourceTarget
  targetPrecondition : Validated arguments.targetPrecondition intent.targetPrecondition
  normalizedMutationIntent :
    Validated arguments.normalizedMutationIntent intent.normalizedMutationIntent
  rollbackSnapshot : Validated arguments.rollbackSnapshot intent.rollbackSnapshot

theorem prepared_of_new {arguments : IntentArguments} {intent : PreparedExecutionIntent}
    (h : new arguments = .ok intent) : Prepared arguments intent := by
  simp only [new, bind_eq_ok, orRefused_eq_ok, Option.filter_eq_some_iff, decide_eq_true_eq] at h
  obtain ⟨version, hversion, capability, ⟨-, hcapability⟩, endpoint, ⟨-, hendpoint⟩, adapter,
    ⟨-, hadapter⟩, plan, ⟨-, hplan⟩, method, ⟨-, hmethod⟩, target, htarget, precondition,
    hprecondition, mutation, hmutation, snapshot, hsnapshot, h⟩ := h
  cases h
  refine ⟨?_, hcapability, hendpoint, hadapter, hplan, hmethod,
    validated_of_validatedFrozen htarget, validated_of_validatedFrozen hprecondition,
    validated_of_validatedFrozen hmutation, validated_of_validatedFrozen hsnapshot⟩
  split at hversion
  · rw [Option.ite_none_right_eq_some] at hversion
    obtain ⟨hone, hversion⟩ := hversion
    rw [Option.some.injEq] at hversion
    rw [← hversion, hone]
  · cases hversion

omit [Platform] in
/-- The four canonical values. -/
def canonicalValues (intent : PreparedExecutionIntent) : List Json :=
  [intent.resourceTarget.thaw, intent.targetPrecondition.thaw,
    intent.normalizedMutationIntent.thaw, intent.rollbackSnapshot.thaw]

omit [Platform] in
/-- The texts. -/
def texts (intent : PreparedExecutionIntent) : List String :=
  [intent.capability.name, intent.endpointSymbol, intent.httpMethod, intent.adapterVersion,
    intent.rollbackPlanVersion]

/-- The four values are within the limits of one canonical value, one level deeper and together. -/
structure WithinLimits (intent : PreparedExecutionIntent) : Prop where
  depth : ∀ value ∈ intent.canonicalValues, Value.depth value + 1 ≤ maxCanonicalDepth
  /-- The object itself and its six scalars are seven nodes more. -/
  nodes : (intent.canonicalValues.map Value.nodeCount).sum + 7 ≤ maxCanonicalNodes
  /-- The keys, the schema version and what separates them take 205 bytes. -/
  bytes : (intent.canonicalValues.map textSize).sum +
    (intent.texts.map fun text => textSize (.str text)).sum + 205 ≤ maxCanonicalBytes

/-- The intent has a digest, which binds every field, and its values thaw to the validated ones. -/
structure DigestBinds (arguments : IntentArguments) (intent : PreparedExecutionIntent) : Prop where
  returns : ∃ digest, intent.computeExecutionIntentDigest = .ok digest
  resourceTarget : Thaws arguments.resourceTarget intent.resourceTarget
  targetPrecondition : Thaws arguments.targetPrecondition intent.targetPrecondition
  normalizedMutationIntent :
    Thaws arguments.normalizedMutationIntent intent.normalizedMutationIntent
  rollbackSnapshot : Thaws arguments.rollbackSnapshot intent.rollbackSnapshot
  /-- Another intent with the same hashed bytes has the same fields. -/
  binds : ∀ arguments' intent' message, new arguments' = .ok intent' →
    intent.digestInput = .ok message → intent'.digestInput = .ok message → intent' = intent

/-! ### The payload -/

omit [Platform] in
/-- The fields of the payload. -/
def payloadFields (intent : PreparedExecutionIntent) : List (String × Json) :=
  [("schema_version", .int intent.schemaVersion),
    ("capability", .str intent.capability.name),
    ("endpoint_symbol", .str intent.endpointSymbol),
    ("http_method", .str intent.httpMethod),
    ("adapter_version", .str intent.adapterVersion),
    ("resource_target", intent.resourceTarget.thaw),
    ("target_precondition", intent.targetPrecondition.thaw),
    ("normalized_mutation_intent", intent.normalizedMutationIntent.thaw),
    ("rollback_snapshot", intent.rollbackSnapshot.thaw),
    ("rollback_plan_version", .str intent.rollbackPlanVersion)]

omit [Platform] in
/-- The keys of the payload. -/
def payloadKeys : List String :=
  ["schema_version", "capability", "endpoint_symbol", "http_method", "adapter_version",
    "resource_target", "target_precondition", "normalized_mutation_intent", "rollback_snapshot",
    "rollback_plan_version"]

omit [Platform] in
/-- The fields of the payload in the order of their keys. -/
def sortedFields (intent : PreparedExecutionIntent) : List (String × Json) :=
  [("adapter_version", .str intent.adapterVersion),
    ("capability", .str intent.capability.name),
    ("endpoint_symbol", .str intent.endpointSymbol),
    ("http_method", .str intent.httpMethod),
    ("normalized_mutation_intent", intent.normalizedMutationIntent.thaw),
    ("resource_target", intent.resourceTarget.thaw),
    ("rollback_plan_version", .str intent.rollbackPlanVersion),
    ("rollback_snapshot", intent.rollbackSnapshot.thaw),
    ("schema_version", .int intent.schemaVersion),
    ("target_precondition", intent.targetPrecondition.thaw)]

section Payload

variable {arguments : IntentArguments} {intent : PreparedExecutionIntent}

omit [Platform] in
theorem ascii_of_isIdentifier {text : String} (h : isIdentifier text = true) :
    ∀ c ∈ text.toList, c.toNat < 128 := by
  have halpha : ∀ c : Char, c.isAlphanum = true → c.toNat < 128 := by
    intro c hc
    have hbounds := toNat_of_isAlphanum hc
    omega
  unfold isIdentifier at h
  split at h
  · cases h
  · rename_i c cs hcs
    simp only [Bool.and_eq_true, decide_eq_true_eq, List.all_eq_true] at h
    intro d hd
    rw [hcs] at hd
    rcases List.mem_cons.mp hd with rfl | hd
    · exact halpha d h.1.1
    · rcases h.2 d hd with hd | rfl | rfl | rfl | rfl
      · exact halpha d hd
      · decide
      · decide
      · decide
      · decide

theorem normalizedString_of_ascii (hascii : NfcAscii) {s : String} (hshort : s.toList.length ≤ 500)
    (hs : ∀ c ∈ s.toList, c.toNat < 128) : normalizedString s = .ok s :=
  Value.normalizedString_of_short hshort (hascii s hs)

theorem normalizedString_of_isIdentifier (hascii : NfcAscii) {s : String}
    (hs : isIdentifier s = true) : normalizedString s = .ok s :=
  normalizedString_of_ascii hascii ((length_le_of_isIdentifier hs).trans (by decide))
    (ascii_of_isIdentifier hs)

/-- The fields of the payload are canonical, each on its own. -/
theorem Prepared.canonicalFields (hnfc : Value.NfcIdempotent) (hascii : NfcAscii)
    (h : Prepared arguments intent) : Value.CanonicalFields 0 intent.payloadFields := by
  have hkey : ∀ key ∈ payloadKeys, normalizedString key = .ok key := by
    have hkeys : ∀ key ∈ payloadKeys,
        key.toList.length ≤ 500 ∧ key.toList.all (fun c => c.toNat < 128) = true := by decide
    exact fun key hmem => normalizedString_of_ascii hascii (hkeys key hmem).1
      (List.all_iff_forall_prop.mp (hkeys key hmem).2)
  have htext : ∀ {s : String}, normalizedString s = .ok s → Value.Canonical 0 (.str s) :=
    fun hs => ⟨Nat.zero_le _, hs⟩
  have hcapability : isIdentifier intent.capability.name = true := by
    have hwrite := h.capability
    cases hc : intent.capability with
    | read stem => rw [hc] at hwrite; cases hwrite
    | _ => decide
  have hmethod : isIdentifier intent.httpMethod = true := by
    have hmethods : ∀ method ∈ mutatingMethods, isIdentifier method = true := by decide
    exact hmethods _ h.httpMethod
  have hversion : Value.Canonical 0 (.int intent.schemaVersion) := by
    rw [h.schemaVersion]
    exact ⟨Nat.zero_le _, by decide⟩
  simp only [payloadKeys, List.mem_cons, List.not_mem_nil, forall_eq_or_imp, or_false,
    forall_eq] at hkey
  obtain ⟨h₁, h₂, h₃, h₄, h₅, h₆, h₇, h₈, h₉, h₁₀⟩ := hkey
  exact ⟨h₁, hversion,
    h₂, htext (normalizedString_of_isIdentifier hascii hcapability),
    h₃, htext (normalizedString_of_isIdentifier hascii h.endpointSymbol),
    h₄, htext (normalizedString_of_isIdentifier hascii hmethod),
    h₅, htext (normalizedString_of_isIdentifier hascii h.adapterVersion),
    h₆, (h.resourceTarget.canonical hnfc).1,
    h₇, (h.targetPrecondition.canonical hnfc).1,
    h₈, (h.normalizedMutationIntent.canonical hnfc).1,
    h₉, (h.rollbackSnapshot.canonical hnfc).1,
    h₁₀, htext (normalizedString_of_isIdentifier hascii h.rollbackPlanVersion), trivial⟩

omit [Platform] in
theorem nodup_payloadFields (intent : PreparedExecutionIntent) :
    (intent.payloadFields.map Prod.fst).Nodup := by
  have hkeys : payloadKeys.Nodup := by decide
  exact hkeys

omit [Platform] in
theorem ten_le_maxCanonicalCollectionItems : 10 ≤ maxCanonicalCollectionItems := by decide

omit [Platform] in
theorem nodeCount_payload (intent : PreparedExecutionIntent) :
    Value.nodeCount intent.payload = (intent.canonicalValues.map Value.nodeCount).sum + 7 := by
  simp only [payload, canonicalValues, Value.nodeCount, Value.nodeCountFields, List.map_cons,
    List.map_nil, List.sum_cons, List.sum_nil]
  omega

/-- Where the payload is normalised without an error, it stays what it is. -/
theorem eq_payload_of_normalize (hnfc : Value.NfcIdempotent) (hascii : NfcAscii)
    (h : Prepared arguments intent) {y : Json} {m : ℕ}
    (hy : normalize 0 0 intent.payload = .ok (y, m)) : y = intent.payload := by
  rw [payload, normalize] at hy
  simp only [bind_eq_ok, Except.ok.injEq, Prod.mk.injEq] at hy
  obtain ⟨_, -, _, -, ⟨fs, k⟩, hfs, rfl, -⟩ := hy
  rw [Value.eq_of_normalizeFields intent.payloadFields 0 _ _ _ fs k
    (h.canonicalFields hnfc hascii) hfs]
  rfl

/-- The payload is normalised without an error exactly if its levels and nodes are within the limits. -/
theorem normalize_payload_iff (hnfc : Value.NfcIdempotent) (hascii : NfcAscii)
    (h : Prepared arguments intent) :
    (∃ y m, normalize 0 0 intent.payload = .ok (y, m)) ↔
      (∀ value ∈ intent.canonicalValues, Value.depth value + 1 ≤ maxCanonicalDepth) ∧
        (intent.canonicalValues.map Value.nodeCount).sum + 7 ≤ maxCanonicalNodes := by
  have hfields := h.canonicalFields hnfc hascii
  rw [← nodeCount_payload]
  constructor
  · rintro ⟨y, m, hy⟩
    rw [eq_payload_of_normalize hnfc hascii h hy, ← Value.normalize_ofJson] at hy
    obtain ⟨hcanonical, hm, hle⟩ := Value.canonical_of_normalize hnfc _ 0 0 _ m hy
    refine ⟨?_, by omega⟩
    have hone : Value.CanonicalFields 1 intent.payloadFields := hcanonical.2.2.2
    obtain ⟨-, -, -, -, -, -, -, -, -, -, -, h₁, -, h₂, -, h₃, -, h₄, -⟩ := hone
    intro value hvalue
    simp only [canonicalValues, List.mem_cons, List.not_mem_nil, or_false] at hvalue
    rw [Nat.add_comm]
    rcases hvalue with rfl | rfl | rfl | rfl
    · exact Value.depth_le_of_canonical _ 1 h₁
    · exact Value.depth_le_of_canonical _ 1 h₂
    · exact Value.depth_le_of_canonical _ 1 h₃
    · exact Value.depth_le_of_canonical _ 1 h₄
  · rintro ⟨hdepth, hnodes⟩
    have hone : Value.CanonicalFields 1 intent.payloadFields := by
      refine Value.canonicalFields_of_depth_le _ 0 0 hfields ?_
      simp only [canonicalValues, List.mem_cons, List.not_mem_nil, or_false, forall_eq_or_imp,
        forall_eq] at hdepth
      obtain ⟨h₁, h₂, h₃, h₄⟩ := hdepth
      have hpos : 1 ≤ maxCanonicalDepth := by decide
      simp only [payloadFields, Value.depthFields, Value.depth]
      omega
    have hcanonical : Value.Canonical 0 intent.payload :=
      ⟨Nat.zero_le _, ten_le_maxCanonicalCollectionItems, nodup_payloadFields intent, hone⟩
    exact ⟨_, _, Value.normalize_of_canonical _ 0 0 hcanonical (by omega)⟩

theorem sortKeys_payload (hnfc : Value.NfcIdempotent) (h : Prepared arguments intent) :
    Json.sortKeys intent.payload = .obj intent.sortedFields := by
  have h₁ := (h.resourceTarget.canonical hnfc).2
  have h₂ := (h.targetPrecondition.canonical hnfc).2
  have h₃ := (h.normalizedMutationIntent.canonical hnfc).2
  have h₄ := (h.rollbackSnapshot.canonical hnfc).2
  simp [payload, sortedFields, Json.sortKeys, Json.sortFields, Json.insertField, Json.keyLt, h₁, h₂,
    h₃, h₄]

/-- The size of the text that is hashed. -/
theorem textSize_sortedFields (h : Prepared arguments intent) :
    textSize (.obj intent.sortedFields) = (intent.canonicalValues.map textSize).sum +
      (intent.texts.map fun text => textSize (.str text)).sum + 205 := by
  have hkeys : ((intent.sortedFields.map Prod.fst).map fun key =>
      charsSize (Json.dumpString false key) + 2).sum = 203 := by
    have hclosed : ((["adapter_version", "capability", "endpoint_symbol", "http_method",
        "normalized_mutation_intent", "resource_target", "rollback_plan_version",
        "rollback_snapshot", "schema_version", "target_precondition"] : List String).map fun key =>
          charsSize (Json.dumpString false key) + 2).sum = 203 := by decide +kernel
    exact hclosed
  have hone : textSize (.int intent.schemaVersion) = 1 := by
    rw [h.schemaVersion, textSize_eq]
    decide +kernel
  have hfields : ∀ fields : List (String × Json), fieldsSize fields =
      ((fields.map Prod.fst).map fun key => charsSize (Json.dumpString false key) + 2).sum +
        (fields.map fun f => textSize f.2).sum := by
    intro fields
    induction fields with
    | nil => rfl
    | cons f fields ih =>
      simp only [fieldsSize, List.map_cons, List.sum_cons] at ih ⊢
      rw [ih, textSize_eq (.str f.1), Json.dumpValue]
      omega
  rw [sortedFields, textSize_obj, hfields, ← sortedFields, hkeys]
  simp only [sortedFields, canonicalValues, texts, List.map_cons, List.map_nil, List.sum_cons,
    List.sum_nil, hone]
  omega

omit [Platform] in
/-- The context of the digest can be framed. -/
theorem exists_framedContext : ∃ framed, Value.frameContext
    (Text.ofString domainPrefix :: Text.ofString DigestPurpose.executionIntent.value ::
      [Text.ofString "PreparedExecutionIntentV1"]) = .ok framed := by
  obtain ⟨framed, hframed, -⟩ := Value.exists_frameContext
    [domainPrefix, DigestPurpose.executionIntent.value, "PreparedExecutionIntentV1"] (by decide)
  refine ⟨framed, ?_⟩
  rw [← hframed, ← Value.frameContext_ofString]
  rfl

/-- The bytes of the digest exist exactly if the payload is within the limits. -/
theorem digestInput_iff (hnfc : Value.NfcIdempotent) (hascii : NfcAscii)
    (h : Prepared arguments intent) :
    (∃ message, intent.digestInput = .ok message) ↔ WithinLimits intent := by
  obtain ⟨parts, hparts⟩ := exists_framedContext
  have hsize := textSize_sortedFields h
  have hnormalize := normalize_payload_iff hnfc hascii h
  have hlength : ∀ y m, normalize 0 0 intent.payload = .ok (y, m) →
      (Bytes.encodeUtf8 (Json.dumps false y.sortKeys)).length =
        textSize (.obj intent.sortedFields) := by
    intro y m hy
    rw [eq_payload_of_normalize hnfc hascii h hy, sortKeys_payload hnfc h]
    rfl
  rw [hsize] at hlength
  constructor
  · rintro ⟨message, hmessage⟩
    obtain ⟨-, body, -, hbody, -⟩ := Value.digestMessage_eq_ok hmessage
    obtain ⟨y, m, hy, hle, rfl⟩ := Value.canonicalJson_eq_ok.mp hbody
    rw [Value.normalize_ofJson] at hy
    obtain ⟨hdepth, hnodes⟩ := hnormalize.mp ⟨y, m, hy⟩
    exact ⟨hdepth, hnodes, hlength y m hy ▸ hle⟩
  · rintro ⟨hdepth, hnodes, hbytes⟩
    obtain ⟨y, m, hy⟩ := hnormalize.mpr ⟨hdepth, hnodes⟩
    have hle := (hlength y m hy).le.trans hbytes
    have hbody : Value.canonicalJson (Value.ofJson intent.payload) =
        .ok (Bytes.encodeUtf8 (Json.dumps false y.sortKeys)) :=
      Value.canonicalJson_eq_ok.mpr ⟨y, m, by rw [Value.normalize_ofJson, hy], hle, rfl⟩
    obtain ⟨framed, hframed⟩ := Value.exists_frameBytes
      (hle.trans_lt (by unfold maxCanonicalBytes; decide))
    refine ⟨parts ++ framed, ?_⟩
    have hcontext : ([Text.ofString "PreparedExecutionIntentV1"] : List Text).length ≤ 16 := by
      rw [List.length_singleton]
      decide
    simp only [digestInput, Value.digestMessage, demand_of hcontext, ok_bind, hparts, hbody, hframed]

/-- The normal form of the payload is the payload itself. -/
theorem normalForm_payload (hnfc : Value.NfcIdempotent) (hascii : NfcAscii)
    (h : Prepared arguments intent) {message : Bytes} (hmessage : intent.digestInput = .ok message) :
    Value.normalForm (Value.ofJson intent.payload) = some intent.payload.unordered := by
  obtain ⟨-, body, -, hbody, -⟩ := Value.digestMessage_eq_ok hmessage
  obtain ⟨y, m, hy, -, -⟩ := Value.canonicalJson_eq_ok.mp hbody
  rw [Value.normalForm_of_normalize _ 0 0 y m hy]
  rw [Value.normalize_ofJson] at hy
  rw [eq_payload_of_normalize hnfc hascii h hy]

omit [Platform] in
theorem capability_eq_of_name {c c' : Capability} (h : c.isWrite = true) (h' : c'.isWrite = true)
    (hname : c.name = c'.name) : c = c' := by
  have hname' := Capability.ofName_name h
  rw [hname, Capability.ofName_name h'] at hname'
  exact (Option.some.inj hname').symm

/-- Intents with the same hashed bytes have the same fields. -/
theorem eq_of_digestInput (hnfc : Value.NfcIdempotent) (hascii : NfcAscii)
    {arguments' : IntentArguments} {intent' : PreparedExecutionIntent}
    (h : Prepared arguments intent) (h' : Prepared arguments' intent') {message : Bytes}
    (hmessage : intent.digestInput = .ok message)
    (hmessage' : intent'.digestInput = .ok message) : intent' = intent := by
  obtain ⟨-, -, n, hn, hn'⟩ := Value.eq_of_digestMessage hnfc hmessage' hmessage
  rw [normalForm_payload hnfc hascii h' hmessage', Option.some.injEq] at hn
  rw [normalForm_payload hnfc hascii h hmessage, Option.some.injEq] at hn'
  have hfields : Json.unorderedFields intent'.payloadFields =
      Json.unorderedFields intent.payloadFields :=
    Unordered.obj.inj (hn.trans hn'.symm)
  -- the maps agree at every key
  have hcapability := congrFun hfields "capability"
  have hendpoint := congrFun hfields "endpoint_symbol"
  have hmethod := congrFun hfields "http_method"
  have hadapter := congrFun hfields "adapter_version"
  have htarget := congrFun hfields "resource_target"
  have hprecondition := congrFun hfields "target_precondition"
  have hmutation := congrFun hfields "normalized_mutation_intent"
  have hsnapshot := congrFun hfields "rollback_snapshot"
  have hplan := congrFun hfields "rollback_plan_version"
  simp [payloadFields, Json.unorderedFields, Json.unordered] at hcapability hendpoint hmethod hadapter
  simp [payloadFields, Json.unorderedFields] at htarget hprecondition hmutation hsnapshot
  simp [payloadFields, Json.unorderedFields, Json.unordered] at hplan
  have hversion : intent'.schemaVersion = intent.schemaVersion := by
    rw [h.schemaVersion, h'.schemaVersion]
  obtain ⟨_, _, _, _, _, _, _, _, _, _⟩ := intent
  obtain ⟨_, _, _, _, _, _, _, _, _, _⟩ := intent'
  rw [PreparedExecutionIntent.mk.injEq]
  exact ⟨hversion, capability_eq_of_name h'.capability h.capability hcapability, hendpoint, hmethod,
    hadapter, hplan, h'.resourceTarget.eq_of_unordered hnfc h.resourceTarget htarget,
    h'.targetPrecondition.eq_of_unordered hnfc h.targetPrecondition hprecondition,
    h'.normalizedMutationIntent.eq_of_unordered hnfc h.normalizedMutationIntent hmutation,
    h'.rollbackSnapshot.eq_of_unordered hnfc h.rollbackSnapshot hsnapshot⟩

end Payload

end PreparedExecutionIntent

end Model

/-- A constructed intent has a digest that binds every field exactly if its four values are within
the limits together and one level deeper. -/
theorem PreparedExecutionIntent.digestBinds_iff [Platform] (hnfc : Value.NfcIdempotent)
    (hascii : NfcAscii) {arguments : IntentArguments} {intent : PreparedExecutionIntent}
    (h : PreparedExecutionIntent.new arguments = .ok intent) :
    DigestBinds arguments intent ↔ WithinLimits intent := by
  have hprepared := prepared_of_new h
  have hreturns : (∃ digest, intent.computeExecutionIntentDigest = .ok digest) ↔
      ∃ message, intent.digestInput = .ok message := by
    rw [computeExecutionIntentDigest_eq]
    cases intent.digestInput with
    | error e => simp [Bind.bind, Except.bind]
    | ok message => simp [ok_bind]
  rw [← digestInput_iff hnfc hascii hprepared, ← hreturns]
  constructor
  · exact fun hbinds => hbinds.returns
  · intro hdigest
    refine ⟨hdigest, hprepared.resourceTarget.thaws hnfc, hprepared.targetPrecondition.thaws hnfc,
      hprepared.normalizedMutationIntent.thaws hnfc, hprepared.rollbackSnapshot.thaws hnfc, ?_⟩
    intro arguments' intent' message h' hmessage hmessage'
    exact eq_of_digestInput hnfc hascii hprepared (prepared_of_new h') hmessage hmessage'

section Sample

attribute [local instance] Sample.platform

namespace PreparedExecutionIntent

/-- A list in a list, and so on. -/
def nested : ℕ → Value
  | 0 => .list []
  | n + 1 => .list [nested n]

/-- The arguments of an intent with a target that is nested to a given depth. -/
def sampleArguments (n : ℕ) : IntentArguments where
  schemaVersion := .int 1
  capability := some .aliasWrite
  endpointSymbol := .str (Text.ofString "FIREWALL_ALIAS")
  httpMethod := .str (Text.ofString "PATCH")
  adapterVersion := .str (Text.ofString "v1")
  rollbackPlanVersion := .str (Text.ofString "v1")
  resourceTarget := nested n
  targetPrecondition := .int 1
  normalizedMutationIntent := .dict []
  rollbackSnapshot := .int 1

theorem exists_sampleIntent : ∃ intent, new (sampleArguments 0) = .ok intent := by
  have hok : (new (sampleArguments 0)).isOk = true := by decide +kernel
  cases h : new (sampleArguments 0) with
  | error e => rw [h] at hok; cases hok
  | ok intent => exact ⟨intent, rfl⟩

theorem digestBinds_sample : ∃ intent, new (sampleArguments 0) = .ok intent ∧
    (DigestBinds (sampleArguments 0) intent ↔ WithinLimits intent) := by
  obtain ⟨intent, h⟩ := exists_sampleIntent
  exact ⟨intent, h, digestBinds_iff (fun _ => rfl) (fun _ _ => rfl) h⟩

/-- A target that is nested as deep as the limit allows leaves an intent without a digest. -/
theorem constructed_without_digest : ∃ intent, new (sampleArguments 32) = .ok intent ∧
    ∀ digest, intent.computeExecutionIntentDigest ≠ .ok digest := by
  have hfails : (new (sampleArguments 32) >>= computeExecutionIntentDigest).isOk = false := by
    decide +kernel
  have hok : (new (sampleArguments 32)).isOk = true := by decide +kernel
  cases h : new (sampleArguments 32) with
  | error e => rw [h] at hok; cases hok
  | ok intent =>
    refine ⟨intent, rfl, fun digest hdigest => ?_⟩
    rw [h, ok_bind, hdigest] at hfails
    cases hfails

end PreparedExecutionIntent

end Sample

end Tier1
