import PfsenseMcp.Python.JsonOrder
import PfsenseMcp.Tier1.Canonical

/-!
# Normal forms of canonical values

`canonical_json` takes any Python object. Here `_normalize`, `canonical_json` and `digest_value`
are followed on all of them, the refused ones included, and compared with the normal form of a
value: tuples as lists, texts and keys in normalisation form C, dictionaries as maps. On the values
that `json.loads` returns they are the functions of `Tier1.Canonical`.

## Main results

* `Value.canonicalJson_ofJson`, `Value.digestValue_ofJson`: the comparison with `Tier1.Canonical`;
* `Value.canonicalJson_injective_stable`: two accepted values are encoded alike exactly when they
  have the same normal form, an encoding is read and encoded again to itself, and the hashed bytes
  of a digest determine purpose, context and normal form.
-/

namespace Tier1

open Python

/-! ### Python objects -/

/-- A `str`: a sequence of code points, among which there may be surrogates. -/
abbrev Text := List (Fin 0x110000)

namespace Text

/-- The text of a string without surrogates. -/
def ofString (s : String) : Text :=
  s.toList.map fun c => ⟨c.toNat, by rcases Json.toNat_cases c with h | h <;> omega⟩

/-- The Unicode scalar value of a code point, if it is no surrogate. -/
def scalar (c : Fin 0x110000) : Option Char :=
  if c.val < 0xd800 ∨ 0xe000 ≤ c.val then some (Char.ofNat c.val) else none

/-- The scalar values of a text; `none` if it has a surrogate, so that no encoding accepts it. -/
def scalars : Text → Option (List Char)
  | [] => some []
  | c :: cs => do
    let c ← scalar c
    let cs ← scalars cs
    return c :: cs

/-- A text without surrogates as a string. -/
def toString? (t : Text) : Option String := (scalars t).map String.ofList

theorem scalar_ofChar (c : Char) (h : c.toNat < 0x110000) : scalar ⟨c.toNat, h⟩ = some c := by
  rw [scalar, if_pos, Char.ofNat_toNat]
  rcases Json.toNat_cases c with h' | h'
  · exact Or.inl h'
  · exact Or.inr h'.1

@[simp]
theorem toString?_ofString (s : String) : toString? (ofString s) = some s := by
  have h : ∀ cs : List Char, scalars (ofString (String.ofList cs)) = some cs := by
    intro cs
    induction cs with
    | nil => rfl
    | cons c cs ih =>
      simp only [ofString, String.toList_ofList, List.map_cons] at ih ⊢
      rw [scalars, scalar_ofChar, ih]
      rfl
  have hs := h s.toList
  rw [String.ofList_toList] at hs
  rw [toString?, hs, Option.map_some, String.ofList_toList]

theorem scalar_injective {c d : Fin 0x110000} {x : Char} (hc : scalar c = some x)
    (hd : scalar d = some x) : c = d := by
  have hval : ∀ {c : Fin 0x110000}, scalar c = some x → x.toNat = c.val := by
    intro c h
    simp only [scalar, Option.ite_none_right_eq_some, Option.some.injEq] at h
    obtain ⟨hvalid, rfl⟩ := h
    have hchar : c.val.isValidChar := by
      rcases hvalid with h | h
      · exact Or.inl h
      · exact Or.inr ⟨by omega, c.isLt⟩
    rw [Char.ofNat, dif_pos hchar]
    rfl
  exact Fin.ext ((hval hc).symm.trans (hval hd))

/-- A string is the text of one sequence of code points only. -/
theorem toString?_injective {t u : Text} {s : String} (ht : toString? t = some s)
    (hu : toString? u = some s) : t = u := by
  have h : ∀ (t u : Text) (cs : List Char), scalars t = some cs → scalars u = some cs → t = u := by
    intro t
    induction t with
    | nil =>
      intro u cs ht hu
      cases ht
      cases u with
      | nil => rfl
      | cons d u =>
        simp only [scalars, Option.bind_eq_bind, Option.bind_eq_some_iff] at hu
        obtain ⟨_, -, _, -, h⟩ := hu
        cases h
    | cons c t ih =>
      intro u cs ht hu
      simp only [scalars, Option.bind_eq_bind, Option.bind_eq_some_iff, Option.pure_def,
        Option.some.injEq] at ht
      obtain ⟨x, hx, xs, hxs, rfl⟩ := ht
      cases u with
      | nil => cases hu
      | cons d u =>
        simp only [scalars, Option.bind_eq_bind, Option.bind_eq_some_iff, Option.pure_def,
          Option.some.injEq, List.cons.injEq] at hu
        obtain ⟨y, hy, ys, hys, rfl, rfl⟩ := hu
        rw [scalar_injective hx hy, ih u _ hxs hys]
  obtain ⟨cs, hcs, rfl⟩ := Option.map_eq_some_iff.mp ht
  obtain ⟨ds, hds, heq⟩ := Option.map_eq_some_iff.mp hu
  have hcd : cs = ds := by
    rw [← String.toList_ofList (l := cs), ← heq, String.toList_ofList]
  exact h t u cs hcs (hcd ▸ hds)

end Text

/-- A key of a dictionary. -/
inductive Key where
  | str (value : Text)
  /-- A key of another type. -/
  | other
deriving DecidableEq

/-- A Python object, as `_normalize` looks at it. -/
inductive Value : Type
  | none
  | bool (value : Bool)
  | int (value : ℤ)
  | float (text : String)
  | str (value : Text)
  | list (items : List Value)
  | tuple (items : List Value)
  | dict (fields : List (Key × Value))
  /-- An object of another type. -/
  | other

namespace Value

section Model

variable [Platform]

/-! ### Normalisation -/

/-- `_normalized_string`. -/
def normalizedString (value : Text) : Except Error String :=
  match value.toString? with
  | some s => Tier1.normalizedString s
  | .none => fail .canonicalization "Canonical strings must be valid UTF-8 scalar values."

/-- The check of the type of a key, and its normalisation. -/
def normalizedKey : Key → Except Error String
  | .str value => normalizedString value
  | .other => fail .canonicalization "Canonical object keys must be strings."

mutual

/-- `_normalize`: the normalised value and the number of nodes seen so far. -/
def normalize (depth nodes : ℕ) : Value → Except Error (Json × ℕ)
  | .none => do
    let nodes ← enterNode depth nodes
    .ok (.null, nodes)
  | .bool b => do
    let nodes ← enterNode depth nodes
    .ok (.bool b, nodes)
  | .int n => do
    let nodes ← enterNode depth nodes
    demand (-(2 ^ 63) ≤ n ∧ n ≤ 2 ^ 63 - 1) .canonicalization
      "Canonical integer exceeds the signed 64-bit range."
    .ok (.int n, nodes)
  | .float _ => do
    let _ ← enterNode depth nodes
    fail .canonicalization
      "Floating-point values require a capability-specific exact representation."
  | .str s => do
    let nodes ← enterNode depth nodes
    let s ← normalizedString s
    .ok (.str s, nodes)
  | .list items => do
    let nodes ← enterNode depth nodes
    demand (items.length ≤ maxCanonicalCollectionItems) .canonicalization
      "Canonical collection exceeds the item limit."
    let (items, nodes) ← normalizeItems (depth + 1) nodes items
    .ok (.arr items, nodes)
  | .tuple items => do
    let nodes ← enterNode depth nodes
    demand (items.length ≤ maxCanonicalCollectionItems) .canonicalization
      "Canonical collection exceeds the item limit."
    let (items, nodes) ← normalizeItems (depth + 1) nodes items
    .ok (.arr items, nodes)
  | .dict fields => do
    let nodes ← enterNode depth nodes
    demand (fields.length ≤ maxCanonicalCollectionItems) .canonicalization
      "Canonical collection exceeds the item limit."
    let (fields, nodes) ← normalizeFields (depth + 1) nodes [] fields
    .ok (.obj fields, nodes)
  | .other => do
    let _ ← enterNode depth nodes
    fail .canonicalization "Value type is not supported by the canonical contract format."

/-- The items of a list or a tuple, in order. -/
def normalizeItems (depth nodes : ℕ) : List Value → Except Error (List Json × ℕ)
  | [] => .ok ([], nodes)
  | item :: items => do
    let (item, nodes) ← normalize depth nodes item
    let (items, nodes) ← normalizeItems depth nodes items
    .ok (item :: items, nodes)

/-- The fields of a dictionary, in order; `seen` are the keys normalised before. -/
def normalizeFields (depth nodes : ℕ) (seen : List String) :
    List (Key × Value) → Except Error (List (String × Json) × ℕ)
  | [] => .ok ([], nodes)
  | (key, item) :: fields => do
    let key ← normalizedKey key
    demand (key ∉ seen) .canonicalization "Unicode normalization produced duplicate object keys."
    let (item, nodes) ← normalize depth nodes item
    let (fields, nodes) ← normalizeFields depth nodes (key :: seen) fields
    .ok ((key, item) :: fields, nodes)

end

/-- `canonical_json`. -/
def canonicalJson (value : Value) : Except Error Bytes := do
  let (normalized, _) ← normalize 0 0 value
  let encoded := Bytes.encodeUtf8 (Json.dumps false (Json.sortKeys normalized))
  demand (encoded.length ≤ maxCanonicalBytes) .canonicalization
    "Canonical representation exceeds the byte limit."
  .ok encoded

omit [Platform] in
/-- `frame_str`. -/
def frameStr (value : Text) : Except Error Bytes :=
  match value.toString? with
  | some s => Tier1.frameStr s
  | .none => fail .canonicalization "Digest context must contain valid UTF-8 scalar values."

omit [Platform] in
/-- The frames of the parts of a digest context. -/
def frameContext : List Text → Except Error Bytes
  | [] => .ok []
  | part :: parts => do
    let framed ← frameStr part
    let rest ← frameContext parts
    .ok (framed ++ rest)

/-- The bytes that `digest_value` hashes. -/
def digestMessage (purpose : DigestPurpose) (value : Value) (context : List Text) :
    Except Error Bytes := do
  demand (context.length ≤ 16) .canonicalization "Digest context has too many components."
  let parts ← frameContext (Text.ofString domainPrefix :: Text.ofString purpose.value :: context)
  let body ← canonicalJson value
  let framed ← frameBytes body
  .ok (parts ++ framed)

/-- `digest_value`. -/
def digestValue (purpose : DigestPurpose) (value : Value) (context : List Text) :
    Except Error String := do
  let message ← digestMessage purpose value context
  .ok (Platform.sha256 message)

/-! ### Comparison with the values that are read -/

omit [Platform] in
mutual

/-- The object that `json.loads` returns for a JSON value. -/
def ofJson : Json → Value
  | .null => .none
  | .bool b => .bool b
  | .int n => .int n
  | .float t => .float t
  | .str s => .str (Text.ofString s)
  | .arr items => .list (ofJsonItems items)
  | .obj fields => .dict (ofJsonFields fields)

/-- `ofJson` of every item. -/
def ofJsonItems : List Json → List Value
  | [] => []
  | x :: xs => ofJson x :: ofJsonItems xs

/-- `ofJson` of every field. -/
def ofJsonFields : List (String × Json) → List (Key × Value)
  | [] => []
  | (k, v) :: fs => (.str (Text.ofString k), ofJson v) :: ofJsonFields fs

end

theorem normalizedString_ofString (s : String) :
    normalizedString (Text.ofString s) = Tier1.normalizedString s := by
  rw [normalizedString, Text.toString?_ofString]

omit [Platform] in
theorem length_ofJsonItems (items : List Json) : (ofJsonItems items).length = items.length := by
  induction items with
  | nil => rfl
  | cons x xs ih => rw [ofJsonItems, List.length_cons, ih, List.length_cons]

omit [Platform] in
theorem length_ofJsonFields (fields : List (String × Json)) :
    (ofJsonFields fields).length = fields.length := by
  induction fields with
  | nil => rfl
  | cons f fs ih =>
    obtain ⟨k, v⟩ := f
    rw [ofJsonFields, List.length_cons, ih, List.length_cons]

mutual

/-- On a value that was read, `_normalize` is the function of `Tier1.Canonical`. -/
theorem normalize_ofJson (depth nodes : ℕ) : ∀ v : Json,
    normalize depth nodes (ofJson v) = Tier1.normalize depth nodes v
  | .null => by simp only [ofJson, normalize, Tier1.normalize]
  | .bool _ => by simp only [ofJson, normalize, Tier1.normalize]
  | .int _ => by simp only [ofJson, normalize, Tier1.normalize]
  | .float _ => by simp only [ofJson, normalize, Tier1.normalize]
  | .str s => by simp only [ofJson, normalize, Tier1.normalize, normalizedString_ofString]
  | .arr items => by
    simp only [ofJson, normalize, Tier1.normalize, length_ofJsonItems,
      fun d n => normalizeItems_ofJsonItems d n items]
  | .obj fields => by
    simp only [ofJson, normalize, Tier1.normalize, length_ofJsonFields,
      fun d n seen => normalizeFields_ofJsonFields d n seen fields]

/-- `normalize_ofJson` for the items of a list. -/
theorem normalizeItems_ofJsonItems (depth nodes : ℕ) : ∀ items : List Json,
    normalizeItems depth nodes (ofJsonItems items) = Tier1.normalizeItems depth nodes items
  | [] => by simp only [ofJsonItems, normalizeItems, Tier1.normalizeItems]
  | x :: xs => by
    simp only [ofJsonItems, normalizeItems, Tier1.normalizeItems,
      normalize_ofJson depth nodes x, fun n => normalizeItems_ofJsonItems depth n xs]

/-- `normalize_ofJson` for the fields of a dictionary. -/
theorem normalizeFields_ofJsonFields (depth nodes : ℕ) (seen : List String) :
    ∀ fields : List (String × Json),
    normalizeFields depth nodes seen (ofJsonFields fields) =
      Tier1.normalizeFields depth nodes seen fields
  | [] => by simp only [ofJsonFields, normalizeFields, Tier1.normalizeFields]
  | (k, v) :: fs => by
    simp only [ofJsonFields, normalizeFields, Tier1.normalizeFields, normalizedKey,
      normalizedString_ofString, normalize_ofJson depth nodes v,
      fun n seen => normalizeFields_ofJsonFields depth n seen fs]

end

/-- On a value that was read, `canonical_json` is the function of `Tier1.Canonical`. -/
theorem canonicalJson_ofJson (v : Json) : canonicalJson (ofJson v) = Tier1.canonicalJson v := by
  simp only [canonicalJson, Tier1.canonicalJson, normalize_ofJson]

omit [Platform] in
theorem frameContext_ofString (parts : List String) :
    frameContext (parts.map Text.ofString) = Tier1.frameContext parts := by
  induction parts with
  | nil => rfl
  | cons part parts ih =>
    simp only [List.map_cons, frameContext, Tier1.frameContext, frameStr,
      Text.toString?_ofString, ih]

/-- On a value that was read, `digest_value` is the function of `Tier1.Canonical`. -/
theorem digestValue_ofJson (purpose : DigestPurpose) (v : Json) (context : List String) :
    digestValue purpose (ofJson v) (context.map Text.ofString) =
      Tier1.digestValue purpose v context := by
  have hparts := frameContext_ofString (domainPrefix :: purpose.value :: context)
  rw [List.map_cons, List.map_cons] at hparts
  simp only [digestValue, digestMessage, Tier1.digestValue, canonicalJson_ofJson, hparts,
    List.length_map, bind_assoc, ok_bind]

/-! ### Normal forms -/

mutual

/-- The normal form of a value: tuples as lists, texts and keys in normalisation form C, and
dictionaries as maps. A float, an unsupported object and a text with surrogates have none. -/
def normalForm : Value → Option Unordered
  | .none => some .null
  | .bool b => some (.bool b)
  | .int n => some (.int n)
  | .float _ => .none
  | .str t => t.toString?.map fun s => .str (Platform.nfc s)
  | .list items => (normalFormItems items).map .arr
  | .tuple items => (normalFormItems items).map .arr
  | .dict fields => (normalFormFields fields).map fun fs => .obj fun key => fs.lookup key
  | .other => .none

/-- `normalForm` of every item. -/
def normalFormItems : List Value → Option (List Unordered)
  | [] => some []
  | x :: xs => do
    let x ← normalForm x
    let xs ← normalFormItems xs
    return x :: xs

/-- The normalised keys and the normal forms of the fields of a dictionary. -/
def normalFormFields : List (Key × Value) → Option (List (String × Unordered))
  | [] => some []
  | (.str k, v) :: fs => do
    let k ← k.toString?
    let v ← normalForm v
    let fs ← normalFormFields fs
    return (Platform.nfc k, v) :: fs
  | (.other, _) :: _ => .none

end

theorem eq_of_normalizedString {t : Text} {s : String} (h : normalizedString t = .ok s) :
    ∃ u, t.toString? = some u ∧ s = Platform.nfc u ∧
      (Bytes.encodeUtf8 s).length ≤ maxCanonicalStringBytes := by
  unfold normalizedString at h
  cases ht : t.toString? with
  | none => rw [ht] at h; cases h
  | some u =>
    rw [ht] at h
    simp only [Tier1.normalizedString, fail] at h
    split_ifs at h with hlen
    cases h
    exact ⟨u, rfl, rfl, Nat.le_of_not_lt hlen⟩

omit [Platform] in
/-- Looking up a key in the list of fields is the map of the list. -/
theorem lookup_eq_unorderedFields (fields : List (String × Json)) :
    (fun key => (fields.map fun f => (f.1, f.2.unordered)).lookup key) =
      Json.unorderedFields fields := by
  funext key
  induction fields with
  | nil => rfl
  | cons f fs ih =>
    obtain ⟨k, v⟩ := f
    rw [Json.unorderedFields, ← ih, List.map_cons, List.lookup_cons]
    by_cases h : key = k
    · simp only [h, beq_self_eq_true, if_true]
    · simp only [h, beq_eq_false_iff_ne.mpr h, if_false]

mutual

/-- A normalised value is the normal form, with an order of the fields. -/
theorem normalForm_of_normalize : ∀ (v : Value) (depth nodes : ℕ) (y : Json) (m : ℕ),
    normalize depth nodes v = .ok (y, m) → normalForm v = some y.unordered
  | .none, _, _, y, _, h => by
    simp only [normalize, bind_eq_ok] at h
    obtain ⟨_, -, h⟩ := h
    cases h
    simp only [normalForm, Json.unordered]
  | .bool b, _, _, y, _, h => by
    simp only [normalize, bind_eq_ok] at h
    obtain ⟨_, -, h⟩ := h
    cases h
    simp only [normalForm, Json.unordered]
  | .int n, _, _, y, _, h => by
    simp only [normalize, bind_eq_ok] at h
    obtain ⟨_, -, _, -, h⟩ := h
    cases h
    simp only [normalForm, Json.unordered]
  | .float _, _, _, y, _, h => by
    simp only [normalize, bind_eq_ok] at h
    obtain ⟨_, -, h⟩ := h
    cases h
  | .str t, _, _, y, _, h => by
    simp only [normalize, bind_eq_ok] at h
    obtain ⟨_, -, s, hs, h⟩ := h
    cases h
    obtain ⟨u, hu, rfl, -⟩ := eq_of_normalizedString hs
    simp only [normalForm, hu, Option.map_some, Json.unordered]
  | .list items, _, _, y, _, h => by
    simp only [normalize, bind_eq_ok] at h
    obtain ⟨_, -, _, -, ⟨ys, _⟩, hitems, h⟩ := h
    cases h
    simp only [normalForm, normalFormItems_of_normalize items _ _ _ _ hitems, Option.map_some,
      Json.unordered]
  | .tuple items, _, _, y, _, h => by
    simp only [normalize, bind_eq_ok] at h
    obtain ⟨_, -, _, -, ⟨ys, _⟩, hitems, h⟩ := h
    cases h
    simp only [normalForm, normalFormItems_of_normalize items _ _ _ _ hitems, Option.map_some,
      Json.unordered]
  | .dict fields, _, _, y, _, h => by
    simp only [normalize, bind_eq_ok] at h
    obtain ⟨_, -, _, -, ⟨fs, _⟩, hfields, h⟩ := h
    cases h
    simp only [normalForm, normalFormFields_of_normalize fields _ _ _ _ _ hfields,
      Option.map_some, Json.unordered, lookup_eq_unorderedFields]
  | .other, _, _, y, _, h => by
    simp only [normalize, bind_eq_ok] at h
    obtain ⟨_, -, h⟩ := h
    cases h

/-- `normalForm_of_normalize` for the items of a list. -/
theorem normalFormItems_of_normalize : ∀ (items : List Value) (depth nodes : ℕ) (ys : List Json)
    (m : ℕ), normalizeItems depth nodes items = .ok (ys, m) →
    normalFormItems items = some (Json.unorderedItems ys)
  | [], _, _, ys, _, h => by
    simp only [normalizeItems] at h
    cases h
    simp only [normalFormItems, Json.unorderedItems]
  | x :: xs, _, _, ys, _, h => by
    simp only [normalizeItems, bind_eq_ok] at h
    obtain ⟨⟨y, _⟩, hx, ⟨ys, _⟩, hxs, h⟩ := h
    cases h
    simp only [normalFormItems, normalForm_of_normalize x _ _ _ _ hx,
      normalFormItems_of_normalize xs _ _ _ _ hxs, Json.unorderedItems, Option.bind_eq_bind,
      Option.bind_some, Option.pure_def]

/-- `normalForm_of_normalize` for the fields of a dictionary. -/
theorem normalFormFields_of_normalize : ∀ (fields : List (Key × Value)) (depth nodes : ℕ)
    (seen : List String) (fs : List (String × Json)) (m : ℕ),
    normalizeFields depth nodes seen fields = .ok (fs, m) →
    normalFormFields fields = some (fs.map fun f => (f.1, f.2.unordered))
  | [], _, _, _, fs, _, h => by
    simp only [normalizeFields] at h
    cases h
    simp only [normalFormFields, List.map_nil]
  | (.str k, v) :: rest, _, _, _, fs, _, h => by
    simp only [normalizeFields, normalizedKey, bind_eq_ok] at h
    obtain ⟨key, hkey, _, -, ⟨y, _⟩, hv, ⟨ys, _⟩, hrest, h⟩ := h
    cases h
    obtain ⟨u, hu, rfl, -⟩ := eq_of_normalizedString hkey
    simp only [normalFormFields, hu, normalForm_of_normalize v _ _ _ _ hv,
      normalFormFields_of_normalize rest _ _ _ _ _ hrest, List.map_cons, Option.bind_eq_bind,
      Option.bind_some, Option.pure_def]
  | (.other, _) :: _, _, _, _, fs, _, h => by
    simp only [normalizeFields, normalizedKey, bind_eq_ok] at h
    obtain ⟨_, hkey, -⟩ := h
    cases hkey

end

/-! ### Canonical values -/

mutual

/-- A value that `_normalize` returns from a given depth. -/
def Canonical (depth : ℕ) : Json → Prop
  | .null => depth ≤ maxCanonicalDepth
  | .bool _ => depth ≤ maxCanonicalDepth
  | .int n => depth ≤ maxCanonicalDepth ∧ -(2 ^ 63) ≤ n ∧ n ≤ 2 ^ 63 - 1
  | .float _ => False
  | .str s => depth ≤ maxCanonicalDepth ∧ Tier1.normalizedString s = .ok s
  | .arr items => depth ≤ maxCanonicalDepth ∧ items.length ≤ maxCanonicalCollectionItems ∧
      CanonicalItems (depth + 1) items
  | .obj fields => depth ≤ maxCanonicalDepth ∧ fields.length ≤ maxCanonicalCollectionItems ∧
      (fields.map Prod.fst).Nodup ∧ CanonicalFields (depth + 1) fields

/-- `Canonical` for every item. -/
def CanonicalItems (depth : ℕ) : List Json → Prop
  | [] => True
  | x :: xs => Canonical depth x ∧ CanonicalItems depth xs

/-- `Canonical` for every field, with a normalised key. -/
def CanonicalFields (depth : ℕ) : List (String × Json) → Prop
  | [] => True
  | (k, v) :: fs => Tier1.normalizedString k = .ok k ∧ Canonical depth v ∧
      CanonicalFields depth fs

end

omit [Platform] in
mutual

/-- The number of nodes of a value. -/
def nodeCount : Json → ℕ
  | .arr items => nodeCountItems items + 1
  | .obj fields => nodeCountFields fields + 1
  | _ => 1

/-- The number of nodes of the items. -/
def nodeCountItems : List Json → ℕ
  | [] => 0
  | x :: xs => nodeCount x + nodeCountItems xs

/-- The number of nodes of the values of the fields. -/
def nodeCountFields : List (String × Json) → ℕ
  | [] => 0
  | (_, v) :: fs => nodeCount v + nodeCountFields fs

end

section Spec

omit [Platform] in
theorem enterNode_eq_ok {depth nodes n : ℕ} : enterNode depth nodes = .ok n ↔
    depth ≤ maxCanonicalDepth ∧ nodes + 1 ≤ maxCanonicalNodes ∧ n = nodes + 1 := by
  simp only [enterNode, bind_eq_ok, demand_eq_ok, Except.ok.injEq, exists_and_left, exists_const]
  exact ⟨fun h => ⟨h.1, h.2.1, h.2.2.symm⟩, fun h => ⟨h.1, h.2.1, h.2.2.symm⟩⟩

/-- Unicode normalisation is idempotent. -/
def NfcIdempotent : Prop := ∀ s, Platform.nfc (Platform.nfc s) = Platform.nfc s

/-- A normalised text is normalised to itself. -/
theorem normalizedString_self (hnfc : NfcIdempotent) {t : Text} {s : String}
    (h : normalizedString t = .ok s) :
    Tier1.normalizedString s = .ok s := by
  obtain ⟨u, -, rfl, hlen⟩ := eq_of_normalizedString h
  simp only [Tier1.normalizedString, hnfc u, if_neg (Nat.not_lt.mpr hlen)]

mutual

/-- What `_normalize` returns is canonical, and its nodes have been counted. -/
theorem canonical_of_normalize (hnfc : NfcIdempotent) : ∀ (v : Value) (depth nodes : ℕ)
    (y : Json) (m : ℕ), normalize depth nodes v = .ok (y, m) →
    Canonical depth y ∧ m = nodes + nodeCount y ∧ m ≤ maxCanonicalNodes
  | .none, depth, nodes, y, m, h => by
    simp only [normalize, bind_eq_ok, enterNode_eq_ok] at h
    obtain ⟨n, ⟨hd, hn, rfl⟩, h⟩ := h
    cases h
    exact ⟨hd, rfl, hn⟩
  | .bool b, depth, nodes, y, m, h => by
    simp only [normalize, bind_eq_ok, enterNode_eq_ok] at h
    obtain ⟨n, ⟨hd, hn, rfl⟩, h⟩ := h
    cases h
    exact ⟨hd, rfl, hn⟩
  | .int i, depth, nodes, y, m, h => by
    simp only [normalize, bind_eq_ok, enterNode_eq_ok, demand_eq_ok] at h
    obtain ⟨n, ⟨hd, hn, rfl⟩, _, hi, h⟩ := h
    cases h
    exact ⟨⟨hd, hi⟩, rfl, hn⟩
  | .float _, depth, nodes, y, m, h => by
    simp only [normalize, bind_eq_ok] at h
    obtain ⟨_, -, h⟩ := h
    cases h
  | .str t, depth, nodes, y, m, h => by
    simp only [normalize, bind_eq_ok, enterNode_eq_ok] at h
    obtain ⟨n, ⟨hd, hn, rfl⟩, s, hs, h⟩ := h
    cases h
    exact ⟨⟨hd, normalizedString_self hnfc hs⟩, rfl, hn⟩
  | .list items, depth, nodes, y, m, h => by
    simp only [normalize, bind_eq_ok, enterNode_eq_ok, demand_eq_ok] at h
    obtain ⟨n, ⟨hd, hn, rfl⟩, _, hlen, ⟨ys, k⟩, hitems, h⟩ := h
    cases h
    obtain ⟨hys, hlength, hm, hle⟩ := canonicalItems_of_normalize hnfc items _ _ _ _ hn hitems
    refine ⟨⟨hd, hlength ▸ hlen, hys⟩, ?_, hle⟩
    simp only [hm, nodeCount]
    omega
  | .tuple items, depth, nodes, y, m, h => by
    simp only [normalize, bind_eq_ok, enterNode_eq_ok, demand_eq_ok] at h
    obtain ⟨n, ⟨hd, hn, rfl⟩, _, hlen, ⟨ys, k⟩, hitems, h⟩ := h
    cases h
    obtain ⟨hys, hlength, hm, hle⟩ := canonicalItems_of_normalize hnfc items _ _ _ _ hn hitems
    refine ⟨⟨hd, hlength ▸ hlen, hys⟩, ?_, hle⟩
    simp only [hm, nodeCount]
    omega
  | .dict fields, depth, nodes, y, m, h => by
    simp only [normalize, bind_eq_ok, enterNode_eq_ok, demand_eq_ok] at h
    obtain ⟨n, ⟨hd, hn, rfl⟩, _, hlen, ⟨fs, k⟩, hfields, h⟩ := h
    cases h
    obtain ⟨hfs, hlength, hkeys, -, hm, hle⟩ :=
      canonicalFields_of_normalize hnfc fields _ _ _ _ _ hn hfields
    refine ⟨⟨hd, hlength ▸ hlen, hkeys, hfs⟩, ?_, hle⟩
    simp only [hm, nodeCount]
    omega
  | .other, depth, nodes, y, m, h => by
    simp only [normalize, bind_eq_ok] at h
    obtain ⟨_, -, h⟩ := h
    cases h

/-- `canonical_of_normalize` for the items of a list. -/
theorem canonicalItems_of_normalize (hnfc : NfcIdempotent) : ∀ (items : List Value)
    (depth nodes : ℕ) (ys : List Json) (m : ℕ), nodes ≤ maxCanonicalNodes →
    normalizeItems depth nodes items = .ok (ys, m) →
    CanonicalItems depth ys ∧ ys.length = items.length ∧ m = nodes + nodeCountItems ys ∧
      m ≤ maxCanonicalNodes
  | [], depth, nodes, ys, m, hn, h => by
    simp only [normalizeItems] at h
    cases h
    exact ⟨trivial, rfl, rfl, hn⟩
  | x :: xs, depth, nodes, ys, m, hn, h => by
    simp only [normalizeItems, bind_eq_ok] at h
    obtain ⟨⟨y, k⟩, hx, ⟨ys, l⟩, hxs, h⟩ := h
    cases h
    obtain ⟨hy, hk, hkle⟩ := canonical_of_normalize hnfc x _ _ _ _ hx
    obtain ⟨hys, hlength, hl, hlle⟩ := canonicalItems_of_normalize hnfc xs _ _ _ _ hkle hxs
    refine ⟨⟨hy, hys⟩, by rw [List.length_cons, hlength, List.length_cons], ?_, hlle⟩
    simp only [hl, hk, nodeCountItems]
    omega

/-- `canonical_of_normalize` for the fields of a dictionary: the keys differ from each other and
from the keys seen before. -/
theorem canonicalFields_of_normalize (hnfc : NfcIdempotent) : ∀ (fields : List (Key × Value))
    (depth nodes : ℕ) (seen : List String) (fs : List (String × Json)) (m : ℕ), nodes ≤ maxCanonicalNodes →
    normalizeFields depth nodes seen fields = .ok (fs, m) →
    CanonicalFields depth fs ∧ fs.length = fields.length ∧ (fs.map Prod.fst).Nodup ∧
      (∀ k ∈ fs.map Prod.fst, k ∉ seen) ∧ m = nodes + nodeCountFields fs ∧ m ≤ maxCanonicalNodes
  | [], depth, nodes, seen, fs, m, hn, h => by
    simp only [normalizeFields] at h
    cases h
    exact ⟨trivial, rfl, List.nodup_nil, nofun, rfl, hn⟩
  | (.str t, v) :: rest, depth, nodes, seen, fs, m, hn, h => by
    simp only [normalizeFields, normalizedKey, bind_eq_ok, demand_eq_ok] at h
    obtain ⟨key, hkey, _, hseen, ⟨y, k⟩, hv, ⟨ys, l⟩, hrest, h⟩ := h
    cases h
    obtain ⟨hy, hk, hkle⟩ := canonical_of_normalize hnfc v _ _ _ _ hv
    obtain ⟨hys, hlength, hkeys, hnew, hl, hlle⟩ :=
      canonicalFields_of_normalize hnfc rest _ _ _ _ _ hkle hrest
    refine ⟨⟨normalizedString_self hnfc hkey, hy, hys⟩, ?_, ?_, ?_, ?_, hlle⟩
    · rw [List.length_cons, hlength, List.length_cons]
    · rw [List.map_cons, List.nodup_cons]
      exact ⟨fun hmem => hnew key hmem List.mem_cons_self, hkeys⟩
    · intro k hk
      rw [List.map_cons, List.mem_cons] at hk
      rcases hk with rfl | hk
      · exact hseen
      · exact fun hmem => hnew k hk (List.mem_cons_of_mem _ hmem)
    · simp only [hl, hk, nodeCountFields]
      omega
  | (.other, _) :: _, depth, nodes, seen, fs, m, hn, h => by
    simp only [normalizeFields, normalizedKey, bind_eq_ok] at h
    obtain ⟨_, hkey, -⟩ := h
    cases hkey

end

end Spec

mutual

/-- A canonical value is normalised to itself, as long as its nodes fit. -/
theorem normalize_of_canonical : ∀ (y : Json) (depth nodes : ℕ), Canonical depth y →
    nodes + nodeCount y ≤ maxCanonicalNodes →
    Tier1.normalize depth nodes y = .ok (y, nodes + nodeCount y)
  | .null, depth, nodes, h, hn => by
    have henter := enterNode_eq_ok.mpr ⟨h, hn, rfl⟩
    simp only [Tier1.normalize, henter, ok_bind, nodeCount]
  | .bool b, depth, nodes, h, hn => by
    have henter := enterNode_eq_ok.mpr ⟨h, hn, rfl⟩
    simp only [Tier1.normalize, henter, ok_bind, nodeCount]
  | .int i, depth, nodes, h, hn => by
    have henter := enterNode_eq_ok.mpr ⟨h.1, hn, rfl⟩
    simp only [Tier1.normalize, henter, ok_bind, demand_of h.2, nodeCount]
  | .float _, depth, nodes, h, hn => h.elim
  | .str s, depth, nodes, h, hn => by
    have henter := enterNode_eq_ok.mpr ⟨h.1, hn, rfl⟩
    simp only [Tier1.normalize, henter, ok_bind, h.2, nodeCount]
  | .arr items, depth, nodes, h, hn => by
    rw [nodeCount] at hn
    have henter := enterNode_eq_ok.mpr ⟨h.1, (by omega : nodes + 1 ≤ maxCanonicalNodes), rfl⟩
    have hitems := normalizeItems_of_canonical items (depth + 1) (nodes + 1) h.2.2 (by omega)
    simp only [Tier1.normalize, henter, ok_bind, demand_of h.2.1, hitems, nodeCount]
    congr 2
    omega
  | .obj fields, depth, nodes, h, hn => by
    rw [nodeCount] at hn
    have henter := enterNode_eq_ok.mpr ⟨h.1, (by omega : nodes + 1 ≤ maxCanonicalNodes), rfl⟩
    have hfields := normalizeFields_of_canonical fields (depth + 1) (nodes + 1) [] h.2.2.2
      h.2.2.1 nofun (by omega)
    simp only [Tier1.normalize, henter, ok_bind, demand_of h.2.1, hfields, nodeCount]
    congr 2
    omega

/-- `normalize_of_canonical` for the items of a list. -/
theorem normalizeItems_of_canonical : ∀ (ys : List Json) (depth nodes : ℕ),
    CanonicalItems depth ys → nodes + nodeCountItems ys ≤ maxCanonicalNodes →
    Tier1.normalizeItems depth nodes ys = .ok (ys, nodes + nodeCountItems ys)
  | [], depth, nodes, _, hn => by
    simp only [Tier1.normalizeItems, nodeCountItems, Nat.add_zero]
  | y :: ys, depth, nodes, h, hn => by
    rw [nodeCountItems] at hn
    have hy := normalize_of_canonical y depth nodes h.1 (by omega)
    have hys := normalizeItems_of_canonical ys depth (nodes + nodeCount y) h.2 (by omega)
    simp only [Tier1.normalizeItems, hy, ok_bind, hys, nodeCountItems, Nat.add_assoc]

/-- `normalize_of_canonical` for the fields of a dictionary. -/
theorem normalizeFields_of_canonical : ∀ (fs : List (String × Json)) (depth nodes : ℕ)
    (seen : List String), CanonicalFields depth fs → (fs.map Prod.fst).Nodup →
    (∀ k ∈ fs.map Prod.fst, k ∉ seen) → nodes + nodeCountFields fs ≤ maxCanonicalNodes →
    Tier1.normalizeFields depth nodes seen fs = .ok (fs, nodes + nodeCountFields fs)
  | [], depth, nodes, seen, _, _, _, hn => by
    simp only [Tier1.normalizeFields, nodeCountFields, Nat.add_zero]
  | (k, v) :: fs, depth, nodes, seen, h, hkeys, hnew, hn => by
    rw [nodeCountFields] at hn
    rw [List.map_cons, List.nodup_cons] at hkeys
    have hk : k ∉ seen := hnew k (by rw [List.map_cons]; exact List.mem_cons_self)
    have hv := normalize_of_canonical v depth nodes h.2.1 (by omega)
    have hfs := normalizeFields_of_canonical fs depth (nodes + nodeCount v) (k :: seen) h.2.2
      hkeys.2 (by
        intro k' hk' hmem
        rcases List.mem_cons.mp hmem with rfl | hmem
        · exact hkeys.1 hk'
        · exact hnew k' (by rw [List.map_cons]; exact List.mem_cons_of_mem _ hk') hmem)
      (by omega)
    simp only [Tier1.normalizeFields, h.1, ok_bind, demand_of hk, hv, hfs, nodeCountFields,
      Nat.add_assoc]

end

/-! ### Sorted canonical values -/

theorem canonicalFields_insertField {depth : ℕ} {field : String × Json}
    {fs : List (String × Json)} (hkey : Tier1.normalizedString field.1 = .ok field.1)
    (hvalue : Canonical depth field.2) (hfs : CanonicalFields depth fs) :
    CanonicalFields depth (Json.insertField field fs) := by
  induction fs with
  | nil => exact ⟨hkey, hvalue, trivial⟩
  | cons f fs ih =>
    obtain ⟨k, v⟩ := f
    rw [Json.insertField]
    split_ifs
    · exact ⟨hfs.1, hfs.2.1, ih hfs.2.2⟩
    · exact ⟨hkey, hvalue, hfs⟩

omit [Platform] in
theorem nodeCountFields_insertField (field : String × Json) (fs : List (String × Json)) :
    nodeCountFields (Json.insertField field fs) = nodeCount field.2 + nodeCountFields fs := by
  induction fs with
  | nil => rfl
  | cons f fs ih =>
    obtain ⟨k, v⟩ := f
    rw [Json.insertField]
    split_ifs
    · simp only [nodeCountFields, ih]
      omega
    · simp only [nodeCountFields]

mutual

/-- Sorting keeps a value canonical, with as many nodes. -/
theorem canonical_sortKeys : ∀ (y : Json) (depth : ℕ), Canonical depth y →
    Canonical depth y.sortKeys ∧ nodeCount y.sortKeys = nodeCount y
  | .null, _, h => by simpa only [Json.sortKeys, and_true] using h
  | .bool _, _, h => by simpa only [Json.sortKeys, and_true] using h
  | .int _, _, h => by simpa only [Json.sortKeys, and_true] using h
  | .float _, _, h => by simpa only [Json.sortKeys, and_true] using h
  | .str _, _, h => by simpa only [Json.sortKeys, and_true] using h
  | .arr items, depth, h => by
    obtain ⟨hitems, hlength, hcount⟩ := canonicalItems_sortItems items (depth + 1) h.2.2
    simp only [Json.sortKeys, nodeCount, hcount, and_true]
    exact ⟨h.1, hlength ▸ h.2.1, hitems⟩
  | .obj fields, depth, h => by
    obtain ⟨hfields, hcount⟩ := canonicalFields_sortFields fields (depth + 1) h.2.2.2
    have hkeys := Json.keys_sortFields_perm fields
    have hlength : (Json.sortFields fields).length = fields.length := by
      simpa only [List.length_map] using hkeys.length_eq
    simp only [Json.sortKeys, nodeCount, hcount, and_true]
    exact ⟨h.1, hlength ▸ h.2.1, hkeys.nodup_iff.mpr h.2.2.1, hfields⟩

/-- `canonical_sortKeys` for the items of a list. -/
theorem canonicalItems_sortItems : ∀ (ys : List Json) (depth : ℕ), CanonicalItems depth ys →
    CanonicalItems depth (Json.sortItems ys) ∧ (Json.sortItems ys).length = ys.length ∧
      nodeCountItems (Json.sortItems ys) = nodeCountItems ys
  | [], _, _ => by simp only [Json.sortItems, CanonicalItems, and_self]
  | y :: ys, depth, h => by
    obtain ⟨hy, hcount⟩ := canonical_sortKeys y depth h.1
    obtain ⟨hys, hlength, hcounts⟩ := canonicalItems_sortItems ys depth h.2
    simp only [Json.sortItems, List.length_cons, hlength, nodeCountItems, hcount, hcounts,
      and_true]
    exact ⟨hy, hys⟩

/-- `canonical_sortKeys` for the fields of a dictionary. -/
theorem canonicalFields_sortFields : ∀ (fs : List (String × Json)) (depth : ℕ),
    CanonicalFields depth fs → CanonicalFields depth (Json.sortFields fs) ∧
      nodeCountFields (Json.sortFields fs) = nodeCountFields fs
  | [], _, _ => by simp only [Json.sortFields, CanonicalFields, and_self]
  | (k, v) :: fs, depth, h => by
    obtain ⟨hv, hcount⟩ := canonical_sortKeys v depth h.2.1
    obtain ⟨hfs, hcounts⟩ := canonicalFields_sortFields fs depth h.2.2
    rw [Json.sortFields, nodeCountFields_insertField, hcount, hcounts, nodeCountFields]
    exact ⟨canonicalFields_insertField h.1 hv hfs, rfl⟩

end

mutual

/-- A canonical value is plain and has no repeated keys. -/
theorem plain_of_canonical : ∀ (y : Json) (depth : ℕ), Canonical depth y →
    y.plain = true ∧ y.Distinct
  | .null, _, _ => by simp only [Json.plain, Json.Distinct, and_self]
  | .bool _, _, _ => by simp only [Json.plain, Json.Distinct, and_self]
  | .int _, _, _ => by simp only [Json.plain, Json.Distinct, and_self]
  | .float _, _, h => h.elim
  | .str _, _, _ => by simp only [Json.plain, Json.Distinct, and_self]
  | .arr items, depth, h => by
    simp only [Json.plain, Json.Distinct]
    exact plainItems_of_canonical items (depth + 1) h.2.2
  | .obj fields, depth, h => by
    obtain ⟨hplain, hdistinct⟩ := plainFields_of_canonical fields (depth + 1) h.2.2.2
    simp only [Json.plain, Json.Distinct]
    exact ⟨hplain, h.2.2.1, hdistinct⟩

/-- `plain_of_canonical` for the items of a list. -/
theorem plainItems_of_canonical : ∀ (ys : List Json) (depth : ℕ), CanonicalItems depth ys →
    Json.plainItems ys = true ∧ Json.DistinctItems ys
  | [], _, _ => by simp only [Json.plainItems, Json.DistinctItems, and_self]
  | y :: ys, depth, h => by
    obtain ⟨hy, hy'⟩ := plain_of_canonical y depth h.1
    obtain ⟨hys, hys'⟩ := plainItems_of_canonical ys depth h.2
    simp only [Json.plainItems, Json.DistinctItems, hy, hys, Bool.and_self, true_and]
    exact ⟨hy', hys'⟩

/-- `plain_of_canonical` for the fields of a dictionary. -/
theorem plainFields_of_canonical : ∀ (fs : List (String × Json)) (depth : ℕ),
    CanonicalFields depth fs → Json.plainFields fs = true ∧ Json.DistinctFields fs
  | [], _, _ => by simp only [Json.plainFields, Json.DistinctFields, and_self]
  | (k, v) :: fs, depth, h => by
    obtain ⟨hv, hv'⟩ := plain_of_canonical v depth h.2.1
    obtain ⟨hfs, hfs'⟩ := plainFields_of_canonical fs depth h.2.2
    simp only [Json.plainFields, Json.DistinctFields, hv, hfs, Bool.and_self, true_and]
    exact ⟨hv', hfs'⟩

end

/-! ### Encodings -/

section Encodings

theorem canonicalJson_eq_ok {v : Value} {a : Bytes} : canonicalJson v = .ok a ↔
    ∃ y m, normalize 0 0 v = .ok (y, m) ∧ a.length ≤ maxCanonicalBytes ∧
      a = Bytes.encodeUtf8 (Json.dumps false y.sortKeys) := by
  simp only [canonicalJson, bind_eq_ok, demand_eq_ok, Except.ok.injEq]
  constructor
  · rintro ⟨⟨y, m⟩, h, _, hlen, rfl⟩
    exact ⟨y, m, h, hlen, rfl⟩
  · rintro ⟨y, m, h, hlen, rfl⟩
    exact ⟨(y, m), h, (), hlen, rfl⟩

variable (hnfc : NfcIdempotent)
include hnfc

/-- An accepted value has a normal form, and its encoding is the text of that normal form. -/
theorem exists_normalForm {v : Value} {a : Bytes} (h : canonicalJson v = .ok a) :
    ∃ y : Json, normalForm v = some y.unordered ∧ Canonical 0 y ∧
      nodeCount y ≤ maxCanonicalNodes ∧ a.length ≤ maxCanonicalBytes ∧
      a = Bytes.encodeUtf8 (Json.dumps false y.sortKeys) := by
  obtain ⟨y, m, hnorm, hlen, ha⟩ := canonicalJson_eq_ok.mp h
  obtain ⟨hcanonical, hm, hle⟩ := canonical_of_normalize hnfc v 0 0 y m hnorm
  exact ⟨y, normalForm_of_normalize v 0 0 y m hnorm, hcanonical, by omega, hlen, ha⟩

/-- Two accepted values are encoded alike exactly when they have the same normal form. -/
theorem canonicalJson_eq_iff {v w : Value} {a b : Bytes} (hv : canonicalJson v = .ok a)
    (hw : canonicalJson w = .ok b) :
    a = b ↔ ∃ n, normalForm v = some n ∧ normalForm w = some n := by
  obtain ⟨y, hy, hycanonical, -, -, rfl⟩ := exists_normalForm hnfc hv
  obtain ⟨z, hz, hzcanonical, -, -, rfl⟩ := exists_normalForm hnfc hw
  have hy' := (plain_of_canonical y 0 hycanonical).2
  have hz' := (plain_of_canonical z 0 hzcanonical).2
  have hunordered : y.unordered = z.unordered ↔
      ∃ n, normalForm v = some n ∧ normalForm w = some n := by
    rw [hy, hz]
    constructor
    · intro h
      exact ⟨y.unordered, rfl, by rw [h]⟩
    · rintro ⟨n, hn, hn'⟩
      rw [Option.some.inj hn, Option.some.inj hn']
  rw [← hunordered, ← Json.sortKeys_eq_iff hy' hz']
  constructor
  · -- the text is written by one value only
    intro h
    exact Json.dumps_injective false
      (plain_of_canonical _ 0 (canonical_sortKeys y 0 hycanonical).1).1
      (plain_of_canonical _ 0 (canonical_sortKeys z 0 hzcanonical).1).1
      (Bytes.encodeUtf8_injective h)
  · intro h
    rw [h]

/-- An encoding is read, and encoded again to itself. -/
theorem canonicalJson_parse {v : Value} {a : Bytes} (hv : canonicalJson v = .ok a) :
    ∃ text j, Bytes.decodeUtf8 a = some text ∧ Json.parse text = some j ∧
      canonicalJson (ofJson j) = .ok a := by
  obtain ⟨y, -, hcanonical, hnodes, hlen, rfl⟩ := exists_normalForm hnfc hv
  obtain ⟨hsorted, hcount⟩ := canonical_sortKeys y 0 hcanonical
  obtain ⟨hplain, hdistinct⟩ := plain_of_canonical _ 0 hsorted
  refine ⟨_, y.sortKeys, Bytes.decodeUtf8_encodeUtf8 _, Json.parse_dumps false hplain hdistinct, ?_⟩
  refine canonicalJson_eq_ok.mpr ⟨y.sortKeys, 0 + nodeCount y.sortKeys, ?_, hlen, ?_⟩
  · rw [normalize_ofJson]
    exact normalize_of_canonical y.sortKeys 0 0 hsorted (by omega)
  · rw [Json.sortKeys_sortKeys (plain_of_canonical y 0 hcanonical).2]

end Encodings

/-! ### Hashed bytes -/

section Messages

omit [Platform] in
theorem value_injective {p q : DigestPurpose} (h : p.value = q.value) : p = q := by
  cases p <;> cases q <;> first | rfl | exact absurd h (by decide)

omit [Platform] in
/-- The frames of a context are the frames of its encoded parts. -/
theorem frameContext_eq_ok {parts : List Text} {framed : Bytes}
    (h : frameContext parts = .ok framed) :
    ∃ ss : List String, parts.map Text.toString? = ss.map some ∧
      Bytes.frames (ss.map Bytes.encodeUtf8) = some framed := by
  induction parts generalizing framed with
  | nil =>
    cases h
    exact ⟨[], rfl, rfl⟩
  | cons part parts ih =>
    simp only [frameContext, bind_eq_ok] at h
    obtain ⟨head, hhead, rest, hrest, h⟩ := h
    cases h
    obtain ⟨ss, hss, hframes⟩ := ih hrest
    unfold frameStr at hhead
    cases hs : part.toString? with
    | none => rw [hs] at hhead; cases hhead
    | some s =>
      rw [hs] at hhead
      refine ⟨s :: ss, by rw [List.map_cons, List.map_cons, hs, hss], ?_⟩
      simp only [List.map_cons, Bytes.frames, frameStr_eq_ok hhead, hframes, Option.bind_eq_bind,
        Option.bind_some, Option.pure_def]

omit [Platform] in
theorem frames_append {xs ys : List Bytes} {f g : Bytes} (hx : Bytes.frames xs = some f)
    (hy : Bytes.frames ys = some g) : Bytes.frames (xs ++ ys) = some (f ++ g) := by
  induction xs generalizing f with
  | nil =>
    cases hx
    exact hy
  | cons x xs ih =>
    simp only [Bytes.frames, Option.bind_eq_bind, Option.bind_eq_some_iff, Option.pure_def,
      Option.some.injEq] at hx
    obtain ⟨head, hhead, rest, hrest, rfl⟩ := hx
    simp only [List.cons_append, Bytes.frames, hhead, ih hrest, Option.bind_eq_bind,
      Option.bind_some, Option.pure_def, List.append_assoc]

omit [Platform] in
theorem map_toString?_injective {ts us : List Text} {ss : List String}
    (ht : ts.map Text.toString? = ss.map some) (hu : us.map Text.toString? = ss.map some) :
    ts = us := by
  induction ss generalizing ts us with
  | nil =>
    rw [List.map_nil, List.map_eq_nil_iff] at ht hu
    rw [ht, hu]
  | cons s ss ih =>
    obtain ⟨t, ts, rfl, hts, ht⟩ := List.map_eq_cons_iff.mp ht
    obtain ⟨u, us, rfl, hus, hu⟩ := List.map_eq_cons_iff.mp hu
    rw [Text.toString?_injective hts hus, ih ht hu]

/-- The hashed bytes are the frames of the prefix, the purpose, the context and the encoding. -/
theorem digestMessage_eq_ok {purpose : DigestPurpose} {v : Value} {context : List Text}
    {m : Bytes} (h : digestMessage purpose v context = .ok m) :
    ∃ (ss : List String) (a : Bytes), context.map Text.toString? = ss.map some ∧
      canonicalJson v = .ok a ∧
      Bytes.frames (Bytes.encodeUtf8 domainPrefix :: Bytes.encodeUtf8 purpose.value ::
        (ss.map Bytes.encodeUtf8 ++ [a])) = some m := by
  simp only [digestMessage, bind_eq_ok, frameBytes_eq_ok] at h
  obtain ⟨_, -, parts, hparts, a, ha, framed, hframed, h⟩ := h
  cases h
  obtain ⟨ss, hss, hframes⟩ := frameContext_eq_ok hparts
  -- the first two parts are the prefix and the purpose
  obtain ⟨_, _, rfl, hprefix, htail⟩ := List.map_eq_cons_iff.mp hss.symm
  obtain ⟨_, ss, rfl, hpurpose, hcontext⟩ := List.map_eq_cons_iff.mp htail
  rw [Text.toString?_ofString, Option.some.injEq] at hprefix hpurpose
  subst hprefix hpurpose
  refine ⟨ss, a, hcontext.symm, ha, ?_⟩
  have hbody : Bytes.frames [a] = some framed := by
    simp only [Bytes.frames, hframed, Option.bind_eq_bind, Option.bind_some, Option.pure_def,
      List.append_nil]
  exact frames_append hframes hbody

end Messages

/-- The hashed bytes of a digest determine the purpose, the context and the normal form. -/
theorem eq_of_digestMessage (hnfc : NfcIdempotent) {p q : DigestPurpose} {v w : Value}
    {context context' : List Text} {m : Bytes} (hv : digestMessage p v context = .ok m)
    (hw : digestMessage q w context' = .ok m) :
    p = q ∧ context = context' ∧ ∃ n, normalForm v = some n ∧ normalForm w = some n := by
  obtain ⟨ss, a, hss, ha, hm⟩ := digestMessage_eq_ok hv
  obtain ⟨ts, b, hts, hb, hm'⟩ := digestMessage_eq_ok hw
  -- frames can be split in one way only, and the encoding is the last of them
  have hframes := Bytes.frames_inj hm hm'
  rw [List.cons.injEq, List.cons.injEq] at hframes
  obtain ⟨-, hpurpose, hrest⟩ := hframes
  obtain ⟨hparts, hbody⟩ := List.append_inj' hrest rfl
  have hstrings : ss = ts :=
    List.map_injective_iff.mpr (fun _ _ h => Bytes.encodeUtf8_injective h) hparts
  refine ⟨value_injective (Bytes.encodeUtf8_injective hpurpose), ?_, ?_⟩
  · exact map_toString?_injective hss (hstrings ▸ hts)
  · exact (canonicalJson_eq_iff hnfc ha hb).mp (List.cons.inj hbody).1

/-! ### Acceptance -/

section Acceptance

omit [Platform] in
theorem exists_frameBytes {value : Bytes} (h : value.length < 2 ^ 32) :
    ∃ framed, frameBytes value = .ok framed := by
  refine ⟨Bytes.bigEndian 4 value.length ++ value, ?_⟩
  rw [frameBytes_eq_ok, Bytes.frame, if_pos h]

omit [Platform] in
/-- A context of short parts can be framed. -/
theorem exists_frameContext (parts : List String)
    (hparts : ∀ part ∈ parts, 4 * part.toList.length ≤ maxCanonicalStringBytes) :
    ∃ framed, Tier1.frameContext parts = .ok framed ∧
      Bytes.frames (parts.map Bytes.encodeUtf8) = some framed := by
  induction parts with
  | nil => exact ⟨[], rfl, rfl⟩
  | cons part parts ih =>
    obtain ⟨rest, hrest, hframes⟩ := ih fun p hp => hparts p (List.mem_cons_of_mem _ hp)
    have hshort := hparts part List.mem_cons_self
    have hlength := Bytes.length_encodeUtf8_le part
    have hhead : ∃ head, Tier1.frameStr part = .ok head := by
      unfold maxCanonicalStringBytes at hshort
      rw [Tier1.frameStr, if_neg (by unfold maxCanonicalStringBytes; omega)]
      exact exists_frameBytes (by omega)
    obtain ⟨head, hhead⟩ := hhead
    refine ⟨head ++ rest, by simp only [Tier1.frameContext, hhead, hrest, ok_bind], ?_⟩
    simp only [List.map_cons, Bytes.frames, frameStr_eq_ok hhead, hframes, Option.bind_eq_bind,
      Option.bind_some, Option.pure_def]

omit [Platform] in
/-- The bytes that `digest_value` hashes for a canonical value. -/
def digestBytes (purpose : DigestPurpose) (y : Json) (context : List String) : Bytes :=
  (Bytes.frames ((domainPrefix :: purpose.value :: context).map Bytes.encodeUtf8 ++
    [Bytes.encodeUtf8 (Json.dumps false (Json.sortKeys y))])).getD []

/-- The digest of a canonical value of a moderate weight exists. -/
theorem digestValue_eq (purpose : DigestPurpose) (y : Json) (context : List String)
    (hy : Canonical 0 y) (hnodes : nodeCount y ≤ maxCanonicalNodes)
    (hweight : 4 * Json.weight y ≤ maxCanonicalBytes) (hcontext : context.length ≤ 16)
    (hparts : ∀ part ∈ context, 4 * part.toList.length ≤ maxCanonicalStringBytes) :
    Tier1.digestValue purpose y context = .ok (Platform.sha256 (digestBytes purpose y context)) ∧
      Bytes.frames ((domainPrefix :: purpose.value :: context).map Bytes.encodeUtf8 ++
        [Bytes.encodeUtf8 (Json.dumps false (Json.sortKeys y))]) =
          some (digestBytes purpose y context) := by
  have hpurpose : 4 * purpose.value.toList.length ≤ maxCanonicalStringBytes := by
    cases purpose <;> decide
  obtain ⟨parts, hparts, hframes⟩ :=
    exists_frameContext (domainPrefix :: purpose.value :: context) (by
      intro part hpart
      rcases List.mem_cons.mp hpart with rfl | hpart
      · decide
      · rcases List.mem_cons.mp hpart with rfl | hpart
        · exact hpurpose
        · exact hparts part hpart)
  have hnormalize := normalize_of_canonical y 0 0 hy (by rwa [Nat.zero_add])
  -- the encoding is no longer than the weight allows
  have hlength : (Bytes.encodeUtf8 (Json.dumps false (Json.sortKeys y))).length ≤
      maxCanonicalBytes := by
    have h₁ := Bytes.length_encodeUtf8_le (Json.dumps false (Json.sortKeys y))
    have h₂ := Json.length_dumpValue_le false (Json.sortKeys y)
    rw [Json.weight_sortKeys] at h₂
    rw [Json.dumps, String.toList_ofList] at h₁
    exact h₁.trans ((Nat.mul_le_mul_left 4 h₂).trans hweight)
  obtain ⟨framed, hframed⟩ :=
    exists_frameBytes (Nat.lt_of_le_of_lt hlength (by unfold maxCanonicalBytes; decide))
  have hbody : Bytes.frames [Bytes.encodeUtf8 (Json.dumps false (Json.sortKeys y))] =
      some framed := by
    simp only [Bytes.frames, frameBytes_eq_ok.mp hframed, Option.bind_eq_bind, Option.bind_some,
      Option.pure_def, List.append_nil]
  have hall := frames_append hframes hbody
  have hbytes : digestBytes purpose y context = parts ++ framed := by
    rw [digestBytes, hall, Option.getD_some]
  refine ⟨?_, hbytes ▸ hall⟩
  simp only [Tier1.digestValue, Tier1.canonicalJson, demand_of hcontext, ok_bind, hparts,
    hnormalize, demand_of hlength, hframed, hbytes]

theorem normalizedString_of_short {s : String} (hshort : s.toList.length ≤ 500)
    (hnfc : Platform.nfc s = s) : Tier1.normalizedString s = .ok s := by
  have hlength := Bytes.length_encodeUtf8_le s
  simp only [Tier1.normalizedString, hnfc]
  exact if_neg (by unfold maxCanonicalStringBytes; omega)

omit [Platform] in
/-- `null`, a truth value, a natural number of at most nine digits, a short text, or no items. -/
def isShort : Json → Bool
  | .null | .bool _ | .arr [] => true
  | .int n => 0 ≤ n && n < 10 ^ 9
  | .str s => s.toList.length ≤ 500
  | _ => false

/-- What a short value weighs, and that it is canonical. -/
theorem canonical_of_isShort {v : Json} (h : isShort v = true)
    (hnfc : ∀ s, v = .str s → Platform.nfc s = s) :
    Canonical 1 v ∧ nodeCount v = 1 ∧ Json.weight v ≤ 6002 := by
  match v, h with
  | .null, _ => exact ⟨by rw [Canonical]; decide, rfl, by decide⟩
  | .bool b, _ => exact ⟨by rw [Canonical]; decide, rfl, by cases b <;> decide⟩
  | .arr [], _ => exact ⟨⟨by decide, by decide, trivial⟩, rfl, by decide⟩
  | .int n, h =>
    simp only [isShort, Bool.and_eq_true, decide_eq_true_eq] at h
    have hweight := Json.weight_int_le (k := 9) (by decide) h.1 h.2
    exact ⟨⟨by decide, by omega, by omega⟩, rfl, by omega⟩
  | .str s, h =>
    simp only [isShort, decide_eq_true_eq] at h
    refine ⟨⟨by decide, normalizedString_of_short h (hnfc s rfl)⟩, rfl, ?_⟩
    rw [Json.weight]
    omega

/-- A record of short values in normalisation form C, with its digest. -/
theorem digestValue_object (purpose : DigestPurpose) (fields : List (String × Json))
    (context : List String) (hkeys : (fields.map Prod.fst).Nodup) (hcount : fields.length ≤ 20)
    (hshort : ∀ f ∈ fields, f.1.toList.length ≤ 500 ∧ isShort f.2 = true)
    (hnfc : ∀ f ∈ fields, Platform.nfc f.1 = f.1 ∧ ∀ s, f.2 = .str s → Platform.nfc s = s)
    (hcontext : context.length ≤ 16) (hparts : ∀ part ∈ context, part.toList.length ≤ 500) :
    Tier1.digestValue purpose (.obj fields) context =
      .ok (Platform.sha256 (digestBytes purpose (.obj fields) context)) := by
  have hcanonical : CanonicalFields 1 fields ∧ nodeCountFields fields = fields.length := by
    clear hkeys hcount
    induction fields with
    | nil => exact ⟨trivial, rfl⟩
    | cons f fields ih =>
      obtain ⟨hkey, hvalue⟩ := hshort f List.mem_cons_self
      obtain ⟨hkeyNfc, hvalueNfc⟩ := hnfc f List.mem_cons_self
      obtain ⟨hf, hnode, -⟩ := canonical_of_isShort hvalue hvalueNfc
      obtain ⟨hrest, hnodes⟩ := ih (fun g hg => hshort g (List.mem_cons_of_mem _ hg))
        fun g hg => hnfc g (List.mem_cons_of_mem _ hg)
      refine ⟨⟨normalizedString_of_short hkey hkeyNfc, hf, hrest⟩, ?_⟩
      rw [nodeCountFields, hnodes, hnode, List.length_cons, Nat.add_comm]
  refine (digestValue_eq purpose (.obj fields) context
    ⟨by decide, ?_, hkeys, hcanonical.1⟩ ?_ ?_ hcontext ?_).1
  · unfold maxCanonicalCollectionItems
    omega
  · rw [nodeCount, hcanonical.2]
    unfold maxCanonicalNodes
    omega
  · have hweight := @Json.weightFields_le fields 500 6002 (fun f hf => (hshort f hf).1)
      fun f hf => (canonical_of_isShort (hshort f hf).2 (hnfc f hf).2).2.2
    rw [Json.weight]
    unfold maxCanonicalBytes
    omega
  · intro part hpart
    have := hparts part hpart
    unfold maxCanonicalStringBytes
    omega

/-- A record of short texts in normalisation form C, with its digest. -/
theorem digestValue_record (purpose : DigestPurpose) (fields : List (String × String))
    (context : List String) (hkeys : (fields.map Prod.fst).Nodup) (hcount : fields.length ≤ 20)
    (hfields : ∀ f ∈ fields, f.1.toList.length ≤ 500 ∧ f.2.toList.length ≤ 500 ∧
      Platform.nfc f.1 = f.1 ∧ Platform.nfc f.2 = f.2)
    (hcontext : context.length ≤ 16) (hparts : ∀ part ∈ context, part.toList.length ≤ 500) :
    Tier1.digestValue purpose (.obj (fields.map fun f => (f.1, .str f.2))) context =
      .ok (Platform.sha256 (digestBytes purpose (.obj (fields.map fun f => (f.1, .str f.2)))
        context)) := by
  apply digestValue_object purpose _ context _ _ _ _ hcontext hparts
  · rw [List.map_map]
    exact hkeys
  · rwa [List.length_map]
  · intro f hf
    obtain ⟨g, hg, rfl⟩ := List.mem_map.mp hf
    obtain ⟨hkey, hvalue, -, -⟩ := hfields g hg
    exact ⟨hkey, decide_eq_true hvalue⟩
  · intro f hf
    obtain ⟨g, hg, rfl⟩ := List.mem_map.mp hf
    obtain ⟨-, -, hkey, hvalue⟩ := hfields g hg
    refine ⟨hkey, ?_⟩
    rintro s ⟨⟩
    exact hvalue

end Acceptance

end Model

section

/-- Canonical encoding is injective and stable: two accepted values are encoded alike exactly when
they have the same normal form; the encoding is read as JSON and encoded again to the same bytes;
and the bytes hashed by `digest_value` determine the purpose, the context and the normal form. -/
theorem canonicalJson_injective_stable [Platform] (hnfc : NfcIdempotent) {v w : Value}
    {a b : Bytes} (hv : canonicalJson v = .ok a) (hw : canonicalJson w = .ok b) :
    (a = b ↔ ∃ n, normalForm v = some n ∧ normalForm w = some n) ∧
      (∃ text j, Bytes.decodeUtf8 a = some text ∧ Json.parse text = some j ∧
        canonicalJson (ofJson j) = .ok a) ∧
      ∀ (p q : DigestPurpose) (context context' : List Text) (m : Bytes),
        digestMessage p v context = .ok m → digestMessage q w context' = .ok m →
        p = q ∧ context = context' ∧ ∃ n, normalForm v = some n ∧ normalForm w = some n := by
  refine ⟨canonicalJson_eq_iff hnfc hv hw, canonicalJson_parse hnfc hv, ?_⟩
  intro p q context context' m hm hm'
  exact eq_of_digestMessage hnfc hm hm'

attribute [local instance] Sample.platform

/-- A tuple and a dictionary have different encodings. -/
theorem canonicalJson_injective_stable_sample :
    ([91, 49, 93] = ([123, 125] : Bytes) ↔
      ∃ n, normalForm (.tuple [.int 1]) = some n ∧ normalForm (.dict []) = some n) ∧
      (∃ text j, Bytes.decodeUtf8 [91, 49, 93] = some text ∧ Json.parse text = some j ∧
        canonicalJson (ofJson j) = .ok [91, 49, 93]) ∧
      ∀ (p q : DigestPurpose) (context context' : List Text) (m : Bytes),
        digestMessage p (.tuple [.int 1]) context = .ok m →
        digestMessage q (.dict []) context' = .ok m →
        p = q ∧ context = context' ∧
          ∃ n, normalForm (.tuple [.int 1]) = some n ∧ normalForm (.dict []) = some n :=
  canonicalJson_injective_stable (fun _ => rfl) (by decide +kernel) (by decide +kernel)

end

end Value

end Tier1
