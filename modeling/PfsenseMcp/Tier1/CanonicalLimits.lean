import PfsenseMcp.Tier1.PreparedExecutionIntent

/-!
# The limits of canonical encodings

`tier1/canonical.py` refuses values that are too deep, too large, or of other types. Here these
limits are a predicate on the value alone, with the numbers that they bound: the nodes of a value,
and the bytes of its text.

## Main results

* `Value.normalize_eq_ok`: what `_normalize` accepts, and what it returns;
* `Value.exists_canonicalJson_iff`: a value has a canonical encoding exactly if it stays within the
  limits.
-/

namespace Tier1

open Python

section

variable [Platform]

/-- A text in normalisation form C; `none` if it has a surrogate. -/
def normalText (t : Text) : Option String := t.toString?.map Platform.nfc

/-- A text without surrogates whose normalisation form C is no longer than the limit. -/
def ShortText (t : Text) : Prop :=
  ∃ s, normalText t = some s ∧ (Bytes.encodeUtf8 s).length ≤ maxCanonicalStringBytes

omit [Platform] in
/-- An integer of 64 bits. -/
def IsInt64 (n : ℤ) : Prop := -(2 ^ 63) ≤ n ∧ n ≤ 2 ^ 63 - 1

omit [Platform] in
instance (n : ℤ) : Decidable (IsInt64 n) := inferInstanceAs (Decidable (_ ∧ _))

theorem Value.normalizedString_iff {t : Text} {s : String} :
    normalizedString t = .ok s ↔ ShortText t ∧ normalText t = some s := by
  rw [normalizedString, ShortText, normalText]
  rcases t.toString? with _ | u
  · simp [fail]
  · simp only [Tier1.normalizedString, Option.map_some, Option.some.injEq]
    split_ifs with hlen
    · refine iff_of_false (by simp [fail]) ?_
      rintro ⟨⟨_, rfl, hshort⟩, -⟩
      exact Nat.not_lt.mpr hshort hlen
    · rw [Except.ok.injEq]
      exact ⟨fun h => ⟨⟨_, rfl, Nat.le_of_not_lt hlen⟩, h⟩, fun h => h.2⟩

/-! ### ASCII -/

omit [Platform] in
/-- A text of ASCII characters. -/
def isAscii (text : String) : Bool := text.toList.all fun c => c.toNat < 128

omit [Platform] in
theorem isAscii_of_isIdentifier {s : String} (h : isIdentifier s = true) : isAscii s = true :=
  List.all_eq_true.mpr fun c hc => 
    decide_eq_true (PreparedExecutionIntent.ascii_of_isIdentifier h c hc)

omit [Platform] in
theorem isAscii_of_isHex64 {s : String} (h : isHex64 s = true) : isAscii s = true :=
  List.all_eq_true.mpr fun c hc => decide_eq_true (ascii_of_isHex64 h c hc)

omit [Platform] in
theorem isAscii_isoformat (t : DateTime) : isAscii t.isoformat = true :=
  List.all_eq_true.mpr fun c hc => decide_eq_true (t.isoformat_ascii c hc)

theorem nfc_of_isAscii (hascii : NfcAscii) {s : String} (h : isAscii s = true) :
    Platform.nfc s = s := hascii s fun c hc => of_decide_eq_true (List.all_eq_true.mp h c hc)

theorem normalText_ofString (s : String) : normalText (Text.ofString s) = some (Platform.nfc s) := by
  rw [normalText, Text.toString?_ofString, Option.map_some]

/-- A text of ASCII characters is its own normal form, and short if it is no longer than 500. -/
theorem shortText_of_isAscii (hascii : NfcAscii) {s : String} (h : isAscii s = true)
    (hlength : s.toList.length ≤ 500) :
    normalText (Text.ofString s) = some s ∧ ShortText (Text.ofString s) := by
  have hnormal : normalText (Text.ofString s) = some s := by
    rw [normalText_ofString, nfc_of_isAscii hascii h]
  refine ⟨hnormal, s, hnormal, ?_⟩
  have hle := Bytes.length_encodeUtf8_le s
  unfold maxCanonicalStringBytes
  omega

namespace Value

/-- The key of a dictionary in normalisation form C. -/
def normalKey : Key → Option String
  | .str k => normalText k
  | .other => Option.none

/-- A key that is a short text. -/
def ShortKey : Key → Prop
  | .str k => ShortText k
  | .other => False

theorem normalizedKey_iff {k : Key} {s : String} :
    normalizedKey k = .ok s ↔ ShortKey k ∧ normalKey k = some s := by
  rcases k with k | _
  · exact normalizedString_iff
  · simp [normalizedKey, fail, ShortKey]

/-! ### What `_normalize` checks and returns -/

mutual

/-- The limits on a value at a given depth, besides those on its nodes and on its bytes. -/
def Limited (depth : ℕ) : Value → Prop
  | .none | .bool _ => depth ≤ maxCanonicalDepth
  | .int n => depth ≤ maxCanonicalDepth ∧ IsInt64 n
  | .float _ | .other => False
  | .str t => depth ≤ maxCanonicalDepth ∧ ShortText t
  | .list items | .tuple items => depth ≤ maxCanonicalDepth ∧
      items.length ≤ maxCanonicalCollectionItems ∧ LimitedItems (depth + 1) items
  | .dict fields => depth ≤ maxCanonicalDepth ∧
      fields.length ≤ maxCanonicalCollectionItems ∧
      (fields.map fun f => normalKey f.1).Nodup ∧ LimitedFields (depth + 1) fields

/-- `Limited` for every item. -/
def LimitedItems (depth : ℕ) : List Value → Prop
  | [] => True
  | x :: xs => Limited depth x ∧ LimitedItems depth xs

/-- `Limited` for every value of a dictionary, under a short key. -/
def LimitedFields (depth : ℕ) : List (Key × Value) → Prop
  | [] => True
  | (k, v) :: fs => ShortKey k ∧ Limited depth v ∧ LimitedFields depth fs

end

omit [Platform] in
mutual

/-- The number of nodes of a value. -/
def nodes : Value → ℕ
  | .list items | .tuple items => nodesItems items + 1
  | .dict fields => nodesFields fields + 1
  | _ => 1

/-- The number of nodes of the items. -/
def nodesItems : List Value → ℕ
  | [] => 0
  | x :: xs => nodes x + nodesItems xs

/-- The number of nodes of the values of a dictionary. -/
def nodesFields : List (Key × Value) → ℕ
  | [] => 0
  | (_, v) :: fs => nodes v + nodesFields fs

end

mutual

/-- The normalised value, of a value within the limits. -/
def normalized : Value → Json
  | .none | .float _ | .other => .null
  | .bool b => .bool b
  | .int n => .int n
  | .str t => .str ((normalText t).getD "")
  | .list items | .tuple items => .arr (normalizedItems items)
  | .dict fields => .obj (normalizedFields fields)

/-- `normalized` of every item. -/
def normalizedItems : List Value → List Json
  | [] => []
  | x :: xs => normalized x :: normalizedItems xs

/-- `normalized` of every field. -/
def normalizedFields : List (Key × Value) → List (String × Json)
  | [] => []
  | (k, v) :: fs => ((normalKey k).getD "", normalized v) :: normalizedFields fs

end

omit [Platform] in
theorem nodes_pos (v : Value) : 0 < v.nodes := by
  rcases v with _ | b | n | t | t | items | items | fields | _ <;> simp [nodes]

/-- A list or a tuple, by what is accepted of its items. -/
theorem normalizeList_eq_ok {items : List Value} {depth n : ℕ} {y : Json} {m : ℕ}
    (hitems : ∀ ys k, n + 1 ≤ maxCanonicalNodes →
      (normalizeItems (depth + 1) (n + 1) items = .ok (ys, k) ↔
        LimitedItems (depth + 1) items ∧ n + 1 + nodesItems items ≤ maxCanonicalNodes ∧
          ys = normalizedItems items ∧ k = n + 1 + nodesItems items)) :
    normalize depth n (.list items) = .ok (y, m) ↔
      Limited depth (.list items) ∧ n + nodes (.list items) ≤ maxCanonicalNodes ∧
        y = normalized (.list items) ∧ m = n + nodes (.list items) := by
  simp only [normalize, bind_eq_ok, enterNode_eq_ok, demand_eq_ok, Except.ok.injEq, Prod.mk.injEq,
    Limited, nodes, normalized]
  constructor
  · rintro ⟨_, ⟨hdepth, hnodes, rfl⟩, _, hlength, ⟨ys, k⟩, h, rfl, rfl⟩
    obtain ⟨hlimited, hcount, rfl, rfl⟩ := (hitems ys k hnodes).mp h
    exact ⟨⟨hdepth, hlength, hlimited⟩, by omega, rfl, by omega⟩
  · rintro ⟨⟨hdepth, hlength, hlimited⟩, hcount, rfl, rfl⟩
    have hnodes : n + 1 ≤ maxCanonicalNodes := by omega
    exact ⟨_, ⟨hdepth, hnodes, rfl⟩, (), hlength, _,
      (hitems _ _ hnodes).mpr ⟨hlimited, by omega, rfl, rfl⟩, rfl, by omega⟩

mutual

/-- What `_normalize` accepts, and what it returns. -/
theorem normalize_eq_ok : ∀ (v : Value) {depth n : ℕ} {y : Json} {m : ℕ},
    normalize depth n v = .ok (y, m) ↔
      Limited depth v ∧ n + nodes v ≤ maxCanonicalNodes ∧ y = normalized v ∧ m = n + nodes v
  | .none, depth, n, y, m | .bool _, depth, n, y, m => by
    simp only [normalize, bind_eq_ok, enterNode_eq_ok, Except.ok.injEq, Prod.mk.injEq, Limited,
      nodes, normalized]
    constructor
    · rintro ⟨_, ⟨hdepth, hnodes, rfl⟩, rfl, rfl⟩
      exact ⟨hdepth, hnodes, rfl, rfl⟩
    · rintro ⟨hdepth, hnodes, rfl, rfl⟩
      exact ⟨_, ⟨hdepth, hnodes, rfl⟩, rfl, rfl⟩
  | .int k, depth, n, y, m => by
    simp only [normalize, bind_eq_ok, enterNode_eq_ok, demand_eq_ok, Except.ok.injEq,
      Prod.mk.injEq, Limited, nodes, normalized, IsInt64]
    constructor
    · rintro ⟨_, ⟨hdepth, hnodes, rfl⟩, _, hrange, rfl, rfl⟩
      exact ⟨⟨hdepth, hrange⟩, hnodes, rfl, rfl⟩
    · rintro ⟨⟨hdepth, hrange⟩, hnodes, rfl, rfl⟩
      exact ⟨_, ⟨hdepth, hnodes, rfl⟩, (), hrange, rfl, rfl⟩
  | .float _, depth, n, y, m | .other, depth, n, y, m => by
    simp only [normalize, bind_eq_ok, fail, reduceCtorEq, and_false, exists_const, Limited,
      false_and]
  | .str t, depth, n, y, m => by
    simp only [normalize, bind_eq_ok, enterNode_eq_ok, normalizedString_iff, Except.ok.injEq,
      Prod.mk.injEq, Limited, nodes, normalized]
    constructor
    · rintro ⟨_, ⟨hdepth, hnodes, rfl⟩, s, ⟨hshort, hs⟩, rfl, rfl⟩
      exact ⟨⟨hdepth, hshort⟩, hnodes, by rw [hs, Option.getD_some], rfl⟩
    · rintro ⟨⟨hdepth, hshort⟩, hnodes, rfl, rfl⟩
      obtain ⟨s, hs, -⟩ := id hshort
      exact ⟨_, ⟨hdepth, hnodes, rfl⟩, s, ⟨hshort, hs⟩, by rw [hs, Option.getD_some], rfl⟩
  | .list items, depth, n, y, m => normalizeList_eq_ok fun _ _ => normalizeItems_eq_ok items
  -- a tuple is treated as a list
  | .tuple items, depth, n, y, m =>
    normalizeList_eq_ok fun _ _ => normalizeItems_eq_ok items
  | .dict fields, depth, n, y, m => by
    simp only [normalize, bind_eq_ok, enterNode_eq_ok, demand_eq_ok, Except.ok.injEq,
      Prod.mk.injEq, Limited, nodes, normalized]
    constructor
    · rintro ⟨_, ⟨hdepth, hnodes, rfl⟩, _, hlength, ⟨gs, k⟩, h, rfl, rfl⟩
      obtain ⟨hlimited, hnodup, -, hcount, rfl, rfl⟩ := (normalizeFields_eq_ok fields hnodes).mp h
      exact ⟨⟨hdepth, hlength, hnodup, hlimited⟩, by omega, rfl, by omega⟩
    · rintro ⟨⟨hdepth, hlength, hnodup, hlimited⟩, hcount, rfl, rfl⟩
      have hnodes : n + 1 ≤ maxCanonicalNodes := by omega
      exact ⟨_, ⟨hdepth, hnodes, rfl⟩, (), hlength, _, (normalizeFields_eq_ok fields hnodes).mpr
        ⟨hlimited, hnodup, by simp, by omega, rfl, rfl⟩, rfl, by omega⟩

/-- `normalize_eq_ok` for the items of a list. -/
theorem normalizeItems_eq_ok : ∀ (items : List Value) {depth n : ℕ} {ys : List Json} {m : ℕ},
    n ≤ maxCanonicalNodes → (normalizeItems depth n items = .ok (ys, m) ↔
      LimitedItems depth items ∧ n + nodesItems items ≤ maxCanonicalNodes ∧
        ys = normalizedItems items ∧ m = n + nodesItems items)
  | [], depth, n, ys, m, hn => by
    simp only [normalizeItems, Except.ok.injEq, Prod.mk.injEq, LimitedItems, nodesItems,
      normalizedItems, true_and]
    constructor
    · rintro ⟨rfl, rfl⟩
      exact ⟨hn, rfl, rfl⟩
    · rintro ⟨-, rfl, rfl⟩
      exact ⟨rfl, rfl⟩
  | x :: xs, depth, n, ys, m, hn => by
    simp only [normalizeItems, bind_eq_ok, Except.ok.injEq, Prod.mk.injEq, LimitedItems,
      nodesItems, normalizedItems]
    constructor
    · rintro ⟨⟨y, k⟩, hx, ⟨zs, l⟩, hxs, rfl, rfl⟩
      obtain ⟨hlimited, hcount, rfl, rfl⟩ := (normalize_eq_ok x).mp hx
      obtain ⟨hrest, hcount', rfl, rfl⟩ := (normalizeItems_eq_ok xs hcount).mp hxs
      exact ⟨⟨hlimited, hrest⟩, by omega, rfl, by omega⟩
    · rintro ⟨⟨hlimited, hrest⟩, hcount, rfl, rfl⟩
      have hx : n + nodes x ≤ maxCanonicalNodes := by omega
      exact ⟨_, (normalize_eq_ok x).mpr ⟨hlimited, hx, rfl, rfl⟩, _,
        (normalizeItems_eq_ok xs hx).mpr ⟨hrest, by omega, rfl, rfl⟩, rfl, by omega⟩

/-- `normalize_eq_ok` for the fields of a dictionary. -/
theorem normalizeFields_eq_ok : ∀ (fields : List (Key × Value)) {depth n : ℕ}
    {seen : List String} {gs : List (String × Json)} {m : ℕ},
    n ≤ maxCanonicalNodes → (normalizeFields depth n seen fields = .ok (gs, m) ↔
      LimitedFields depth fields ∧ (fields.map fun f => normalKey f.1).Nodup ∧
        (∀ k ∈ seen, some k ∉ fields.map fun f => normalKey f.1) ∧
        n + nodesFields fields ≤ maxCanonicalNodes ∧ gs = normalizedFields fields ∧
        m = n + nodesFields fields)
  | [], depth, n, seen, gs, m, hn => by
    simp only [normalizeFields, Except.ok.injEq, Prod.mk.injEq, LimitedFields, nodesFields,
      normalizedFields, List.map_nil, List.nodup_nil, true_and]
    constructor
    · rintro ⟨rfl, rfl⟩
      exact ⟨by simp, hn, rfl, rfl⟩
    · rintro ⟨-, -, rfl, rfl⟩
      exact ⟨rfl, rfl⟩
  | (k, v) :: fs, depth, n, seen, gs, m, hn => by
    simp only [normalizeFields, bind_eq_ok, demand_eq_ok, Except.ok.injEq, Prod.mk.injEq,
      normalizedKey_iff, LimitedFields, nodesFields, normalizedFields, List.map_cons,
      List.nodup_cons, List.mem_cons, not_or]
    constructor
    · rintro ⟨key, ⟨hshort, hkey⟩, _, hseen, ⟨y, j⟩, hv, ⟨zs, l⟩, hfs, rfl, rfl⟩
      obtain ⟨hlimited, hcount, rfl, rfl⟩ := (normalize_eq_ok v).mp hv
      obtain ⟨hrest, hnodup, hfresh, hcount', rfl, rfl⟩ := (normalizeFields_eq_ok fs hcount).mp hfs
      rw [hkey, Option.getD_some]
      refine ⟨⟨hshort, hlimited, hrest⟩, ⟨hfresh key List.mem_cons_self, hnodup⟩, ?_, by omega,
        rfl, by omega⟩
      intro k' hk'
      refine ⟨fun h => hseen (Option.some.inj h ▸ hk'), hfresh k' (List.mem_cons_of_mem _ hk')⟩
    · rintro ⟨⟨hshort, hlimited, hrest⟩, ⟨hkey, hnodup⟩, hfresh, hcount, rfl, rfl⟩
      have hv : n + nodes v ≤ maxCanonicalNodes := by omega
      obtain ⟨key, hkey'⟩ : ∃ key, normalKey k = some key := by
        rcases k with k | _
        · obtain ⟨s, hs, -⟩ := hshort
          exact ⟨s, hs⟩
        · exact hshort.elim
      refine ⟨key, ⟨hshort, hkey'⟩, (), fun h => (hfresh key h).1 hkey'.symm, _,
        (normalize_eq_ok v).mpr ⟨hlimited, hv, rfl, rfl⟩, _,
        (normalizeFields_eq_ok fs hv).mpr ⟨hrest, hnodup, ?_, by omega, rfl, rfl⟩, ?_, by omega⟩
      · refine List.forall_mem_cons.mpr ⟨?_, fun k' hk' => (hfresh k' hk').2⟩
        rwa [← hkey']
      · rw [hkey', Option.getD_some]

end

/-! ### Bytes -/

omit [Platform] in
theorem textSize_arr (x : Json) (xs : List Json) :
    textSize (.arr (x :: xs)) = ((x :: xs).map fun y => textSize y + 1).sum + 1 := by
  have hitems (items : List Json) : charsSize (Json.dumpItems false items) =
      (items.map fun y => textSize y + 1).sum + 1 := by
    induction items with
    | nil => rfl
    | cons y ys ih =>
      have hcomma : Char.utf8Size ',' = 1 := rfl
      simp only [Json.dumpItems, charsSize_cons, charsSize_append, ih, List.map_cons, List.sum_cons,
        textSize_eq, hcomma]
      omega
  have hbracket : Char.utf8Size '[' = 1 := rfl
  simp only [textSize_eq (.arr _), Json.dumpValue, charsSize_cons, charsSize_append, hitems,
    List.map_cons, List.sum_cons, textSize_eq, hbracket]
  omega

mutual

/-- The number of bytes of the text of a value within the limits: its texts are in normalisation
form C, and there are no blanks. -/
def size : Value → ℕ
  | .none | .float _ | .other => 4
  | .bool b => textSize (.bool b)
  | .int n => textSize (.int n)
  | .str t => textSize (.str ((normalText t).getD ""))
  | .list [] | .tuple [] => 2
  | .list (x :: xs) | .tuple (x :: xs) => size x + 1 + sizeItems xs + 1
  | .dict [] => 2
  | .dict ((k, v) :: fs) =>
    textSize (.str ((normalKey k).getD "")) + size v + 2 + sizeFields fs + 1

/-- The bytes of the items, with a comma or a bracket each. -/
def sizeItems : List Value → ℕ
  | [] => 0
  | x :: xs => size x + 1 + sizeItems xs

/-- The bytes of the fields, with a colon and a comma or a brace each. -/
def sizeFields : List (Key × Value) → ℕ
  | [] => 0
  | (k, v) :: fs => textSize (.str ((normalKey k).getD "")) + size v + 2 + sizeFields fs

end

mutual

theorem textSize_normalized : ∀ v : Value, textSize (normalized v) = size v
  | .none | .float _ | .other => by rw [normalized, size]; decide
  | .bool _ | .int _ | .str _ => by rw [normalized, size]
  | .list [] | .tuple [] => by rw [normalized, normalizedItems, size]; decide
  | .list (x :: xs) | .tuple (x :: xs) => by
    rw [normalized, normalizedItems, textSize_arr, List.map_cons, List.sum_cons,
      textSize_normalized x, sum_normalizedItems xs, size]
  | .dict [] => by rw [normalized, normalizedFields, size]; decide
  | .dict ((k, v) :: fs) => by
    rw [normalized, normalizedFields, textSize_obj, fieldsSize, List.map_cons, List.sum_cons,
      textSize_normalized v, ← fieldsSize, fieldsSize_normalizedFields fs, size]

theorem sum_normalizedItems : ∀ items : List Value,
    ((normalizedItems items).map fun y => textSize y + 1).sum = sizeItems items
  | [] => rfl
  | x :: xs => by
    rw [normalizedItems, List.map_cons, List.sum_cons, textSize_normalized x,
      sum_normalizedItems xs, sizeItems]

theorem fieldsSize_normalizedFields : ∀ fields : List (Key × Value),
    fieldsSize (normalizedFields fields) = sizeFields fields
  | [] => rfl
  | (k, v) :: fs => by
    rw [normalizedFields, fieldsSize, List.map_cons, List.sum_cons, textSize_normalized v,
      ← fieldsSize, fieldsSize_normalizedFields fs, sizeFields]

end

/-! ### Bounds -/

omit [Platform] in
/-- A character is at most six times as long in a string literal. -/
theorem charsSize_escapeChar_le (c : Char) :
    charsSize (Json.escapeChar false c) ≤ 6 * c.utf8Size := by
  have hpos : 0 < c.utf8Size := Char.utf8Size_pos c
  have hpair : ∀ d ∈ ['"', '\\', 'n', 'r', 't', 'f', 'b'], charsSize ['\\', d] = 2 :=
    List.all_iff_forall_prop.mp (by decide)
  have hcontrol : ∀ n < 32, charsSize (Json.unitEscape n) = 6 := by decide
  unfold Json.escapeChar
  split_ifs with h₁ h₂ h₃ h₄ h₅ h₆ h₇ h₈
  iterate 7
    · rw [hpair _ (by simp)]
      omega
  · have hlt : c.toNat < 32 := h₈.resolve_right (by simp)
    rw [Json.unicodeEscape, if_pos (by omega), hcontrol _ hlt]
    omega
  · have hone : charsSize [c] = c.utf8Size := by simp [charsSize]
    omega

omit [Platform] in
/-- A string literal, by the bytes of the text. -/
theorem textSize_str_le (s : String) :
    textSize (.str s) ≤ 6 * (Bytes.encodeUtf8 s).length + 2 := by
  have hchars (cs : List Char) :
      charsSize (Json.dumpChars false cs) ≤ 6 * charsSize cs + 1 := by
    induction cs with
    | nil => decide
    | cons c cs ih =>
      have hc := charsSize_escapeChar_le c
      rw [Json.dumpChars, charsSize_append, charsSize_cons]
      omega
  have hquote : Char.utf8Size '"' = 1 := rfl
  have h := hchars s.toList
  rw [textSize_eq, Json.dumpValue, Json.dumpString, charsSize_cons, hquote,
    Bytes.length_encodeUtf8, ← charsSize]
  omega

omit [Platform] in
theorem textSize_le_weight (v : Json) : textSize v ≤ 4 * Json.weight v := by
  have hbytes := Bytes.length_encodeUtf8_le (Json.dumps false v)
  have hlength := Json.length_dumpValue_le false v
  rw [Json.dumps, String.toList_ofList] at hbytes
  rw [textSize, Json.dumps]
  omega

/-- A short text takes at most six times the limit. -/
theorem size_str_le {t : Text} (h : ShortText t) :
    size (.str t) ≤ 6 * maxCanonicalStringBytes + 2 := by
  obtain ⟨s, hs, hshort⟩ := h
  have hle := textSize_str_le s
  rw [size, hs, Option.getD_some]
  omega

/-- A text of ASCII characters, by its length. -/
theorem size_ofString_le (hascii : NfcAscii) {s : String} (h : isAscii s = true) {n : ℕ}
    (hlength : s.toList.length ≤ n) : size (.str (Text.ofString s)) ≤ 24 * n + 2 := by
  have hbytes := Bytes.length_encodeUtf8_le s
  have hle := textSize_str_le s
  rw [size, normalText_ofString, nfc_of_isAscii hascii h, Option.getD_some]
  omega

/-- A natural number of 64 bits. -/
theorem size_int_le {n : ℤ} (h₀ : 0 ≤ n) (h : n ≤ 2 ^ 63 - 1) : size (.int n) ≤ 76 := by
  have hweight := Json.weight_int_le (k := 19) (by decide) h₀ (by omega)
  have hle := textSize_le_weight (.int n)
  rw [size]
  omega

/-! ### Sorting keeps the number of bytes -/

omit [Platform] in
theorem fieldsSize_insertField (field : String × Json) (fields : List (String × Json)) :
    fieldsSize (Json.insertField field fields) = fieldsSize (field :: fields) :=
  ((Json.insertField_perm field fields).map _).sum_nat

omit [Platform] in
/-- The size of a dictionary is that of its fields. -/
theorem textSize_obj_congr {fields gs : List (String × Json)} (hlength : fields.length = gs.length)
    (h : fieldsSize fields = fieldsSize gs) : textSize (.obj fields) = textSize (.obj gs) := by
  rcases fields with _ | ⟨f, fs⟩ <;> rcases gs with _ | ⟨g, gs⟩
  · rfl
  · cases hlength
  · cases hlength
  · rw [textSize_obj, textSize_obj, h]

omit [Platform] in
mutual

theorem textSize_sortKeys : ∀ v : Json, textSize v.sortKeys = textSize v
  | .null | .bool _ | .int _ | .float _ | .str _ => rfl
  | .arr [] => rfl
  | .arr (x :: xs) => by
    rw [Json.sortKeys, Json.sortItems, textSize_arr, textSize_arr, List.map_cons, List.sum_cons,
      List.map_cons, List.sum_cons, textSize_sortKeys x, sum_sortItems xs]
  | .obj fields => by
    obtain ⟨hlength, hsize⟩ := fieldsSize_sortFields fields
    rw [Json.sortKeys, textSize_obj_congr hlength hsize]

theorem sum_sortItems : ∀ items : List Json,
    ((Json.sortItems items).map fun y => textSize y + 1).sum =
      (items.map fun y => textSize y + 1).sum
  | [] => rfl
  | x :: xs => by
    rw [Json.sortItems, List.map_cons, List.sum_cons, List.map_cons, List.sum_cons,
      textSize_sortKeys x, sum_sortItems xs]

theorem fieldsSize_sortFields : ∀ fields : List (String × Json),
    (Json.sortFields fields).length = fields.length ∧
      fieldsSize (Json.sortFields fields) = fieldsSize fields
  | [] => ⟨rfl, rfl⟩
  | (k, v) :: fs => by
    obtain ⟨hlength, hsize⟩ := fieldsSize_sortFields fs
    have hcons : ∀ (f : String × Json) (gs : List (String × Json)), fieldsSize (f :: gs) =
        textSize (.str f.1) + textSize f.2 + 2 + fieldsSize gs := fun f gs => by
      rw [fieldsSize, List.map_cons, List.sum_cons, ← fieldsSize]
    refine ⟨?_, ?_⟩
    · rw [Json.sortFields, (Json.insertField_perm _ _).length_eq, List.length_cons, hlength,
        List.length_cons]
    · rw [Json.sortFields, fieldsSize_insertField, hcons, hcons, hsize, textSize_sortKeys v]

end

/-! ### Encodings -/

/-- The limits on a value: on the depth, the collections, the texts and the integers, on the nodes,
and on the bytes. -/
structure WithinLimits (v : Value) : Prop where
  limited : Limited 0 v
  nodes : v.nodes ≤ maxCanonicalNodes
  size : v.size ≤ maxCanonicalBytes

/-- A value has a canonical encoding exactly if it stays within the limits. -/
theorem exists_canonicalJson_iff {v : Value} :
    (∃ bytes, canonicalJson v = .ok bytes) ↔ v.WithinLimits := by
  have hlength (y : Json) :
      (Bytes.encodeUtf8 (Json.dumps false y.sortKeys)).length = textSize y :=
    textSize_sortKeys y
  simp only [canonicalJson_eq_ok, normalize_eq_ok]
  constructor
  · rintro ⟨_, y, m, ⟨hlimited, hnodes, rfl, -⟩, hle, rfl⟩
    rw [hlength, textSize_normalized] at hle
    exact ⟨hlimited, by omega, hle⟩
  · rintro ⟨hlimited, hnodes, hsize⟩
    refine ⟨_, _, _, ⟨hlimited, by omega, rfl, rfl⟩, ?_, rfl⟩
    rwa [hlength, textSize_normalized]

/-- A value has a digest exactly if it stays within the limits. -/
theorem exists_digestValue_iff {purpose : DigestPurpose} {v : Value} :
    (∃ digest, digestValue purpose v [] = .ok digest) ↔ v.WithinLimits := by
  obtain ⟨parts, hparts, -⟩ := exists_frameContext [domainPrefix, purpose.value] (by
    rcases purpose <;> decide)
  have hcontext : frameContext [Text.ofString domainPrefix, Text.ofString purpose.value] =
      .ok parts := (frameContext_ofString _).trans hparts
  rw [← exists_canonicalJson_iff]
  simp only [digestValue, digestMessage, List.length_nil, Nat.zero_le, demand_of, ok_bind, hcontext,
    bind_eq_ok]
  constructor
  · rintro ⟨_, _, ⟨body, hbody, -⟩, -⟩
    exact ⟨body, hbody⟩
  · rintro ⟨body, hbody⟩
    have hlength : body.length ≤ maxCanonicalBytes := by
      obtain ⟨_, _, -, hle, -⟩ := canonicalJson_eq_ok.mp hbody
      exact hle
    obtain ⟨framed, hframed⟩ :=
      exists_frameBytes (Nat.lt_of_le_of_lt hlength (by unfold maxCanonicalBytes; decide))
    exact ⟨_, _, ⟨body, hbody, framed, hframed, rfl⟩, rfl⟩

end Value

end

end Tier1
