import Mathlib.Data.Nat.Notation
import PfsenseMcp.Tier1.CanonicalForm

/-!
# Confirmation tokens of `setup apply`

`security_setup_apply_confirmation.py`: the token that confirms a plan, and its comparison with
what the operator supplies.

## Main results

* `canonicalPayload_injective`: the payload determines what a token is bound to;
* `confirmationTokenMatches_eq_true`: exactly the token itself matches.
-/

namespace Administration

open Python Tier1

/-! ### Texts -/

/-- A string literal of `json.dumps` with its default `ensure_ascii=True`. A surrogate is written
as an escape of its own. -/
def dumpText (t : Text) : List Char :=
  '"' :: (t.flatMap fun c => match Text.scalar c with
    | some ch => Json.escapeChar true ch
    | none => Json.unitEscape c.val) ++ ['"']

/-- `null` or a string literal. -/
def dumpOptional : Option Text → List Char
  | none => "null".toList
  | some t => dumpText t

/-- The bytes of one code point under `encode("utf-8", errors="surrogateescape")`; `none` is the
`UnicodeEncodeError` of a surrogate that stands for no byte. -/
def encodeCodePoint (c : Fin 0x110000) : Option Bytes :=
  let n := c.val
  if n < 0x80 then some [.ofNat n]
  else if n < 0x800 then some [.ofNat (0xc0 + n / 0x40), .ofNat (0x80 + n % 0x40)]
  else if 0xdc80 ≤ n ∧ n ≤ 0xdcff then some [.ofNat (n - 0xdc00)]
  else if 0xd800 ≤ n ∧ n < 0xe000 then none
  else if n < 0x10000 then
    some [.ofNat (0xe0 + n / 0x1000), .ofNat (0x80 + n / 0x40 % 0x40), .ofNat (0x80 + n % 0x40)]
  else
    some [.ofNat (0xf0 + n / 0x40000), .ofNat (0x80 + n / 0x1000 % 0x40),
      .ofNat (0x80 + n / 0x40 % 0x40), .ofNat (0x80 + n % 0x40)]

/-- `text.encode("utf-8", errors="surrogateescape")`. -/
def encodeSurrogateEscape : Text → Option Bytes
  | [] => some []
  | c :: cs => do
    let head ← encodeCodePoint c
    let rest ← encodeSurrogateEscape cs
    return head ++ rest

/-- `text.encode("ascii")` of a text of ASCII characters. -/
def encodeAscii (text : String) : Bytes := text.toList.map fun c => .ofNat c.toNat

/-! ### Tokens -/

/-- `ApplyConfirmationBinding`. -/
structure ApplyConfirmationBinding where
  planDigest : String
  targetOrigin : Option Text
  targetIdentity : Option Text
  capabilityPosture : String
  anchorAssurance : String
  readOnlyAccountMode : Option String
deriving DecidableEq

namespace ApplyConfirmationBinding

/-- The values of the payload, in the order of their keys. -/
def payloadFields (b : ApplyConfirmationBinding) : List (String × Option Text) :=
  [("anchor_assurance", some (Text.ofString b.anchorAssurance)),
    ("capability_posture", some (Text.ofString b.capabilityPosture)),
    ("plan_digest", some (Text.ofString b.planDigest)),
    ("read_only_account_mode", b.readOnlyAccountMode.map Text.ofString),
    ("target_identity", b.targetIdentity), ("target_origin", b.targetOrigin)]

end ApplyConfirmationBinding

/-- The fields of an object after the first, and its closing brace. -/
def dumpTextFields : List (String × Option Text) → List Char
  | [] => ['\x7d']
  | (key, value) :: fields =>
    ',' :: (Json.dumpString true key ++ ':' :: (dumpOptional value ++ dumpTextFields fields))

/-- `json.dumps` of a dictionary of optional strings. -/
def dumpTextObject : List (String × Option Text) → List Char
  | [] => ['\x7b', '\x7d']
  | (key, value) :: fields =>
    '\x7b' :: (Json.dumpString true key ++ ':' :: (dumpOptional value ++ dumpTextFields fields))

/-- `_canonical_payload`. -/
def canonicalPayload (b : ApplyConfirmationBinding) : Bytes :=
  Bytes.encodeUtf8 (String.ofList (dumpTextObject b.payloadFields))

/-- `_TOKEN_DOMAIN`. -/
def tokenDomain : Bytes := Bytes.encodeUtf8 "pfsense-mcp-setup-apply-confirm-v1" ++ [0]

/-- What a token is the authentication code of. -/
def tokenMessage (b : ApplyConfirmationBinding) : Bytes := tokenDomain ++ canonicalPayload b

/-! ### What a payload determines -/

/-- A text without surrogates. -/
def IsEncodable (t : Text) : Prop := ∃ s, Text.toString? t = some s

/-- The JSON value of an optional text. -/
def optionalJson (value : Option Text) : Json :=
  match value.bind Text.toString? with
  | some s => .str s
  | none => .null

theorem dumpChars_eq (cs : List Char) :
    Json.dumpChars true cs = cs.flatMap (Json.escapeChar true) ++ ['"'] := by
  induction cs with
  | nil => rfl
  | cons c cs ih => rw [Json.dumpChars, ih, List.flatMap_cons, List.append_assoc]

theorem flatMap_escape {t : Text} {cs : List Char} (h : Text.scalars t = some cs) :
    (t.flatMap fun c => match Text.scalar c with
      | some ch => Json.escapeChar true ch
      | none => Json.unitEscape c.val) = cs.flatMap (Json.escapeChar true) := by
  induction t generalizing cs with
  | nil =>
    cases h
    rfl
  | cons c t ih =>
    simp only [Text.scalars, Option.bind_eq_bind, Option.bind_eq_some_iff, Option.pure_def,
      Option.some.injEq] at h
    obtain ⟨x, hx, xs, hxs, rfl⟩ := h
    rw [List.flatMap_cons, List.flatMap_cons, ih hxs, hx]

/-- A text without surrogates is written as a JSON string. -/
theorem dumpOptional_eq {value : Option Text} (h : ∀ t ∈ value, IsEncodable t) :
    dumpOptional value = Json.dumpValue true (optionalJson value) := by
  cases value with
  | none => simp [dumpOptional, optionalJson, Json.dumpValue]
  | some t =>
    obtain ⟨s, hs⟩ := h t rfl
    obtain ⟨cs, hcs, rfl⟩ := Option.map_eq_some_iff.mp hs
    simp only [dumpOptional, dumpText, optionalJson, Option.bind_some, hs, Json.dumpValue,
      Json.dumpString, String.toList_ofList, flatMap_escape hcs, dumpChars_eq, List.cons_append]

theorem dumpTextFields_eq {fields : List (String × Option Text)}
    (h : ∀ f ∈ fields, ∀ t ∈ f.2, IsEncodable t) :
    dumpTextFields fields =
      Json.dumpFields true (fields.map fun f => (f.1, optionalJson f.2)) := by
  induction fields with
  | nil => simp [dumpTextFields, Json.dumpFields]
  | cons f fields ih =>
    obtain ⟨key, value⟩ := f
    simp only [dumpTextFields, List.map_cons, Json.dumpFields,
      dumpOptional_eq (h _ List.mem_cons_self), ih fun f hf => h f (List.mem_cons_of_mem _ hf)]

namespace ApplyConfirmationBinding

/-- The texts of a binding can be encoded. -/
structure Valid (b : ApplyConfirmationBinding) : Prop where
  targetOrigin : ∀ t ∈ b.targetOrigin, IsEncodable t
  targetIdentity : ∀ t ∈ b.targetIdentity, IsEncodable t

theorem Valid.fields {b : ApplyConfirmationBinding} (h : b.Valid) :
    ∀ f ∈ b.payloadFields, ∀ t ∈ f.2, IsEncodable t := by
  have hstring : ∀ (s : String) (t : Text), t ∈ some (Text.ofString s) → IsEncodable t := by
    rintro s t ⟨⟩
    exact ⟨s, Text.toString?_ofString s⟩
  intro f hf t ht
  simp only [payloadFields, List.mem_cons, List.not_mem_nil, or_false] at hf
  rcases hf with rfl | rfl | rfl | rfl | rfl | rfl
  · exact hstring _ t ht
  · exact hstring _ t ht
  · exact hstring _ t ht
  · obtain ⟨s, -, rfl⟩ := Option.map_eq_some_iff.mp ht
    exact ⟨s, Text.toString?_ofString s⟩
  · exact h.targetIdentity t ht
  · exact h.targetOrigin t ht

end ApplyConfirmationBinding

theorem optionalJson_injective {v w : Option Text} (hv : ∀ t ∈ v, IsEncodable t)
    (hw : ∀ t ∈ w, IsEncodable t) (h : optionalJson v = optionalJson w) : v = w := by
  cases v with
  | none =>
    cases w with
    | none => rfl
    | some u =>
      obtain ⟨s, hs⟩ := hw u rfl
      simp [optionalJson, hs] at h
  | some t =>
    obtain ⟨s, hs⟩ := hv t rfl
    cases w with
    | none => simp [optionalJson, hs] at h
    | some u =>
      obtain ⟨s', hs'⟩ := hw u rfl
      simp only [optionalJson, Option.bind_some, hs, hs', Json.str.injEq] at h
      subst h
      rw [Text.toString?_injective hs hs']

theorem plainFields_optionalJson (fields : List (String × Option Text)) :
    Json.plainFields (fields.map fun f => (f.1, optionalJson f.2)) = true := by
  induction fields with
  | nil => rfl
  | cons f fields ih =>
    have hplain : Json.plain (optionalJson f.2) = true := by
      unfold optionalJson
      split <;> rfl
    simp only [List.map_cons, Json.plainFields, hplain, ih, Bool.and_self]

theorem ofString_injective {s s' : String} (h : Text.ofString s = Text.ofString s') : s = s' := by
  have hs := Text.toString?_ofString s
  rw [h, Text.toString?_ofString] at hs
  exact (Option.some.inj hs).symm

/-- The payload determines the binding. -/
theorem canonicalPayload_injective {b b' : ApplyConfirmationBinding} (hb : b.Valid)
    (hb' : b'.Valid) (h : canonicalPayload b = canonicalPayload b') : b = b' := by
  have hdump : ∀ {b : ApplyConfirmationBinding}, b.Valid → dumpTextObject b.payloadFields =
      Json.dumpValue true (.obj (b.payloadFields.map fun f => (f.1, optionalJson f.2))) := by
    intro b hb
    have hfields := hb.fields
    simp only [ApplyConfirmationBinding.payloadFields] at hfields ⊢
    simp only [dumpTextObject, List.map_cons, Json.dumpValue,
      dumpOptional_eq (hfields _ List.mem_cons_self),
      dumpTextFields_eq fun f hf => hfields f (List.mem_cons_of_mem _ hf)]
  have htext := Bytes.encodeUtf8_injective h
  rw [hdump hb, hdump hb'] at htext
  have hjson := Json.dumps_injective true (by simpa only [Json.plain] using plainFields_optionalJson _)
    (by simpa only [Json.plain] using plainFields_optionalJson _) htext
  simp only [ApplyConfirmationBinding.payloadFields, List.map_cons, List.map_nil,
    Json.obj.injEq, List.cons.injEq, Prod.mk.injEq, true_and, and_true] at hjson
  obtain ⟨hanchor, hposture, hdigest, hmode, hidentity, horigin⟩ := hjson
  have hsome : ∀ {s s' : String}, optionalJson (some (Text.ofString s)) =
      optionalJson (some (Text.ofString s')) → s = s' := by
    intro s s' h
    simpa [optionalJson] using h
  have hmode' : b.readOnlyAccountMode = b'.readOnlyAccountMode := by
    cases hm : b.readOnlyAccountMode <;> cases hm' : b'.readOnlyAccountMode <;>
      simp_all [optionalJson]
  cases b
  cases b'
  simp only [ApplyConfirmationBinding.mk.injEq]
  exact ⟨hsome hdigest, optionalJson_injective hb.targetOrigin hb'.targetOrigin horigin,
    optionalJson_injective hb.targetIdentity hb'.targetIdentity hidentity, hsome hposture,
    hsome hanchor, hmode'⟩

section Tokens

variable [Platform]

/-- `derive_confirmation_token`. -/
def deriveConfirmationToken (b : ApplyConfirmationBinding) (integrityKey : Bytes) : String :=
  Platform.hmacSha256 integrityKey (tokenMessage b)

/-- `confirmation_token_matches`; `none` is the `UnicodeEncodeError` of a candidate. -/
def confirmationTokenMatches (candidate : Option Text) (b : ApplyConfirmationBinding)
    (integrityKey : Bytes) : Option Bool :=
  match candidate with
  | none | some [] => some false
  | some text => do
    let encoded ← encodeSurrogateEscape text
    return encoded == encodeAscii (deriveConfirmationToken b integrityKey)

/-! ### What matches a token -/

omit [Platform] in
/-- A text whose bytes are all ASCII consists of these characters. -/
theorem map_val_of_encode {t : Text} {bs : Bytes} (h : encodeSurrogateEscape t = some bs)
    (hascii : ∀ b ∈ bs, b.toNat < 128) : t.map Fin.val = bs.map UInt8.toNat := by
  induction t generalizing bs with
  | nil =>
    cases h
    rfl
  | cons c t ih =>
    simp only [encodeSurrogateEscape, Option.bind_eq_bind, Option.bind_eq_some_iff,
      Option.pure_def, Option.some.injEq] at h
    obtain ⟨head, hhead, rest, hrest, rfl⟩ := h
    have hbyte : ∀ b ∈ head, b.toNat < 128 := fun b hb => hascii b (List.mem_append_left _ hb)
    have htail := ih hrest fun b hb => hascii b (List.mem_append_right _ hb)
    -- every other code point is encoded with a first byte above the ASCII range
    have hone : head = [.ofNat c.val] ∧ c.val < 128 := by
      have hval := c.isLt
      have hlow : ∀ n : ℕ, 128 ≤ n → n < 256 → UInt8.ofNat n ∈ head → False := by
        intro n hn hn' hmem
        have hlt := hbyte _ hmem
        rw [UInt8.toNat_ofNat'] at hlt
        omega
      unfold encodeCodePoint at hhead
      dsimp only at hhead
      split_ifs at hhead with h₁ h₂ h₃ h₄ h₅
      · exact ⟨(Option.some.inj hhead).symm, h₁⟩
      · exact (hlow (0xc0 + c.val / 0x40) (by omega) (by omega)
          (by rw [← Option.some.inj hhead]; simp)).elim
      · exact (hlow (c.val - 0xdc00) (by omega) (by omega)
          (by rw [← Option.some.inj hhead]; simp)).elim
      · exact (hlow (0xe0 + c.val / 0x1000) (by omega) (by omega)
          (by rw [← Option.some.inj hhead]; simp)).elim
      · exact (hlow (0xf0 + c.val / 0x40000) (by omega) (by omega)
          (by rw [← Option.some.inj hhead]; simp)).elim
    rw [hone.1, List.map_cons, List.map_append, htail, List.map_cons, List.map_nil,
      List.singleton_append, UInt8.toNat_ofNat', Nat.mod_eq_of_lt (by omega)]

omit [Platform] in
/-- ASCII texts are encoded as they are. -/
theorem encode_ofString {cs : List Char} (h : ∀ c ∈ cs, c.toNat < 128) :
    encodeSurrogateEscape (Text.ofString (String.ofList cs)) =
      some (encodeAscii (String.ofList cs)) := by
  induction cs with
  | nil => rfl
  | cons c cs ih =>
    have hc := h c List.mem_cons_self
    have hrest := ih fun d hd => h d (List.mem_cons_of_mem _ hd)
    simp only [Text.ofString, encodeAscii, String.toList_ofList] at hrest ⊢
    rw [List.map_cons, List.map_cons, encodeSurrogateEscape, hrest, encodeCodePoint]
    simp only [if_pos hc]
    rfl

/-- Exactly the token itself matches. -/
theorem confirmationTokenMatches_eq_true {candidate : Option Text}
    {b : ApplyConfirmationBinding} {integrityKey : Bytes} :
    confirmationTokenMatches candidate b integrityKey = some true ↔
      candidate = some (Text.ofString (deriveConfirmationToken b integrityKey)) := by
  have hhex : isHex64 (deriveConfirmationToken b integrityKey) = true :=
    Platform.isHex64_hmacSha256 integrityKey (tokenMessage b)
  generalize hs : deriveConfirmationToken b integrityKey = s at hhex
  have hascii := ascii_of_isHex64 hhex
  have hlength : s.toList.length = 64 := by
    simp only [isHex64, Bool.and_eq_true, beq_iff_eq] at hhex
    exact hhex.1
  have hself : encodeSurrogateEscape (Text.ofString s) = some (encodeAscii s) := by
    have h := encode_ofString hascii
    rwa [String.ofList_toList] at h
  have hnonempty : Text.ofString s ≠ [] := by
    intro h
    have hzero := congrArg List.length h
    rw [Text.ofString, List.length_map, hlength] at hzero
    cases hzero
  constructor
  · intro h
    rcases candidate with _ | _ | ⟨c, text⟩
    · cases h
    · cases h
    · simp only [confirmationTokenMatches, Option.bind_eq_bind, Option.bind_eq_some_iff,
        Option.pure_def, Option.some.injEq, beq_iff_eq, hs] at h
      obtain ⟨encoded, hencoded, rfl⟩ := h
      have hbytes : ∀ b ∈ encodeAscii s, b.toNat < 128 := by
        intro b hb
        obtain ⟨ch, hch, rfl⟩ := List.mem_map.mp hb
        rw [UInt8.toNat_ofNat', Nat.mod_eq_of_lt (by have := hascii ch hch; omega)]
        exact hascii ch hch
      have hsame := (map_val_of_encode hencoded hbytes).trans (map_val_of_encode hself hbytes).symm
      rw [List.map_injective_iff.mpr Fin.val_injective hsame]
  · rintro rfl
    cases htext : Text.ofString s with
    | nil => exact absurd htext hnonempty
    | cons c text =>
      rw [htext] at hself
      simp [confirmationTokenMatches, hself, hs]

/-- Two bindings have different tokens, unless their messages collide. -/
theorem deriveConfirmationToken_ne {b b' : ApplyConfirmationBinding} (hb : b.Valid)
    (hb' : b'.Valid) (hne : b ≠ b') {integrityKey : Bytes}
    (hinjective : Platform.hmacSha256 integrityKey (tokenMessage b) =
      Platform.hmacSha256 integrityKey (tokenMessage b') → tokenMessage b = tokenMessage b') :
    deriveConfirmationToken b integrityKey ≠ deriveConfirmationToken b' integrityKey := by
  intro h
  exact hne (canonicalPayload_injective hb hb' (List.append_cancel_left (hinjective h)))

end Tokens

end Administration
