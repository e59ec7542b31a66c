import Mathlib.Data.Nat.Notation
import Mathlib.Tactic.SplitIfs
import PfsenseMcp.Python.Bytes
import PfsenseMcp.Python.Json
import PfsenseMcp.Tier1.Errors

/-!
# Canonical values and digests

`tier1/canonical.py`: the normalisation of JSON-shaped values, their deterministic encoding, the
length framing shared by digests and authentication codes, and the domain-separated digest.

The primitives of other libraries are parameters, collected in `Platform`: the hash functions,
Unicode normalisation and authenticated decryption, and the type of the Python objects that
adapters exchange with the executor. Of the hash functions the development uses that
`hexdigest()` has 64 lower-case hexadecimal digits.
-/

namespace Tier1

open Python

/-- A text matched by `[0-9a-f]{64}`. -/
def isHex64 (text : String) : Bool :=
  text.toList.length == 64 &&
    text.toList.all fun c => ('0' ≤ c ∧ c ≤ '9') ∨ ('a' ≤ c ∧ c ≤ 'f')

/-- A text matched by `[A-Za-z0-9][A-Za-z0-9_.:-]{0,127}`. -/
def isIdentifier (text : String) : Bool :=
  match text.toList with
  | [] => false
  | c :: cs =>
    c.isAlphanum && decide (cs.length ≤ 127) &&
      cs.all fun c => c.isAlphanum ∨ c = '_' ∨ c = '.' ∨ c = ':' ∨ c = '-'

/-- The letters and digits of ASCII. -/
theorem toNat_of_isAlphanum {c : Char} (h : c.isAlphanum = true) :
    (65 ≤ c.toNat ∧ c.toNat ≤ 90 ∨ 97 ≤ c.toNat ∧ c.toNat ≤ 122) ∨
      48 ≤ c.toNat ∧ c.toNat ≤ 57 := by
  change ((decide (c.val ≥ 'A'.val ∧ c.val ≤ 'Z'.val) ||
    decide (c.val ≥ 'a'.val) && decide (c.val ≤ 'z'.val)) ||
      decide (c.val ≥ '0'.val) && decide (c.val ≤ '9'.val)) = true at h
  simp only [Bool.or_eq_true, Bool.and_eq_true, decide_eq_true_eq, UInt32.le_iff_toNat_le] at h
  exact h

/-- What the modelled code takes from other libraries. -/
class Platform where
  /-- The Python objects that an adapter reads from the appliance and returns. -/
  Obj : Type
  /-- `hashlib.sha256(data).hexdigest()`. -/
  sha256 : Bytes → String
  /-- `hmac.new(key, message, hashlib.sha256).hexdigest()`. -/
  hmacSha256 : (key message : Bytes) → String
  /-- `unicodedata.normalize("NFC", text)`. -/
  nfc : String → String
  /-- `AESGCM(key).decrypt(nonce, sealed, associated_data)`: `none` is an `InvalidTag` or a
  `ValueError`. -/
  aesGcmDecrypt : (key nonce sealed associatedData : Bytes) → Option Bytes
  /-- A digest has 64 lower-case hexadecimal digits. -/
  isHex64_sha256 : ∀ data, isHex64 (sha256 data) = true
  /-- So has an authentication code. -/
  isHex64_hmacSha256 : ∀ key message, isHex64 (hmacSha256 key message) = true

variable [Platform]

/-! ### Limits -/

def maxCanonicalDepth : ℕ := 32

def maxCanonicalNodes : ℕ := 10000

def maxCanonicalCollectionItems : ℕ := 4096

def maxCanonicalStringBytes : ℕ := 65536

def maxCanonicalBytes : ℕ := 1048576

/-- `DigestPurpose`. -/
inductive DigestPurpose where
  | targetIdentity
  | targetFingerprint
  | intent
  | snapshot
  | confirmation
  | idempotency
  | reconciliation
  | plan
  | planAuthorization
  | planAuthorizationV2
  | deprovisionAuthorization
  | executionIntent
  | setupPlan
deriving DecidableEq, Repr

namespace DigestPurpose

/-- The wire value of a purpose. -/
def value : DigestPurpose → String
  | targetIdentity => "target-identity"
  | targetFingerprint => "target-fingerprint"
  | intent => "intent"
  | snapshot => "snapshot"
  | confirmation => "confirmation"
  | idempotency => "idempotency"
  | reconciliation => "reconciliation"
  | plan => "plan"
  | planAuthorization => "plan-authorization"
  | planAuthorizationV2 => "plan-authorization-v2"
  | deprovisionAuthorization => "deprovision-authorization"
  | executionIntent => "execution-intent"
  | setupPlan => "setup-plan"

end DigestPurpose

/-! ### Normalisation -/

/-- `_normalized_string`. -/
def normalizedString (value : String) : Except Error String :=
  let normalized := Platform.nfc value
  if maxCanonicalStringBytes < (Bytes.encodeUtf8 normalized).length then
    fail .canonicalization "Canonical string exceeds the safety limit."
  else .ok normalized

omit [Platform] in
/-- The nesting and node limits that `_normalize` checks on entry; the new number of nodes. -/
def enterNode (depth nodes : ℕ) : Except Error ℕ := do
  demand (depth ≤ maxCanonicalDepth) .canonicalization "Canonical value exceeds the nesting limit."
  demand (nodes + 1 ≤ maxCanonicalNodes) .canonicalization
    "Canonical value exceeds the node limit."
  .ok (nodes + 1)

mutual

/-- `_normalize`: the normalised value and the number of nodes seen so far. -/
def normalize (depth nodes : ℕ) : Json → Except Error (Json × ℕ)
  | .null => do
    let nodes ← enterNode depth nodes
    .ok (.null, nodes)
  | .bool b => do
    let nodes ← enterNode depth nodes
    .ok (.bool b, nodes)
  | .int n => do
    let nodes ← enterNode depth nodes
    demand (-(2 ^ 63) ≤ n ∧ n ≤ 2 ^ 63 - 1) .canonicalization
      "Canonical integer exceeds the signed 64-bit range."
    .ok (.int n, nodes)
  | .float _ => do
    let _ ← enterNode depth nodes
    fail .canonicalization
      "Floating-point values require a capability-specific exact representation."
  | .str s => do
    let nodes ← enterNode depth nodes
    let s ← normalizedString s
    .ok (.str s, nodes)
  | .arr items => do
    let nodes ← enterNode depth nodes
    demand (items.length ≤ maxCanonicalCollectionItems) .canonicalization
      "Canonical collection exceeds the item limit."
    let (items, nodes) ← normalizeItems (depth + 1) nodes items
    .ok (.arr items, nodes)
  | .obj fields => do
    let nodes ← enterNode depth nodes
    demand (fields.length ≤ maxCanonicalCollectionItems) .canonicalization
      "Canonical collection exceeds the item limit."
    let (fields, nodes) ← normalizeFields (depth + 1) nodes [] fields
    .ok (.obj fields, nodes)

/-- The items of a list, in order. -/
def normalizeItems (depth nodes : ℕ) : List Json → Except Error (List Json × ℕ)
  | [] => .ok ([], nodes)
  | item :: items => do
    let (item, nodes) ← normalize depth nodes item
    let (items, nodes) ← normalizeItems depth nodes items
    .ok (item :: items, nodes)

/-- The fields of a dictionary, in order; `seen` are the keys normalised before. -/
def normalizeFields (depth nodes : ℕ) (seen : List String) :
    List (String × Json) → Except Error (List (String × Json) × ℕ)
  | [] => .ok ([], nodes)
  | (key, item) :: fields => do
    let key ← normalizedString key
    demand (key ∉ seen) .canonicalization "Unicode normalization produced duplicate object keys."
    let (item, nodes) ← normalize depth nodes item
    let (fields, nodes) ← normalizeFields depth nodes (key :: seen) fields
    .ok ((key, item) :: fields, nodes)

end

/-- `validate_canonical_value`. -/
def validateCanonicalValue (value : Json) : Except Error Json := do
  let (normalized, _) ← normalize 0 0 value
  .ok normalized

/-- `canonical_json`. -/
def canonicalJson (value : Json) : Except Error Bytes := do
  let (normalized, _) ← normalize 0 0 value
  let encoded := Bytes.encodeUtf8 (Json.dumps false (Json.sortKeys normalized))
  demand (encoded.length ≤ maxCanonicalBytes) .canonicalization
    "Canonical representation exceeds the byte limit."
  .ok encoded

/-! ### Framing and digests -/

omit [Platform] in
/-- `frame_bytes`. -/
def frameBytes (value : Bytes) : Except Error Bytes :=
  match Bytes.frame value with
  | some framed => .ok framed
  | none => fail .overflow "int too big to convert"

omit [Platform] in
/-- `frame_str`. -/
def frameStr (value : String) : Except Error Bytes :=
  if maxCanonicalStringBytes < (Bytes.encodeUtf8 value).length then
    fail .canonicalization "Digest context component exceeds the safety limit."
  else frameBytes (Bytes.encodeUtf8 value)

omit [Platform] in
/-- The frames of several byte strings, one after the other. -/
def frameAll : List Bytes → Except Error Bytes
  | [] => .ok []
  | value :: values => do
    let framed ← frameBytes value
    let rest ← frameAll values
    .ok (framed ++ rest)

/-- `_DOMAIN_PREFIX`. -/
def domainPrefix : String := "pfSense-MCP/Tier1/v1"

omit [Platform] in
/-- The frames of the parts of a digest context. -/
def frameContext : List String → Except Error Bytes
  | [] => .ok []
  | part :: parts => do
    let framed ← frameStr part
    let rest ← frameContext parts
    .ok (framed ++ rest)

/-- `digest_value`. -/
def digestValue (purpose : DigestPurpose) (value : Json) (context : List String) :
    Except Error String := do
  demand (context.length ≤ 16) .canonicalization "Digest context has too many components."
  let parts ← frameContext (domainPrefix :: purpose.value :: context)
  let body ← canonicalJson value
  let framed ← frameBytes body
  .ok (Platform.sha256 (parts ++ framed))

/-- A digest has 64 lower-case hexadecimal digits. -/
theorem isHex64_of_digestValue {purpose : DigestPurpose} {value : Json} {context : List String}
    {digest : String} (h : digestValue purpose value context = .ok digest) :
    isHex64 digest = true := by
  simp only [digestValue, bind_eq_ok] at h
  obtain ⟨_, -, _, -, _, -, _, -, h⟩ := h
  cases h
  exact Platform.isHex64_sha256 _

section

omit [Platform]

/-! ### Comparison of authentication codes -/

/-- `hmac.compare_digest` on two texts, which refuses texts that are not ASCII. -/
def compareDigest (a b : String) : Except Error Bool :=
  if (a.toList ++ b.toList).all fun c => c.toNat < 128 then .ok (a == b)
  else fail (.other "TypeError") "comparing strings with non-ASCII characters is not supported"

theorem eq_of_compareDigest {a b : String} (h : compareDigest a b = .ok true) : a = b := by
  unfold compareDigest fail at h
  split_ifs at h
  simpa using Except.ok.inj h

theorem ascii_of_isHex64 {text : String} (h : isHex64 text = true) :
    ∀ c ∈ text.toList, c.toNat < 128 := by
  simp only [isHex64, Bool.and_eq_true, List.all_eq_true, decide_eq_true_eq] at h
  intro c hc
  have hle : ∀ {a b : Char}, a ≤ b → a.toNat ≤ b.toNat := fun h => h
  rcases h.2 c hc with ⟨-, h'⟩ | ⟨-, h'⟩
  · exact Nat.lt_of_le_of_lt (hle h') (by decide)
  · exact Nat.lt_of_le_of_lt (hle h') (by decide)

/-- Two hexadecimal texts can be compared. -/
theorem compareDigest_of_isHex64 {a b : String} (ha : isHex64 a = true) (hb : isHex64 b = true) :
    compareDigest a b = .ok (a == b) := by
  refine if_pos ?_
  simp only [List.all_append, Bool.and_eq_true, List.all_eq_true, decide_eq_true_eq]
  exact ⟨ascii_of_isHex64 ha, ascii_of_isHex64 hb⟩

/-! ### Framed messages -/

theorem frameBytes_eq_ok {value framed : Bytes} :
    frameBytes value = .ok framed ↔ Bytes.frame value = some framed := by
  unfold frameBytes fail
  cases Bytes.frame value <;> simp

theorem frameStr_eq_ok {value : String} {framed : Bytes} (h : frameStr value = .ok framed) :
    Bytes.frame (Bytes.encodeUtf8 value) = some framed := by
  unfold frameStr fail at h
  split_ifs at h
  exact frameBytes_eq_ok.mp h

theorem frameAll_eq_ok {values : List Bytes} {framed : Bytes} :
    frameAll values = .ok framed ↔ Bytes.frames values = some framed := by
  induction values generalizing framed with
  | nil => simp [frameAll, Bytes.frames]
  | cons value values ih =>
    simp only [frameAll, Bytes.frames, bind_eq_ok, Option.bind_eq_bind, Option.bind_eq_some_iff,
      frameBytes_eq_ok, ih, Option.pure_def, Option.some.injEq, Except.ok.injEq]

/-- An identifier has no quote in it, so it is no text form of a byte string. -/
theorem ne_str_of_isIdentifier {text : String} (h : isIdentifier text = true) (value : Bytes) :
    text ≠ Bytes.str value := by
  rintro rfl
  have hall : ∀ c ∈ (Bytes.str value).toList, c ≠ '"' ∧ c ≠ '\'' := by
    unfold isIdentifier at h
    split at h
    · exact absurd h (by simp)
    · rename_i c cs hcs
      simp only [Bool.and_eq_true, List.all_eq_true] at h
      obtain ⟨⟨hc, -⟩, hrest⟩ := h
      intro d hd
      rw [hcs, List.mem_cons] at hd
      rcases hd with rfl | hd
      · constructor <;> (rintro rfl; exact absurd hc (by decide))
      · have hd' := hrest d hd
        constructor <;> (rintro rfl; exact absurd hd' (by decide))
  rcases Bytes.quote_mem_str value with hq | hq
  · exact (hall _ hq).1 rfl
  · exact (hall _ hq).2 rfl

/-- A hexadecimal digest is no text form of a byte string. -/
theorem ne_str_of_isHex64 {text : String} (h : isHex64 text = true) (value : Bytes) :
    text ≠ Bytes.str value := by
  rintro rfl
  simp only [isHex64, Bool.and_eq_true, List.all_eq_true] at h
  rcases Bytes.quote_mem_str value with hq | hq
  · exact absurd (h.2 _ hq) (by decide)
  · exact absurd (h.2 _ hq) (by decide)

theorem length_le_of_isIdentifier {text : String} (h : isIdentifier text = true) :
    text.toList.length ≤ 128 := by
  unfold isIdentifier at h
  split at h
  · exact absurd h (by simp)
  · rename_i c cs hcs
    simp only [Bool.and_eq_true, decide_eq_true_eq] at h
    rw [hcs, List.length_cons]
    omega

theorem length_of_isHex64 {text : String} (h : isHex64 text = true) : text.toList.length = 64 := by
  simp only [isHex64, Bool.and_eq_true, beq_iff_eq] at h
  exact h.1

/-! ### Authentication codes -/

/-- The framed message of an authentication code: a store identifier and the components. -/
def authenticatedMessage (storeId : String) (components : List Bytes) : Except Error Bytes := do
  let head ← frameStr storeId
  let rest ← frameAll components
  .ok (head ++ rest)

/-- The message determines the store identifier and the components. -/
theorem authenticatedMessage_inj {s t : String} {cs ds : List Bytes} {m : Bytes}
    (h₁ : authenticatedMessage s cs = .ok m) (h₂ : authenticatedMessage t ds = .ok m) :
    s = t ∧ cs = ds := by
  have hframes : ∀ {s : String} {cs : List Bytes}, authenticatedMessage s cs = .ok m →
      Bytes.frames (Bytes.encodeUtf8 s :: cs) = some m := by
    intro s cs h
    simp only [authenticatedMessage, bind_eq_ok, frameAll_eq_ok] at h
    obtain ⟨head, hhead, rest, hrest, h⟩ := h
    cases h
    simp only [Bytes.frames, frameStr_eq_ok hhead, hrest]
    rfl
  have heq := Bytes.frames_inj (hframes h₁) (hframes h₂)
  rw [List.cons.injEq] at heq
  exact ⟨Bytes.encodeUtf8_injective heq.1, heq.2⟩

/-- A message with short parts can be framed. -/
theorem exists_authenticatedMessage {s : String} {cs : List Bytes}
    (hs : isIdentifier s = true) (hcs : ∀ c ∈ cs, c.length < 2 ^ 32) :
    ∃ m, authenticatedMessage s cs = .ok m := by
  have hlen : (Bytes.encodeUtf8 s).length ≤ 512 := by
    have h₁ := Bytes.length_encodeUtf8_le s
    have h₂ := length_le_of_isIdentifier hs
    omega
  obtain ⟨rest, hrest⟩ := Bytes.frames_isSome hcs
  have hhead : ∃ head, frameStr s = .ok head := by
    have hlimit : ¬maxCanonicalStringBytes < (Bytes.encodeUtf8 s).length := by
      unfold maxCanonicalStringBytes
      omega
    refine ⟨Bytes.bigEndian 4 (Bytes.encodeUtf8 s).length ++ Bytes.encodeUtf8 s, ?_⟩
    rw [frameStr, if_neg hlimit, frameBytes_eq_ok, Bytes.frame, if_pos (by omega)]
  obtain ⟨head, hhead⟩ := hhead
  exact ⟨head ++ rest, by
    simp only [authenticatedMessage, hhead, frameAll_eq_ok.mpr hrest, ok_bind]⟩

end

/-- `hmac.new(key, framed, hashlib.sha256).hexdigest()` of a framed message. -/
def authenticate (key : Bytes) (storeId : String) (components : List Bytes) :
    Except Error String := do
  let message ← authenticatedMessage storeId components
  .ok (Platform.hmacSha256 key message)

theorem authenticate_eq_ok {key : Bytes} {storeId : String} {components : List Bytes}
    {mac : String} : authenticate key storeId components = .ok mac ↔
      ∃ m, authenticatedMessage storeId components = .ok m ∧ Platform.hmacSha256 key m = mac := by
  simp only [authenticate, bind_eq_ok, Except.ok.injEq]

theorem isHex64_of_authenticate {key : Bytes} {storeId : String} {components : List Bytes}
    {mac : String} (h : authenticate key storeId components = .ok mac) : isHex64 mac = true := by
  obtain ⟨m, -, rfl⟩ := authenticate_eq_ok.mp h
  exact Platform.isHex64_hmacSha256 _ _

/-! ### A sample platform -/

namespace Sample

/-- The digest of the sample platform. -/
def hex : String := "aaaaaaaaaaaaaaaaaaaaaaaaaaaaaaaaaaaaaaaaaaaaaaaaaaaaaaaaaaaaaaaa"

omit [Platform] in
theorem isHex64_hex : isHex64 hex = true := by decide +kernel

/-- A platform on which every digest is `hex`, and every artifact holds an empty object. -/
@[reducible]
def platform : Platform where
  Obj := Unit
  sha256 _ := hex
  hmacSha256 _ _ := hex
  nfc := id
  aesGcmDecrypt _ _ _ _ := some [123, 125]
  isHex64_sha256 _ := isHex64_hex
  isHex64_hmacSha256 _ _ := isHex64_hex

end Sample

end Tier1
