import Mathlib.Algebra.Ring.Nat
import Mathlib.Data.Nat.Notation
import Mathlib.Data.List.Basic
import Mathlib.Data.List.GetD

/-!
# Python's `bytes`

Byte strings as lists of bytes, with the conversions of Python's standard library that a stored
record goes through: UTF-8, the big-endian `int.to_bytes`, the text form `str(…)` of a byte
string, and the Base64 codec.

## Main results

* `decodeUtf8_encodeUtf8`: decoding what was encoded gives the text back;
* `b64decode_b64encode`: the same for Base64;
* `frame_append_inj`: length-framed byte strings can be split in one way only.
-/

namespace Python

/-- A byte string. -/
abbrev Bytes := List UInt8

namespace Bytes

/-! ### UTF-8 -/

/-- `text.encode("utf-8")`. -/
def encodeUtf8 (text : String) : Bytes := text.toByteArray.data.toList

/-- `value.decode("utf-8")`: `none` is a `UnicodeDecodeError`. -/
def decodeUtf8 (value : Bytes) : Option String := String.fromUTF8? ⟨value.toArray⟩

/-- Decoding what was encoded gives the text back. -/
@[simp]
theorem decodeUtf8_encodeUtf8 (text : String) : decodeUtf8 (encodeUtf8 text) = some text := by
  have h : (⟨(encodeUtf8 text).toArray⟩ : ByteArray) = text.toByteArray := by
    simp [encodeUtf8]
  rw [decodeUtf8, h, String.fromUTF8?]
  simp [String.fromUTF8, text.isValidUTF8]

/-- Encoding what was decoded gives the bytes back. -/
theorem encodeUtf8_of_decodeUtf8 {value : Bytes} {text : String} (h : decodeUtf8 value = some text) :
    encodeUtf8 text = value := by
  rw [decodeUtf8, String.fromUTF8?] at h
  split_ifs at h
  cases h
  rfl

theorem encodeUtf8_injective {s t : String} (h : encodeUtf8 s = encodeUtf8 t) : s = t := by
  have hs := decodeUtf8_encodeUtf8 s
  rw [h, decodeUtf8_encodeUtf8] at hs
  exact (Option.some.inj hs).symm

/-- A character takes as many bytes as `utf8Size` says, and the characters of a text one after another. -/
theorem length_utf8Encode (cs : List Char) :
    cs.utf8Encode.data.toList.length = (cs.map Char.utf8Size).sum := by
  induction cs with
  | nil => simp
  | cons c cs ih =>
    rw [List.utf8Encode_cons]
    simp only [ByteArray.data_append, Array.toList_append, List.length_append, List.map_cons,
      List.sum_cons, ih]
    simp [List.utf8Encode_singleton]

theorem length_encodeUtf8 (s : String) :
    (encodeUtf8 s).length = (s.toList.map Char.utf8Size).sum := by
  have hs : s.toByteArray = s.toList.utf8Encode := by simp
  rw [encodeUtf8, hs]
  exact length_utf8Encode _

theorem length_encodeUtf8_le (s : String) : (encodeUtf8 s).length ≤ 4 * s.toList.length := by
  rw [length_encodeUtf8]
  induction s.toList with
  | nil => simp
  | cons c cs ih =>
    have hc := Char.utf8Size_le_four c
    simp only [List.map_cons, List.sum_cons, List.length_cons]
    omega

theorem length_le_encodeUtf8 (s : String) : s.toList.length ≤ (encodeUtf8 s).length := by
  rw [length_encodeUtf8]
  induction s.toList with
  | nil => simp
  | cons c cs ih =>
    have hc := Char.utf8Size_pos c
    simp only [List.map_cons, List.sum_cons, List.length_cons]
    omega

/-- A byte below 128 is a character of the text. -/
theorem mem_of_mem_encodeUtf8 {s : String} {b : UInt8} (hb : b ∈ encodeUtf8 s) :
    128 ≤ b.toNat ∨ ∃ c ∈ s.toList, c.toNat = b.toNat := by
  have hchar : ∀ c : Char, b ∈ String.utf8EncodeChar c → 128 ≤ b.toNat ∨ c.toNat = b.toNat := by
    intro c hb
    have hval : c.val.toNat = c.toNat := rfl
    rw [String.utf8EncodeChar] at hb
    simp only [hval] at hb
    split_ifs at hb <;> simp only [List.mem_cons, List.not_mem_nil, or_false] at hb
    · right
      rw [hb, UInt8.toNat_ofNat']
      omega
    -- the bytes of a longer sequence are at least 128
    · rcases hb with rfl | rfl <;> left <;> rw [UInt8.toNat_ofNat'] <;> omega
    · rcases hb with rfl | rfl | rfl <;> left <;> rw [UInt8.toNat_ofNat'] <;> omega
    · rcases hb with rfl | rfl | rfl | rfl <;> left <;> rw [UInt8.toNat_ofNat'] <;> omega
  have hlist : ∀ cs : List Char, b ∈ cs.utf8Encode.data.toList →
      128 ≤ b.toNat ∨ ∃ c ∈ cs, c.toNat = b.toNat := by
    intro cs hb
    induction cs with
    | nil => simp at hb
    | cons c cs ih =>
      rw [List.utf8Encode_cons, ByteArray.data_append, Array.toList_append, List.mem_append] at hb
      rcases hb with hb | hb
      · rw [List.utf8Encode_singleton] at hb
        exact (hchar c (by simpa using hb)).imp_right fun h => ⟨c, List.mem_cons_self, h⟩
      · refine (ih hb).imp_right ?_
        rintro ⟨d, hd, h⟩
        exact ⟨d, List.mem_cons_of_mem _ hd, h⟩
  have hbytes : s.toByteArray = s.toList.utf8Encode := by simp
  rw [encodeUtf8, hbytes] at hb
  exact hlist _ hb

/-- A text without control characters has no control bytes. -/
theorem le_of_mem_encodeUtf8 {s : String} (hs : ∀ c ∈ s.toList, 32 ≤ c.toNat) :
    ∀ b ∈ encodeUtf8 s, 32 ≤ b.toNat := by
  intro b hb
  rcases mem_of_mem_encodeUtf8 hb with h | ⟨c, hc, h⟩
  · omega
  · have := hs c hc
    omega

/-- `char.isspace()`. -/
def isSpace (c : Char) : Bool :=
  (9 ≤ c.toNat ∧ c.toNat ≤ 13) ∨ (28 ≤ c.toNat ∧ c.toNat ≤ 32) ∨ c.toNat = 0x85 ∨ c.toNat = 0xa0 ∨
    c.toNat = 0x1680 ∨ (0x2000 ≤ c.toNat ∧ c.toNat ≤ 0x200a) ∨ c.toNat = 0x2028 ∨
    c.toNat = 0x2029 ∨ c.toNat = 0x202f ∨ c.toNat = 0x205f ∨ c.toNat = 0x3000

/-- `text.strip()`. -/
def strip (text : String) : String :=
  String.ofList ((text.toList.dropWhile isSpace).reverse.dropWhile isSpace).reverse

/-- A text that neither starts nor ends with white space is kept. -/
theorem strip_of_ends {c d : Char} {cs : List Char} (hc : isSpace c = false)
    (hd : isSpace d = false) :
    strip (String.ofList (c :: (cs ++ [d]))) = String.ofList (c :: (cs ++ [d])) := by
  rw [strip, String.toList_ofList, List.dropWhile_cons_of_neg (by simp [hc])]
  simp [List.dropWhile_cons_of_neg, hd]

/-! ### Length framing -/

/-- The `width` low bytes of a number, the most significant first. -/
def bigEndian : ℕ → ℕ → Bytes
  | 0, _ => []
  | width + 1, n => bigEndian width (n / 256) ++ [UInt8.ofNat (n % 256)]

@[simp]
theorem length_bigEndian (width n : ℕ) : (bigEndian width n).length = width := by
  induction width generalizing n with
  | zero => rfl
  | succ width ih => simp [bigEndian, ih]

/-- Numbers that fit are told apart by their bytes. -/
theorem bigEndian_inj {width n m : ℕ} (hn : n < 256 ^ width) (hm : m < 256 ^ width)
    (h : bigEndian width n = bigEndian width m) : n = m := by
  induction width generalizing n m with
  | zero => simp at hn hm; omega
  | succ width ih =>
    obtain ⟨hhigh, hlow⟩ := List.append_inj h (by simp)
    have hdiv : n / 256 = m / 256 := by
      refine ih ?_ ?_ hhigh
      · rw [Nat.div_lt_iff_lt_mul (by decide)]; rwa [Nat.pow_succ] at hn
      · rw [Nat.div_lt_iff_lt_mul (by decide)]; rwa [Nat.pow_succ] at hm
    have hmod : n % 256 = m % 256 := by
      have := congrArg UInt8.toNat (List.cons.inj hlow).1
      simpa [UInt8.toNat_ofNat'] using this
    omega

/-- `len(value).to_bytes(4, "big") + value`: `none` is the `OverflowError` of a length that does
not fit. -/
def frame (value : Bytes) : Option Bytes :=
  if value.length < 2 ^ 32 then some (bigEndian 4 value.length ++ value) else none

/-- The concatenation of the frames of several byte strings. -/
def frames : List Bytes → Option Bytes
  | [] => some []
  | value :: values => do
    let framed ← frame value
    let rest ← frames values
    return framed ++ rest

/-- A frame at the head of a byte string determines its content and what follows it. -/
theorem frame_append_inj {a b fa fb r t : Bytes} (ha : frame a = some fa) (hb : frame b = some fb)
    (h : fa ++ r = fb ++ t) : a = b ∧ r = t := by
  simp only [frame, Option.ite_none_right_eq_some, Option.some.injEq] at ha hb
  obtain ⟨hla, rfl⟩ := ha
  obtain ⟨hlb, rfl⟩ := hb
  rw [List.append_assoc, List.append_assoc] at h
  obtain ⟨hlen, hbody⟩ := List.append_inj h (by simp)
  have heq : a.length = b.length := bigEndian_inj (by omega) (by omega) hlen
  exact List.append_inj hbody heq

/-- Framed byte strings can be split in one way only. -/
theorem frames_inj {xs ys : List Bytes} {f : Bytes} (hx : frames xs = some f)
    (hy : frames ys = some f) : xs = ys := by
  have hne : ∀ {a fa : Bytes}, frame a = some fa → fa ≠ [] := by
    intro a fa ha hnil
    simp only [frame, Option.ite_none_right_eq_some, Option.some.injEq] at ha
    have := congrArg List.length ha.2
    simp [hnil] at this
  induction xs generalizing ys f with
  | nil =>
    cases ys with
    | nil => rfl
    | cons y ys =>
      simp only [frames, Option.some.injEq, Option.bind_eq_bind, Option.bind_eq_some_iff,
        Option.pure_def] at hx hy
      obtain ⟨fy, hfy, fr, -, rfl⟩ := hy
      exact absurd (List.append_eq_nil_iff.mp hx.symm).1 (hne hfy)
  | cons x xs ih =>
    simp only [frames, Option.bind_eq_bind, Option.bind_eq_some_iff, Option.pure_def,
      Option.some.injEq] at hx
    obtain ⟨fx, hfx, rx, hrx, rfl⟩ := hx
    cases ys with
    | nil =>
      simp only [frames, Option.some.injEq] at hy
      exact absurd (List.append_eq_nil_iff.mp hy.symm).1 (hne hfx)
    | cons y ys =>
      simp only [frames, Option.bind_eq_bind, Option.bind_eq_some_iff, Option.pure_def,
        Option.some.injEq] at hy
      obtain ⟨fy, hfy, ry, hry, heq⟩ := hy
      obtain ⟨rfl, rfl⟩ := frame_append_inj hfy hfx heq
      rw [ih hrx hry]

/-- Short byte strings can be framed. -/
theorem frames_isSome {xs : List Bytes} (h : ∀ x ∈ xs, x.length < 2 ^ 32) :
    ∃ f, frames xs = some f := by
  induction xs with
  | nil => exact ⟨[], rfl⟩
  | cons x xs ih =>
    obtain ⟨f, hf⟩ := ih fun y hy => h y (List.mem_cons_of_mem _ hy)
    have hx := h x List.mem_cons_self
    exact ⟨_, by simp only [frames, frame, if_pos hx, hf]; rfl⟩

/-! ### The text form of a byte string -/

/-- A hexadecimal digit in lower case. -/
def hexDigit (n : ℕ) : Char := "0123456789abcdef".toList.getD n '0'

/-- How `repr` writes one byte between the given quotes. -/
def reprByte (quote : Char) (b : UInt8) : List Char :=
  let c := Char.ofNat b.toNat
  if c = quote ∨ c = '\\' then ['\\', c]
  else if c = '\t' then ['\\', 't']
  else if c = '\n' then ['\\', 'n']
  else if c = '\r' then ['\\', 'r']
  else if b.toNat < 32 ∨ 126 < b.toNat then
    ['\\', 'x', hexDigit (b.toNat / 16), hexDigit (b.toNat % 16)]
  else [c]

/-- `str(value)`, which for a byte string is its `repr`: `b'…'`, in double quotes when it
contains a single quote and no double quote. -/
def str (value : Bytes) : String :=
  let quote := if 39 ∈ value ∧ 34 ∉ value then '"' else '\''
  String.ofList ('b' :: quote :: (value.flatMap (reprByte quote) ++ [quote]))

/-- The text form of a byte string has a quote in it. -/
theorem quote_mem_str (value : Bytes) : '"' ∈ (str value).toList ∨ '\'' ∈ (str value).toList := by
  simp only [str, String.toList_ofList]
  split_ifs <;> simp

/-! ### Base64 -/

/-- The digits of Base64. -/
def b64digit (n : ℕ) : Char :=
  "ABCDEFGHIJKLMNOPQRSTUVWXYZabcdefghijklmnopqrstuvwxyz0123456789+/".toList.getD n 'A'

/-- The value of a digit of Base64. -/
def b64value (c : Char) : Option ℕ :=
  if 'A' ≤ c ∧ c ≤ 'Z' then some (c.toNat - 65)
  else if 'a' ≤ c ∧ c ≤ 'z' then some (c.toNat - 71)
  else if '0' ≤ c ∧ c ≤ '9' then some (c.toNat + 4)
  else if c = '+' then some 62
  else if c = '/' then some 63
  else none

/-- The characters of `base64.b64encode(value)`. -/
def b64chars : Bytes → List Char
  | [] => []
  | [a] => [b64digit (a.toNat / 4), b64digit (a.toNat % 4 * 16), '=', '=']
  | [a, b] => [b64digit (a.toNat / 4), b64digit (a.toNat % 4 * 16 + b.toNat / 16),
      b64digit (b.toNat % 16 * 4), '=']
  | a :: b :: c :: r => b64digit (a.toNat / 4) :: b64digit (a.toNat % 4 * 16 + b.toNat / 16) ::
      b64digit (b.toNat % 16 * 4 + c.toNat / 64) :: b64digit (c.toNat % 64) :: b64chars r

/-- `base64.b64encode(value).decode("ascii")`. -/
def b64encode (value : Bytes) : String := String.ofList (b64chars value)

/-- The byte with a given value. -/
def byte (n : ℕ) : UInt8 := UInt8.ofNat n

theorem byte_of_eq {n : ℕ} {b : UInt8} (h : n = b.toNat) : byte n = b := by
  rw [h, byte, UInt8.ofNat_toNat]

/-- The bytes of groups of four digits, the last of which may be padded. -/
def b64bytes : List Char → Option Bytes
  | [] => some []
  | w :: x :: y :: z :: r => do
    let w ← b64value w
    let x ← b64value x
    if y = '=' ∧ z = '=' ∧ r = [] then
      return [byte (w * 4 + x / 16)]
    let y ← b64value y
    if z = '=' ∧ r = [] then
      return [byte (w * 4 + x / 16), byte (x % 16 * 16 + y / 4)]
    let z ← b64value z
    let rest ← b64bytes r
    return byte (w * 4 + x / 16) :: byte (x % 16 * 16 + y / 4) ::
      byte (y % 4 * 64 + z) :: rest
  | _ => none

/-- `base64.b64decode(text, validate=True)`: `none` is its `binascii.Error`. -/
def b64decode (text : String) : Option Bytes := b64bytes text.toList

theorem b64value_b64digit : ∀ n < 64, b64value (b64digit n) = some n := by decide +kernel

theorem b64digit_ne_pad : ∀ n < 64, b64digit n ≠ '=' := by decide +kernel

/-- Decoding what was encoded gives the bytes back. -/
theorem b64bytes_b64chars (value : Bytes) : b64bytes (b64chars value) = some value := by
  fun_induction b64chars value with
  | case1 => rfl
  | case2 a =>
    have ha := a.toNat_lt
    have h₁ := b64value_b64digit (a.toNat / 4) (by omega)
    have h₂ := b64value_b64digit (a.toNat % 4 * 16) (by omega)
    have e₁ := byte_of_eq (b := a) (n := a.toNat / 4 * 4 + a.toNat % 4 * 16 / 16) (by omega)
    simp only [b64bytes, h₁, h₂, Option.bind_eq_bind, Option.bind_some, e₁]
    simp
  | case3 a b =>
    have ha := a.toNat_lt
    have hb := b.toNat_lt
    have h₁ := b64value_b64digit (a.toNat / 4) (by omega)
    have h₂ := b64value_b64digit (a.toNat % 4 * 16 + b.toNat / 16) (by omega)
    have h₃ := b64value_b64digit (b.toNat % 16 * 4) (by omega)
    have n₃ := b64digit_ne_pad (b.toNat % 16 * 4) (by omega)
    have e₁ := byte_of_eq (b := a)
      (n := a.toNat / 4 * 4 + (a.toNat % 4 * 16 + b.toNat / 16) / 16) (by omega)
    have e₂ := byte_of_eq (b := b)
      (n := (a.toNat % 4 * 16 + b.toNat / 16) % 16 * 16 + b.toNat % 16 * 4 / 4) (by omega)
    simp only [b64bytes, h₁, h₂, h₃, Option.bind_eq_bind, Option.bind_some, n₃, e₁, e₂]
    simp
  | case4 a b c r ih =>
    have ha := a.toNat_lt
    have hb := b.toNat_lt
    have hc := c.toNat_lt
    have h₁ := b64value_b64digit (a.toNat / 4) (by omega)
    have h₂ := b64value_b64digit (a.toNat % 4 * 16 + b.toNat / 16) (by omega)
    have h₃ := b64value_b64digit (b.toNat % 16 * 4 + c.toNat / 64) (by omega)
    have h₄ := b64value_b64digit (c.toNat % 64) (by omega)
    have n₃ := b64digit_ne_pad (b.toNat % 16 * 4 + c.toNat / 64) (by omega)
    have n₄ := b64digit_ne_pad (c.toNat % 64) (by omega)
    have e₁ := byte_of_eq (b := a)
      (n := a.toNat / 4 * 4 + (a.toNat % 4 * 16 + b.toNat / 16) / 16) (by omega)
    have e₂ := byte_of_eq (b := b) (n := (a.toNat % 4 * 16 + b.toNat / 16) % 16 * 16 +
      (b.toNat % 16 * 4 + c.toNat / 64) / 4) (by omega)
    have e₃ := byte_of_eq (b := c)
      (n := (b.toNat % 16 * 4 + c.toNat / 64) % 4 * 64 + c.toNat % 64) (by omega)
    simp only [b64bytes, h₁, h₂, h₃, h₄, Option.bind_eq_bind, Option.bind_some, n₃, n₄, e₁, e₂, e₃,
      ih]
    simp

@[simp]
theorem b64decode_b64encode (value : Bytes) : b64decode (b64encode value) = some value := by
  simp [b64decode, b64encode, String.toList_ofList, b64bytes_b64chars]

theorem length_b64chars_le (value : Bytes) :
    3 * (b64chars value).length ≤ 4 * value.length + 8 := by
  fun_induction b64chars value with
  | case1 => simp
  | case2 a => simp
  | case3 a b => simp
  | case4 a b c r ih => simp only [List.length_cons]; omega

end Bytes

end Python
