import PfsenseMcp.Python.IpAddress
import PfsenseMcp.Python.Memo

/-!
# Placeholders of addresses

The allocators of `scripts/lib/sanitizer.py`: each gives a real address that it has not seen a
placeholder that is made from a counter, and an address that it has seen the placeholder it gave
before. The counters of `IPv4Allocator` and `MacAllocator` wrap around, and that of `IPv6Allocator`
is written into one hextet however large it is.

## Main results

* `allocators_injective`: how many real addresses each allocator tells apart, and that its
  placeholders are in the range that is reserved for them.
-/

namespace Fixtures

open IpAddress

/-! ### The allocators -/

/-- `_RFC5737_RANGE_PREFIXES`. -/
def rfc5737RangePrefixes : List String := ["198.51.100.", "203.0.113.", "192.0.2."]

/-- `IPv4Allocator._range_idx` and `IPv4Allocator._host`. -/
structure IPv4State where
  rangeIdx : ℕ
  host : ℕ

/-- `IPv4Allocator.allocate`, for a value that is not in the map. -/
def IPv4State.fresh (s : IPv4State) : String × IPv4State :=
  let rangePrefix := rfc5737RangePrefixes.getD (s.rangeIdx % rfc5737RangePrefixes.length) ""
  let placeholder := rangePrefix ++ toString s.host
  let host := s.host + 1
  if 250 < host then (placeholder, ⟨s.rangeIdx + 1, 10⟩) else (placeholder, ⟨s.rangeIdx, host⟩)

/-- What calls of `IPv4Allocator.allocate` return, one after the other. -/
def ipv4Placeholders (realValues : List String) : List String :=
  Memo.run IPv4State.fresh ⟨[], 0, 10⟩ realValues

/-- `f"{n:x}"`. -/
def hex (n : ℕ) : String := String.ofList (Nat.toDigits 16 n)

/-- `f"{n:02x}"`. -/
def hex2 (n : ℕ) : String := if n < 16 then "0" ++ hex n else hex n

/-- `IPv6Allocator.allocate`, for a value that is not in the map. -/
def ipv6Fresh (counter : ℕ) : String × ℕ := ("2001:db8::" ++ hex counter, counter + 1)

/-- What calls of `IPv6Allocator.allocate` return, one after the other. -/
def ipv6Placeholders (realValues : List String) : List String :=
  Memo.run ipv6Fresh ⟨[], 1⟩ realValues

/-- `_MAC_PLACEHOLDER_PREFIX`. -/
def macPlaceholderPrefix : String := "02:00:00:"

/-- `MacAllocator.allocate`, for a value that is not in the map. -/
def macFresh (counter : ℕ) : String × ℕ :=
  (macPlaceholderPrefix ++ "00:" ++ hex2 ((counter >>> 8) &&& 0xFF) ++ ":" ++ hex2 (counter &&& 0xFF),
    counter + 1)

/-- What calls of `MacAllocator.allocate` return, one after the other. -/
def macPlaceholders (realValues : List String) : List String :=
  Memo.run macFresh ⟨[], 1⟩ realValues

/-! ### The reserved ranges -/

/-- The text is an address of one of the three networks of RFC 5737, TEST-NET-1 to TEST-NET-3. -/
def InRfc5737 (text : String) : Prop :=
  ∃ value, ipv4 text.toList = some value ∧ value / 256 ∈ [0xC00002, 0xC63364, 0xCB0071]

/-- The text is an address of `2001:db8::/32`. -/
def InDocumentationPrefix (text : String) : Prop :=
  ∃ value, ipv6 text.toList = some value ∧ value / 2 ^ 96 = 0x20010db8

/-- An octet of a MAC address. -/
def macOctet (text : List Char) : Option ℕ :=
  if text.length = 2 then hextet text else none

/-- The number of a MAC address in six octets. -/
def mac (text : List Char) : Option ℕ :=
  match split ':' text with
  | [a, b, c, d, e, f] => do
    let octets ← [a, b, c, d, e, f].mapM macOctet
    return octets.foldl (fun value n => value * 256 + n) 0
  | _ => none

/-- The text is a MAC address that starts with `02:00:00`. -/
def InPlaceholderPrefix (text : String) : Prop :=
  ∃ value, mac text.toList = some value ∧ value / 2 ^ 24 = 0x020000

/-! ### The placeholders as numbers -/

theorem iterate_fresh (n : ℕ) :
    (fun s => (IPv4State.fresh s).2)^[n] ⟨0, 10⟩ = ⟨n / 241, 10 + n % 241⟩ := by
  induction n with
  | zero => rfl
  | succ n ih =>
    rw [Function.iterate_succ_apply', ih]
    simp only [IPv4State.fresh]
    split_ifs with hlast
    · show IPv4State.mk _ _ = _
      congr 1
      · omega
      · omega
    · show IPv4State.mk _ _ = _
      congr 1
      · omega
      · omega

/-- The number of a placeholder of IPv4. -/
def ipv4Number (n : ℕ) : ℕ :=
  [0xC63364, 0xCB0071, 0xC00002].getD (n / 241 % 3) 0 * 256 + (10 + n % 241)

theorem ipv4_text : ∀ host < 251, ∀ range < 3,
    ipv4 ((rfc5737RangePrefixes.getD range "").toList ++ Nat.toDigits 10 host) =
      some ([0xC63364, 0xCB0071, 0xC00002].getD range 0 * 256 + host) := by
  decide +kernel

theorem ipv4_nth_eq (n : ℕ) : Memo.nth IPv4State.fresh ⟨0, 10⟩ n =
    rfc5737RangePrefixes.getD (n / 241 % 3) "" ++ toString (10 + n % 241) := by
  rw [Memo.nth, iterate_fresh, IPv4State.fresh]
  split_ifs
  · rfl
  · rfl

theorem ipv4_nth (n : ℕ) :
    ipv4 (Memo.nth IPv4State.fresh ⟨0, 10⟩ n).toList = some (ipv4Number n) := by
  have htext := ipv4_text (10 + n % 241) (by omega) (n / 241 % 3) (by omega)
  rw [ipv4_nth_eq, ipv4Number, ← htext, String.toList_append, Nat.toString_eq_repr,
    Nat.toList_repr]

/-- The placeholders of IPv4 come back after three times 241. -/
theorem ipv4_nth_inj (m n : ℕ) :
    Memo.nth IPv4State.fresh ⟨0, 10⟩ m = Memo.nth IPv4State.fresh ⟨0, 10⟩ n ↔ m ≡ n [MOD 723] := by
  have hrange : ∀ range < 3, ∀ range' < 3,
      [0xC63364, 0xCB0071, 0xC00002].getD range 0 = [0xC63364, 0xCB0071, 0xC00002].getD range' 0 →
        range = range' := by decide
  unfold Nat.ModEq
  constructor
  · intro h
    have hnumber : ipv4Number m = ipv4Number n :=
      Option.some.inj ((ipv4_nth m).symm.trans (h ▸ ipv4_nth n))
    unfold ipv4Number at hnumber
    have hsame := hrange (m / 241 % 3) (by omega) (n / 241 % 3) (by omega) (by omega)
    rw [hsame] at hnumber
    omega
  · intro h
    have h₁ : m / 241 % 3 = n / 241 % 3 := by omega
    have h₂ : m % 241 = n % 241 := by omega
    rw [ipv4_nth_eq, ipv4_nth_eq, h₁, h₂]

theorem inRfc5737_nth (n : ℕ) : InRfc5737 (Memo.nth IPv4State.fresh ⟨0, 10⟩ n) := by
  have hrange : ∀ range < 3, [0xC63364, 0xCB0071, 0xC00002].getD range 0 ∈
      [0xC00002, 0xC63364, 0xCB0071] := by decide
  have hnetwork : ∀ network host, host < 256 → (network * 256 + host) / 256 = network := by
    intro network host hlt
    omega
  refine ⟨_, ipv4_nth n, ?_⟩
  rw [ipv4Number, hnetwork _ _ (by omega)]
  exact hrange _ (by omega)

theorem iterate_counter {fresh : ℕ → String × ℕ} (hfresh : ∀ c, (fresh c).2 = c + 1) (n : ℕ) :
    (fun c => (fresh c).2)^[n] 1 = n + 1 := by
  induction n with
  | zero => rfl
  | succ n ih => rw [Function.iterate_succ_apply', ih, hfresh]

theorem ipv6_nth (n : ℕ) :
    (Memo.nth ipv6Fresh 1 n).toList = "2001:db8::".toList ++ Nat.toDigits 16 (n + 1) := by
  rw [Memo.nth, iterate_counter fun _ => rfl, ipv6Fresh, String.toList_append]
  exact congrArg _ String.toList_ofList

theorem ipv6_nth_inj {m n : ℕ} (h : Memo.nth ipv6Fresh 1 m = Memo.nth ipv6Fresh 1 n) : m = n := by
  have htext := congrArg String.toList h
  rw [ipv6_nth, ipv6_nth] at htext
  have hvalue := congrArg hexValue (List.append_cancel_left htext)
  rw [hexValue_toDigits, hexValue_toDigits] at hvalue
  exact Nat.succ.inj hvalue

theorem not_mem_toDigits {c : Char} (hc : hexDigit c = none) (n : ℕ) : c ∉ Nat.toDigits 16 n := by
  intro hmem
  have hsome := isSome_hexDigit_of_mem_toDigits hmem
  rw [hc] at hsome
  cases hsome

/-- The text of `IPv6Allocator` is an address as long as the counter fits into a hextet. -/
theorem ipv6_text {n : ℕ} (hn : n < 65536) :
    ipv6 ("2001:db8::".toList ++ Nat.toDigits 16 n) = some (0x20010db8 * 2 ^ 96 + n) := by
  have hslash : '/' ∉ "2001:db8::".toList ++ Nat.toDigits 16 n := by
    rw [List.mem_append, not_or]
    exact ⟨by decide, not_mem_toDigits (by decide) n⟩
  have hscope : '%' ∉ "2001:db8::".toList ++ Nat.toDigits 16 n := by
    rw [List.mem_append, not_or]
    exact ⟨by decide, not_mem_toDigits (by decide) n⟩
  have hsplit : split ':' ("2001:db8::".toList ++ Nat.toDigits 16 n) =
      [['2', '0', '0', '1'], ['d', 'b', '8'], [], Nat.toDigits 16 n] := by
    have htail := split_of_not_mem (not_mem_toDigits (c := ':') (by decide) n)
    show split ':' (['2', '0', '0', '1'] ++ ':' :: (['d', 'b', '8'] ++ ':' ::
      ([] ++ ':' :: Nat.toDigits 16 n))) = _
    rw [split_append_cons (by decide), split_append_cons (by decide), split_append_cons (by decide),
      htail]
  have hdot : '.' ∉ Nat.toDigits 16 n := not_mem_toDigits (by decide) n
  rw [ipv6, if_neg hslash, withoutScope, split_of_not_mem hscope]
  simp only [Option.bind_eq_bind, Option.bind_some, hsplit, List.length_cons, List.length_nil]
  rw [if_neg (by decide), convertSuffix]
  simp only [List.getLast?_cons_cons, List.getLast?_singleton, if_neg hdot, Option.bind_some]
  have hskips : skips [['2', '0', '0', '1'], ['d', 'b', '8'], [], Nat.toDigits 16 n] = [2] := by
    simp [skips, List.range_succ]
  have hhigh : hextet ['2', '0', '0', '1'] = some 0x2001 := by decide
  have hhigh' : hextet ['d', 'b', '8'] = some 0xdb8 := by decide
  have hread : readParts [['2', '0', '0', '1'], ['d', 'b', '8'], [], Nat.toDigits 16 n] 2 1 5 =
      some (0x20010db8 * 2 ^ 96 + n) := by
    simp [readParts, hhigh, hhigh', hextet_toDigits, hn, joinHextets]
  rw [ofParts, hskips, ← hread]
  simp [Nat.toDigits_ne_nil]

/-! ### Placeholders of MAC addresses -/

theorem macOctet_hex2 : ∀ b < 256, macOctet (hex2 b).toList = some b := by
  intro b hb
  have hoctet : ∀ b < 256, macOctet
      (if b < 16 then '0' :: Nat.toDigits 16 b else Nat.toDigits 16 b) = some b := by
    decide +kernel
  rw [← hoctet b hb, hex2, hex]
  split_ifs
  · simp only [String.toList_append, String.toList_ofList]
    rfl
  · simp only [String.toList_ofList]

theorem not_mem_hex2 (b : ℕ) : ':' ∉ (hex2 b).toList := by
  have hdigits : ':' ∉ Nat.toDigits 16 b := not_mem_toDigits (by decide) b
  rw [hex2, hex]
  split_ifs
  · simp only [String.toList_append, String.toList_ofList]
    exact List.not_mem_append (by decide) hdigits
  · rwa [String.toList_ofList]

/-- The number of a placeholder of a MAC address. -/
def macNumber (n : ℕ) : ℕ := 0x020000 * 2 ^ 24 + (n + 1) % 65536

theorem mac_nth_eq (n : ℕ) : Memo.nth macFresh 1 n = macPlaceholderPrefix ++ "00:" ++
    hex2 ((n + 1) / 256 % 256) ++ ":" ++ hex2 ((n + 1) % 256) := by
  have hhigh : ((n + 1) >>> 8) &&& 0xFF = (n + 1) / 256 % 256 := by
    rw [Nat.shiftRight_eq_div_pow]
    exact Nat.and_two_pow_sub_one_eq_mod _ 8
  have hlow : (n + 1) &&& 0xFF = (n + 1) % 256 := Nat.and_two_pow_sub_one_eq_mod _ 8
  rw [Memo.nth, iterate_counter fun _ => rfl, macFresh, hhigh, hlow]

theorem mac_nth (n : ℕ) : mac (Memo.nth macFresh 1 n).toList = some (macNumber n) := by
  have htext : (Memo.nth macFresh 1 n).toList = ['0', '2'] ++ ':' :: (['0', '0'] ++ ':' ::
      (['0', '0'] ++ ':' :: (['0', '0'] ++ ':' :: ((hex2 ((n + 1) / 256 % 256)).toList ++ ':' ::
        (hex2 ((n + 1) % 256)).toList)))) := by
    rw [mac_nth_eq]
    simp [macPlaceholderPrefix, String.toList_append]
  rw [htext, mac, split_append_cons (by decide), split_append_cons (by decide),
    split_append_cons (by decide), split_append_cons (by decide),
    split_append_cons (not_mem_hex2 _), split_of_not_mem (not_mem_hex2 _)]
  have htwo : macOctet ['0', '2'] = some 2 := by decide
  have hzero : macOctet ['0', '0'] = some 0 := by decide
  simp only [List.mapM_cons, List.mapM_nil, htwo, hzero,
    macOctet_hex2 ((n + 1) / 256 % 256) (by omega), macOctet_hex2 ((n + 1) % 256) (by omega),
    Option.bind_eq_bind, Option.bind_some, Option.pure_def, List.foldl_cons, List.foldl_nil,
    macNumber, Option.some.injEq]
  omega

/-- The placeholders of MAC addresses come back after 65536. -/
theorem mac_nth_inj (m n : ℕ) :
    Memo.nth macFresh 1 m = Memo.nth macFresh 1 n ↔ m ≡ n [MOD 65536] := by
  unfold Nat.ModEq
  constructor
  · intro h
    have hnumber : macNumber m = macNumber n :=
      Option.some.inj ((mac_nth m).symm.trans (h ▸ mac_nth n))
    unfold macNumber at hnumber
    omega
  · intro h
    have h₁ : (m + 1) / 256 % 256 = (n + 1) / 256 % 256 := by omega
    have h₂ : (m + 1) % 256 = (n + 1) % 256 := by omega
    rw [mac_nth_eq, mac_nth_eq, h₁, h₂]

/-! ### What the allocators tell apart -/

/-- How many real addresses the allocators tell apart: 723 for IPv4, any number for IPv6, and 65536
for MAC addresses. Every placeholder is in the range that is reserved for it, for IPv6 as long as
the counter fits into one hextet. -/
theorem allocators_injective (realValues : List String) :
    (Memo.Consistent realValues (ipv4Placeholders realValues) ∧
      (Memo.Injective realValues (ipv4Placeholders realValues) ↔ realValues.dedup.length ≤ 723) ∧
      ∀ p ∈ ipv4Placeholders realValues, InRfc5737 p) ∧
    (Memo.Consistent realValues (ipv6Placeholders realValues) ∧
      Memo.Injective realValues (ipv6Placeholders realValues) ∧
      (realValues.dedup.length ≤ 65535 →
        ∀ p ∈ ipv6Placeholders realValues, InDocumentationPrefix p)) ∧
    (Memo.Consistent realValues (macPlaceholders realValues) ∧
      (Memo.Injective realValues (macPlaceholders realValues) ↔
        realValues.dedup.length ≤ 65536) ∧
      ∀ p ∈ macPlaceholders realValues, InPlaceholderPrefix p) := by
  refine ⟨⟨Memo.consistent_run _ _ _, Memo.injective_run_iff_le (by decide) ipv4_nth_inj, ?_⟩,
    ⟨Memo.consistent_run _ _ _, ?_, ?_⟩,
    ⟨Memo.consistent_run _ _ _, Memo.injective_run_iff_le (by decide) mac_nth_inj, ?_⟩⟩
  · intro p hp
    obtain ⟨n, -, rfl⟩ := Memo.mem_run_iff.mp hp
    exact inRfc5737_nth n
  · exact Memo.injective_run_iff.mpr fun m _ n _ => ipv6_nth_inj
  · intro hle p hp
    obtain ⟨n, hn, rfl⟩ := Memo.mem_run_iff.mp hp
    refine ⟨0x20010db8 * 2 ^ 96 + (n + 1), ?_, by omega⟩
    rw [ipv6_nth, ipv6_text (by omega)]
  · intro p hp
    obtain ⟨n, -, rfl⟩ := Memo.mem_run_iff.mp hp
    refine ⟨_, mac_nth n, ?_⟩
    unfold macNumber
    omega

theorem toString_injective : Function.Injective (toString : ℕ → String) := by
  intro m n h
  have hvalue := congrArg (fun text => Nat.ofDigitChars 10 text.toList 0) h
  simpa only [Nat.toString_eq_repr, Nat.toList_repr, Nat.ofDigitChars_ten_toDigits] using hvalue

/-- More than 723 addresses of IPv4 are not told apart. -/
theorem ipv4_not_injective :
    ¬∀ realValues, Memo.Injective realValues (ipv4Placeholders realValues) := by
  intro h
  have hle : ∀ realValues : List String, realValues.dedup.length ≤ 723 := fun realValues =>
    (Memo.injective_run_iff_le (by decide) ipv4_nth_inj).mp (h realValues)
  have hlength : ∀ n, ((List.range n).map (toString : ℕ → String)).dedup.length = n := by
    intro n
    have hnodup := (List.nodup_range : (List.range n).Nodup).map toString_injective
    rw [hnodup.dedup, List.length_map, List.length_range]
  have hmany := hle ((List.range 724).map toString)
  rw [hlength] at hmany
  exact absurd hmany (by decide)

end Fixtures
