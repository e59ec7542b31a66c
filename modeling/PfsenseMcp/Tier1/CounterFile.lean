import Mathlib.Data.Bool.AllAny
import Mathlib.Data.Nat.Digits.Lemmas
import PfsenseMcp.Tier1.NonceCounter

/-!
# The size of the counter file

A counter writes its key identifier and its value without a limit, and reads no file of more than
`_COUNTER_FILE_MAX_BYTES`. Whether it can read what it has written depends on the length of the key
identifier and on the number of digits of the value.

## Main results

* `usable_iff`: a value is read back, and `next()` succeeds on it, exactly if the key identifier and
  the digits of the value have 37 characters at most; hence `next()` succeeds up to exhaustion
  exactly for the key identifiers of 27 characters at most.
-/

namespace Tier1

open Python Concurrency Procedure

/-! ### Texts of ASCII characters -/

/-- An ASCII character is one byte. -/
theorem length_encodeUtf8_ofList {cs : List Char} (h : ∀ c ∈ cs, c.toNat < 128) :
    (Bytes.encodeUtf8 (String.ofList cs)).length = cs.length := by
  have hs : (String.ofList cs).toByteArray = cs.utf8Encode := by simp
  rw [Bytes.encodeUtf8, hs]
  clear hs
  induction cs with
  | nil => rfl
  | cons c cs ih =>
    have hc : c.utf8Size = 1 := by
      have hval : c.val.toNat < 128 := h c List.mem_cons_self
      rw [Char.utf8Size, if_pos (UInt32.le_iff_toNat_le.2 (Nat.le_of_lt_succ hval))]
    have hone : ([c] : List Char).utf8Encode.data.toList.length = c.utf8Size := by
      simp [List.utf8Encode_singleton]
    rw [List.utf8Encode_cons]
    simp only [ByteArray.data_append, Array.toList_append, List.length_append, List.length_cons]
    rw [hone, hc, ih fun d hd => h d (List.mem_cons_of_mem c hd)]
    exact Nat.add_comm _ _

/-- A text that needs no escapes is written as it is. -/
theorem dumpString_of_plain {s : String}
    (h : ∀ c ∈ s.toList, Json.escapeChar true c = [c]) :
    Json.dumpString true s = '"' :: (s.toList ++ ['"']) := by
  have hchars : ∀ cs : List Char, (∀ c ∈ cs, Json.escapeChar true c = [c]) →
      Json.dumpChars true cs = cs ++ ['"'] := by
    intro cs hcs
    induction cs with
    | nil => rfl
    | cons c cs ih =>
      rw [Json.dumpChars, hcs c List.mem_cons_self,
        ih fun d hd => hcs d (List.mem_cons_of_mem c hd)]
      rfl
  rw [Json.dumpString, hchars s.toList h]

/-- The characters of an identifier. -/
theorem bounds_of_isIdentifier {s : String} (h : isIdentifier s = true) {c : Char}
    (hc : c ∈ s.toList) : 45 ≤ c.toNat ∧ c.toNat < 123 ∧ c ≠ '\\' := by
  have halnum : ∀ d : Char, d.isAlphanum = true → 45 ≤ d.toNat ∧ d.toNat < 123 ∧ d ≠ '\\' := by
    intro d hd
    have hslash : d ≠ '\\' := by
      rintro rfl
      exact absurd hd (by decide)
    have hbounds := toNat_of_isAlphanum hd
    exact ⟨by omega, by omega, hslash⟩
  unfold isIdentifier at h
  cases htext : s.toList with
  | nil =>
    rw [htext] at hc
    cases hc
  | cons d ds =>
    rw [htext] at h hc
    simp only [Bool.and_eq_true, decide_eq_true_eq, List.all_eq_true] at h
    obtain ⟨⟨hfirst, -⟩, hrest⟩ := h
    rcases List.mem_cons.1 hc with rfl | hc
    · exact halnum _ hfirst
    · rcases hrest c hc with hcase | rfl | rfl | rfl | rfl
      · exact halnum _ hcase
      all_goals exact ⟨by decide, by decide, by decide⟩

/-- An identifier needs no escapes. -/
theorem escapeChar_of_isIdentifier {s : String} (h : isIdentifier s = true) {c : Char}
    (hc : c ∈ s.toList) : Json.escapeChar true c = [c] := by
  obtain ⟨hlow, hhigh, hslash⟩ := bounds_of_isIdentifier h hc
  have hne : ∀ d : Char, d.toNat < 45 → c ≠ d := by
    rintro d hd rfl
    exact absurd hlow (Nat.not_le.2 hd)
  rw [Json.escapeChar, if_neg (hne _ (by decide)), if_neg hslash, if_neg (hne _ (by decide)),
    if_neg (hne _ (by decide)), if_neg (hne _ (by decide)), if_neg (by omega), if_neg (by omega),
    if_neg (by omega)]

namespace NonceCounter

/-! ### The size of the file -/

/-- The number of decimal digits of a value. -/
def digits (value : ℕ) : ℕ := (Json.dumpNat value).length

variable (counter : NonceCounter)

theorem isDigit_of_mem_dumpNat {value : ℕ} {c : Char} (hc : c ∈ Json.dumpNat value) :
    c.isDigit = true :=
  Nat.isDigit_of_mem_toDigits (by decide) (by decide) hc

theorem digits_le_iff {value k : ℕ} (hk : 0 < k) : digits value ≤ k ↔ value < 10 ^ k :=
  Nat.length_toDigits_le_iff (by decide) hk

theorem digits_pos (value : ℕ) : 0 < digits value := Nat.length_toDigits_pos

theorem digits_mono {m n : ℕ} (h : m ≤ n) : digits m ≤ digits n :=
  (digits_le_iff (digits_pos n)).2 (h.trans_lt ((digits_le_iff (digits_pos n)).1 le_rfl))

/-- Every character of the text is an ASCII character. -/
theorem toNat_lt_of_mem_text {value : ℕ} {c : Char} (hc : c ∈ (counter.text value).toList) :
    c.toNat < 128 := by
  have hname : ∀ d ∈ Json.dumpString true "key_id", d.toNat < 128 :=
    List.all_iff_forall_prop.mp (by decide)
  have hvalue : ∀ d ∈ Json.dumpString true "counter", d.toNat < 128 :=
    List.all_iff_forall_prop.mp (by decide)
  have hquote : ('"' : Char).toNat < 128 := by decide
  have hkey : ∀ d ∈ Json.dumpString true counter.keyId, d.toNat < 128 := by
    rw [dumpString_of_plain fun d hd => escapeChar_of_isIdentifier counter.isIdentifier_keyId hd]
    intro d hd
    rcases List.mem_cons.1 hd with rfl | hd
    · exact hquote
    rcases List.mem_append.1 hd with hd | hd
    · have hbounds := bounds_of_isIdentifier counter.isIdentifier_keyId hd
      omega
    · rw [List.mem_singleton.1 hd]
      exact hquote
  have hdigits : ∀ d ∈ Json.dumpNat value, d.toNat < 128 := by
    intro d hd
    have hdigit := isDigit_of_mem_dumpNat hd
    simp only [Char.isDigit, Bool.and_eq_true, decide_eq_true_eq, UInt32.le_iff_toNat_le]
      at hdigit
    change 48 ≤ d.toNat ∧ d.toNat ≤ 57 at hdigit
    omega
  rw [text, String.toList_ofList] at hc
  simp only [List.mem_cons, List.mem_append, List.not_mem_nil, or_false] at hc
  rcases hc with rfl | hc | rfl | rfl | hc | rfl | rfl | hc | rfl | rfl | hc | rfl
  · decide
  · exact hname c hc
  · decide
  · decide
  · exact hkey c hc
  · decide
  · decide
  · exact hvalue c hc
  · decide
  · decide
  · exact hdigits c hc
  · decide

/-- The text is 27 characters long without the key identifier and the digits. -/
theorem length_text (value : ℕ) : (Bytes.encodeUtf8 (counter.text value)).length =
    27 + counter.keyId.toList.length + digits value := by
  have hkey : Json.dumpString true counter.keyId = '"' :: (counter.keyId.toList ++ ['"']) :=
    dumpString_of_plain fun c hc => escapeChar_of_isIdentifier counter.isIdentifier_keyId hc
  have hname : (Json.dumpString true "key_id").length = 8 := by decide
  have hvalue : (Json.dumpString true "counter").length = 9 := by decide
  rw [← String.ofList_toList (s := counter.text value),
    length_encodeUtf8_ofList fun c hc => counter.toNat_lt_of_mem_text hc, text,
    String.toList_ofList, hkey]
  simp only [List.length_cons, List.length_append, List.length_nil, digits, hname, hvalue]
  omega

/-! ### Reading back what was written -/

/-- The key identifier and the digits of the value fit into the limit of the reader. -/
def Fits (value : ℕ) : Prop := counter.keyId.toList.length + digits value ≤ 37

theorem decode_text_of_fits {value : ℕ} (h : counter.Fits value) :
    counter.decode (Bytes.encodeUtf8 (counter.text value)) = .ok value := by
  unfold Fits at h
  rw [decode_text, if_neg]
  rw [length_text, counterFileMaxBytes]
  omega

theorem decode_text_of_not_fits {value : ℕ} (h : ¬ counter.Fits value) :
    counter.decode (Bytes.encodeUtf8 (counter.text value)) =
      counter.refuse "File exceeds the maximum allowed size: " := by
  unfold Fits at h
  rw [decode_text, if_pos]
  rw [length_text, counterFileMaxBytes]
  omega

theorem decode_text_iff (value : ℕ) :
    counter.decode (Bytes.encodeUtf8 (counter.text value)) = .ok value ↔ counter.Fits value := by
  constructor
  · intro h
    by_contra hfits
    rw [decode_text_of_not_fits counter hfits] at h
    cases h
  · exact counter.decode_text_of_fits

theorem Fits.mono {m n : ℕ} (h : counter.Fits n) (hmn : m ≤ n) : counter.Fits m :=
  (Nat.add_le_add_left (digits_mono hmn) _).trans h

/-- All values of a counter fit exactly if its key identifier has 27 characters at most. -/
theorem forall_fits_iff :
    (∀ value < maxNonceCounter, counter.Fits value) ↔ counter.keyId.toList.length ≤ 27 := by
  have hlast : digits (maxNonceCounter - 1) = 10 := by decide +kernel
  constructor
  · intro h
    have hfits := h (maxNonceCounter - 1) (by decide)
    rw [Fits, hlast] at hfits
    omega
  · intro h value hvalue
    have hdigits := digits_mono (Nat.le_sub_one_of_lt hvalue)
    rw [hlast] at hdigits
    unfold Fits
    omega

/-! ### Calls one after the other -/

/-- A call of `next()` succeeds on a file that it can read. -/
theorem run_next_of_fits {value : ℕ} (hvalue : value < maxNonceCounter) (h : counter.Fits value)
    (call : ℕ) (trace : List CounterEvent) :
    (counter.next call).run (fun _ => untroubled)
        ⟨some (Bytes.encodeUtf8 (counter.text value)), trace⟩ =
      ⟨.ok (value + 1), ⟨some (Bytes.encodeUtf8 (counter.text (value + 1))),
        trace ++ [.looked call, .wrote call (value + 1), .returned call (value + 1)]⟩,
        fun _ => untroubled⟩ := by
  have hlimit : demand (value < maxNonceCounter) (.other "KeyExhaustedError")
      ("Key '" ++ counter.keyId ++ "' has exhausted its nonce counter.") = .ok () :=
    demand_of hvalue
  simp [next, read, advance, look, write, record, untroubled, hlimit,
    decode_text_of_fits counter h]

/-- A call of `next()` raises on a file that is too large. -/
theorem run_next_of_not_fits {value : ℕ} (h : ¬ counter.Fits value) (call : ℕ)
    (trace : List CounterEvent) :
    ∃ e, ((counter.next call).run (fun _ => untroubled)
      ⟨some (Bytes.encodeUtf8 (counter.text value)), trace⟩).result = .error e := by
  have hread := counter.decode_text_of_not_fits h
  unfold refuse fail at hread
  simp [next, read, look, untroubled, hread]

/-- A counter that is opened where no file is, and then asked for a value `n` times, by calls that
follow each other. It returns the values. -/
def serve : ℕ → CounterOp (List ℕ)
  | 0 => do
    counter.prepare 0
    return []
  | n + 1 => do
    let values ← serve n
    let value ← counter.next (n + 1)
    return values ++ [value]

/-- As long as every value fits, the counter counts. -/
theorem run_serve_of_fits {n : ℕ} (hn : n ≤ maxNonceCounter) (h : ∀ v < n, counter.Fits v) :
    ∃ trace, (counter.serve n).run (fun _ => untroubled) {} =
      ⟨.ok (List.range' 1 n), ⟨some (Bytes.encodeUtf8 (counter.text n)), trace⟩,
        fun _ => untroubled⟩ := by
  induction n with
  | zero =>
    refine ⟨[.looked 0, .wrote 0 0], ?_⟩
    simp [serve, prepare, look, write, untroubled]
  | succ n ih =>
    obtain ⟨trace, hserve⟩ := ih (by omega) fun v hv => h v (by omega)
    have hnext := counter.run_next_of_fits hn (h n (Nat.lt_succ_self n)) (n + 1) trace
    refine ⟨trace ++ [.looked (n + 1), .wrote (n + 1) (n + 1), .returned (n + 1) (n + 1)], ?_⟩
    have hvalues : List.range' 1 n ++ [n + 1] = List.range' 1 (n + 1) := by
      rw [List.range'_concat, Nat.one_mul, Nat.add_comm 1 n]
    rw [serve, run_bind, hserve]
    dsimp only
    rw [run_bind, hnext]
    dsimp only
    rw [hvalues]
    rfl

/-- Once a value does not fit, a call raises. -/
theorem run_serve_of_not_fits {n : ℕ} (hn : n ≤ maxNonceCounter) (h : ∃ v < n, ¬ counter.Fits v) :
    ∃ e, ((counter.serve n).run (fun _ => untroubled) {}).result = .error e := by
  induction n with
  | zero =>
    obtain ⟨v, hv, -⟩ := h
    exact absurd hv (Nat.not_lt_zero v)
  | succ n ih =>
    by_cases hearlier : ∃ v < n, ¬ counter.Fits v
    · -- an earlier call has raised
      obtain ⟨e, he⟩ := ih (by omega) hearlier
      refine ⟨e, ?_⟩
      rw [serve, run_bind]
      cases hrun : (counter.serve n).run (fun _ => untroubled) {} with
      | mk result state rest =>
        rw [hrun] at he
        cases he
        rfl
    · -- the last call is the first one that raises
      simp only [not_exists, not_and, not_not] at hearlier
      obtain ⟨v, hv, hnot⟩ := h
      have hvn : v = n := by
        by_contra hne
        exact hnot (hearlier v (by omega))
      rw [hvn] at hnot
      obtain ⟨trace, hserve⟩ := counter.run_serve_of_fits (by omega) hearlier
      obtain ⟨e, he⟩ := counter.run_next_of_not_fits hnot (n + 1) trace
      refine ⟨e, ?_⟩
      rw [serve, run_bind, hserve]
      dsimp only
      rw [run_bind]
      cases hrun : (counter.next (n + 1)).run (fun _ => untroubled)
          ⟨some (Bytes.encodeUtf8 (counter.text n)), trace⟩ with
      | mk result state rest =>
        rw [hrun] at he
        cases he
        rfl

theorem run_serve_iff {n : ℕ} (hn : n < maxNonceCounter) :
    ((counter.serve (n + 1)).run (fun _ => untroubled) {}).result =
      .ok (List.range' 1 (n + 1)) ↔ counter.Fits n := by
  constructor
  · intro h
    by_contra hfits
    obtain ⟨e, he⟩ := counter.run_serve_of_not_fits hn ⟨n, Nat.lt_succ_self n, hfits⟩
    rw [he] at h
    cases h
  · intro h
    obtain ⟨trace, hserve⟩ := counter.run_serve_of_fits hn fun v hv =>
      Fits.mono counter h (Nat.le_of_lt_succ hv)
    rw [hserve]

/-! ### Usability -/

/-- A value below the limit is read back, and the call of `next()` that follows it in a run
succeeds, exactly if the key identifier and the digits of the value have 37 characters together.
All calls up to exhaustion succeed exactly if the key identifier has 27 characters at most. -/
theorem usable_iff :
    (∀ value < maxNonceCounter,
      (counter.decode (Bytes.encodeUtf8 (counter.text value)) = .ok value ↔
        counter.keyId.toList.length + digits value ≤ 37) ∧
      (((counter.serve (value + 1)).run (fun _ => untroubled) {}).result =
          .ok (List.range' 1 (value + 1)) ↔
        counter.keyId.toList.length + digits value ≤ 37)) ∧
    ((∀ value < maxNonceCounter,
      counter.decode (Bytes.encodeUtf8 (counter.text value)) = .ok value ∧
        ((counter.serve (value + 1)).run (fun _ => untroubled) {}).result =
          .ok (List.range' 1 (value + 1))) ↔
      counter.keyId.toList.length ≤ 27) := by
  refine ⟨fun value hvalue => ⟨counter.decode_text_iff value, counter.run_serve_iff hvalue⟩, ?_⟩
  rw [← counter.forall_fits_iff]
  constructor
  · intro h value hvalue
    exact (counter.decode_text_iff value).1 (h value hvalue).1
  · intro h value hvalue
    exact ⟨(counter.decode_text_iff value).2 (h value hvalue),
      (counter.run_serve_iff hvalue).2 (h value hvalue)⟩

/-- A counter whose key identifier is as long as it may be. -/
def longCounter : NonceCounter :=
  ⟨"/etc/counter.json", String.ofList (List.replicate 128 'a'), by decide +kernel⟩

/-- It cannot read the file with which it begins, and its first call of `next()` raises. -/
theorem unusable_longCounter :
    longCounter.decode (Bytes.encodeUtf8 (longCounter.text 0)) ≠ .ok 0 ∧
      ∃ e, ((longCounter.serve 1).run (fun _ => untroubled) {}).result = .error e := by
  have hfits : ¬ longCounter.Fits 0 := by
    rw [Fits, longCounter, String.toList_ofList, List.length_replicate]
    omega
  refine ⟨fun h => hfits ((longCounter.decode_text_iff 0).1 h), ?_⟩
  exact longCounter.run_serve_of_not_fits (by decide) ⟨0, Nat.zero_lt_one, hfits⟩

end NonceCounter

end Tier1
