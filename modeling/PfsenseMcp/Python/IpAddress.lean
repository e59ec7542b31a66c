import Mathlib.Algebra.Ring.Nat
import Mathlib.Data.List.Basic

/-!
# Texts of addresses

The texts that the module `ipaddress` of Python's standard library accepts for an IPv4 or an IPv6
address, and the number that each of them is for. Nothing here is about this repository.

## Main results

* `split_of_not_mem`, `split_append_cons`: a text is cut at its separators;
* `hexValue_toDigits`: a number is read back from its hexadecimal digits;
* `hextet_toDigits`: a hextet holds the numbers of at most four hexadecimal digits.
-/

namespace IpAddress

/-! ### Texts -/

/-- `text.split(separator)`. -/
def split (separator : Char) : List Char → List (List Char)
  | [] => [[]]
  | c :: cs =>
    if c = separator then [] :: split separator cs
    else
      match split separator cs with
      | [] => [[c]]
      | part :: parts => (c :: part) :: parts

/-- `c` is a decimal digit of ASCII. -/
def isDecimal (c : Char) : Bool := '0' ≤ c ∧ c ≤ '9'

/-- The value of a hexadecimal digit. -/
def hexDigit (c : Char) : Option ℕ :=
  if '0' ≤ c ∧ c ≤ '9' then some (c.toNat - '0'.toNat)
  else if 'a' ≤ c ∧ c ≤ 'f' then some (c.toNat - 'a'.toNat + 10)
  else if 'A' ≤ c ∧ c ≤ 'F' then some (c.toNat - 'A'.toNat + 10)
  else none

/-- `int(text, 16)`, of hexadecimal digits. -/
def hexValue (text : List Char) : ℕ :=
  text.foldl (fun value c => value * 16 + (hexDigit c).getD 0) 0

/-! ### IPv4 -/

/-- `IPv4Address._parse_octet`. -/
def octet (text : List Char) : Option ℕ :=
  if text = [] then none
  else if !text.all isDecimal then none
  else if 3 < text.length then none
  else if text ≠ ['0'] ∧ text.head? = some '0' then none
  else
    let value := Nat.ofDigitChars 10 text 0
    if 255 < value then none else some value

/-- `int(IPv4Address(text))`. -/
def ipv4 (text : List Char) : Option ℕ :=
  match split '.' text with
  | [a, b, c, d] => do
    let a ← octet a
    let b ← octet b
    let c ← octet c
    let d ← octet d
    return ((a * 256 + b) * 256 + c) * 256 + d
  | _ => none

/-! ### IPv6 -/

/-- `IPv6Address._parse_hextet`. -/
def hextet (text : List Char) : Option ℕ :=
  if !text.all fun c => (hexDigit c).isSome then none
  else if 4 < text.length then none
  else if text = [] then none
  else some (hexValue text)

/-- The hextets one after the other. -/
def joinHextets (hextets : List ℕ) : ℕ := hextets.foldl (fun value n => value * 65536 + n) 0

/-- The places of the parts with nothing in between, but for the first and the last part. -/
def skips (parts : List (List Char)) : List ℕ :=
  (List.range parts.length).filter fun i => 0 < i ∧ i + 1 < parts.length ∧ parts[i]? = some []

/-- The end of `IPv6Address._ip_int_from_string`: the parts before and after `::` are read, and what
it stands for is zero. -/
def readParts (parts : List (List Char)) (high low skipped : ℕ) : Option ℕ := do
  let high ← (parts.take high).mapM hextet
  let low ← (parts.drop (parts.length - low)).mapM hextet
  return joinHextets high * 65536 ^ (skipped + low.length) + joinHextets low

/-- `IPv6Address._ip_int_from_string`, of the parts between the colons. -/
def ofParts (parts : List (List Char)) : Option ℕ :=
  if 9 < parts.length then none
  else
    match skips parts with
    | [] =>
      if parts.length ≠ 8 then none
      else if parts.head? = some [] ∨ parts.getLast? = some [] then none
      else readParts parts 8 0 0
    | [skip] =>
      let high := if parts.head? = some [] then skip - 1 else skip
      let low :=
        if parts.getLast? = some [] then parts.length - skip - 1 - 1 else parts.length - skip - 1
      if parts.head? = some [] ∧ high ≠ 0 then none
      else if parts.getLast? = some [] ∧ low ≠ 0 then none
      else if 8 ≤ high + low then none
      else readParts parts high low (8 - (high + low))
    | _ => none

/-- The last part, if it is an IPv4 address, is turned into two. -/
def convertSuffix (parts : List (List Char)) : Option (List (List Char)) :=
  match parts.getLast? with
  | some last =>
    if '.' ∈ last then do
      let address ← ipv4 last
      return parts.dropLast ++ [Nat.toDigits 16 (address / 65536), Nat.toDigits 16 (address % 65536)]
    else some parts
  | none => some parts

/-- `IPv6Address._split_scope_id`: the address without its scope. -/
def withoutScope (text : List Char) : Option (List Char) :=
  match split '%' text with
  | [address] => some address
  | [address, scope] => if scope = [] then none else some address
  | _ => none

/-- `int(IPv6Address(text))`. -/
def ipv6 (text : List Char) : Option ℕ :=
  if '/' ∈ text then none
  else do
    let address ← withoutScope text
    let parts := split ':' address
    if parts.length < 3 then none
    else do
      let parts ← convertSuffix parts
      ofParts parts

/-! ### Small facts -/

theorem split_of_not_mem {separator : Char} {text : List Char} (h : separator ∉ text) :
    split separator text = [text] := by
  induction text with
  | nil => rfl
  | cons c cs ih =>
    obtain ⟨hc, hcs⟩ := not_or.mp (List.mem_cons.not.mp h)
    rw [split, if_neg (Ne.symm hc), ih hcs]

theorem split_append_cons {separator : Char} {text rest : List Char} (h : separator ∉ text) :
    split separator (text ++ separator :: rest) = text :: split separator rest := by
  induction text with
  | nil => rw [List.nil_append, split, if_pos rfl]
  | cons c cs ih =>
    obtain ⟨hc, hcs⟩ := not_or.mp (List.mem_cons.not.mp h)
    rw [List.cons_append, split, if_neg (Ne.symm hc), ih hcs]

theorem hexDigit_digitChar : ∀ d < 16, hexDigit d.digitChar = some d := by decide

/-- A number is read back from its hexadecimal digits. -/
theorem hexValue_toDigits (n : ℕ) : hexValue (Nat.toDigits 16 n) = n := by
  induction n using Nat.strongRecOn with
  | ind n ih =>
    by_cases hlt : n < 16
    · rw [Nat.toDigits_of_lt_base hlt]
      simp [hexValue, hexDigit_digitChar n hlt]
    · rw [Nat.toDigits_of_base_le (by decide) (by omega), hexValue, List.foldl_append]
      have hhead := ih (n / 16) (by omega)
      rw [hexValue] at hhead
      rw [hhead]
      simp only [List.foldl_cons, List.foldl_nil, hexDigit_digitChar (n % 16) (by omega),
        Option.getD_some]
      omega

theorem isSome_hexDigit_of_mem_toDigits {n : ℕ} {c : Char} (h : c ∈ Nat.toDigits 16 n) :
    (hexDigit c).isSome = true := by
  induction n using Nat.strongRecOn with
  | ind n ih =>
    by_cases hlt : n < 16
    · rw [Nat.toDigits_of_lt_base hlt, List.mem_singleton] at h
      rw [h, hexDigit_digitChar n hlt, Option.isSome_some]
    · rw [Nat.toDigits_of_base_le (by decide) (by omega), List.mem_append, List.mem_singleton] at h
      rcases h with h | h
      · exact ih (n / 16) (by omega) h
      · rw [h, hexDigit_digitChar (n % 16) (by omega), Option.isSome_some]

/-- A hextet holds the numbers of at most four hexadecimal digits. -/
theorem hextet_toDigits {n : ℕ} :
    hextet (Nat.toDigits 16 n) = if n < 65536 then some n else none := by
  have hall : ((Nat.toDigits 16 n).all fun c => (hexDigit c).isSome) = true :=
    List.all_eq_true.mpr fun c hc => isSome_hexDigit_of_mem_toDigits hc
  have hlength : (Nat.toDigits 16 n).length ≤ 4 ↔ n < 65536 :=
    Nat.length_toDigits_le_iff (by decide) (by decide)
  rw [hextet, hall]
  by_cases hlt : n < 65536
  · have hle := hlength.mpr hlt
    rw [if_neg (by decide), if_neg (by omega), if_neg Nat.toDigits_ne_nil, if_pos hlt,
      hexValue_toDigits]
  · have hle := mt hlength.mp hlt
    rw [if_neg (by decide), if_pos (by omega), if_neg hlt]

end IpAddress
