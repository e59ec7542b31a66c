import Mathlib.Algebra.Ring.Nat
import Mathlib.Data.Nat.Notation
import Mathlib.Data.List.Basic

/-!
# Python's `datetime` in UTC

An aware `datetime` whose offset is zero, as its calendar fields. The structure carries the
ranges that Python's constructor checks. A `datetime` that is naive or has another offset is not
a value of this type; where the code may meet one, it is the `none` of an `Option DateTime`.

`fromisoformat` reads the extended form that `isoformat` writes. The other spellings of ISO 8601
that Python accepts do not occur in the texts the modelled code writes.

## Main results

* `fromisoformat_isoformat`: reading what was written gives the instant back.
-/

namespace Python

/-- A leap year of the Gregorian calendar. -/
def isLeap (year : ℕ) : Bool := year % 4 = 0 ∧ (year % 100 ≠ 0 ∨ year % 400 = 0)

/-- The number of days of a month. -/
def daysInMonth (year month : ℕ) : ℕ :=
  if month = 2 then (if isLeap year then 29 else 28)
  else if month = 4 ∨ month = 6 ∨ month = 9 ∨ month = 11 then 30 else 31

/-- An instant in UTC, with a resolution of microseconds. -/
structure DateTime where
  year : ℕ
  month : ℕ
  day : ℕ
  hour : ℕ
  minute : ℕ
  second : ℕ
  microsecond : ℕ
  year_range : 1 ≤ year ∧ year ≤ 9999
  month_range : 1 ≤ month ∧ month ≤ 12
  day_range : 1 ≤ day ∧ day ≤ daysInMonth year month
  hour_lt : hour < 24
  minute_lt : minute < 60
  second_lt : second < 60
  microsecond_lt : microsecond < 1000000
deriving DecidableEq

namespace DateTime

/-- The constructor `datetime(year, …)`: `none` is a `ValueError`. -/
def ofFields (year month day hour minute second microsecond : ℕ) : Option DateTime :=
  if h : (1 ≤ year ∧ year ≤ 9999) ∧ (1 ≤ month ∧ month ≤ 12) ∧
      (1 ≤ day ∧ day ≤ daysInMonth year month) ∧ hour < 24 ∧ minute < 60 ∧ second < 60 ∧
      microsecond < 1000000 then
    some ⟨year, month, day, hour, minute, second, microsecond, h.1, h.2.1, h.2.2.1, h.2.2.2.1,
      h.2.2.2.2.1, h.2.2.2.2.2.1, h.2.2.2.2.2.2⟩
  else none

@[simp]
theorem ofFields_self (t : DateTime) :
    ofFields t.year t.month t.day t.hour t.minute t.second t.microsecond = some t :=
  dif_pos ⟨t.year_range, t.month_range, t.day_range, t.hour_lt, t.minute_lt, t.second_lt,
    t.microsecond_lt⟩

/-! ### Order -/

/-- A number that orders instants. -/
def key (t : DateTime) : ℕ :=
  (((((t.year * 13 + t.month) * 32 + t.day) * 24 + t.hour) * 60 + t.minute) * 60 + t.second) *
    1000000 + t.microsecond

instance : LT DateTime := ⟨fun s t => s.key < t.key⟩

instance : LE DateTime := ⟨fun s t => s.key ≤ t.key⟩

instance (s t : DateTime) : Decidable (s < t) := inferInstanceAs (Decidable (s.key < t.key))

instance (s t : DateTime) : Decidable (s ≤ t) := inferInstanceAs (Decidable (s.key ≤ t.key))

/-! ### Addition of seconds -/

/-- The number of days before the first of January. -/
def daysBeforeYear (year : ℕ) : ℕ :=
  (year - 1) * 365 + (year - 1) / 4 - (year - 1) / 100 + (year - 1) / 400

/-- The number of days before a month. -/
def daysBeforeMonth (year month : ℕ) : ℕ :=
  ((List.range (month - 1)).map fun m => daysInMonth year (m + 1)).sum

/-- The proleptic Gregorian ordinal: the first of January of year 1 is day 1. -/
def toordinal (t : DateTime) : ℕ :=
  daysBeforeYear t.year + daysBeforeMonth t.year t.month + t.day

/-- The month and the day of a day of the year, counted from zero. -/
def splitYearDay (year : ℕ) : (months day : ℕ) → ℕ × ℕ
  | 0, day => (12, day + 1)
  | months + 1, day =>
    let month := 12 - months
    if day < daysInMonth year month then (month, day + 1)
    else splitYearDay year months (day - daysInMonth year month)

/-- The date of an ordinal, by cycles of 400, 100, 4 and 1 years. -/
def dateOfOrdinal (ordinal : ℕ) : ℕ × ℕ × ℕ :=
  let n := ordinal - 1
  let n400 := n / 146097
  let n100 := n % 146097 / 36524
  let n4 := n % 146097 % 36524 / 1461
  let n1 := n % 146097 % 36524 % 1461 / 365
  let year := n400 * 400 + n100 * 100 + n4 * 4 + n1 + 1
  -- the last day of a cycle of 4 or of 400 years
  if n1 = 4 ∨ n100 = 4 then (year - 1, 12, 31)
  else
    let (month, day) := splitYearDay year 12 (n % 146097 % 36524 % 1461 % 365)
    (year, month, day)

/-- `t + timedelta(seconds=seconds)`: `none` is an `OverflowError`. -/
def addSeconds (t : DateTime) (seconds : ℕ) : Option DateTime :=
  let total := (t.hour * 60 + t.minute) * 60 + t.second + seconds
  let (year, month, day) := dateOfOrdinal (t.toordinal + total / 86400)
  let rest := total % 86400
  ofFields year month day (rest / 3600) (rest / 60 % 60) (rest % 60) t.microsecond

/-! ### Text -/

/-- A decimal digit. -/
def digit (n : ℕ) : Char := Char.ofNat (48 + n)

/-- The value of a decimal digit. -/
def digitValue (c : Char) : Option ℕ :=
  if '0' ≤ c ∧ c ≤ '9' then some (c.toNat - 48) else none

/-- A number with leading zeros. -/
def pad : (width n : ℕ) → List Char
  | 0, _ => []
  | width + 1, n => digit (n / 10 ^ width) :: pad width (n % 10 ^ width)

/-- The characters of `isoformat`. -/
def isoChars (t : DateTime) : List Char :=
  pad 4 t.year ++ '-' :: (pad 2 t.month ++ '-' :: (pad 2 t.day ++ 'T' :: (pad 2 t.hour ++
    ':' :: (pad 2 t.minute ++ ':' :: (pad 2 t.second ++
      ((if t.microsecond = 0 then [] else '.' :: pad 6 t.microsecond) ++
        ['+', '0', '0', ':', '0', '0']))))))

/-- `t.isoformat()`. -/
def isoformat (t : DateTime) : String := String.ofList t.isoChars

/-- A number of a fixed width at the head of a text. -/
def readPadded : ℕ → List Char → Option (ℕ × List Char)
  | 0, cs => some (0, cs)
  | width + 1, c :: cs => do
    let d ← digitValue c
    let (n, cs) ← readPadded width cs
    return (d * 10 ^ width + n, cs)
  | _ + 1, [] => none

/-- What follows a given character. -/
def expect (c : Char) : List Char → Option (List Char)
  | c' :: cs => if c = c' then some cs else none
  | [] => none

/-- The fraction of a second, if there is one. -/
def readFraction : List Char → Option (ℕ × List Char)
  | '.' :: cs => readPadded 6 cs
  | cs => some (0, cs)

/-- The instant of a text in the form of `isoChars`. -/
def ofIsoChars (cs : List Char) : Option DateTime := do
  let (year, cs) ← readPadded 4 cs
  let cs ← expect '-' cs
  let (month, cs) ← readPadded 2 cs
  let cs ← expect '-' cs
  let (day, cs) ← readPadded 2 cs
  let cs ← expect 'T' cs
  let (hour, cs) ← readPadded 2 cs
  let cs ← expect ':' cs
  let (minute, cs) ← readPadded 2 cs
  let cs ← expect ':' cs
  let (second, cs) ← readPadded 2 cs
  let (microsecond, cs) ← readFraction cs
  if cs = ['+', '0', '0', ':', '0', '0'] then
    ofFields year month day hour minute second microsecond
  else none

/-- `datetime.fromisoformat(text)`: `none` is a `ValueError`. -/
def fromisoformat (text : String) : Option DateTime := ofIsoChars text.toList

theorem digitValue_digit : ∀ n < 10, digitValue (digit n) = some n := by decide

/-- A padded number is read back. -/
theorem readPadded_pad {width n : ℕ} (h : n < 10 ^ width) (r : List Char) :
    readPadded width (pad width n ++ r) = some (n, r) := by
  induction width generalizing n with
  | zero => simp at h; simp [pad, readPadded, h]
  | succ width ih =>
    have hpos : 0 < 10 ^ width := Nat.pow_pos (by decide)
    have hdiv : n / 10 ^ width < 10 := by
      rw [Nat.div_lt_iff_lt_mul hpos, Nat.mul_comm, ← Nat.pow_succ]; exact h
    have hd := digitValue_digit _ hdiv
    have hr := ih (Nat.mod_lt n hpos)
    have hsum : n / 10 ^ width * 10 ^ width + n % 10 ^ width = n := Nat.div_add_mod' n _
    simp [pad, readPadded, hd, hr, hsum]

@[simp]
theorem expect_cons (c : Char) (cs : List Char) : expect c (c :: cs) = some cs := if_pos rfl

theorem readFraction_write {n : ℕ} (h : n < 1000000) (r : List Char) :
    readFraction ((if n = 0 then [] else '.' :: pad 6 n) ++ '+' :: r) = some (n, '+' :: r) := by
  split_ifs with h0
  · subst h0
    simp [readFraction]
  · exact readPadded_pad h _

/-- Reading what was written gives the instant back. -/
@[simp]
theorem fromisoformat_isoformat (t : DateTime) : fromisoformat t.isoformat = some t := by
  have hy := t.year_range
  have hm := t.month_range
  have hday : t.day < 10 ^ 2 := by
    have hd := t.day_range
    have : daysInMonth t.year t.month ≤ 31 := by unfold daysInMonth; split_ifs <;> omega
    omega
  have hh := t.hour_lt
  have hmin := t.minute_lt
  have hs := t.second_lt
  have hyear : t.year < 10 ^ 4 := by omega
  have hmonth : t.month < 10 ^ 2 := by omega
  have hhour : t.hour < 10 ^ 2 := by omega
  have hminute : t.minute < 10 ^ 2 := by omega
  have hsecond : t.second < 10 ^ 2 := by omega
  simp only [fromisoformat, isoformat, isoChars, ofIsoChars, String.toList_ofList,
    readPadded_pad hyear, readPadded_pad hmonth, readPadded_pad hday, readPadded_pad hhour,
    readPadded_pad hminute, readPadded_pad hsecond, readFraction_write t.microsecond_lt,
    expect_cons, Option.bind_eq_bind, Option.bind_some, if_pos, ofFields_self]

theorem isoformat_injective {s t : DateTime} (h : s.isoformat = t.isoformat) : s = t := by
  have hs := fromisoformat_isoformat s
  rw [h, fromisoformat_isoformat] at hs
  exact (Option.some.inj hs).symm

/-- The text of an instant starts with a digit, so it is no text form of a byte string. -/
theorem isoChars_head (t : DateTime) : ∃ d cs, t.isoChars = digit d :: cs ∧ d < 10 := by
  have hy := t.year_range
  exact ⟨t.year / 10 ^ 3, _, rfl, by omega⟩

theorem isoformat_ne_empty (t : DateTime) : t.isoformat ≠ "" := by
  obtain ⟨d, cs, h, -⟩ := t.isoChars_head
  intro hempty
  have hlist := congrArg String.toList hempty
  simp [isoformat, h] at hlist

theorem pad_ascii {width n : ℕ} (h : n < 10 ^ width) : ∀ c ∈ pad width n, c.toNat < 128 := by
  induction width generalizing n with
  | zero => exact nofun
  | succ width ih =>
    have hpos : 0 < 10 ^ width := Nat.pow_pos (by decide)
    have hdiv : n / 10 ^ width < 10 := by
      rw [Nat.div_lt_iff_lt_mul hpos, Nat.mul_comm, ← Nat.pow_succ]
      exact h
    have hdigit : ∀ d < 10, (digit d).toNat < 128 := by decide
    intro c hc
    rcases List.mem_cons.mp hc with rfl | hc
    · exact hdigit _ hdiv
    · exact ih (Nat.mod_lt n hpos) c hc

/-- The text of an instant consists of ASCII characters. -/
theorem isoformat_ascii (t : DateTime) : ∀ c ∈ t.isoformat.toList, c.toNat < 128 := by
  have hy := t.year_range
  have hm := t.month_range
  have hd := t.day_range
  have hdays : daysInMonth t.year t.month ≤ 31 := by
    unfold daysInMonth
    split_ifs <;> omega
  have hh := t.hour_lt
  have hmin := t.minute_lt
  have hs := t.second_lt
  have hmicro := t.microsecond_lt
  rw [isoformat, String.toList_ofList, isoChars]
  simp only [List.forall_mem_append, List.forall_mem_cons]
  refine ⟨pad_ascii (by omega), by decide, pad_ascii (by omega), by decide, pad_ascii (by omega),
    by decide, pad_ascii (by omega), by decide, pad_ascii (by omega), by decide,
    pad_ascii (by omega), ?_, by decide, by decide, by decide, by decide, by decide, by decide,
    List.forall_mem_nil _⟩
  split_ifs
  · exact nofun
  · exact List.forall_mem_cons.mpr ⟨by decide, pad_ascii (by omega)⟩

theorem length_pad (width n : ℕ) : (pad width n).length = width := by
  induction width generalizing n with
  | zero => rfl
  | succ width ih => simp [pad, ih]

theorem length_isoformat_le (t : DateTime) : t.isoformat.toList.length ≤ 32 := by
  simp only [isoformat, isoChars, String.toList_ofList, List.length_append, List.length_cons,
    length_pad]
  split <;> simp [length_pad]

end DateTime

end Python
