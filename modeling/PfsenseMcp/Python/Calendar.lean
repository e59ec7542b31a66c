import Mathlib.Algebra.Order.Group.Nat
import Mathlib.Data.List.Range
import Mathlib.Order.Monotone.Basic
import Mathlib.Tactic.SplitIfs
import PfsenseMcp.Python.DateTime

/-!
# The calendar behind `datetime`

`toordinal` numbers the days of the proleptic Gregorian calendar, and `dateOfOrdinal` finds the
date of a number. Here these are shown to be inverse, so that instants are ordered by the number of
microseconds before them and an addition of seconds is an addition of numbers.

## Main results

* `lt_iff_stamp_lt`: the order of instants is that of their numbers;
* `stamp_addSeconds`: what an addition of seconds does to the number of an instant;
* `addSeconds_le`: a later instant stays later.
-/

namespace Python

namespace DateTime

/-! ### Days before a year and before a month -/

/-- The number of days of a year. -/
def daysInYear (year : ℕ) : ℕ := if isLeap year then 366 else 365

theorem daysBeforeYear_succ {year : ℕ} (h : 1 ≤ year) :
    daysBeforeYear (year + 1) = daysBeforeYear year + daysInYear year := by
  obtain ⟨x, rfl⟩ : ∃ x, year = x + 1 := ⟨year - 1, by omega⟩
  -- each of the three quotients grows by one, or stays
  have h₄ : (x + 1) / 4 = x / 4 + if (x + 1) % 4 = 0 then 1 else 0 := by split_ifs <;> omega
  have h₁₀₀ : (x + 1) / 100 = x / 100 + if (x + 1) % 100 = 0 then 1 else 0 := by
    split_ifs <;> omega
  have h₄₀₀ : (x + 1) / 400 = x / 400 + if (x + 1) % 400 = 0 then 1 else 0 := by
    split_ifs <;> omega
  have hle : x / 100 ≤ x / 4 := by omega
  have hmod₄ : (x + 1) % 100 = 0 → (x + 1) % 4 = 0 := by omega
  have hmod₁₀₀ : (x + 1) % 400 = 0 → (x + 1) % 100 = 0 := by omega
  simp only [daysBeforeYear, daysInYear, isLeap, decide_eq_true_eq, Nat.add_sub_cancel]
  rw [h₄, h₁₀₀, h₄₀₀]
  generalize x / 4 = a, x / 100 = b, x / 400 = c at hle ⊢
  split_ifs <;> omega

theorem daysBeforeYear_add_le {y z : ℕ} (hy : 1 ≤ y) (h : y < z) :
    daysBeforeYear y + daysInYear y ≤ daysBeforeYear z := by
  induction z, h using Nat.le_induction with
  | base => rw [daysBeforeYear_succ hy]
  | succ z hz ih =>
    rw [daysBeforeYear_succ (by omega)]
    omega

theorem daysBeforeMonth_succ (year : ℕ) {month : ℕ} (h : 1 ≤ month) :
    daysBeforeMonth year (month + 1) = daysBeforeMonth year month + daysInMonth year month := by
  obtain ⟨m, rfl⟩ : ∃ m, month = m + 1 := ⟨month - 1, by omega⟩
  simp [daysBeforeMonth, List.range_succ]

theorem daysBeforeMonth_add_le {year m n : ℕ} (hm : 1 ≤ m) (h : m < n) :
    daysBeforeMonth year m + daysInMonth year m ≤ daysBeforeMonth year n := by
  induction n, h using Nat.le_induction with
  | base => rw [daysBeforeMonth_succ year hm]
  | succ n hn ih =>
    rw [daysBeforeMonth_succ year (by omega)]
    omega

/-- The months make up the year. -/
theorem daysBeforeMonth_thirteen (year : ℕ) : daysBeforeMonth year 13 = daysInYear year := by
  unfold daysInYear
  cases h : isLeap year <;> simp [daysBeforeMonth, List.range_succ, daysInMonth, h]

theorem one_le_daysInMonth (year month : ℕ) : 1 ≤ daysInMonth year month := by
  unfold daysInMonth
  split_ifs <;> omega

/-! ### The number of an instant -/

/-- The number of microseconds before an instant, counted from the day before the first. -/
def stamp (t : DateTime) : ℕ :=
  (t.toordinal * 86400 + ((t.hour * 60 + t.minute) * 60 + t.second)) * 1000000 + t.microsecond

/-- A number that orders dates. -/
def dateKey (t : DateTime) : ℕ := (t.year * 13 + t.month) * 32 + t.day

theorem daysInMonth_le (year month : ℕ) : daysInMonth year month ≤ 31 := by
  unfold daysInMonth
  split_ifs <;> omega

/-- A later date has a larger ordinal. -/
theorem toordinal_lt_of_dateKey_lt {s t : DateTime} (h : s.dateKey < t.dateKey) :
    s.toordinal < t.toordinal := by
  have hs := s.month_range
  have ht := t.month_range
  have hday := s.day_range
  have hday' := t.day_range
  have hle := daysInMonth_le s.year s.month
  have hle' := daysInMonth_le t.year t.month
  have hyear := s.year_range
  -- the days up to the end of a month are those before the next, and the same for years
  have hmonth : daysBeforeMonth s.year s.month + s.day ≤ daysInYear s.year := by
    have hend : daysBeforeMonth s.year s.month + daysInMonth s.year s.month ≤
        daysBeforeMonth s.year 13 := daysBeforeMonth_add_le hs.1 (by omega)
    rw [daysBeforeMonth_thirteen] at hend
    omega
  unfold dateKey at h
  unfold toordinal
  rcases lt_trichotomy s.year t.year with hlt | heq | hgt
  · have := daysBeforeYear_add_le hyear.1 hlt
    omega
  · rw [← heq]
    rcases lt_trichotomy s.month t.month with hlt | heq' | hgt
    · have := @daysBeforeMonth_add_le s.year _ _ hs.1 hlt
      omega
    · rw [← heq']
      omega
    · omega
  · omega

theorem toordinal_eq_of_dateKey_eq {s t : DateTime} (h : s.dateKey = t.dateKey) :
    s.toordinal = t.toordinal := by
  have hs := s.month_range
  have ht := t.month_range
  have hday := s.day_range
  have hday' := t.day_range
  have hle := daysInMonth_le s.year s.month
  have hle' := daysInMonth_le t.year t.month
  unfold dateKey at h
  have hyear : s.year = t.year := by omega
  have hmonth : s.month = t.month := by omega
  have hdays : s.day = t.day := by omega
  rw [toordinal, toordinal, hyear, hmonth, hdays]

/-- The order of instants is that of their numbers. -/
theorem lt_iff_stamp_lt {s t : DateTime} : s < t ↔ s.stamp < t.stamp := by
  have hkey : ∀ u : DateTime, u.key = u.dateKey * 86400000000 +
      (((u.hour * 60 + u.minute) * 60 + u.second) * 1000000 + u.microsecond) := by
    intro u
    unfold key dateKey
    omega
  have hstamp : ∀ u : DateTime, u.stamp = u.toordinal * 86400000000 +
      (((u.hour * 60 + u.minute) * 60 + u.second) * 1000000 + u.microsecond) := by
    intro u
    unfold stamp
    omega
  have htime : ∀ u : DateTime,
      ((u.hour * 60 + u.minute) * 60 + u.second) * 1000000 + u.microsecond < 86400000000 := by
    intro u
    have := u.hour_lt
    have := u.minute_lt
    have := u.second_lt
    have := u.microsecond_lt
    omega
  change s.key < t.key ↔ _
  rw [hkey, hkey, hstamp, hstamp]
  have hs := htime s
  have ht := htime t
  rcases lt_trichotomy s.dateKey t.dateKey with hlt | heq | hgt
  · have := toordinal_lt_of_dateKey_lt hlt
    omega
  · have := toordinal_eq_of_dateKey_eq heq
    omega
  · have := toordinal_lt_of_dateKey_lt hgt
    omega

theorem le_iff_stamp_le {s t : DateTime} : s ≤ t ↔ s.stamp ≤ t.stamp := by
  have hle : s ≤ t ↔ ¬ t < s := Nat.not_lt.symm
  rw [hle, lt_iff_stamp_lt, Nat.not_lt]

/-! ### The date of a number -/

/-- A month and a day of it. -/
structure IsDayOf (year month day : ℕ) : Prop where
  month_range : 1 ≤ month ∧ month ≤ 12
  day_range : 1 ≤ day ∧ day ≤ daysInMonth year month

/-- The days that are left for `months` months are split into a month and a day of it. -/
theorem splitYearDay_spec {year months day : ℕ} (hmonths : months ≤ 12)
    (h : daysBeforeMonth year (13 - months) + day < daysInYear year) :
    IsDayOf year (splitYearDay year months day).1 (splitYearDay year months day).2 ∧
      daysBeforeMonth year (splitYearDay year months day).1 + (splitYearDay year months day).2 =
        daysBeforeMonth year (13 - months) + day + 1 := by
  induction months generalizing day with
  | zero =>
    rw [Nat.sub_zero, daysBeforeMonth_thirteen] at h
    omega
  | succ months ih =>
    have hmonth : 13 - (months + 1) = 12 - months := by omega
    have hnext : 13 - months = 12 - months + 1 := by omega
    rw [hmonth] at h ⊢
    rw [splitYearDay]
    by_cases hday : day < daysInMonth year (12 - months)
    · rw [if_pos hday]
      have hdate : IsDayOf year (12 - months) (day + 1) := ⟨by omega, by omega⟩
      exact ⟨hdate, rfl⟩
    · rw [if_neg hday]
      have hsucc := @daysBeforeMonth_succ year (12 - months) (by omega)
      rw [← hnext] at hsucc
      obtain ⟨hdate, hsum⟩ := @ih (day - daysInMonth year (12 - months)) (by omega)
        (by omega)
      exact ⟨hdate, by omega⟩

/-- The ordinal of the date of a number is the number. -/
theorem dateOfOrdinal_spec {n : ℕ} (hn : 1 ≤ n) :
    1 ≤ (dateOfOrdinal n).1 ∧
    IsDayOf (dateOfOrdinal n).1 (dateOfOrdinal n).2.1 (dateOfOrdinal n).2.2 ∧
      daysBeforeYear (dateOfOrdinal n).1 +
        daysBeforeMonth (dateOfOrdinal n).1 (dateOfOrdinal n).2.1 + (dateOfOrdinal n).2.2 = n := by
  obtain ⟨x, rfl⟩ : ∃ x, n = x + 1 := ⟨n - 1, by omega⟩
  rw [dateOfOrdinal, Nat.add_sub_cancel]
  dsimp only
  -- `a` cycles of 400 years, `b` of 100, `c` of 4, `d` years and `e` days
  generalize ha : x / 146097 = a
  generalize hb : x % 146097 / 36524 = b
  generalize hc : x % 146097 % 36524 / 1461 = c
  generalize hd : x % 146097 % 36524 % 1461 / 365 = d
  generalize he : x % 146097 % 36524 % 1461 % 365 = e
  have hx : x = 146097 * a + 36524 * b + 1461 * c + 365 * d + e := by omega
  have hb₄ : b ≤ 4 := by omega
  have hc₂₄ : c ≤ 24 := by omega
  have hd₄ : d ≤ 4 := by omega
  have he₃₆₅ : e < 365 := by omega
  have hlast : b = 4 → c = 0 ∧ d = 0 ∧ e = 0 := by omega
  have hfour : d = 4 → c < 24 ∧ e = 0 := by omega
  clear ha hb hc hd he
  -- the days before a year that is no last one of its cycle
  have hdays : ∀ b c d, b < 4 → c ≤ 24 → d < 4 →
      daysBeforeYear (a * 400 + b * 100 + c * 4 + d + 1) =
        146097 * a + 36524 * b + 1461 * c + 365 * d := by
    intro b c d hb hc hd
    rw [daysBeforeYear, Nat.add_sub_cancel]
    have h₄ : (a * 400 + b * 100 + c * 4 + d) / 4 = 100 * a + 25 * b + c := by omega
    have h₁₀₀ : (a * 400 + b * 100 + c * 4 + d) / 100 = 4 * a + b := by omega
    have h₄₀₀ : (a * 400 + b * 100 + c * 4 + d) / 400 = a := by omega
    rw [h₄, h₁₀₀, h₄₀₀]
    omega
  by_cases hend : d = 4 ∨ b = 4
  · -- the last day of a leap year
    rw [if_pos hend]
    dsimp only
    obtain ⟨y, hy, hleap, hbefore⟩ : ∃ y, a * 400 + b * 100 + c * 4 + d + 1 - 1 = y + 1 ∧
        isLeap (y + 1) = true ∧ daysBeforeYear (y + 1) + 366 = x + 1 := by
      rcases Nat.lt_or_ge b 4 with hb | hb
      · have hd : d = 4 := by omega
        obtain ⟨hc, he⟩ := hfour hd
        refine ⟨a * 400 + b * 100 + c * 4 + 3, by omega, ?_, ?_⟩
        · rw [isLeap, decide_eq_true_eq]
          omega
        · rw [hdays b c 3 hb (by omega) (by omega)]
          omega
      · have hb : b = 4 := by omega
        obtain ⟨hc, hd, he⟩ := hlast hb
        refine ⟨a * 400 + 3 * 100 + 24 * 4 + 3, by omega, ?_, ?_⟩
        · rw [isLeap, decide_eq_true_eq]
          omega
        · rw [hdays 3 24 3 (by omega) (by omega) (by omega)]
          omega
    rw [hy]
    have hdecember := @daysBeforeMonth_succ (y + 1) 12 (by omega)
    have hdim : daysInMonth (y + 1) 12 = 31 := rfl
    rw [daysBeforeMonth_thirteen, daysInYear, if_pos hleap, hdim] at hdecember
    exact ⟨by omega, ⟨⟨by omega, by omega⟩, ⟨by omega, by rw [hdim]⟩⟩, by omega⟩
  · rw [if_neg hend]
    dsimp only
    have hyear := hdays b c d (by omega) hc₂₄ (by omega)
    have hpos : 1 ≤ a * 400 + b * 100 + c * 4 + d + 1 := by omega
    generalize a * 400 + b * 100 + c * 4 + d + 1 = year at hyear hpos ⊢
    have hlength : 365 ≤ daysInYear year := by
      unfold daysInYear
      split_ifs <;> omega
    have hzero : daysBeforeMonth year (13 - 12) = 0 := rfl
    obtain ⟨hdate, hsum⟩ := @splitYearDay_spec year _ e (le_refl 12) (by rw [hzero]; omega)
    rw [hzero] at hsum
    exact ⟨hpos, hdate, by omega⟩

/-! ### Addition -/

/-- What an addition of seconds does to the number of an instant. -/
theorem stamp_addSeconds {t u : DateTime} {seconds : ℕ} (h : t.addSeconds seconds = some u) :
    u.stamp = t.stamp + seconds * 1000000 := by
  have hpos : 1 ≤ t.toordinal + ((t.hour * 60 + t.minute) * 60 + t.second + seconds) / 86400 := by
    have := t.day_range
    unfold toordinal
    omega
  obtain ⟨-, -, hordinal⟩ := dateOfOrdinal_spec hpos
  unfold addSeconds at h
  dsimp only at h
  unfold ofFields at h
  split_ifs at h
  cases h
  rw [stamp, toordinal, stamp]
  dsimp only
  rw [hordinal]
  omega

/-- Adding the same number of seconds keeps the order of instants. -/
theorem addSeconds_le {s t u v : DateTime} {seconds : ℕ} (hst : s ≤ t)
    (hs : s.addSeconds seconds = some u) (ht : t.addSeconds seconds = some v) : u ≤ v := by
  rw [le_iff_stamp_le] at hst ⊢
  rw [stamp_addSeconds hs, stamp_addSeconds ht]
  omega

theorem lt_of_lt_of_le {s t u : DateTime} (hst : s < t) (htu : t ≤ u) : s < u := by
  rw [lt_iff_stamp_lt] at hst ⊢
  rw [le_iff_stamp_le] at htu
  omega

end DateTime

end Python
