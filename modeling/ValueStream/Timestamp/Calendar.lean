/-!
# The calendar

Dates of the proleptic Gregorian calendar and the number of days since the first of January 1970.

Years are counted from March inside this module, so that the leap day is the last day of its year
and the months before it have the lengths 31, 30, 31, 30, 31 again and again; the first day of the
month with number `m`, March being 0, is then day `(153 * m + 2) / 5` of the year. A day is found
by taking off whole cycles of 400, 100, 4 and 1 years, of which the last of four centuries and the
last of four years are one day longer.
-/

namespace ValueStream

/-- A date. -/
structure Date where
  /-- The year; the year before year 1 is year 0. -/
  year : Int
  /-- The month, from 1 to 12. -/
  month : Nat
  /-- The day of the month, from 1. -/
  day : Nat
deriving DecidableEq

namespace Date

/-- Whether the year has a leap day. -/
def isLeap (year : Int) : Bool :=
  decide (year % 4 = 0 ∧ (year % 100 ≠ 0 ∨ year % 400 = 0))

/-- The number of days of a month. -/
def monthLength (year : Int) (month : Nat) : Nat :=
  if month = 2 then if isLeap year then 29 else 28
  else if month = 4 ∨ month = 6 ∨ month = 9 ∨ month = 11 then 30
  else 31

/-- A date of the calendar. -/
def IsValid (d : Date) : Prop :=
  1 ≤ d.month ∧ d.month ≤ 12 ∧ 1 ≤ d.day ∧ d.day ≤ monthLength d.year d.month

instance (d : Date) : Decidable d.IsValid := by unfold IsValid; infer_instance

/-! ## Years that start in March -/

/-- The days from the first of March of year 0 to that of a year. -/
def yearStart (year : Int) : Int := 365 * year + year / 4 - year / 100 + year / 400

/-- The year, counted from March, that a day falls in. -/
def yearOf (days : Int) : Int :=
  let cycle := days / 146097
  let inCycle := days % 146097
  let century := min (inCycle / 36524) 3
  let inCentury := inCycle - 36524 * century
  let quad := inCentury / 1461
  let inQuad := inCentury - 1461 * quad
  400 * cycle + 100 * century + 4 * quad + min (inQuad / 365) 3

/-- The first day of a month in its year, both counted from March. -/
def monthStart (month : Nat) : Nat := (153 * month + 2) / 5

/-- The month, counted from March, that a day of the year falls in. -/
def monthOf (dayOfYear : Nat) : Nat := (5 * dayOfYear + 2) / 153

theorem yearStart_cycles {c a b r : Int} (ha : 0 ≤ a ∧ a ≤ 3) (hb : 0 ≤ b ∧ b ≤ 24)
    (hr : 0 ≤ r ∧ r ≤ 3) :
    yearStart (400 * c + 100 * a + 4 * b + r) = 146097 * c + 36524 * a + 1461 * b + 365 * r := by
  unfold yearStart
  omega

/-- The cycles that `yearOf` takes off, with what they leave. -/
theorem yearOf_cycles (n : Int) : ∃ c a b r : Int, yearOf n = 400 * c + 100 * a + 4 * b + r ∧
    (0 ≤ a ∧ a ≤ 3) ∧ (0 ≤ b ∧ b ≤ 24) ∧ (0 ≤ r ∧ r ≤ 3) ∧
    146097 * c + 36524 * a + 1461 * b + 365 * r ≤ n ∧
    n ≤ 146097 * c + 36524 * a + 1461 * b + 365 * r + 365 ∧
    (n = 146097 * c + 36524 * a + 1461 * b + 365 * r + 365 → r = 3 ∧ (b < 24 ∨ a = 3)) := by
  have hc := Int.emod_nonneg n (show (146097 : Int) ≠ 0 by decide)
  have hc' := Int.emod_lt_of_pos n (show (0 : Int) < 146097 by decide)
  have hn := Int.mul_ediv_add_emod n 146097
  unfold yearOf
  dsimp only
  generalize n / 146097 = c at *
  generalize n % 146097 = i at *
  have ha : 0 ≤ min (i / 36524) 3 ∧ min (i / 36524) 3 ≤ 3 ∧
      0 ≤ i - 36524 * min (i / 36524) 3 ∧ i - 36524 * min (i / 36524) 3 ≤ 36524 ∧
      (i - 36524 * min (i / 36524) 3 = 36524 → min (i / 36524) 3 = 3) := by omega
  generalize min (i / 36524) 3 = a at *
  generalize hj : i - 36524 * a = j at *
  have hb : 0 ≤ j / 1461 ∧ j / 1461 ≤ 24 ∧ 0 ≤ j - 1461 * (j / 1461) ∧
      j - 1461 * (j / 1461) ≤ 1460 ∧
      (j / 1461 = 24 → j - 1461 * (j / 1461) = 1460 → j = 36524) := by omega
  generalize j / 1461 = b at *
  generalize hk : j - 1461 * b = k at *
  refine ⟨c, a, b, min (k / 365) 3, rfl, by omega, by omega, by omega, by omega, by omega, ?_⟩
  intro h
  have hr : min (k / 365) 3 = 3 ∧ k = 1460 := by omega
  omega

/-- A day falls in its year. -/
theorem yearStart_le (n : Int) : yearStart (yearOf n) ≤ n := by
  obtain ⟨c, a, b, r, hy, ha, hb, hr, hl, -⟩ := yearOf_cycles n
  rw [hy, yearStart_cycles ha hb hr]
  exact hl

/-- A day falls in no later year. -/
theorem lt_yearStart (n : Int) : n < yearStart (yearOf n + 1) := by
  obtain ⟨c, a, b, r, hy, ha, hb, hr, hl, hu, he⟩ := yearOf_cycles n
  rw [hy]
  unfold yearStart
  omega

theorem monthStart_le (n : Nat) : monthStart (monthOf n) ≤ n := by
  unfold monthStart monthOf
  omega

theorem lt_monthStart (n : Nat) : n < monthStart (monthOf n + 1) := by
  unfold monthStart monthOf
  omega

/-! ## Days since the epoch -/

/-- The days from the first of March of year 0 to the first of January 1970. -/
def epoch : Int := 719468

/-- The days from the first of January 1970 to a date. -/
def toDays (d : Date) : Int :=
  if d.month ≤ 2 then yearStart (d.year - 1) + monthStart (d.month + 9) + d.day - 1 - epoch
  else yearStart d.year + monthStart (d.month - 3) + d.day - 1 - epoch

/-- The date a number of days after the first of January 1970. -/
def ofDays (n : Int) : Date :=
  let year := yearOf (n + epoch)
  let dayOfYear := (n + epoch - yearStart year).toNat
  let month := monthOf dayOfYear
  let day := dayOfYear - monthStart month + 1
  if month < 10 then ⟨year, month + 3, day⟩ else ⟨year + 1, month - 9, day⟩

example : ofDays 0 = ⟨1970, 1, 1⟩ := by decide +kernel
example : (⟨2000, 2, 29⟩ : Date).toDays = 11016 := by decide +kernel
example : ofDays 11016 = ⟨2000, 2, 29⟩ := by decide +kernel
example : ofDays (-719529) = ⟨-1, 12, 31⟩ := by decide +kernel

end Date

end ValueStream
