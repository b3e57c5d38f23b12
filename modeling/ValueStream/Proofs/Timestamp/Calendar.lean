import Mathlib.Tactic.IntervalCases
import ValueStream.Timestamp.Calendar

/-!
# Days and dates

Every day has a date of the calendar, from which the day is found again (`toDays_ofDays`,
`isValid_ofDays`). Both go by years that start in March: a day falls in its year, of which only the
last day depends on whether the next February has 29 days.
-/

namespace ValueStream

namespace Date

/-! ## The day of the year -/

theorem yearStart_succ (year : Int) :
    yearStart (year + 1) = yearStart year + if isLeap (year + 1) then 366 else 365 := by
  unfold yearStart isLeap
  split <;> simp at * <;> omega

/-- A year counted from March has a day more if it ends with a leap day. -/
theorem dayOfYear_lt (n : Int) :
    n - yearStart (yearOf n) < if isLeap (yearOf n + 1) then 366 else 365 := by
  have hlt := lt_yearStart n
  rw [yearStart_succ] at hlt
  omega

/-! ## Dates -/

/-- The parts of the date of a day: its year and its month, both counted from March, and the day of
the month. -/
theorem exists_parts (n : Int) :
    ∃ (year : Int) (month day : Nat), month ≤ 11 ∧ 1 ≤ day ∧
      n + epoch = yearStart year + monthStart month + day - 1 ∧
      monthStart month + day ≤ monthStart (month + 1) ∧
      monthStart month + day ≤ (if isLeap (year + 1) then 366 else 365) ∧
      ofDays n = if month < 10 then ⟨year, month + 3, day⟩ else ⟨year + 1, month - 9, day⟩ := by
  have hyear := yearStart_le (n + epoch)
  have hlt := dayOfYear_lt (n + epoch)
  generalize hday : (n + epoch - yearStart (yearOf (n + epoch))).toNat = day
  have hmonth := monthStart_le day
  have hmonth' := lt_monthStart day
  have hend : day < if isLeap (yearOf (n + epoch) + 1) then 366 else 365 := by
    split
    · next hleap =>
      rw [if_pos hleap] at hlt
      omega
    · next hleap =>
      rw [if_neg hleap] at hlt
      omega
  refine ⟨yearOf (n + epoch), monthOf day, day - monthStart (monthOf day) + 1, ?_, by omega,
    by omega, by omega, by omega, ?_⟩
  · have hday365 : day ≤ 365 := by split at hend <;> omega
    unfold monthOf
    omega
  · rw [ofDays, hday]

/-- **The day of the date of a day is that day.** -/
theorem toDays_ofDays (n : Int) : (ofDays n).toDays = n := by
  obtain ⟨year, month, day, hmonth, hday, hn, -, -, hdate⟩ := exists_parts n
  rw [hdate]
  split
  · rw [toDays, if_neg (by simp)]
    simp only [Nat.add_sub_cancel]
    omega
  · next hlate =>
    rw [toDays, if_pos (by simp only; omega)]
    have hback : month - 9 + 9 = month := by omega
    simp only [hback, Int.add_sub_cancel]
    omega

/-- **The date of a day is one of the calendar.** -/
theorem isValid_ofDays (n : Int) : (ofDays n).IsValid := by
  obtain ⟨year, month, day, hmonth, hday, hn, hnext, hend, hdate⟩ := exists_parts n
  rw [hdate]
  unfold monthStart at hnext hend
  cases hleap : isLeap (year + 1) <;>
    interval_cases month <;> simp [IsValid, monthLength, hleap] at hnext hend ⊢ <;> omega

end Date

end ValueStream
