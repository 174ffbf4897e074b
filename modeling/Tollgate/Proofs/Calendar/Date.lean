import Mathlib.Tactic.IntervalCases
import Tollgate.Calendar.Zone

/-!
Years and months in the order of days. Every day belongs to exactly one year, later days belong to
no earlier month of a year, and the days of clock changes stay in the year they are meant for, but
for one that common years do not have.
-/

namespace Tollgate.Calendar

/-- Years follow one another, with 365 or 366 days each. -/
theorem yearStart_succ (year : Int) :
    yearStart (year + 1) = yearStart year + 365 + if isLeap year then 1 else 0 := by
  simp only [isLeap, yearStart, Bool.and_eq_true, Bool.or_eq_true, beq_iff_eq, bne_iff_ne]
  split <;> omega

/-- A later year starts at least 365 days later for each year between. -/
theorem yearStart_mono {year later : Int} (after : year ≤ later) :
    yearStart year + 365 * (later - year) ≤ yearStart later := by
  -- The leap days that are counted do not become fewer.
  simp only [yearStart]
  omega

/-- A later day lies in no earlier month of a year. -/
theorem monthIn_mono (year : Int) {day later : Int} (after : day ≤ later) :
    monthIn year day ≤ monthIn year later := by
  -- Every month that has begun by the earlier day has begun by the later one.
  unfold monthIn
  rw [← List.countP_eq_length_filter, ← List.countP_eq_length_filter]
  refine List.countP_mono_left fun earlier _ begun => ?_
  simp only [decide_eq_true_eq] at begun ⊢
  omega

/-- A month lies in its year and has at least 28 days. -/
theorem month_within (year : Int) {month : Nat} (first : 1 ≤ month) (last : month ≤ 12) :
    yearStart year ≤ monthStart year month ∧ 28 ≤ monthLength year month ∧
      monthStart year month + monthLength year month ≤ yearStart (year + 1) := by
  rw [yearStart_succ, monthStart, monthLength]
  -- The year and each of the twelve months have their days more in a leap year.
  cases isLeap year <;> interval_cases month <;> simp [daysBefore, daysIn] <;> omega

/-- The numbers that name a day of the year are those of a day. -/
def YearDay.IsReal : YearDay → Prop
  | .counted number => 1 ≤ number ∧ number ≤ 365
  | .ordinal number => number ≤ 365
  | .weekday month week day => (1 ≤ month ∧ month ≤ 12) ∧ (1 ≤ week ∧ week ≤ 5) ∧ day ≤ 6

/-- A day of the year is no later than the last day of a leap year. -/
theorem YearDay.on_within {yearDay : YearDay} (real : yearDay.IsReal) (year : Int) :
    yearStart year ≤ yearDay.on year ∧ yearDay.on year ≤ yearStart year + 365 := by
  cases yearDay with
  | counted number =>
    obtain ⟨first, last⟩ := real
    simp only [on]
    split <;> omega
  | ordinal number =>
    have last : number ≤ 365 := real
    simp only [on]
    omega
  | weekday month week day =>
    obtain ⟨⟨first, last⟩, ⟨firstWeek, lastWeek⟩, _⟩ := real
    obtain ⟨inside, long, ends⟩ := month_within year first last
    have leap := yearStart_succ year
    simp only [on]
    -- The occurrence that counts is one of the days of the month.
    split <;> split at leap <;> omega

/-- A day that is counted without the leap day comes so many days after the start of the year, and
one more behind a leap day. -/
theorem YearDay.counted_on (number : Nat) (year : Int) :
    yearStart year + (number - 1) ≤ (counted number).on year ∧
      (counted number).on year ≤ yearStart year + (number - 1) + 1 := by
  simp only [on]
  split <;> omega

/-- Counted days come in the order of the counts, and are apart in every year if the counts are. -/
theorem YearDay.apart_of_counted {first last : Nat}
    (apart : first + 4 ≤ last ∧ last + 4 ≤ first + 365) (year : Int) :
    (counted first).on year + 3 ≤ (counted last).on year ∧
      (counted last).on year + 3 ≤ (counted first).on (year + 1) := by
  -- The leap day moves a count by one day at most.
  have next := yearStart_succ year
  have := counted_on first year
  have := counted_on last year
  have := counted_on first (year + 1)
  split at next <;> omega

end Tollgate.Calendar
