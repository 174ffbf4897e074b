/-!
Days of the Gregorian calendar, counted from the first day of 1970 and extended without end in
both directions.
-/

namespace Tollgate.Calendar

/-- A leap year comes every fourth year, except in three out of four full centuries. -/
def isLeap (year : Int) : Bool :=
  year % 4 == 0 && (year % 100 != 0 || year % 400 == 0)

/-- The first day of a year. -/
def yearStart (year : Int) : Int :=
  -- Up to 1969 there were 492 fourth years, 19 full centuries and 4 leap centuries.
  365 * (year - 1970) + ((year - 1) / 4 - 492) - ((year - 1) / 100 - 19) + ((year - 1) / 400 - 4)

/-- The year a day belongs to. -/
def yearOf (day : Int) : Int :=
  -- Counting by average years errs by one year at most.
  let guess := 400 * (day + 719162) / 146097 + 1
  if day < yearStart guess then guess - 1
  else if yearStart (guess + 1) ≤ day then guess + 1
  else guess

/-- A day does not come before its year. -/
theorem yearStart_yearOf_le (day : Int) : yearStart (yearOf day) ≤ day := by
  -- The guess is off by at most one year, and the comparisons mend that.
  unfold yearOf
  simp only
  split
  · simp only [yearStart] at *; omega
  · split
    · assumption
    · omega

/-- A day comes before the next year. -/
theorem lt_yearStart_yearOf (day : Int) : day < yearStart (yearOf day + 1) := by
  -- The guess is off by at most one year, and the comparisons mend that.
  unfold yearOf
  simp only
  split
  · simpa using ‹day < _›
  · split
    · simp only [yearStart] at *; omega
    · omega

/-- Days of a common year before each of its months. -/
def daysBefore : List Int :=
  [0, 31, 59, 90, 120, 151, 181, 212, 243, 273, 304, 334]

/-- Days of a common year in each of its months. -/
def daysIn : List Int :=
  [31, 28, 31, 30, 31, 30, 31, 31, 30, 31, 30, 31]

/-- The first day of a month, the months being numbered from one. -/
def monthStart (year : Int) (month : Nat) : Int :=
  yearStart year + daysBefore.getD (month - 1) 0 + if isLeap year && 2 < month then 1 else 0

/-- The number of days in a month. -/
def monthLength (year : Int) (month : Nat) : Int :=
  daysIn.getD (month - 1) 0 + if isLeap year && month == 2 then 1 else 0

/-- The last month of a year that has begun by a day, which is the month of the day if the day
belongs to that year. -/
def monthIn (year day : Int) : Nat :=
  -- The months that have begun come first, so it is enough to count them.
  ((List.range 12).filter fun earlier => monthStart year (earlier + 1) ≤ day).length

/-- The day of the week, from zero for Sunday. -/
def weekday (day : Int) : Int :=
  -- The first day of 1970 was a Thursday.
  (day + 4) % 7

end Tollgate.Calendar
