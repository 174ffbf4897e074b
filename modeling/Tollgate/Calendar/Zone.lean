import Tollgate.Calendar.Date

/-!
Time zones with at most one rule for daylight saving: which offset from universal time is in force
at an instant, and which second a local time stands for, if clocks ever showed that time.
-/

namespace Tollgate.Calendar

/-- Seconds in a day. -/
def daySeconds : Int := 86400

/-- A day that comes once in every year. -/
inductive YearDay where
  /-- A day counted from one, the leap day being left out of the count. -/
  | counted (number : Nat)
  /-- A day counted from zero, the leap day included. -/
  | ordinal (number : Nat)
  /-- A day of the week in a month, the fifth being the last one. -/
  | weekday (month week day : Nat)
  deriving DecidableEq

/-- The day itself in a given year. -/
def YearDay.on (yearDay : YearDay) (year : Int) : Int :=
  match yearDay with
  | .counted number =>
    yearStart year + (number - 1) + if isLeap year && 60 ≤ number then 1 else 0
  | .ordinal number => yearStart year + number
  | .weekday month week day =>
    -- A fifth occurrence that falls into the next month gives way to the fourth.
    let first := monthStart year month
    let occurrence := (day - Calendar.weekday first) % 7 + (week - 1) * 7
    first + if monthLength year month ≤ occurrence then occurrence - 7 else occurrence

/-- When clocks are changed: a day, and a time on the clock as it runs before the change. -/
structure Change where
  /-- The day of the change. -/
  day : YearDay
  /-- Seconds after the midnight that begins that day. -/
  time : Int
  deriving DecidableEq

/-- The moment of the change in a given year, on the clock as it runs before it. -/
def Change.moment (change : Change) (year : Int) : Int :=
  change.day.on year * daySeconds + change.time

/-- A yearly period during which clocks are set to another offset. -/
structure Saving where
  /-- Seconds ahead of universal time during the period. -/
  offset : Int
  /-- When the period starts. -/
  start : Change
  /-- When the period is over. -/
  finish : Change
  deriving DecidableEq

/-- A time zone. -/
structure Zone where
  /-- Seconds ahead of universal time outside any daylight saving. -/
  standard : Int
  /-- The period of daylight saving, if there is one. -/
  saving : Option Saving
  deriving DecidableEq

/-- Universal time. -/
def Zone.universal : Zone := ⟨0, none⟩

/-- The second of universal time at which the saving of a year starts. -/
def Zone.startSecond (zone : Zone) (saving : Saving) (year : Int) : Int :=
  saving.start.moment year - zone.standard

/-- The second of universal time at which the saving of a year is over. -/
def finishSecond (saving : Saving) (year : Int) : Int :=
  saving.finish.moment year - saving.offset

/-- Saving is in force at a second of universal time. -/
def Zone.isSaving (zone : Zone) (saving : Saving) (second : Int) : Bool :=
  let year := yearOf (second / daySeconds)
  let start := zone.startSecond saving
  let finish := finishSecond saving
  if start year ≤ finish year then
    -- The period lies inside the year, and those of the years beside it may reach into the year.
    if second < start year then start (year - 1) ≤ second && second < finish (year - 1)
    else if second < finish year then true
    else start (year + 1) ≤ second && second < finish (year + 1)
  else
    -- The break lies inside the year, and those of the years beside it may reach into the year.
    if second < finish year then !(finish (year - 1) ≤ second && second < start (year - 1))
    else if second < start year then false
    else !(finish (year + 1) ≤ second && second < start (year + 1))

/-- The offset in force at a second of universal time. -/
def Zone.offsetAt (zone : Zone) (second : Int) : Int :=
  match zone.saving with
  | none => zone.standard
  | some saving => if zone.isSaving saving second then saving.offset else zone.standard

/-- The month in which the day of a change falls in a year. -/
def Change.monthIn (change : Change) (year : Int) : Nat :=
  Calendar.monthIn year (change.day.on year)

/-- How often clocks show a local time. -/
inductive Showing where
  /-- Clocks skip the time. -/
  | never
  /-- They show it once, while this offset is in force. -/
  | once (offset : Int)
  /-- They show it twice, while one offset is in force and again while the next one is. -/
  | twice (first second : Int)
  deriving DecidableEq

/-- An offset that clocks can be set to: it is less than a day either way. -/
def isClockOffset (offset : Int) : Bool :=
  -daySeconds < offset && offset < daySeconds

/-- The first year in which moments of local time are looked up. -/
def firstYear : Int := -262143

/-- The last year in which moments of local time are looked up. -/
def lastYear : Int := 262142

/-- A second of universal time in one of the years in which moments are looked up. -/
def isCovered (second : Int) : Bool :=
  yearStart firstYear * daySeconds ≤ second && second < yearStart (lastYear + 1) * daySeconds

/-- The second of universal time at which clocks set to an offset show a local time. -/
def secondUnder? (localSecond offset : Int) : Option Int :=
  let second := localSecond - offset
  if isClockOffset offset && isCovered second then some second else none

/-- The second of universal time at which clocks show a local time; a time shown twice is taken the
second time, but both times must be moments that can be looked up. -/
def Showing.second? (showing : Showing) (localSecond : Int) : Option Int :=
  match showing with
  | .never => none
  | .once offset => secondUnder? localSecond offset
  | .twice first second =>
    if (secondUnder? localSecond first).isSome then secondUnder? localSecond second else none

/-- How often clocks show a local time.

Saving is taken to lie inside the year only if it starts in an earlier month than it ends; where
both changes are in one month, it is taken to last through the turn of the year. -/
def Zone.showing (zone : Zone) (localSecond : Int) : Showing :=
  match zone.saving with
  | none => .once zone.standard
  | some saving =>
    let year := yearOf (localSecond / daySeconds)
    let standard := zone.standard
    let offset := saving.offset
    let startBefore := saving.start.moment year
    let startAfter := startBefore + offset - standard
    let finishBefore := saving.finish.moment year
    let finishAfter := finishBefore + standard - offset
    let startsFirst := decide (saving.start.monthIn year < saving.finish.monthIn year)
    if standard = offset then .once standard
    else if standard < offset then
      -- Clocks go forward at the start, and back at the end of the period.
      if startsFirst then
        if localSecond ≤ startBefore then .once standard
        else if localSecond < startAfter then .never
        else if localSecond < finishAfter then .once offset
        else if localSecond ≤ finishBefore then .twice offset standard
        else .once standard
      else
        if localSecond < finishAfter then .once offset
        else if localSecond ≤ finishBefore then .twice offset standard
        else if localSecond < startBefore then .once standard
        else if localSecond < startAfter then .never
        else .once offset
    else
      -- Clocks go back at the start, and forward at the end of the period.
      if startsFirst then
        if localSecond < startAfter then .once standard
        else if localSecond ≤ startBefore then .twice standard offset
        else if localSecond < finishBefore then .once offset
        else if localSecond < finishAfter then .never
        else .once standard
      else
        if localSecond ≤ finishBefore then .once offset
        else if localSecond < finishAfter then .never
        else if localSecond < startAfter then .once standard
        else if localSecond ≤ startBefore then .twice standard offset
        else .once offset

/-- The second of universal time that a local time stands for, if it stands for one. -/
def Zone.secondOfLocal? (zone : Zone) (localSecond : Int) : Option Int :=
  (zone.showing localSecond).second? localSecond

end Tollgate.Calendar
