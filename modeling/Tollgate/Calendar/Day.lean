import Tollgate.Calendar.Zone

/-! The day an instant falls on, as clocks show it. -/

namespace Tollgate

/-- Microseconds since 1970 began, by universal time. -/
abbrev Instant := Int

namespace Calendar

/-- Microseconds in a second. -/
def secondMicros : Int := 1000000

/-- The offset in force at an instant. -/
def Zone.offset (zone : Zone) (now : Instant) : Int :=
  zone.offsetAt (now / secondMicros)

/-- The local second that contains an instant. -/
def Zone.localSecond (zone : Zone) (now : Instant) : Int :=
  now / secondMicros + zone.offset now

/-- The local date of an instant, as a number of days. -/
def Zone.dateOf (zone : Zone) (now : Instant) : Int :=
  zone.localSecond now / daySeconds

/-- The instant can be looked up, and the time that clocks show at it can be written down. In the
first and the last hours of all that is not so of every zone, and then there is no date. -/
structure Zone.Dates (zone : Zone) (now : Instant) : Prop where
  instant : isCovered (now / secondMicros) = true
  clock : isCovered (zone.localSecond now) = true

/-- The instant at which the local day of an instant starts, which is asked only of instants that
have a date, as `Zone.Dates` says.

Where midnight stands for no second, the time one hour later stands in for it, and where that
stands for none either, the day is taken to start at once. -/
def dayStart (zone : Zone) (now : Instant) : Instant :=
  let midnight := zone.dateOf now * daySeconds
  match zone.secondOfLocal? midnight with
  | some second => second * secondMicros
  | none =>
    match zone.secondOfLocal? (midnight + 3600) with
    | some second => second * secondMicros
    | none => now

end Calendar

end Tollgate
