import Tollgate.Calendar.Day

/-! Instants written out as date and time of universal time. -/

namespace Tollgate.Calendar

/-- A number that is not negative, with zeros in front up to the given width. -/
def zeroPadded (width : Nat) (value : Int) : String :=
  let digits := Nat.toDigits 10 value.toNat
  String.ofList (List.replicate (width - digits.length) '0' ++ digits)

/-- A year in four digits, with a sign and as many digits as it takes if these do not suffice. -/
def yearText (year : Int) : String :=
  if year < 0 then "-" ++ zeroPadded 4 (-year)
  else if 9999 < year then "+" ++ zeroPadded 4 year
  else zeroPadded 4 year

/-- The fraction of a second with its point, in as few groups of three digits as say all of it. -/
def fractionText (micros : Int) : String :=
  if micros = 0 then ""
  else if micros % 1000 = 0 then "." ++ zeroPadded 3 (micros / 1000)
  else "." ++ zeroPadded 6 micros

/-- Date and time of an instant, which says no more of the fraction of a second than there is. -/
def timestamp (now : Instant) : String :=
  let second := now / secondMicros
  let day := second / daySeconds
  let time := second % daySeconds
  let year := yearOf day
  let month := monthIn year day
  yearText year ++ "-" ++ zeroPadded 2 month ++ "-" ++
    zeroPadded 2 (day - monthStart year month + 1) ++ "T" ++
    zeroPadded 2 (time / 3600) ++ ":" ++ zeroPadded 2 (time / 60 % 60) ++ ":" ++
    zeroPadded 2 (time % 60) ++ fractionText (now % secondMicros) ++ "Z"

end Tollgate.Calendar
