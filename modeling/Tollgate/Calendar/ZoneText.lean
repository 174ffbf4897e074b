import Tollgate.Calendar.Zone
import Tollgate.Text.Blank

/-!
The text form of time zones: a name and an offset west of Greenwich, and for daylight saving a
second name, possibly its own offset, and the two changes of the year behind commas.
-/

namespace Tollgate.Calendar

/-- Takes a number within bounds, written without a sign, off the front of a text. -/
def takeNumber (low high : Nat) (text : List Char) : Option (Nat × List Char) :=
  let digits := text.takeWhile Char.isDigit
  let value := digits.foldl (fun value c => value * 10 + (c.toNat - '0'.toNat)) 0
  if !digits.isEmpty && low ≤ value && value ≤ high then
    some (value, text.dropWhile Char.isDigit)
  else none

/-- A character that the name of a zone may hold. -/
def isZoneNameChar (c : Char) : Bool :=
  c.isAlphanum || c == '+' || c == '-'

/-- The text is fit to be the name of a zone. -/
def isZoneName (name : List Char) : Bool :=
  3 ≤ name.length && name.length ≤ 7 && name.all isZoneNameChar

/-- Takes a name off the front of a text: letters, or more kinds of characters between angle
brackets. -/
def skipZoneName (text : List Char) : Option (List Char) :=
  match text with
  | '<' :: rest =>
    match rest.dropWhile (· != '>') with
    | [] => none
    | _ :: after => if isZoneName (rest.takeWhile (· != '>')) then some after else none
  | _ =>
    if isZoneName (text.takeWhile Char.isAlpha) then some (text.dropWhile Char.isAlpha) else none

/-- Takes minutes or seconds, introduced by a colon, off the front of a text. -/
def takeSixtieths (text : List Char) : Option (Nat × List Char) :=
  match text with
  | ':' :: rest => takeNumber 0 59 rest
  | _ => some (0, text)

/-- Takes hours up to a bound, minutes and seconds, of which seconds or both of the last may be left
out, off the front of a text. -/
def takeTime (bound : Nat) (text : List Char) : Option (Int × List Char) := do
  let (hours, text) ← takeNumber 0 bound text
  match text with
  | ':' :: _ =>
    let (minutes, text) ← takeSixtieths text
    let (seconds, text) ← takeSixtieths text
    return (hours * 3600 + minutes * 60 + seconds, text)
  | _ => return (hours * 3600, text)

/-- Takes an offset, a time short of a day that may have a sign, off the front of a text. -/
def takeOffset (text : List Char) : Option (Int × List Char) :=
  match text with
  | '-' :: rest => (takeTime 23 rest).map fun (time, rest) => (-time, rest)
  | '+' :: rest => takeTime 23 rest
  | _ => takeTime 23 text

/-- Takes a number within bounds, introduced by a full stop, off the front of a text. -/
def takeDotted (low high : Nat) (text : List Char) : Option (Nat × List Char) :=
  match text with
  | '.' :: rest => takeNumber low high rest
  | _ => none

/-- Takes a day of the year off the front of a text. -/
def takeYearDay (text : List Char) : Option (YearDay × List Char) :=
  match text with
  | 'J' :: rest => (takeNumber 1 365 rest).map fun (number, rest) => (.counted number, rest)
  | 'M' :: rest => do
    let (month, rest) ← takeNumber 1 12 rest
    let (week, rest) ← takeDotted 1 5 rest
    let (day, rest) ← takeDotted 0 6 rest
    return (.weekday month week day, rest)
  | _ => (takeNumber 0 365 text).map fun (number, rest) => (.ordinal number, rest)

/-- Takes a change, introduced by a comma, off the front of a text; it is at two o'clock unless
another time is given. -/
def takeChange (text : List Char) : Option (Change × List Char) :=
  match text with
  | ',' :: rest => do
    let (day, rest) ← takeYearDay rest
    match rest with
    | '/' :: rest => do
      let (time, rest) ← takeTime 24 rest
      return (⟨day, time⟩, rest)
    | _ => return (⟨day, 7200⟩, rest)
  | _ => none

/-- A character of white space in the narrow sense. -/
def isSpacing (c : Char) : Bool :=
  c == ' ' || c == '\t' || c == '\n' || c == '\x0c' || c == '\r'

/-- The zone a text describes, with no regard to white space around it. -/
def Zone.ofText? (text : String) : Option Zone := do
  let rest ← skipZoneName (Text.stripped isSpacing text.toList)
  let (west, rest) ← takeOffset rest
  let standard := -west
  if rest.isEmpty then return ⟨standard, none⟩
  else
    let rest ← skipZoneName rest
    -- Saving is one hour unless the second offset says otherwise.
    let (offset, rest) ← match rest with
      | ',' :: _ => some (standard + 3600, rest)
      | _ => (takeOffset rest).map fun (west, rest) => (-west, rest)
    let (start, rest) ← takeChange rest
    let (finish, rest) ← takeChange rest
    if rest.isEmpty then return ⟨standard, some ⟨offset, start, finish⟩⟩ else none

end Tollgate.Calendar
