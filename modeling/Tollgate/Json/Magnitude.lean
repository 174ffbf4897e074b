import Tollgate.Json.Lexeme

/-!
How large a numeral may be whose value is wanted: whole numbers are kept exactly below 2^64, and
everything else goes through a double, which has no room for more than about 1.8e308.
-/

namespace Tollgate.Json

/-- Takes digits into a significand as long as it stays below 2^64, and leaves the others. -/
def absorbDigits : Nat → List Char → Nat × List Char
  | significand, [] => (significand, [])
  | significand, c :: rest =>
    let grown := significand * 10 + (c.toNat - '0'.toNat)
    if UInt64.size ≤ grown then (significand, c :: rest) else absorbDigits grown rest

/-- The nearest number with at most fifty-three significant bits, a tie going to the even one. -/
def toDoublePrecision (value : Nat) : Nat :=
  -- The unit in the last place is the power of two that fifty-three bits have to count.
  let unit := Nat.pow 2 (value.log2 - 52)
  let quotient := value / unit
  let doubled := 2 * (value % unit)
  let raised := unit < doubled || (unit == doubled && quotient % 2 == 1)
  (if raised then quotient + 1 else quotient) * unit

/-- The value from which on a number is too large for a double. -/
def doubleLimit : Nat := Nat.pow 2 1024 - Nat.pow 2 970

/-- The value of a row of digits. -/
def digitsValue (digits : List Char) : Nat :=
  digits.foldl (fun value c => value * 10 + (c.toNat - '0'.toNat)) 0

/-- The power of ten that an exponent names. -/
def exponentValue : Option (Bool × List Char) → Int
  | none => 0
  | some (negative, digits) => if negative then -(digitsValue digits : Int) else digitsValue digits

/-- The numeral, computed as a double from its leading digits, has no finite value. -/
def Numeral.outOfRange (numeral : Numeral) : Bool :=
  -- Digits of the whole part left out of the significand count as powers of ten.
  let (leading, leftWhole) := absorbDigits 0 numeral.whole
  let (significand, leftFraction) := absorbDigits leading numeral.fraction
  let scale : Int :=
    leftWhole.length - (numeral.fraction.length - leftFraction.length) +
      exponentValue numeral.exponent
  significand != 0 &&
    (308 < scale ||
      (0 ≤ scale &&
        doubleLimit ≤ toDoublePrecision significand * toDoublePrecision (Nat.pow 10 scale.toNat)))

/-- The numeral's value if it is a whole number without sign, point or exponent below 2^64. -/
def Numeral.natural? (numeral : Numeral) : Option Nat :=
  let value := digitsValue numeral.whole
  if !numeral.negative && numeral.fraction.isEmpty && numeral.exponent.isNone &&
      value < UInt64.size then
    some value
  else none

end Tollgate.Json
