/-! Unsigned decimal numerals with an upper limit. -/

namespace Tollgate.Text

/-- Why a text is no numeral within the limit. -/
inductive NumeralFlaw where
  | empty
  | invalidDigit
  | tooLarge
  deriving DecidableEq

/-- The words for a flaw in a numeral. -/
def NumeralFlaw.message : NumeralFlaw → String
  | .empty => "cannot parse integer from empty string"
  | .invalidDigit => "invalid digit found in string"
  | .tooLarge => "number too large to fit in target type"

/-- Continues a numeral, so that the leftmost flaw is the one reported. -/
def unsignedFrom (limit : Nat) : Nat → List Char → Except NumeralFlaw Nat
  | value, [] => .ok value
  | value, c :: rest =>
    -- A character that is no digit is noticed before the value grows past the limit.
    if !c.isDigit then .error .invalidDigit
    else
      let grown := value * 10 + (c.toNat - '0'.toNat)
      if limit < grown then .error .tooLarge else unsignedFrom limit grown rest

/-- The value of a decimal numeral, which may have a plus sign but no minus sign. -/
def unsigned (limit : Nat) (text : String) : Except NumeralFlaw Nat :=
  match text.toList with
  | [] => .error .empty
  | ['+'] => .error .invalidDigit
  | '+' :: digits => unsignedFrom limit 0 digits
  | digits => unsignedFrom limit 0 digits

end Tollgate.Text
