/-! Amounts of money: millionths of a currency unit in sixty-four bits. -/

namespace Tollgate

/-- An amount of money in millionths of a currency unit. -/
abbrev Amount := Int64

namespace Amount

/-- The amount nearest to a number that may lie outside the range of amounts. -/
def clamp (value : Int) : Amount :=
  if value < Int64.minValue.toInt then Int64.minValue
  else if Int64.maxValue.toInt < value then Int64.maxValue
  else Int64.ofInt value

/-- A sum that stops at the greatest or least amount. -/
def saturatingAdd (left right : Amount) : Amount :=
  clamp (left.toInt + right.toInt)

/-- The sum of a list of amounts from left to right, stopping at the greatest or least amount. -/
def saturatingSum (amounts : List Amount) : Amount :=
  amounts.foldl saturatingAdd 0

end Amount

end Tollgate
