import Tollgate.Calendar.Day
import Tollgate.Funding.Amount

/-! What an account pays from: bills with a quota for a period, and prepaid cards. -/

namespace Tollgate

/-- The status of a bill that has been paid. -/
def paidStatus : String := "paid"

/-- A bill, which grants a quota for the period it covers. -/
structure Bill where
  /-- What is left of the quota. -/
  remaining : Amount
  /-- How much of it may be used in a day, without limit if not positive. -/
  daily : Amount
  /-- The bill may be used. -/
  enabled : Bool
  /-- How far the bill has been settled. -/
  status : String
  /-- The first instant it covers. -/
  start : Instant
  /-- The last instant it covers. -/
  finish : Instant
  deriving DecidableEq

namespace Bill

/-- The bill grants something at an instant. -/
def qualifiesAt (bill : Bill) (now : Instant) : Bool :=
  bill.enabled && bill.status == paidStatus && bill.start ≤ now && now ≤ bill.finish &&
    0 < bill.remaining

/-- The bill sets no limit for a day. -/
def hasUnlimitedDay (bill : Bill) : Bool :=
  bill.daily ≤ 0

end Bill

/-- A prepaid card. -/
structure Card where
  /-- What is left on it. -/
  balance : Amount
  /-- The card may be used. -/
  enabled : Bool
  /-- When the account redeemed it, if it has. -/
  redeemed : Option Instant
  /-- The last instant at which it may be used, if there is one. -/
  expires : Option Instant
  deriving DecidableEq

/-- The card can be paid from at an instant. -/
def Card.isValidAt (card : Card) (now : Instant) : Bool :=
  card.enabled && 0 < card.balance && card.redeemed.isSome &&
    match card.expires with
    | none => true
    | some expiry => now ≤ expiry

end Tollgate
