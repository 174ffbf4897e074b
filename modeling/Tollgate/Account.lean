import Tollgate.Calendar.Day
import Tollgate.Funding.Usage

/-! Accounts, the keys that give access to them, and the records kept of their use. -/

namespace Tollgate

/-- Identity of an account. -/
structure AccountId where
  /-- Label that no other account has. -/
  label : String
  deriving DecidableEq

/-- Identity of a key. -/
structure KeyId where
  /-- Label that no other key has. -/
  label : String
  deriving DecidableEq

/-- An account. -/
structure Account where
  /-- Identity of the account. -/
  id : AccountId
  /-- The account may not be used. -/
  disabled : Bool
  /-- How much may be charged to prepaid cards in a day, without limit if not positive. -/
  dailyMax : Amount
  deriving DecidableEq

/-- The limit for a day on what is charged to prepaid cards, if there is one. -/
def Account.prepaidCap? (account : Account) : Option Amount :=
  if 0 < account.dailyMax then some account.dailyMax else none

/-- A key that stands for a token. -/
structure AccessKey where
  /-- Identity of the key. -/
  id : KeyId
  /-- The account it belongs to, if it belongs to one. -/
  owner : Option AccountId
  /-- Name for people to read. -/
  name : String
  /-- The key gives access to management. -/
  admin : Bool
  /-- The key is switched on. -/
  active : Bool
  /-- The key has been withdrawn for good. -/
  revoked : Bool
  deriving DecidableEq

/-- The key lets its bearer in. -/
def AccessKey.isUsable (key : AccessKey) : Bool :=
  key.active && !key.revoked

/-- One use of a service by an account. -/
structure Use where
  /-- Who used it. -/
  account : AccountId
  /-- What it cost. -/
  cost : Amount
  /-- What it was charged to. -/
  charge : Charge
  /-- Nothing came of it. -/
  failed : Bool
  /-- When it was asked for. -/
  instant : Instant
  deriving DecidableEq

/-- The use counts for an account from an instant on, in a scope. -/
def Use.counts (use : Use) (account : AccountId) (since : Instant) (scope : Scope) : Bool :=
  use.account == account && since ≤ use.instant && !use.failed && scope.covers use.charge

end Tollgate
