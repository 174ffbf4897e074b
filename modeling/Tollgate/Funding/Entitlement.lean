import Tollgate.Vault.Dialogue

/-!
Whether an account may use a service now. Bills that grant something come first, and their limit
for the day is final; prepaid cards count only where no bill does.
-/

namespace Tollgate

/-- Why an account may not use a service. -/
inductive Denial where
  /-- Nothing pays for it. -/
  | insufficientBalance
  /-- The limit for the day has been reached. -/
  | dailyCapExceeded
  deriving DecidableEq

/-- Whether an account may use a service. -/
inductive Entitlement where
  | granted
  | denied (denial : Denial)
  deriving DecidableEq

namespace Entitlement

/-- The least cost of one more use charged to a prepaid card. -/
def leastUse : Amount := 1

/-- The verdict on use that has to stay below a limit. -/
def below (used cap : Amount) : Entitlement :=
  if used < cap then .granted else .denied .dailyCapExceeded

/-- What the bills of an account come to. -/
inductive BillVerdict where
  /-- No bill grants anything. -/
  | uncovered
  /-- A bill grants something without a limit for the day. -/
  | unlimited
  /-- The bills have a common limit for the day. -/
  | capped (cap : Amount)
  deriving DecidableEq

/-- The verdict on the bills of an account at an instant. -/
def judgeBills (bills : List Bill) (now : Instant) : BillVerdict :=
  let qualifying := bills.filter (·.qualifiesAt now)
  -- The sum is cut off at the greatest amount, far above nothing, so it tells whether any bill is
  -- left.
  if Amount.saturatingSum (qualifying.map (·.remaining)) ≤ 0 then .uncovered
  else if qualifying.any (·.hasUnlimitedDay) then .unlimited
  else
    -- A limit of nothing at all would be none.
    let cap := Amount.saturatingSum (qualifying.map (·.daily))
    if cap ≤ 0 then .unlimited else .capped cap

/-- Asks whether the prepaid cards of an account let it use a service. -/
def askCards (account : Account) (now dayStart : Instant) :
    Dialogue (Except Outage Entitlement) :=
  .demand (.listCards account.id) .error fun cards =>
    if !cards.any (·.isValidAt now) then .done (.ok (.denied .insufficientBalance))
    else match account.prepaidCap? with
      | none => .done (.ok .granted)
      | some cap =>
        -- The next use has to fit under the limit as well.
        .demand (.sumUsage account.id dayStart .prepaid) .error fun used =>
          .done (.ok (below (Amount.saturatingAdd used leastUse) cap))

/-- Asks whether an account may use a service at an instant. -/
def ask (zone : Calendar.Zone) (account : Account) (now : Instant) :
    Dialogue (Except Outage Entitlement) :=
  -- Nothing is read about a disabled account.
  if account.disabled then .done (.ok (.denied .insufficientBalance))
  else
    let dayStart := Calendar.dayStart zone now
    .demand (.listBills account.id) .error fun bills =>
      match judgeBills bills now with
      | .uncovered => askCards account now dayStart
      | .unlimited => .done (.ok .granted)
      | .capped cap =>
        .demand (.sumUsage account.id dayStart .all) .error fun used =>
          .done (.ok (below used cap))

end Entitlement

end Tollgate
