import Tollgate.Calendar.Day
import Tollgate.Funding.Amount

/-! What accounts have used, and what of it counts towards a limit. -/

namespace Tollgate

/-- What a use was charged to. -/
inductive Charge where
  | bill
  | prepaid
  deriving DecidableEq

/-- Which uses are counted. -/
inductive Scope where
  /-- Whatever they were charged to. -/
  | all
  /-- Those charged to prepaid cards. -/
  | prepaid
  deriving DecidableEq

/-- The only charge that counts in the scope, if there is only one. -/
def Scope.charge? : Scope → Option Charge
  | .all => none
  | .prepaid => some .prepaid

/-- A use with this charge counts in the scope. -/
def Scope.covers (scope : Scope) (charge : Charge) : Bool :=
  match scope.charge? with
  | none => true
  | some only => charge == only

end Tollgate
