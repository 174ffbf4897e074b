import Tollgate.Account
import Tollgate.Funding.Source
import Tollgate.Mapping

/-!
What is asked of the store of accounts, keys and mappings, and computations that ask it step by
step. Nothing is assumed about the store here: any of its answers may be a failure.
-/

namespace Tollgate

/-- Why the store could not answer. -/
structure Outage where
  /-- What went wrong, in the words of the store. -/
  cause : String
  deriving DecidableEq

/-- A description of the failure. -/
def Outage.message (outage : Outage) : String :=
  "database error: " ++ outage.cause

/-- A question or an order to the store. -/
inductive Call where
  /-- Whether the store is there at all. -/
  | ping
  /-- The key with a digest. -/
  | findKey (digest : String)
  /-- A key has just been used. -/
  | touchKey (key : KeyId) (instant : Instant)
  /-- The account with an identity. -/
  | findAccount (account : AccountId)
  /-- The bills of an account. -/
  | listBills (account : AccountId)
  /-- The prepaid cards of an account. -/
  | listCards (account : AccountId)
  /-- The cost of what an account has used since an instant. -/
  | sumUsage (account : AccountId) (since : Instant) (scope : Scope)
  /-- Whether a provider's model has a mapping. -/
  | mappingExists (provider model : String)
  /-- A new mapping, unless its name has one already. -/
  | insertMapping (mapping : Mapping)
  deriving DecidableEq

/-- What the store answers to a call. -/
abbrev Call.Answer : Call → Type
  | .ping => Unit
  | .findKey _ => Option AccessKey
  | .touchKey _ _ => Unit
  | .findAccount _ => Option Account
  | .listBills _ => List Bill
  | .listCards _ => List Card
  | .sumUsage _ _ _ => Amount
  | .mappingExists _ _ => Bool
  | .insertMapping _ => Bool

/-- What comes of a call. -/
abbrev Call.Outcome (call : Call) : Type := Except Outage call.Answer

/-- A computation that makes calls, the next one chosen by what came of those before. -/
inductive Dialogue (Result : Type) where
  /-- Nothing more is asked. -/
  | done (result : Result)
  /-- A call is made, and its outcome decides how to go on. -/
  | ask (call : Call) (next : call.Outcome → Dialogue Result)

namespace Dialogue

/-- Goes on with what a dialogue has led to. -/
def andThen {First Second : Type} (next : First → Dialogue Second) :
    Dialogue First → Dialogue Second
  | .done result => next result
  | .ask call rest => .ask call fun outcome => (rest outcome).andThen next

/-- Makes a call whose failure ends the dialogue at once. -/
def demand {Result : Type} (call : Call) (failed : Outage → Result)
    (next : call.Answer → Dialogue Result) : Dialogue Result :=
  .ask call fun
    | .error outage => .done (failed outage)
    | .ok answer => next answer

/-- Holds a dialogue with someone who answers calls and may remember them. -/
def run {Result State : Type} (answerer : (call : Call) → State → call.Outcome × State) :
    Dialogue Result → State → Result × State
  | .done result, state => (result, state)
  | .ask call next, state =>
    let (outcome, state) := answerer call state
    (next outcome).run answerer state

end Dialogue

end Tollgate
