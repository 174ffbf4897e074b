import Tollgate.Digest.Sha256
import Tollgate.Funding.Entitlement
import Tollgate.Json.Basic
import Tollgate.Credential

/-!
Who is let in. A request either goes to an open path, or carries a credential that stands for a
usable key whose account, if it has one, may use a service now. Whatever goes wrong keeps the
request out.
-/

namespace Tollgate

/-- Why a request is turned away. -/
inductive Refusal where
  /-- The store did not answer. -/
  | storage (outage : Outage)
  /-- There is no credential. -/
  | missingCredential
  /-- The credential stands for no key that lets its bearer in. -/
  | invalidKey
  /-- Nothing pays for the request. -/
  | insufficientBalance
  /-- The limit for the day has been reached. -/
  | dailyCapExceeded
  /-- The bearer is not allowed to do this. -/
  | forbidden
  /-- There is no such model. -/
  | modelNotFound
  /-- The request asks for something impossible. -/
  | invalidRequest (message : String)
  deriving DecidableEq

namespace Refusal

/-- A description for the operator. -/
def display : Refusal → String
  | .storage outage => "Storage error: " ++ outage.message
  | .missingCredential => "Missing API key"
  | .invalidKey => "Invalid API key"
  | .insufficientBalance => "Insufficient balance"
  | .dailyCapExceeded => "Daily usage limit exceeded"
  | .forbidden => "Forbidden"
  | .modelNotFound => "Model not found"
  | .invalidRequest _ => "Invalid request"

/-- The status with which a request is answered. -/
def status : Refusal → Nat
  | .storage _ => 500
  | .missingCredential => 401
  | .invalidKey => 401
  | .insufficientBalance => 402
  | .dailyCapExceeded => 429
  | .forbidden => 403
  | .modelNotFound => 404
  | .invalidRequest _ => 400

/-- The short name clients tell refusals apart by. -/
def code : Refusal → String
  | .storage _ => "internal_error"
  | .missingCredential => "missing_api_key"
  | .invalidKey => "invalid_api_key"
  | .insufficientBalance => "insufficient_balance"
  | .dailyCapExceeded => "daily_limit_exceeded"
  | .forbidden => "forbidden"
  | .modelNotFound => "model_not_found"
  | .invalidRequest _ => "invalid_request"

/-- What clients are told, which says nothing about the store. -/
def explanation : Refusal → String
  -- A failure of the store would show what the service is made of.
  | .storage _ => "An internal error occurred"
  | .invalidRequest message => message
  | refusal => refusal.display

/-- The body with which a request is answered. -/
def body (refusal : Refusal) : Json :=
  .record [("error",
    .record [("code", .string refusal.code), ("message", .string refusal.explanation)])]

/-- The refusal of a request whose account may not use a service. -/
def ofDenial : Denial → Refusal
  | .insufficientBalance => .insufficientBalance
  | .dailyCapExceeded => .dailyCapExceeded

end Refusal

/-- Who sent a request that was let in by a key. -/
structure Context where
  /-- The key. -/
  key : KeyId
  /-- Name of the key. -/
  name : String
  /-- The key gives access to management. -/
  admin : Bool
  /-- The account the key belongs to, if it belongs to one. -/
  account : Option AccountId
  deriving DecidableEq

/-- The context a key gives to a request. -/
def Context.ofKey (key : AccessKey) : Context :=
  ⟨key.id, key.name, key.admin, key.owner⟩

namespace Admission

/-- What comes of a request at the gate: a context for one that was let in by a key, none for one
to an open path. -/
abbrev Verdict := Except Refusal (Option Context)

/-- A failure of the store turns the request away. -/
def outOfOrder (outage : Outage) : Verdict := .error (.storage outage)

/-- Asks whether the account of a usable key may use a service. -/
def askOwner (zone : Calendar.Zone) (now : Instant) (key : AccessKey) (owner : AccountId) :
    Dialogue Verdict :=
  .demand (.findAccount owner) outOfOrder fun
    | none => .done (.error .invalidKey)
    | some account =>
      -- A disabled account must look like a key that does not exist.
      if account.disabled then .done (.error .invalidKey)
      else (Entitlement.ask zone account now).andThen fun
        | .error outage => .done (outOfOrder outage)
        | .ok (.denied denial) => .done (.error (.ofDenial denial))
        | .ok .granted => .done (.ok (some (.ofKey key)))

/-- Asks whether the key with a digest lets its bearer in. -/
def askKey (zone : Calendar.Zone) (now : Instant) (digest : String) : Dialogue Verdict :=
  .demand (.findKey digest) outOfOrder fun
    | none => .done (.error .invalidKey)
    | some key =>
      -- Whether a key has been withdrawn, switched off or never issued looks the same from outside.
      if !key.isUsable then .done (.error .invalidKey)
      else match key.owner with
        | none => .done (.ok (some (.ofKey key)))
        | some owner => askOwner zone now key owner

/-- Asks whether a request is let in. -/
def ask (zone : Calendar.Zone) (policy : Policy) (now : Instant) (path : String)
    (query : Option String) (headers : Web.Headers) : Dialogue Verdict :=
  -- An open path is let through before anything in the request is looked at.
  if Web.isOpen policy path then .done (.ok none)
  else match Credential.find? policy path query headers with
    | none => .done (.error .missingCredential)
    | some credential => askKey zone now (Digest.ofToken credential.value)

end Admission

end Tollgate
