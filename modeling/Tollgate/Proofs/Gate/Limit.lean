import Tollgate.Proofs.Admission
import Tollgate.Proofs.Gate.Setting
import Tollgate.Proofs.Vault.Switch

/-!
A limit on the calls that reach the store. What comes of a request, or of asking what an account may
use, is what would come of it without the limit, unless a call that it needs is not let through. So
gates that come to the same without a limit come to the same with one, or a call is missing at one
of them.
-/

namespace Tollgate

namespace Admission

/-- Asking whether the account of a key may use a service ends with the first failure of the
store. -/
theorem failsWith_askOwner (zone : Calendar.Zone) (now : Instant) (key : AccessKey)
    (owner : AccountId) : (askOwner zone now key owner).FailsWith outOfOrder := by
  -- The account is looked up first, and then it is asked what it may use.
  unfold askOwner
  apply Dialogue.failsWith_demand
  intro found
  cases found with
  | none => exact Dialogue.failsWith_done _
  | some account =>
    -- Of a disabled account nothing more is asked.
    by_cases disabled : account.disabled = true
    · simp only [if_pos disabled]
      exact Dialogue.failsWith_done _
    · simp only [if_neg disabled]
      refine Dialogue.failsWith_andThen (Entitlement.passesOn_ask zone account now) ?_ ?_
      · exact fun _ => rfl
      · rintro (granted | denial) <;> exact Dialogue.failsWith_done _

/-- Asking whether a request is let in ends with the first failure of the store. -/
theorem failsWith_ask (zone : Calendar.Zone) (policy : Policy) (now : Instant) (path : String)
    (query : Option String) (headers : Web.Headers) :
    (ask zone policy now path query headers).FailsWith outOfOrder := by
  -- Open paths and requests without a credential need no call at all.
  unfold ask
  split
  · exact Dialogue.failsWith_done _
  · split
    · exact Dialogue.failsWith_done _
    · apply Dialogue.failsWith_demand
      intro found
      cases found with
      | none => exact Dialogue.failsWith_done _
      | some key =>
        -- Only a usable key with an owner leaves more to be asked.
        by_cases unusable : (!key.isUsable) = true
        · simp only [if_pos unusable]
          exact Dialogue.failsWith_done _
        · simp only [if_neg unusable]
          cases key.owner with
          | none => exact Dialogue.failsWith_done _
          | some owner => exact failsWith_askOwner zone now key owner

end Admission

namespace Gate

/-- The verdict on a request for which a call would be needed that is not let through. -/
def outOfCalls : Admission.Verdict := Admission.outOfOrder Vault.unresponsive

/-- The gate with a store that lets all calls through. -/
def unlimited (gate : Gate) : Gate := { gate with store := gate.store.unlimited }

/-- A request meets the verdict that it would meet if all calls were let through, unless one that is
needed is not. -/
theorem authenticate_or_outOfCalls (gate : Gate) (now : Instant) (path : String)
    (query : Option String) (headers : Web.Headers) :
    (gate.authenticate now path query headers).1 = outOfCalls ∨
      (gate.authenticate now path query headers).1 =
        (gate.unlimited.authenticate now path query headers).1 := by
  -- The verdict is what comes of a dialogue, which ends with the first call not let through.
  rw [Admission.authenticate_verdict, Admission.authenticate_verdict]
  exact Vault.run_watched_or_unresponsive
    (Admission.failsWith_ask gate.zone gate.policy now path query headers) gate.store

/-- What an account may use is what it might use if all calls were let through, unless one that is
needed is not. -/
theorem entitlement_or_unresponsive (gate : Gate) (account : Account) (instant : Instant) :
    (gate.converse (Entitlement.ask gate.zone account instant)).1 = .error Vault.unresponsive ∨
      (gate.converse (Entitlement.ask gate.zone account instant)).1 =
        (gate.unlimited.converse (Entitlement.ask gate.unlimited.zone account instant)).1 :=
  Vault.run_watched_or_unresponsive (Entitlement.passesOn_ask gate.zone account instant).failsWith
    gate.store

/-- Looking up an account and asking what it may use comes to what it would come to if all calls
were let through, unless one that is needed is not. -/
theorem evaluate_or_unresponsive (gate : Gate) (account : AccountId) (instant : Instant)
    (thenFail : Bool) :
    (gate.evaluate account instant thenFail).1 = .error Vault.unresponsive ∨
      (gate.evaluate account instant thenFail).1 =
        (gate.unlimited.evaluate account instant thenFail).1 := by
  have failing : gate.unlimited.store.vault.failing = gate.store.vault.failing := rfl
  have tables : gate.unlimited.tables = gate.tables := rfl
  -- The account itself is looked up without regard to the limit.
  cases fails : gate.store.vault.failing with
  | true => exact .inl (congrArg Prod.fst (evaluate_of_failing fails account instant thenFail))
  | false =>
    cases found : gate.tables.account? account with
    -- There is no such account, with or without the limit.
    | none =>
      right
      rw [evaluate_of_unknown fails found,
        evaluate_of_unknown (failing.trans fails) (tables ▸ found)]
    | some known =>
      rw [evaluate_of_known fails found, evaluate_of_known (failing.trans fails) (tables ▸ found)]
      -- What is left to be asked is what the account may use, of a store that may have failed.
      let met := gate.changeVault fun vault => { vault with failing := thenFail }
      rcases met.entitlement_or_unresponsive known instant with spent | kept
      · exact .inl (congrArg (Except.map some) spent)
      · exact .inr (congrArg (Except.map some) kept)

/-- Something comes to the same at two gates whose stores let through as many calls. Otherwise, if
it comes to different things, a call that it needs is not let through at one of the gates. -/
structure Concur {Result : Type} (spent : Result) (first second : Gate)
    (outcome : Gate → Result) : Prop where
  same : first.store.allowance = second.store.allowance → outcome first = outcome second
  spent : outcome first ≠ outcome second → outcome first = spent ∨ outcome second = spent

/-- What would come to the same without a limit differs only where a call is not let through. -/
theorem Concur.of_unlimited {Result : Type} {spent : Result} {first second : Gate}
    {outcome : Gate → Result}
    (same : first.store.allowance = second.store.allowance → outcome first = outcome second)
    (limited : ∀ gate : Gate, outcome gate = spent ∨ outcome gate = outcome gate.unlimited)
    (alike : outcome first.unlimited = outcome second.unlimited) :
    Concur spent first second outcome where
  same := same
  spent different := by
    -- Both gates come to what they would come to without the limit, or a call is missing.
    rcases limited first with spent | kept
    · exact .inl spent
    · rcases limited second with spent | alsoKept
      · exact .inr spent
      · exact absurd (kept.trans (alike.trans alsoKept.symm)) different

end Gate

end Tollgate
