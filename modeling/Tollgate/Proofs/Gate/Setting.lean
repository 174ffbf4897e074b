import Tollgate.Proofs.Funding.Entitlement
import Tollgate.Proofs.Gate.Run

/-!
How a gate is set, and what changes it. Those who run a gate may set it in another way, and so does
an evaluation on the way of which the store is made to fail. Nothing else does, and no request can.
-/

namespace Tollgate.Gate

open Vault (Watched)

/-- How a gate is set: what decides about requests apart from what is kept of those who send
them. -/
structure Setting where
  /-- The time zone whose days count. -/
  zone : Calendar.Zone
  /-- The rules of authentication. -/
  policy : Policy
  /-- The store fails. -/
  failing : Bool
  /-- The number of calls let through is limited. -/
  limited : Bool

/-- How the gate is set. -/
def setting (gate : Gate) : Setting :=
  ⟨gate.zone, gate.policy, gate.store.vault.failing, gate.store.allowance.isSome⟩

/-- The account has been opened. -/
def knows (gate : Gate) (account : AccountId) : Bool :=
  (gate.tables.account? account).isSome

namespace Operation

/-- What an operation makes of the setting of a gate that knows some accounts. -/
def onSetting (known : AccountId → Bool) (setting : Setting) : Operation → Setting
  | .setFailing failing => { setting with failing }
  | .limitCalls allowance => { setting with limited := allowance.isSome }
  | .setPolicy policy => { setting with policy }
  | .evaluate account _ thenFail =>
    { setting with failing := setting.failing || (thenFail && known account) }
  | _ => setting

/-- The operation lets the store fail as soon as the account has been found in it. -/
def probes (account : AccountId) : Operation → Bool
  | .evaluate asked _ thenFail => thenFail && asked == account
  | _ => false

end Operation

variable {gate : Gate} {now : Instant} {operation : Operation}

/-- Two gates that know the same of the accounts that an operation probes are set by it in the same
way. -/
theorem Operation.onSetting_congr {known other : AccountId → Bool} (setting : Setting)
    (alike : ∀ account, operation.probes account → known account = other account) :
    operation.onSetting known setting = operation.onSetting other setting := by
  -- Only evaluations look at what is known of an account.
  cases operation with
  | evaluate account instant thenFail =>
    cases thenFail with
    | false => rfl
    | true => simp only [Operation.onSetting, alike account (beq_self_eq_true account)]
  | _ => rfl

/-- A dialogue with the store leaves a gate set as it is. -/
theorem setting_converse {Result : Type} (gate : Gate) (dialogue : Dialogue Result) :
    (gate.converse dialogue).2.setting = gate.setting := by
  -- Each call leaves it to the store whether it fails, and to the switch whether there is a limit.
  have step (call : Call) (watched : Watched) :
      ((watched.answer call).2.vault.failing, (watched.answer call).2.allowance.isSome) =
        (watched.vault.failing, watched.allowance.isSome) := by
    rcases watched with ⟨vault, noted, _ | _ | allowance⟩ <;>
      simp [Watched.answer, Vault.failing_answer]
  have kept := Dialogue.run_keeps
    (fun watched : Watched => (watched.vault.failing, watched.allowance.isSome))
    dialogue.asksOnly_any (fun call _ => step call) gate.store
  obtain ⟨failing, limited⟩ := Prod.mk.inj kept
  simp only [setting, converse, failing, limited]

/-- Letting a request in or turning it away leaves a gate set as it is. -/
theorem setting_authenticate (gate : Gate) (now : Instant) (path : String) (query : Option String)
    (headers : Web.Headers) :
    (gate.authenticate now path query headers).2.setting = gate.setting := by
  -- All that comes after the dialogue is an errand for the worker.
  have asked := gate.setting_converse (Admission.ask gate.zone gate.policy now path query headers)
  simp only [authenticate]
  split <;> exact asked

/-- What is announced is for the catalog and the worker, and leaves a gate set as it is. -/
theorem setting_publishAny (gate : Gate) (event : Option ModelEvent) :
    (gate.publishAny event).setting = gate.setting := by
  -- Both kinds of events leave store and rules alone.
  rcases event with _ | (_ | _) <;> rfl

/-- Answering a request leaves a gate set as it is. -/
theorem setting_serve (gate : Gate) (now : Instant) (request : Web.Request) :
    (gate.serve now request).2.setting = gate.setting := by
  have asked := gate.setting_authenticate now request.path request.query request.headers
  simp only [serve]
  rcases admitted : gate.authenticate now request.path request.query request.headers with
    ⟨refusal | context, after⟩ <;> rw [admitted] at asked
  · exact asked
  · -- A request that is let in is handled in one more dialogue.
    have handled := after.setting_converse (Web.dispatch now after.catalog context request)
    show (publishAny _ _).setting = _
    rw [setting_publishAny, handled, asked]

/-- What the worker starts leaves a gate set as it is. -/
theorem setting_settle (gate : Gate) (now : Instant) :
    (gate.settle now).setting = gate.setting := by
  have followed (events : List (JobEvent Errand)) (gate : Gate) :
      (events.foldl (follow now) gate).setting = gate.setting := by
    -- Each event hands on a gate that is set as the one before it.
    induction events generalizing gate with
    | nil => rfl
    | cons event rest ih =>
      rw [List.foldl_cons, ih]
      cases event with
      | started errand => exact gate.setting_converse _
      | _ => rfl
  exact followed _ _

/-- No account can be looked up for evaluation in a store that fails. -/
theorem evaluate_of_failing (failing : gate.store.vault.failing = true) (account : AccountId)
    (instant : Instant) (thenFail : Bool) :
    gate.evaluate account instant thenFail = (.error Vault.unresponsive, gate) := by
  -- The first call fails, and there is no second.
  simp only [evaluate, call, Vault.answer_of_failing failing]

/-- An account that a store in order does not know is not evaluated. -/
theorem evaluate_of_unknown (inOrder : gate.store.vault.failing = false) {account : AccountId}
    (unknown : gate.tables.account? account = none) (instant : Instant) (thenFail : Bool) :
    gate.evaluate account instant thenFail = (.ok none, gate) := by
  -- The account is looked for, and there is none.
  have answered : Vault.answer (.findAccount account) gate.store.vault =
      (.ok (gate.tables.account? account), gate.store.vault) := Vault.answer_of_isRead inOrder rfl
  rw [unknown] at answered
  simp only [evaluate, call, answered]

/-- An account that a store in order knows is evaluated, by a store that may be made to fail
first. -/
theorem evaluate_of_known (inOrder : gate.store.vault.failing = false) {id : AccountId}
    {account : Account} (found : gate.tables.account? id = some account) (instant : Instant)
    (thenFail : Bool) :
    gate.evaluate id instant thenFail =
      let met := gate.changeVault fun vault => { vault with failing := thenFail }
      let evaluated := met.converse (Entitlement.ask met.zone account instant)
      (evaluated.1.map some, evaluated.2) := by
  -- The account is found, and all else is asked of the store as it has been set in between.
  have answered : Vault.answer (.findAccount id) gate.store.vault =
      (.ok (gate.tables.account? id), gate.store.vault) := Vault.answer_of_isRead inOrder rfl
  rw [found] at answered
  cases thenFail with
  | true => simp only [evaluate, call, answered, if_true]
  | false =>
    -- A store in order that is told not to fail is as it was.
    have met : (gate.changeVault fun vault => { vault with failing := false }) = gate := by
      rw [← inOrder]
      rfl
    simp only [evaluate, call, answered, Bool.false_eq_true, if_false, met]

/-- Evaluating an account leaves what the store keeps as it is. -/
theorem evaluate_tables (gate : Gate) (account : AccountId) (instant : Instant)
    (thenFail : Bool) : (gate.evaluate account instant thenFail).2.tables = gate.tables := by
  cases fails : gate.store.vault.failing with
  -- Nothing has been asked of a store that fails.
  | true => rw [evaluate_of_failing fails]
  | false =>
    cases found : gate.tables.account? account with
    | none => rw [evaluate_of_unknown fails found]
    | some known =>
      rw [evaluate_of_known fails found]
      -- Once the account is known, the rest only reads.
      have reads := Entitlement.onlyReads_ask gate.zone known instant
      have kept := Vault.run_watched_keeps reads
        (gate.changeVault fun vault => { vault with failing := thenFail }).store
      have tables := congrArg Vault.tables kept
      exact tables

/-- Counting what an account has leaves what the store keeps as it is. -/
theorem countFunding_tables (account : AccountId) (vault : Vault) :
    ((countFunding account).run Vault.answer vault).2.tables = vault.tables := by
  -- Both questions are reads.
  have reads : (countFunding account).OnlyReads :=
    Dialogue.onlyReads_demand rfl fun _ => Dialogue.onlyReads_demand rfl fun _ =>
      Dialogue.onlyReads_done _
  exact Dialogue.run_keeps Vault.tables reads
    (fun _ isRead vault => congrArg Vault.tables (Vault.answer_keeps isRead vault)) vault

/-- Evaluating an account changes the setting of a gate only if the store is made to fail on the
way, which takes a store in order and an account that is known. -/
theorem setting_evaluate (gate : Gate) (account : AccountId) (instant : Instant)
    (thenFail : Bool) :
    (gate.evaluate account instant thenFail).2.setting =
      { gate.setting with
        failing := gate.setting.failing || (thenFail && gate.knows account) } := by
  -- The cases are those of the evaluation: no answer, no account, and an account to go on with.
  cases fails : gate.store.vault.failing with
  | true => simp [evaluate_of_failing fails, setting, fails]
  | false =>
    cases found : gate.tables.account? account with
    | none => simp [evaluate_of_unknown fails found, setting, fails, knows, found]
    | some account =>
      rw [evaluate_of_known fails found, setting_converse]
      simp [setting, changeVault, fails, knows, found]

/-- Every operation does to the setting of a gate what can be told from it and from the accounts
that are known. -/
theorem setting_perform (gate : Gate) (now : Instant) (operation : Operation) :
    (gate.perform now operation).2.setting = operation.onSetting gate.knows gate.setting := by
  -- Settings apart, there are only calls to the store that could make a difference.
  cases operation with
  | direct call =>
    -- A call past the switch does not change whether the store fails.
    have kept : (Vault.answer call gate.store.vault).2.failing = gate.store.vault.failing :=
      Vault.failing_answer call gate.store.vault
    simp only [perform, Gate.call, setting, Operation.onSetting, kept]
  | countFunding account =>
    have kept := Dialogue.run_keeps Vault.failing (countFunding account).asksOnly_any
      (fun call _ => Vault.failing_answer call) gate.store.vault
    simp only [perform, changeVault, setting, Operation.onSetting, kept]
  | settle => exact gate.setting_settle now
  | authenticate path query headers => exact gate.setting_authenticate now path query headers
  | evaluate account instant thenFail => exact gate.setting_evaluate account instant thenFail
  | seed provider models => exact gate.setting_converse _
  | serve request => exact gate.setting_serve now request
  | publish event | record event => cases event <;> rfl
  | _ => rfl

end Tollgate.Gate
