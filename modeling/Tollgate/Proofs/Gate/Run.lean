import Tollgate.Gate.Operation
import Tollgate.Proofs.Vault.Writing

/-!
Runs of a gate, told from what they write to the store. An operation either makes the one change it
is there for, or leaves the store to calls, which make routine changes only.
-/

namespace Tollgate.Gate

/-- The change of the store that an operation is there to make, if it is there to make one. -/
def Operation.write? : Operation → Option Vault.Write
  | .openAccount account => some (.openAccount account)
  | .setDisabled account disabled => some (.setDisabled account disabled)
  | .issueKey id token owner admin =>
    some (.issueKey token ⟨id, owner, keyName token, admin, true, false⟩)
  | .revoke key => some (.revoke key)
  | .deactivate key => some (.deactivate key)
  | .addBill account bill => some (.addBill account bill)
  | .addCard account card => some (.addCard account card)
  | .addUse use => some (.addUse use)
  | .addMapping mapping => some (.addMapping mapping)
  | _ => none

open Vault.Tables

variable {Result : Type}

/-- A dialogue with the store makes routine changes. -/
theorem converse_becomes (gate : Gate) (dialogue : Dialogue Result) :
    gate.tables.Becomes Vault.Write.IsRoutine (gate.converse dialogue).2.tables :=
  -- The switch and what it notes are no part of the tables.
  Vault.run_becomes (·.vault.tables) Vault.watched_answer_becomes dialogue gate.store

/-- A call past the switch makes routine changes. -/
theorem call_becomes (gate : Gate) (call : Call) :
    gate.tables.Becomes Vault.Write.IsRoutine (gate.call call).2.tables :=
  Vault.answer_becomes call gate.store.vault

/-- Announcing an event leaves the store alone until the worker gets to its errand. -/
theorem publishAny_tables (gate : Gate) (event : Option ModelEvent) :
    (gate.publishAny event).tables = gate.tables := by
  -- The catalog and the queue of the worker are all that an event is for.
  rcases event with _ | (_ | _) <;> rfl

/-- Letting a request in or turning it away makes routine changes at most. -/
theorem authenticate_becomes (gate : Gate) (now : Instant) (path : String) (query : Option String)
    (headers : Web.Headers) :
    gate.tables.Becomes Vault.Write.IsRoutine
      (gate.authenticate now path query headers).2.tables := by
  -- The use of a key is left to the worker, and so the store is as the dialogue leaves it.
  have asked := gate.converse_becomes
    (Admission.ask gate.zone gate.policy now path query headers)
  simp only [authenticate]
  split <;> exact asked

/-- Answering a request makes routine changes at most. -/
theorem serve_becomes (gate : Gate) (now : Instant) (request : Web.Request) :
    gate.tables.Becomes Vault.Write.IsRoutine (gate.serve now request).2.tables := by
  have asked := gate.authenticate_becomes now request.path request.query request.headers
  simp only [serve]
  rcases admitted : gate.authenticate now request.path request.query request.headers with
    ⟨refusal | context, after⟩ <;> rw [admitted] at asked
  · exact asked
  · -- A request that is let in is handled, and its event leaves the store alone.
    have handled := after.converse_becomes (Web.dispatch now after.catalog context request)
    show gate.tables.Becomes _ (publishAny _ _).tables
    rw [publishAny_tables]
    exact asked.trans handled

/-- Evaluating an account is between the gate and its store. -/
theorem exists_evaluate_eq (gate : Gate) (account : AccountId) (instant : Instant)
    (thenFail : Bool) :
    ∃ store, (gate.evaluate account instant thenFail).2 = { gate with store } := by
  rcases called : Vault.answer (.findAccount account) gate.store.vault with
    ⟨outage | found | found, vault⟩ <;> simp only [evaluate, call, called]
  · exact ⟨_, rfl⟩
  · exact ⟨_, rfl⟩
  · -- The store may be made to fail in between.
    cases thenFail <;> exact ⟨_, rfl⟩

/-- Evaluating an account makes routine changes at most, even if the store fails on the way. -/
theorem evaluate_becomes (gate : Gate) (account : AccountId) (instant : Instant)
    (thenFail : Bool) :
    gate.tables.Becomes Vault.Write.IsRoutine
      (gate.evaluate account instant thenFail).2.tables := by
  have called := gate.call_becomes (.findAccount account)
  simp only [evaluate]
  rcases looked : gate.call (.findAccount account) with ⟨outage | found | found, after⟩ <;>
    rw [looked] at called
  · -- The account has not been found, and nothing more is asked.
    exact called
  · exact called
  · -- A store that fails from now on still keeps what it kept.
    cases thenFail with
    | false => exact called.trans (after.converse_becomes _)
    | true =>
      have evaluated := converse_becomes
        (after.changeVault fun vault => { vault with failing := true })
        (Entitlement.ask after.zone found instant)
      exact called.trans evaluated

/-- What the worker starts makes routine changes, and nothing else that happens to it does. -/
theorem follow_becomes (now : Instant) (gate : Gate) (event : JobEvent Errand) :
    gate.tables.Becomes Vault.Write.IsRoutine (gate.follow now event).tables := by
  cases event with
  | started errand => exact gate.converse_becomes (errand.dialogue now)
  | _ => exact Becomes.refl _ gate.tables

/-- Events of the worker, one after another, make routine changes. -/
theorem foldl_follow_becomes (gate : Gate) (now : Instant) (events : List (JobEvent Errand)) :
    gate.tables.Becomes Vault.Write.IsRoutine (events.foldl (follow now) gate).tables := by
  -- Each event hands on the gate that the one before it has left.
  induction events generalizing gate with
  | nil => exact Becomes.refl _ gate.tables
  | cons event rest ih => exact (gate.follow_becomes now event).trans (ih _)

/-- Events of the worker are between the gate and its store. -/
theorem exists_foldl_follow_eq (gate : Gate) (now : Instant) (events : List (JobEvent Errand)) :
    ∃ store, events.foldl (follow now) gate = { gate with store } := by
  -- An event that is no start leaves even the store as it is.
  induction events generalizing gate with
  | nil => exact ⟨gate.store, rfl⟩
  | cons event rest ih =>
    obtain ⟨store, followed⟩ := ih (gate.follow now event)
    rw [List.foldl_cons, followed]
    cases event <;> exact ⟨store, rfl⟩

/-- Settling is between the worker and the store. -/
theorem exists_settle_eq (gate : Gate) (now : Instant) :
    ∃ store, gate.settle now =
      { gate with worker := (gate.worker.settle fun _ => some .completed).1, store } :=
  exists_foldl_follow_eq { gate with worker := (gate.worker.settle fun _ => some .completed).1 } now
    (gate.worker.settle fun _ => some .completed).2

/-- The errands that the worker runs make routine changes. -/
theorem settle_becomes (gate : Gate) (now : Instant) :
    gate.tables.Becomes Vault.Write.IsRoutine (gate.settle now).tables :=
  foldl_follow_becomes { gate with worker := (gate.worker.settle fun _ => some .completed).1 } now _

/-- Counting what an account has makes routine changes at most. -/
theorem countFunding_becomes (gate : Gate) (account : AccountId) :
    gate.tables.Becomes Vault.Write.IsRoutine
      ((countFunding account).run Vault.answer gate.store.vault).2.tables :=
  Vault.run_becomes Vault.tables Vault.answer_becomes (countFunding account) gate.store.vault

variable {gate : Gate} {now : Instant} {operation : Operation}

/-- An operation that is there to make a change makes it. -/
theorem perform_of_write? {change : Vault.Write} (made : operation.write? = some change) :
    (gate.perform now operation).2.tables = gate.tables.write change := by
  -- The operations that write are those that name a change, and each makes the one it names.
  cases operation <;> cases made <;> rfl

/-- Any other operation makes routine changes at most. -/
theorem perform_of_no_write? (unwritten : operation.write? = none) :
    gate.tables.Becomes Vault.Write.IsRoutine (gate.perform now operation).2.tables := by
  cases operation with
  | direct call => exact gate.call_becomes call
  | countFunding account => exact gate.countFunding_becomes account
  | settle => exact gate.settle_becomes now
  | authenticate path query headers => exact gate.authenticate_becomes now path query headers
  | evaluate account instant thenFail => exact gate.evaluate_becomes account instant thenFail
  | seed provider models => exact gate.converse_becomes _
  | serve request => exact gate.serve_becomes now request
  | publish event | record event => cases event <;> exact Becomes.refl _ gate.tables
  | openAccount _ | setDisabled _ _ | issueKey _ _ _ _ | revoke _ | deactivate _ | addBill _ _
  | addCard _ _ | addUse _ | addMapping _ => cases unwritten
  | _ => exact Becomes.refl _ gate.tables

/-- What no change of the store can break, no operation breaks. -/
theorem perform_keeps (Law : Vault.Tables → Prop)
    (step : ∀ tables change, Law tables → Law (tables.write change)) (law : Law gate.tables) :
    Law (gate.perform now operation).2.tables := by
  -- Either the operation makes one change, or its calls make routine changes.
  cases made : operation.write? with
  | none =>
    exact (perform_of_no_write? made).keeps Law (fun tables change _ => step tables change) law
  | some change =>
    rw [perform_of_write? made]
    exact step gate.tables change law

/-- What no change of the store can break holds after every run, if it holds before. -/
theorem performAll_keeps (Law : Vault.Tables → Prop)
    (step : ∀ tables change, Law tables → Law (tables.write change)) (law : Law gate.tables)
    (history : List (Instant × Operation)) : Law (gate.performAll history).2.tables := by
  -- Each operation hands the law on to the rest of the run.
  induction history generalizing gate with
  | nil => exact law
  | cons first rest ih =>
    obtain ⟨now, operation⟩ := first
    have next : Law (gate.perform now operation).2.tables := perform_keeps Law step law
    exact ih next

/-- A run in two parts goes on with the gate that the first part has left. -/
theorem performAll_append (gate : Gate) (former latter : List (Instant × Operation)) :
    (gate.performAll (former ++ latter)).2 = ((gate.performAll former).2.performAll latter).2 := by
  -- The gate is handed on from operation to operation.
  induction former generalizing gate with
  | nil => rfl
  | cons first rest ih => exact ih (gate.perform first.1 first.2).2

/-- The last operation of a run is done to the gate that the others have left. -/
theorem performAll_concat (gate : Gate) (history : List (Instant × Operation)) (now : Instant)
    (last : Operation) :
    (gate.performAll (history ++ [(now, last)])).2 =
      ((gate.performAll history).2.perform now last).2 :=
  gate.performAll_append history [(now, last)]

end Tollgate.Gate
