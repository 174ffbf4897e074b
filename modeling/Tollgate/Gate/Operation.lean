import Tollgate.Gate.Basic

/-! Everything that can be done to a gate, one operation after another, and what is seen of it. -/

namespace Tollgate

namespace Gate

/-- Something done to a gate. -/
inductive Operation where
  /-- An account is opened. -/
  | openAccount (account : Account)
  /-- An account is disabled or enabled. -/
  | setDisabled (account : AccountId) (disabled : Bool)
  /-- A key is issued for a token. -/
  | issueKey (id : KeyId) (token : String) (owner : Option AccountId) (admin : Bool)
  /-- A key is withdrawn for good. -/
  | revoke (key : KeyId)
  /-- A key is switched off. -/
  | deactivate (key : KeyId)
  /-- An account gets a bill. -/
  | addBill (account : AccountId) (bill : Bill)
  /-- An account gets a prepaid card. -/
  | addCard (account : AccountId) (card : Card)
  /-- A use is recorded. -/
  | addUse (use : Use)
  /-- A mapping is made by hand. -/
  | addMapping (mapping : Mapping)
  /-- All mappings are looked at. -/
  | listMappings
  /-- It is looked up whether a key was ever used. -/
  | wasUsed (key : KeyId)
  /-- A call is made to the store. -/
  | direct (call : Call)
  /-- The bills and the cards of an account are counted. -/
  | countFunding (account : AccountId)
  /-- The store fails, or recovers. -/
  | setFailing (failing : Bool)
  /-- The store fails to record the use of keys, or recovers. -/
  | setFailingTouch (failing : Bool)
  /-- The store does not see any mappings, or sees them again. -/
  | setStale (stale : Bool)
  /-- The calls noted so far are read, and forgotten. -/
  | takeCalls
  /-- The number of calls let through from now on is limited, or is not. -/
  | limitCalls (allowance : Option Nat)
  /-- The rules of authentication are replaced. -/
  | setPolicy (policy : Policy)
  /-- The worker does everything it can. -/
  | settle
  /-- The worker is told to stop. -/
  | stopWorker
  /-- A request is let in or turned away, and nothing else. -/
  | authenticate (path : String) (query : Option String) (headers : Web.Headers)
  /-- An account is looked up, and then it is asked whether it may use a service at an instant; the
  store may fail in between. -/
  | evaluate (account : AccountId) (instant : Instant) (thenFail : Bool)
  /-- Models are given their mappings at once. -/
  | seed (provider : String) (models : List Descriptor)
  /-- An event is announced. -/
  | publish (event : ModelEvent)
  /-- The catalog alone takes note of an event. -/
  | record (event : ModelEvent)
  /-- The catalog is looked at. -/
  | snapshot
  /-- The models of a provider are looked at. -/
  | modelsOf (provider : String)
  /-- A model of a provider is looked up. -/
  | findModel (provider name : String)
  /-- A request is answered. -/
  | serve (request : Web.Request)
  deriving DecidableEq

/-- What is seen of a gate. -/
inductive Answer where
  /-- Nothing. -/
  | silent
  /-- The mappings. -/
  | mappings (mappings : List Mapping)
  /-- Whether it is so. -/
  | flag (value : Bool)
  /-- What came of a call. -/
  | outcome (call : Call) (outcome : call.Outcome)
  /-- How many bills and cards an account has. -/
  | funding (counts : Except Outage (Nat × Nat))
  /-- The calls made. -/
  | calls (calls : List Call)
  /-- The rules of authentication. -/
  | policy (policy : Policy)
  /-- Whether a request was let in. -/
  | verdict (verdict : Admission.Verdict)
  /-- Whether an account may use a service, if there is such an account. -/
  | entitlement (entitlement : Except Outage (Option Entitlement))
  /-- How many mappings were added, and how many there are. -/
  | seeded (added total : Nat)
  /-- The models of every provider. -/
  | catalog (models : Index (List Descriptor))
  /-- The models of a provider. -/
  | models (models : List Descriptor)
  /-- A model, if there is such a model. -/
  | model (model : Option Descriptor)
  /-- The response to a request. -/
  | response (response : Web.Response)

/-- Changes what the store keeps. -/
def changeTables (gate : Gate) (change : Vault.Tables → Vault.Tables) : Gate :=
  let vault := gate.store.vault
  { gate with store := { gate.store with vault := { vault with tables := change vault.tables } } }

/-- Changes the state of the store. -/
def changeVault (gate : Gate) (change : Vault → Vault) : Gate :=
  { gate with store := { gate.store with vault := change gate.store.vault } }

/-- What the store keeps. -/
def tables (gate : Gate) : Vault.Tables := gate.store.vault.tables

/-- The name of a key issued for a token. -/
def keyName (token : String) : String := "key-" ++ token

/-- Counts the bills and the cards of an account. -/
def countFunding (account : AccountId) : Dialogue (Except Outage (Nat × Nat)) :=
  -- Either call may fail, and then nothing is counted.
  .demand (.listBills account) .error fun bills =>
    .demand (.listCards account) .error fun cards =>
      .done (.ok (bills.length, cards.length))

/-- Looks an account up, and then asks whether it may use a service at an instant. -/
def evaluate (gate : Gate) (account : AccountId) (instant : Instant) (thenFail : Bool) :
    Except Outage (Option Entitlement) × Gate :=
  match gate.call (.findAccount account) with
  | (.error outage, gate) => (.error outage, gate)
  | (.ok none, gate) => (.ok none, gate)
  | (.ok (some found), gate) =>
    -- The store may be made to fail once the account has been found, to see what an outage does.
    let gate :=
      if thenFail then gate.changeVault fun vault => { vault with failing := true } else gate
    let (entitlement, gate) := gate.converse (Entitlement.ask gate.zone found instant)
    (entitlement.map some, gate)

/-- What is seen of the catalog. -/
def seenCatalog (gate : Gate) : Answer × Gate :=
  (.catalog gate.catalog.snapshot, gate)

/-- Does something to a gate at an instant. -/
def perform (now : Instant) (gate : Gate) : Operation → Answer × Gate
  | .openAccount account => (.silent, gate.changeTables (·.addAccount account))
  -- What is done by hand changes the tables past the switch, so no call is noted.
  | .setDisabled account disabled =>
    (.silent, gate.changeTables (·.setDisabled account disabled))
  | .issueKey id token owner admin =>
    (.silent, gate.changeTables (·.addKey token ⟨id, owner, keyName token, admin, true, false⟩))
  | .revoke key => (.silent, gate.changeTables (·.revoke key))
  | .deactivate key => (.silent, gate.changeTables (·.deactivate key))
  | .addBill account bill => (.silent, gate.changeTables (·.addBill account bill))
  | .addCard account card => (.silent, gate.changeTables (·.addCard account card))
  | .addUse use => (.silent, gate.changeTables (·.addUse use))
  | .addMapping mapping => (.silent, gate.changeTables (·.addMapping mapping))
  | .listMappings => (.mappings gate.tables.mappings, gate)
  | .wasUsed key => (.flag (gate.tables.everUsed key), gate)
  | .direct call =>
    let (outcome, gate) := gate.call call
    (.outcome call outcome, gate)
  | .countFunding account =>
    -- Counting is done past the switch as well.
    let (counts, vault) := (countFunding account).run Vault.answer gate.store.vault
    (.funding counts, gate.changeVault fun _ => vault)
  | .setFailing failing => (.silent, gate.changeVault fun vault => { vault with failing })
  | .setFailingTouch failing =>
    (.silent, gate.changeVault fun vault => { vault with failingTouch := failing })
  | .setStale stale =>
    (.silent, gate.changeVault fun vault => { vault with staleMappings := stale })
  | .takeCalls =>
    -- The latest call is noted first, and they are told in their order.
    (.calls gate.store.noted.reverse, { gate with store := { gate.store with noted := [] } })
  | .limitCalls allowance => (.silent, { gate with store := { gate.store with allowance } })
  | .setPolicy policy => (.policy policy, { gate with policy })
  | .settle => (.silent, gate.settle now)
  -- The worker stops only when it gets to it.
  | .stopWorker => (.silent, { gate with worker := (gate.worker.move .abort).1 })
  | .authenticate path query headers =>
    let (verdict, gate) := gate.authenticate now path query headers
    (.verdict verdict, gate)
  | .evaluate account instant thenFail =>
    let (entitlement, gate) := gate.evaluate account instant thenFail
    (.entitlement entitlement, gate)
  | .seed provider models =>
    let (added, gate) := gate.converse (Seeding.seed provider models)
    (.seeded added gate.tables.mappings.length, gate)
  | .publish event => (gate.publish event).seenCatalog
  | .record event => (gate.record event).seenCatalog
  | .snapshot => gate.seenCatalog
  | .modelsOf provider => (.models (gate.catalog.modelsOf provider), gate)
  | .findModel provider name => (.model (gate.catalog.find? provider name), gate)
  | .serve request =>
    let (response, gate) := gate.serve now request
    (.response response, gate)

/-- Does one thing after another to a gate, each at its own instant. -/
def performAll (gate : Gate) : List (Instant × Operation) → List Answer × Gate
  | [] => ([], gate)
  | (now, first) :: rest =>
    let (answer, gate) := gate.perform now first
    let (answers, gate) := gate.performAll rest
    (answer :: answers, gate)

end Gate

end Tollgate
