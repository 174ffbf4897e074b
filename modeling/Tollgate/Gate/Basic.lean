import Tollgate.Catalog.Seeding
import Tollgate.Vault.Basic
import Tollgate.Web.Handler
import Tollgate.Worker.Settle

/-!
The gate at work: it lets requests in or turns them away, keeps the catalog of models, and leaves
to its worker whatever nobody should have to wait for.
-/

namespace Tollgate

/-- Work left to be done behind the back of requests. -/
inductive Errand where
  /-- Record that a key has been used. -/
  | touch (key : KeyId)
  /-- Give newly registered models their mappings. -/
  | seed (provider : String) (models : List Descriptor)
  deriving DecidableEq

/-- What an errand has to say to the store. -/
def Errand.dialogue (now : Instant) : Errand → Dialogue Unit
  -- If the record fails, nobody is told.
  | .touch key => .ask (.touchKey key now) fun _ => .done ()
  | .seed provider models => (Seeding.seed provider models).andThen fun _ => .done ()

/-- The gate with everything it keeps. -/
structure Gate where
  /-- The time zone whose days count. -/
  zone : Calendar.Zone
  /-- The rules of authentication in force. -/
  policy : Policy
  /-- The store. -/
  store : Vault.Watched
  /-- The models registered. -/
  catalog : Catalog
  /-- The worker. -/
  worker : Worker Errand

namespace Gate

/-- A gate that has just been opened. -/
def opened (zone : Calendar.Zone) (policy : Policy) (limits : WorkerLimits) : Gate :=
  ⟨zone, policy, ⟨.empty, [], none⟩, .empty, .spawn limits⟩

/-- Holds a dialogue with the store. -/
def converse {Result : Type} (gate : Gate) (dialogue : Dialogue Result) : Result × Gate :=
  let (result, store) := dialogue.run Vault.Watched.answer gate.store
  (result, { gate with store })

/-- Makes a call to the store past the switch that watches it. -/
def call (gate : Gate) (call : Call) : call.Outcome × Gate :=
  let (outcome, vault) := Vault.answer call gate.store.vault
  (outcome, { gate with store := { gate.store with vault } })

/-- Leaves an errand to the worker, which refuses it if it has too many. -/
def submit (gate : Gate) (errand : Errand) : Gate :=
  { gate with worker := (gate.worker.move (.submit errand)).1 }

/-- Lets a request in or turns it away. Only the use of a key that lets it in is recorded. -/
def authenticate (gate : Gate) (now : Instant) (path : String) (query : Option String)
    (headers : Web.Headers) : Admission.Verdict × Gate :=
  let (verdict, gate) :=
    -- The verdict is reached before anything about the use of the key is recorded.
    gate.converse (Admission.ask gate.zone gate.policy now path query headers)
  match verdict with
  | .ok (some context) => (verdict, gate.submit (.touch context.key))
  | _ => (verdict, gate)

/-- Lets the catalog alone take note of an event. -/
def record (gate : Gate) (event : ModelEvent) : Gate :=
  match event with
  | .registered provider connection models =>
    { gate with catalog := gate.catalog.register provider connection models }
  | .withdrawn provider connection =>
    { gate with catalog := gate.catalog.withdraw provider connection }

/-- Takes note of an event: the catalog follows at once, and new models get their mappings later. -/
def publish (gate : Gate) (event : ModelEvent) : Gate :=
  match event with
  -- The catalog follows before the worker is asked, and if it refuses the errand, nobody hears of
  -- it.
  | .registered provider _ models => (gate.record event).submit (.seed provider models)
  | .withdrawn _ _ => gate.record event

/-- Takes note of an event, if there is one. -/
def publishAny (gate : Gate) (event : Option ModelEvent) : Gate :=
  match event with
  | none => gate
  | some event => gate.publish event

/-- Answers a request. Nothing is looked at before the request has been let in. -/
def serve (gate : Gate) (now : Instant) (request : Web.Request) : Web.Response × Gate :=
  let (verdict, gate) := gate.authenticate now request.path request.query request.headers
  match verdict with
  | .error refusal => ((Web.Response.ofRefusal refusal).sentFor request, gate)
  | .ok context =>
    -- The event is announced once the response has been made.
    let (handling, gate) := gate.converse (Web.dispatch now gate.catalog context request)
    (handling.response.sentFor request, gate.publishAny handling.event)

/-- Does what an event of the worker calls for: an errand is run as soon as it is started. -/
def follow (now : Instant) (gate : Gate) (event : JobEvent Errand) : Gate :=
  match event with
  | .started errand => (gate.converse (errand.dialogue now)).2
  | _ => gate

/-- Lets the worker do everything it can. No errand has to wait for anything. -/
def settle (gate : Gate) (now : Instant) : Gate :=
  let (worker, events) := gate.worker.settle fun _ => some .completed
  -- Errands come to their end as soon as they have been run.
  events.foldl (follow now) { gate with worker }

end Gate

end Tollgate
