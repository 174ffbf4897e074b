import Tollgate.Catalog.Basic
import Tollgate.Calendar.Timestamp
import Tollgate.Descriptor.Reader
import Tollgate.Text.Blank
import Tollgate.Web.MediaType
import Tollgate.Web.Route

/-!
Answering requests that have been let in. Management is for bearers of keys that give access to
it; what it changes, it changes by the events it announces.
-/

namespace Tollgate

/-- News about the models that a connection serves. -/
inductive ModelEvent where
  /-- The connection serves these models and no others. -/
  | registered (provider connection : String) (models : List Descriptor)
  /-- The connection is gone. -/
  | withdrawn (provider connection : String)
  deriving DecidableEq

namespace Web

/-- What becomes of a request: the response, and the event to be announced, if there is one. -/
structure Handling where
  /-- The response. -/
  response : Response
  /-- The event. -/
  event : Option ModelEvent

namespace Handling

/-- A response without any effect. -/
def plain (response : Response) : Handling := ⟨response, none⟩

/-- A refusal, which has no effect. -/
def refused (refusal : Refusal) : Handling := .plain (.ofRefusal refusal)

/-- An event that is announced, with nothing to say about it. -/
def announced (event : ModelEvent) : Handling := ⟨.bare 204, some event⟩

end Handling

/-- The request was let in by a key that gives access to management. -/
def isAdmin (context : Option Context) : Bool :=
  -- Nobody in particular has been let in where there is no context, and so no one with such a key.
  context.any (·.admin)

/-- Goes on only for those who have access to management. -/
def forAdmin (context : Option Context) (handling : Handling) : Handling :=
  if isAdmin context then handling else .refused .forbidden

/-- The status for a body that does not hold what it should. -/
def bodyStatus : Json.Flaw → Nat
  | .unfit => 422
  | .malformed => 400
  | .truncated => 400

/-- The refusal of models of which one has no name to speak of. -/
def unnamedModel : Refusal := .invalidRequest "Model id must not be empty"

/-- The octets that a body may have at most, two mebibytes. -/
def bodyLimit : Nat := 2 * 1024 * 1024

/-- The body has more octets than are taken in. -/
def isOversized (body : String) : Bool :=
  bodyLimit < body.utf8ByteSize

/-- Replaces the models of a connection by those in the body. -/
def registerModels (context : Option Context) (headers : Headers) (body : String)
    (provider connection : String) : Handling :=
  -- The body is taken in and read before anybody asks who sent it.
  if !announcesJson headers then .plain (.bare 415)
  else if isOversized body then .plain (.bare 413)
  else match Descriptor.listOfText body with
    | .error flaw => .plain (.bare (bodyStatus flaw))
    | .ok models =>
      forAdmin context
        -- One nameless model keeps all of them out.
        (if models.any fun model => (Text.trim model.id).isEmpty then .refused unnamedModel
        else .announced (.registered provider connection models))

/-- Takes a connection away. -/
def withdrawConnection (context : Option Context) (provider connection : String) : Handling :=
  forAdmin context (.announced (.withdrawn provider connection))

/-- Shows the models of a provider. -/
def showProvider (catalog : Catalog) (context : Option Context) (provider : String) : Handling :=
  forAdmin context
    (.plain (.found (.list ((catalog.modelsOf provider).map Descriptor.toJson))))

/-- Shows a model of a provider. -/
def showModel (catalog : Catalog) (context : Option Context) (provider model : String) :
    Handling :=
  forAdmin context
    (match catalog.find? provider model with
    | none => .refused .modelNotFound
    | some descriptor => .plain (.found descriptor.toJson))

/-- Goes on with the name a segment stands for. -/
def named (segment : Segment) (go : String → Handling) : Handling :=
  match decodeSegment? segment with
  | none => .plain (.bare 400)
  | some name => go name

/-- The report on a service whose store responds. -/
def healthReport (now : Instant) : Json :=
  .record [("status", .string "healthy"), ("database", .string "connected"),
    ("timestamp", .string (Calendar.timestamp now))]

/-- Asks whether the store responds, without which the service is not in order. -/
def askHealth (now : Instant) : Dialogue Handling :=
  .demand .ping (fun outage => .refused (.storage outage)) fun _ =>
    .done (.plain (.found (healthReport now)))

/-- Handles a request for a resource by a method that may be used on it. -/
def handle (now : Instant) (catalog : Catalog) (context : Option Context) (request : Request)
    (resource : Resource) : Dialogue Handling :=
  match resource with
  | .health => askHealth now
  | .clientModels => .done (.plain (.found (Listing.envelope catalog.listings)))
  | .connectionModels provider connection =>
    .done (named provider fun provider => named connection fun connection =>
      -- Both segments are decoded before the body is looked at.
      registerModels context request.headers request.body provider connection)
  | .connection provider connection =>
    .done (named provider fun provider => named connection fun connection =>
      withdrawConnection context provider connection)
  | .providerModels provider => .done (named provider (showProvider catalog context))
  | .providerModel provider model =>
    .done (named provider fun provider => named model (showModel catalog context provider))

/-- Handles a request that has been let in, whatever it asks for. -/
def dispatch (now : Instant) (catalog : Catalog) (context : Option Context) (request : Request) :
    Dialogue Handling :=
  match Resource.ofPath? request.path with
  | none => .done (.plain (.bare 404))
  | some resource =>
    -- A method out of place is told apart from a path that names nothing.
    if resource.allows request.method then handle now catalog context request resource
    else .done (.plain (.bare 405))

end Web

end Tollgate
