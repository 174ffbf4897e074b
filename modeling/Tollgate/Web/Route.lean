import Tollgate.Web.Form
import Tollgate.Text.Pieces
import Tollgate.Web.Message

/-! What the paths of requests name, and which methods may be used on it. -/

namespace Tollgate.Web

/-- A segment of a path as it was sent. -/
abbrev Segment := List Char

/-- What a path names. -/
inductive Resource where
  /-- The state of the service. -/
  | health
  /-- The models that clients can use. -/
  | clientModels
  /-- The models of a connection of a provider. -/
  | connectionModels (provider connection : Segment)
  /-- A connection of a provider. -/
  | connection (provider connection : Segment)
  /-- The models of a provider. -/
  | providerModels (provider : Segment)
  /-- A model of a provider. -/
  | providerModel (provider model : Segment)
  deriving DecidableEq

/-- The segments of the path under which providers are managed. -/
def managementBase : List String := ["v0", "management", "providers"]

namespace Resource

/-- What a path below the providers names; a segment that varies may be empty only if another one
follows it. -/
def ofManaged? : List Segment → Option Resource
  | [provider, kind] => if kind = "models".toList then some (.providerModels provider) else none
  | [provider, kind, name] =>
    if name.isEmpty then none
    else if kind = "connections".toList then some (.connection provider name)
    else if kind = "models".toList then some (.providerModel provider name)
    else none
  | [provider, kind, name, last] =>
    if kind = "connections".toList ∧ last = "models".toList then
      some (.connectionModels provider name)
    else none
  | _ => none

/-- What a path names, if it names anything. -/
def ofPath? (path : String) : Option Resource :=
  -- The path begins with a slash, so nothing stands before its first segment.
  match Text.pieces '/' path.toList with
  | [] :: segments =>
    if segments = ["health".toList] then some .health
    else if segments = ["v1".toList, "models".toList] then some .clientModels
    else if segments = ["v1beta".toList, "models".toList] then some .clientModels
    else match (managementBase.map String.toList).isPrefixOf? segments with
      | none => none
      | some rest => ofManaged? rest
  | _ => none

/-- The method may be used on the resource. -/
def allows (resource : Resource) (method : Method) : Bool :=
  match resource with
  | .connectionModels _ _ => method == .put
  | .connection _ _ => method == .delete
  | _ => method == .get || method == .head

/-- The resource is for management alone. -/
def isManagement : Resource → Bool
  | .health | .clientModels => false
  | _ => true

end Resource

/-- The response as it is sent: those who ask for the head of a resource get no body, whereas a
path that names nothing is answered alike whatever the method. -/
def Response.sentFor (response : Response) (request : Request) : Response :=
  if request.method = .head ∧ (Resource.ofPath? request.path).isSome then response.headOnly
  else response

/-- The name a segment stands for, unless its octets are no text. -/
def decodeSegment? (segment : Segment) : Option String :=
  Text.decode? (unescape (String.ofList segment).toUTF8.toList)

end Tollgate.Web
