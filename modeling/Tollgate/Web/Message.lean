import Tollgate.Admission

/-! Requests as they come in over the web, and the responses to them. -/

namespace Tollgate.Web

/-- What a request asks to be done. -/
inductive Method where
  | get
  /-- Like `get`, but only the head of the response is wanted. -/
  | head
  | put
  | delete
  /-- Anything else. -/
  | other (name : String)
  deriving DecidableEq

/-- The method with a name, whose casing matters. -/
def Method.ofName (name : String) : Method :=
  match name with
  | "GET" => .get
  | "HEAD" => .head
  | "PUT" => .put
  | "DELETE" => .delete
  | _ => .other name

/-- A request. -/
structure Request where
  /-- What is to be done. -/
  method : Method
  /-- The path, with its escapes. -/
  path : String
  /-- The query, with its escapes, if there is one. -/
  query : Option String
  /-- The headers. -/
  headers : Headers
  /-- The body. -/
  body : String
  deriving DecidableEq

/-- The path and the query of a target, in which a number sign ends both. -/
def splitTarget (target : String) : String × Option String :=
  let text := target.toList.takeWhile (· != '#')
  let path := text.takeWhile (· != '?')
  let query := match text.dropWhile (· != '?') with
    | [] => none
    | _ :: query => some (String.ofList query)
  (if path.isEmpty then "/" else String.ofList path, query)

/-- A response. -/
structure Response where
  /-- The status. -/
  status : Nat
  /-- The body, unless there is none or it is not meant to be read by programs. -/
  body : Option Json

namespace Response

/-- A response that says nothing more than its status. -/
def bare (status : Nat) : Response := ⟨status, none⟩

/-- A response with what was asked for. -/
def found (body : Json) : Response := ⟨200, some body⟩

/-- The response to a request that is refused. -/
def ofRefusal (refusal : Refusal) : Response := ⟨refusal.status, some refusal.body⟩

/-- The response without its body. -/
def headOnly (response : Response) : Response := { response with body := none }

end Response

end Tollgate.Web
