import Tollgate.Text.Blank
import Tollgate.Web.Form
import Tollgate.Web.Headers
import Tollgate.Web.Path

/-!
Finding the credential of a request. The configured header comes first, then the alternate
headers, then the query; the first of them that offers anything decides.
-/

namespace Tollgate

/-- Where a credential was found. -/
inductive CredentialSource where
  | header
  | query
  deriving DecidableEq

/-- A token with which a caller asks to be let through. -/
structure Credential where
  /-- The token. -/
  value : String
  /-- Where it was found. -/
  source : CredentialSource
  deriving DecidableEq

namespace Credential

/-- A credential from a text, unless the text is blank. -/
def of? (text : String) (source : CredentialSource) : Option Credential :=
  (Text.trimToNonempty? text).map fun value => ⟨value, source⟩

/-- A description for logs, which keeps the token to itself. -/
def redacted (credential : Credential) : String :=
  let source := match credential.source with
    | .header => "Header"
    | .query => "Query"
  "Credential \x7b value: \"<redacted>\", location: " ++ source ++ " \x7d"

/-- What follows the scheme at the front of a text, the casing of ASCII letters set aside. -/
def afterScheme? : List Char → List Char → Option (List Char)
  | [], rest => some rest
  | _ :: _, [] => none
  | wanted :: scheme, c :: rest =>
    if c.toLower = wanted.toLower then afterScheme? scheme rest else none

/-- What follows a scheme, from which white space has to separate it. -/
def schemeToken? (scheme : String) (value : List Char) : Option (List Char) :=
  match afterScheme? scheme.toList value with
  | none => none
  -- Without white space the text may just begin like the scheme.
  | some rest => if rest.head?.any Text.isBlank then some rest else none

/-- The credential in the configured header. -/
def inHeader? (policy : Policy) (headers : Web.Headers) : Option Credential :=
  match headers.text? policy.headerName with
  | none => none
  | some value =>
    match policy.scheme with
    | none => of? value .header
    | some scheme =>
      -- The value is looked at without the white space around it, so that the scheme comes first.
      match schemeToken? scheme (Text.trimmed value.toList) with
      | none => none
      | some token => of? (String.ofList token) .header

/-- Headers whose whole value is a credential, in the order they are tried. -/
def alternateHeaders : List String := ["x-goog-api-key", "x-api-key"]

/-- The credential in an alternate header, where the policy allows for them. -/
def inAlternates? (policy : Policy) (headers : Web.Headers) : Option Credential :=
  if policy.alternateHeaders then
    alternateHeaders.findSome? fun name => (headers.text? name).bind (of? · .header)
  else none

/-- The name under which a query may carry a credential. -/
def queryName : String := "key"

/-- The credential in the query, where the policy allows for one; a second value of its name is
not tried. -/
def inQuery? (policy : Policy) (path : String) (query : Option String) : Option Credential :=
  match policy.queryBase, query with
  | some base, some query =>
    -- The path decides before the query is taken apart.
    if Web.liesUnder path base then
      ((Web.formPairs query).find? fun (name, _) => name == queryName).bind
        fun (_, value) => of? value .query
    else none
  | _, _ => none

/-- The credential of a request, if it carries one. -/
def find? (policy : Policy) (path : String) (query : Option String) (headers : Web.Headers) :
    Option Credential :=
  inHeader? policy headers <|> inAlternates? policy headers <|> inQuery? policy path query

end Credential

end Tollgate
