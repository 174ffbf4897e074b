/-! Which requests need a credential, and where a credential is looked for. -/

namespace Tollgate

/-- The rules of authentication in force. -/
structure Policy where
  /-- Header that carries the credential. -/
  headerName : String
  /-- Word that stands before the credential in that header, if there is one. -/
  scheme : Option String
  /-- Credentials are also taken from the alternate headers. -/
  alternateHeaders : Bool
  /-- Path under which a credential may stand in the query, if there is one. -/
  queryBase : Option String
  /-- Paths under which no credential is needed. -/
  openBases : List String
  /-- Open paths are compared letter by letter, not segment by segment. -/
  rawMatching : Bool
  deriving DecidableEq

/-- The rules in force unless others are given. -/
def Policy.standard : Policy where
  headerName := "Authorization"
  scheme := some "Bearer"
  alternateHeaders := true
  queryBase := some "/v1beta"
  openBases := ["/health"]
  rawMatching := false

end Tollgate
