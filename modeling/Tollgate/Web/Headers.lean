/-! The headers of a request, of which several may have one name. -/

namespace Tollgate.Web

/-- A header with its name and its value. -/
structure Header where
  /-- Name, in whatever casing it was sent. -/
  name : String
  /-- Value. -/
  value : String
  deriving DecidableEq

/-- The headers of a request in the order they were sent. -/
abbrev Headers := List Header

/-- A character that the name of a header may hold. -/
def isTokenChar (c : Char) : Bool :=
  c.isAlphanum || "!#$%&\x27*+-.^_\x60|~".toList.contains c

/-- The name under which headers are compared, or nothing for a text no header can be named by. -/
def headerKey? (name : String) : Option (List Char) :=
  if !name.isEmpty && name.toList.all isTokenChar then some (name.toList.map Char.toLower) else none

/-- The value of the first header of a name, whose casing does not matter. -/
def Headers.first? (headers : Headers) (name : String) : Option String :=
  match headerKey? name with
  | none => none
  | some key =>
    (headers.find? fun header => header.name.toList.map Char.toLower == key).map (·.value)

/-- A character that a readable value may hold. -/
def isReadableChar (c : Char) : Bool :=
  c == '\t' || (0x20 ≤ c.toNat && c.toNat ≤ 0x7E)

/-- The value of the first header of a name, if it can be read as text.

A later header of the same name does not stand in for an unreadable first one. -/
def Headers.text? (headers : Headers) (name : String) : Option String :=
  match headers.first? name with
  | none => none
  | some value => if value.toList.all isReadableChar then some value else none

end Tollgate.Web
