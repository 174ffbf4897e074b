import Tollgate.Web.Headers

/-! Whether a body is announced as JSON. -/

namespace Tollgate.Web

/-- A character that a quoted value may hold. -/
def isQuotable (c : Char) : Bool :=
  0x20 ≤ c.toNat && c.toNat ≠ 0x7F

/-- How far the reading of the parameters of a media type has come. -/
inductive ParameterState where
  /-- No character of the next parameter has been met. -/
  | before
  /-- Within the name of a parameter. -/
  | name
  /-- Behind the equals sign. -/
  | value
  /-- Within a value without quotes. -/
  | plain
  /-- Behind the quote that opens a value, where another quote belongs to the value. -/
  | opened
  /-- Within a value between quotes. -/
  | quoted
  /-- Behind the quote that closes a value. -/
  | closed
  deriving DecidableEq

/-- Reads one more character of the parameters, if it may stand there. -/
def ParameterState.read (state : ParameterState) (c : Char) : Option ParameterState :=
  match state with
  | .before => if c = ' ' then some .before else if isTokenChar c then some .name else none
  | .name => if c = '=' then some .value else if isTokenChar c then some .name else none
  | .value => if c = '"' then some .opened else if isTokenChar c then some .plain else none
  | .plain => if c = ';' then some .before else if isTokenChar c then some .plain else none
  | .opened => if isQuotable c then some .quoted else none
  | .quoted => if c = '"' then some .closed else if isQuotable c then some .quoted else none
  | .closed => if c = ';' then some .before else if c = ' ' then some .closed else none

/-- The parameters may end here. -/
def ParameterState.mayEnd : ParameterState → Bool
  | .before | .value | .plain | .closed => true
  | .name | .opened | .quoted => false

/-- The text is a row of well-formed parameters. -/
def areParameters (text : List Char) : Bool :=
  (text.foldlM ParameterState.read .before).any (·.mayEnd)

/-- A subtype without its suffix, and the suffix, which a plus sign sets apart from it. -/
def cutSuffix (subtype : List Char) : List Char × Option (List Char) :=
  -- Nothing is set apart by a sign at the very front.
  let suffix := (subtype.reverse.takeWhile (· != '+')).reverse
  let stem := subtype.take (subtype.length - suffix.length - 1)
  if stem.isEmpty then (subtype, none) else (stem, some suffix)

/-- The media type is JSON or a format that says it is built on JSON. -/
def isJsonType (mediaType : String) : Bool :=
  let text := mediaType.toList.map Char.toLower
  let kind := text.takeWhile (· != '/')
  let behind := (text.dropWhile (· != '/')).drop 1
  let subtype := behind.takeWhile (· != ';')
  let parameters := (behind.dropWhile (· != ';')).drop 1
  let (stem, suffix) := cutSuffix subtype
  kind == "application".toList && subtype.all isTokenChar &&
    (stem == "json".toList || suffix == some "json".toList) && areParameters parameters

/-- The headers announce a body in JSON. -/
def announcesJson (headers : Headers) : Bool :=
  match headers.text? "content-type" with
  | none => false
  | some mediaType => isJsonType mediaType

end Tollgate.Web
