import Tollgate.Index
import Tollgate.Text.Letter

/-!
Values in files that set variables: they may be quoted and escaped, and names behind dollar signs
in them stand for the values of variables.
-/

namespace Tollgate.EnvFile

/-- A piece of a value. -/
inductive Piece where
  /-- A character that stands for itself. -/
  | symbol (c : Char)
  /-- A name that stands for the value of a variable. -/
  | valueOf (name : String)
  deriving DecidableEq

/-- A value as a file gives it, with the names that are in it. -/
abbrev Template := List Piece

/-- What a piece comes to; the name of a variable that is not set comes to nothing. -/
def Piece.expand (environment : Index String) : Piece → List Char
  | .symbol c => [c]
  | .valueOf name => ((environment.get? name).getD "").toList

/-- The value that a template comes to. -/
def Template.expand (environment : Index String) (template : Template) : String :=
  String.ofList (template.flatMap (Piece.expand environment))

/-- What the next character of a value means. -/
inductive ValueState where
  /-- It stands for itself unless it opens a quotation, an escape, a name or the end. -/
  | plain
  /-- It stands between double quotes. -/
  | quoted
  /-- It stands between single quotes, where nothing is escaped or named. -/
  | literal
  /-- It is escaped, between double quotes or not. -/
  | escaped (inQuotes : Bool)
  /-- It may belong to a name, of which the last character comes first. -/
  | naming (inQuotes : Bool) (name : List Char)
  /-- It belongs to a name between braces, of which the last character comes first. -/
  | braced (inQuotes : Bool) (name : List Char)
  /-- The value is over, and only a comment may follow. -/
  | over
  deriving DecidableEq

/-- The state behind an escape or a name. -/
def ValueState.resume (inQuotes : Bool) : ValueState :=
  if inQuotes then .quoted else .plain

/-- The character an escape stands for. -/
def escape? (c : Char) : Option Char :=
  if c = 'n' then some '\n' else if "\\'\"$ ".toList.contains c then some c else none

/-- The piece for a name whose last character comes first. -/
def Piece.ofReversed (name : List Char) : Piece := .valueOf (String.ofList name.reverse)

/-- The value that a text holds, if it holds a value and nothing but a comment behind it. -/
def readValue : ValueState → List Char → Option Template
  | .plain, [] => some []
  | .escaped false, [] => some []
  | .naming false name, [] => some [.ofReversed name]
  | .over, [] => some []
  | _, [] => none
  | .over, c :: rest =>
    if c = ' ' ∨ c = '\t' then readValue .over rest else if c = '#' then some [] else none
  | .escaped inQuotes, c :: rest =>
    match escape? c with
    | none => none
    | some meant => (readValue (.resume inQuotes) rest).map (.symbol meant :: ·)
  | .literal, c :: rest =>
    if c = '\'' then readValue .plain rest else (readValue .literal rest).map (.symbol c :: ·)
  | .naming inQuotes name, c :: rest =>
    if Text.isAlphanumeric c then readValue (.naming inQuotes (c :: name)) rest
    else if c = '\x7b' ∧ name = [] then readValue (.braced inQuotes []) rest
    else if c = '$' then (readValue (.naming inQuotes []) rest).map (.ofReversed name :: ·)
    else
      -- Whatever else ends a name stands for itself, were it a quote.
      (readValue (.resume inQuotes) rest).map fun pieces =>
        .ofReversed name :: .symbol c :: pieces
  | .braced inQuotes name, c :: rest =>
    if c = '\x7d' then (readValue (.resume inQuotes) rest).map (.ofReversed name :: ·)
    else readValue (.braced inQuotes (c :: name)) rest
  | .quoted, c :: rest =>
    if c = '$' then readValue (.naming true []) rest
    else if c = '"' then readValue .plain rest
    else if c = '\\' then readValue (.escaped true) rest
    else (readValue .quoted rest).map (.symbol c :: ·)
  | .plain, c :: rest =>
    if c = '$' then readValue (.naming false []) rest
    else if c = '\'' then readValue .literal rest
    else if c = '"' then readValue .quoted rest
    else if c = '\\' then readValue (.escaped false) rest
    else if c = ' ' ∨ c = '\t' then readValue .over rest
    else (readValue .plain rest).map (.symbol c :: ·)

end Tollgate.EnvFile
