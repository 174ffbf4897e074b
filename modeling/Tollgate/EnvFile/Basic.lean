import Tollgate.EnvFile.Line
import Tollgate.EnvFile.Value

/-!
Files that set variables: one name and value to a line, with comments behind number signs. Reading
ends at the first line that is neither blank nor of that form.
-/

namespace Tollgate.EnvFile

/-- What a line of a file says. -/
inductive Line where
  /-- Nothing. -/
  | blank
  /-- A variable has a value. -/
  | setting (name : String) (template : Template)
  /-- Nothing that can be understood. -/
  | faulty
  deriving DecidableEq

/-- A character that the name of a variable may begin with. -/
def startsName (c : Char) : Bool :=
  c.isAlpha || c == '_'

/-- A character that the name of a variable may go on with. -/
def continuesName (c : Char) : Bool :=
  c.isAlphanum || c == '_' || c == '.'

/-- The name at the front of a text, and what stands behind it and the blanks that follow. -/
def readName? : List Char → Option (String × List Char)
  | [] => none
  | c :: rest =>
    if startsName c then
      some (String.ofList (c :: rest.takeWhile continuesName),
        (rest.dropWhile continuesName).dropWhile Text.isBlank)
    else none

/-- The value behind an equals sign, which may be left out. -/
def readAssigned? (text : List Char) : Option Template :=
  match text.dropWhile Text.isBlank with
  | [] => some []
  | '#' :: _ => some []
  | text => readValue .plain text

/-- The name and the value of a setting; the word that exports a variable may stand before the
name, and is a name itself if an equals sign follows. -/
def readSetting? (text : List Char) : Option (String × Template) :=
  match readName? text with
  | none => none
  | some (name, '=' :: behind) => (readAssigned? behind).map (name, ·)
  | some (name, rest) =>
    if name = "export" then
      match readName? rest with
      | some (name, '=' :: behind) => (readAssigned? behind).map (name, ·)
      | _ => none
    else none

/-- What a line says. -/
def readLine (line : List Char) : Line :=
  match Text.trimmed line with
  | [] => .blank
  | '#' :: _ => .blank
  | text =>
    match readSetting? text with
    | none => .faulty
    | some (name, template) => .setting name template

/-- The settings of lines up to the first faulty one. -/
def settings : List Line → List (String × Template)
  | [] => []
  | .blank :: rest => settings rest
  | .setting name template :: rest => (name, template) :: settings rest
  | .faulty :: _ => []

/-- The settings of a file in their order. -/
def ofText (text : String) : List (String × Template) :=
  settings ((lines text.toList).map fun line => (line.map readLine).getD .faulty)

/-- The variables with those of a file added that are not set yet, each with its value as the
variables stand when its line is reached. -/
def addTo (environment : Index String) (file : List (String × Template)) : Index String :=
  file.foldl (fun known (name, template) => known.putNew name (template.expand known)) environment

/-- The variables with those of a file set, whether they were set before or not. -/
def override (environment : Index String) (file : List (String × Template)) : Index String :=
  file.foldl (fun known (name, template) => known.put name (template.expand known)) environment

end Tollgate.EnvFile
