import Tollgate.Text.Blank

/-!
Lines of files that set variables. A quotation may hold the end of a line, so that what counts as
one line may go over several rows of the file; a comment ends a line within its row.
-/

namespace Tollgate.EnvFile

/-- The rows of a file, each with the end of line that the last one may lack. -/
def rows : List Char → List (List Char)
  | [] => []
  | c :: rest =>
    if c = '\n' then [c] :: rows rest
    else match rows rest with
      | [] => [[c]]
      | row :: others => (c :: row) :: others

/-- Where a line stands as far as it has been read. -/
inductive LineState where
  /-- Outside quotations. -/
  | bare
  /-- Behind a blank outside quotations, where a number sign begins a comment. -/
  | spaced
  /-- Behind a backslash outside quotations. -/
  | escaped
  /-- Between double quotes. -/
  | quoted
  /-- Behind a backslash between double quotes. -/
  | quotedEscaped
  /-- Between single quotes. -/
  | literal
  /-- Behind a backslash between single quotes. -/
  | literalEscaped
  deriving DecidableEq

namespace LineState

/-- The state behind a quote or a backslash outside quotations. -/
def opened? (c : Char) : Option LineState :=
  if c = '\\' then some .escaped
  else if c = '"' then some .quoted
  else if c = '\'' then some .literal
  else none

/-- The state behind one more character. -/
def next (state : LineState) (c : Char) : LineState :=
  match state with
  | .bare =>
    (opened? c).getD (if Text.isBlank c && c ≠ '\n' && c ≠ '\r' then .spaced else .bare)
  -- The second of two blanks does not count as one.
  | .spaced => (opened? c).getD .bare
  | .escaped => .bare
  | .quoted => if c = '\\' then .quotedEscaped else if c = '"' then .bare else .quoted
  | .quotedEscaped => .quoted
  | .literal => if c = '\\' then .literalEscaped else if c = '\'' then .bare else .literal
  | .literalEscaped => .literal

end LineState

/-- What counts of a row, and where the row leaves its line unless a comment ends it. -/
def scan (state : LineState) : List Char → List Char × Option LineState
  | [] => ([], some state)
  | c :: rest =>
    if state = .spaced ∧ c = '#' then ([], none)
    else
      let (kept, final) := scan (state.next c) rest
      (c :: kept, final)

/-- The text is a comment from its first character on that is not blank. -/
def isComment (text : List Char) : Bool :=
  (text.dropWhile Text.isBlank).head? = some '#'

/-- The lines that rows make up, given what rows before them have begun; a line that the file ends
in the middle of is none. -/
def linesFrom (state : LineState) (begun : List Char) :
    List (List Char) → List (Option (List Char))
  | [] => if state = .bare then [] else [none]
  | row :: rest =>
    -- Quotes in a comment that has its row to itself open nothing.
    if isComment (begun ++ row) then linesFrom .bare [] rest
    else match scan state row with
      | (kept, none) => some (begun ++ kept) :: linesFrom .bare [] rest
      | (_, some .bare) => some (begun ++ row) :: linesFrom .bare [] rest
      | (_, some open_) => linesFrom open_ (begun ++ row) rest

/-- The lines of a file, which may begin with a byte order mark. -/
def lines (text : List Char) : List (Option (List Char)) :=
  linesFrom .bare [] (rows (if text.head? = some '\uFEFF' then text.tail else text))

end Tollgate.EnvFile
