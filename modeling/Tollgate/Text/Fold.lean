import Tollgate.Text.CaseData
import Tollgate.Text.Ranges

/-!
Case folding of names: full lower-casing, with the one capital whose lower-case form depends on
where it stands in its word.
-/

namespace Tollgate.Text

/-- A letter that has, or is, an upper-case, title-case or lower-case form. -/
def isCased (c : Char) : Bool :=
  inRanges casedRanges c.toNat

/-- A character that neither ends a word nor continues one, such as an accent or an apostrophe. -/
def isCaseIgnorable (c : Char) : Bool :=
  inRanges caseIgnorableRanges c.toNat

/-- The lower-case form of a character that does not depend on its place in a word. -/
def lowerChar (c : Char) : List Char :=
  -- A dotted capital I keeps its dot as a combining character of its own.
  if c.toNat < 0x80 then [c.toLower]
  else if c = '\u0130' then ['i', '\u0307']
  else match caseRuns.find? (·.holds c.toNat) with
    | none => [c]
    | some run => [Char.ofNat (c.toNat + run.shift).toNat]

/-- The first character that decides about a word is cased. -/
def casedFirst (text : List Char) : Bool :=
  match text.dropWhile isCaseIgnorable with
  | [] => false
  | c :: _ => isCased c

/-- Lower-cases what follows the characters already passed, of which the nearest comes first. -/
def lowerFrom : List Char → List Char → List Char
  | _, [] => []
  | passed, c :: rest =>
    -- A capital sigma has its final form at the end of a word of more than one letter.
    let form :=
      if c = '\u03A3' then [if casedFirst passed && !casedFirst rest then '\u03C2' else '\u03C3']
      else lowerChar c
    form ++ lowerFrom (c :: passed) rest

/-- A text in lower case, the form under which names that differ only by case are one name. -/
def fold (text : String) : String :=
  String.ofList (lowerFrom [] text.toList)

/-- Two texts that are the same name once case is set aside. -/
def sameFolded (left right : String) : Bool :=
  fold left == fold right

end Tollgate.Text
