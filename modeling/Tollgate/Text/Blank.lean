/-! White space in the Unicode sense, and its removal from both ends of a text. -/

namespace Tollgate.Text

/-- A character with the `White_Space` property, which control characters past U+000D lack. -/
def isBlank (c : Char) : Bool :=
  -- The property has twenty-five members, most of them in two runs.
  let code := c.toNat
  (0x09 ≤ code && code ≤ 0x0D) || code == 0x20 || code == 0x85 || code == 0xA0 ||
    code == 0x1680 || (0x2000 ≤ code && code ≤ 0x200A) || code == 0x2028 || code == 0x2029 ||
    code == 0x202F || code == 0x205F || code == 0x3000

/-- A list of characters without those of a class at either end. -/
def stripped (isDropped : Char → Bool) (text : List Char) : List Char :=
  -- The last characters come first once the text is turned round.
  ((text.dropWhile isDropped).reverse.dropWhile isDropped).reverse

/-- A list of characters without white space at either end. -/
def trimmed (text : List Char) : List Char :=
  stripped isBlank text

/-- A text without white space at either end. -/
def trim (text : String) : String :=
  String.ofList (trimmed text.toList)

/-- The trimmed text, unless nothing is left of it. -/
def trimToNonempty? (text : String) : Option String :=
  -- A text of white space alone says nothing.
  let kept := trim text
  if kept.isEmpty then none else some kept

end Tollgate.Text
