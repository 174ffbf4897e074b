import Tollgate.Text.Hex

/-! Values of the JSON format as the gate writes them, and their compact text. -/

namespace Tollgate

/-- A value of the format, whose numbers count things and whose fields keep their order. -/
inductive Json where
  | null
  | bool (value : Bool)
  | number (value : Nat)
  | string (value : String)
  | list (items : List Json)
  | record (fields : List (String × Json))

namespace Json

/-- A character as it stands inside quotes: whatever could end or garble the text is escaped. -/
def escaped (c : Char) : List Char :=
  match c with
  | '"' => ['\\', '"']
  | '\\' => ['\\', '\\']
  | '\x08' => ['\\', 'b']
  | '\t' => ['\\', 't']
  | '\n' => ['\\', 'n']
  | '\x0C' => ['\\', 'f']
  | '\r' => ['\\', 'r']
  | c =>
    if c.toNat < 0x20 then
      ['\\', 'u', '0', '0', Text.hexDigit (c.toNat / 16), Text.hexDigit (c.toNat % 16)]
    else [c]

/-- A text between quotes. -/
def quoted (text : String) : List Char :=
  '"' :: text.toList.flatMap escaped ++ ['"']

/-- Texts set one after another with a comma between neighbours. -/
def commaJoined : List (List Char) → List Char
  | [] => []
  | [item] => item
  | item :: rest => item ++ ',' :: commaJoined rest

mutual

/-- The text of a value, without any space between its parts. -/
def written : Json → List Char
  | .null => ['n', 'u', 'l', 'l']
  | .bool true => ['t', 'r', 'u', 'e']
  | .bool false => ['f', 'a', 'l', 's', 'e']
  | .number value => Nat.toDigits 10 value
  | .string value => quoted value
  | .list items => '[' :: commaJoined (writtenItems items) ++ [']']
  | .record fields => '\x7b' :: commaJoined (writtenFields fields) ++ ['\x7d']

/-- The texts of the members of a list. -/
def writtenItems : List Json → List (List Char)
  | [] => []
  | item :: rest => written item :: writtenItems rest

/-- The texts of the fields of a record, each with its name before it. -/
def writtenFields : List (String × Json) → List (List Char)
  | [] => []
  | (name, value) :: rest => (quoted name ++ ':' :: written value) :: writtenFields rest

end

/-- The compact text of a value. -/
def render (value : Json) : String :=
  String.ofList value.written

/-- A field that stands in a record only if it has a value. -/
def optionalField (name : String) (value : Option Json) : List (String × Json) :=
  match value with
  | none => []
  | some value => [(name, value)]

end Json

end Tollgate
