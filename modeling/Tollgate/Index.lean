/-! Values by name: a name has at most one value, and names keep the order they first came in. -/

namespace Tollgate

/-- Values by name. -/
abbrev Index (Value : Type) := List (String × Value)

namespace Index

variable {Value : Type}

/-- The value of a name. -/
def get? (index : Index Value) (name : String) : Option Value :=
  List.lookup name index

/-- Gives a name a value, in place of the one it had. -/
def put : Index Value → String → Value → Index Value
  | [], name, value => [(name, value)]
  | entry :: rest, name, value =>
    if entry.1 = name then (name, value) :: rest else entry :: put rest name value

/-- Gives a name a value if it has none. -/
def putNew (index : Index Value) (name : String) (value : Value) : Index Value :=
  if (index.get? name).isSome then index else index ++ [(name, value)]

/-- Takes the value of a name away. -/
def drop (index : Index Value) (name : String) : Index Value :=
  index.filter (·.1 ≠ name)

/-- The entries in ascending order of their names. -/
def sorted (index : Index Value) : Index Value :=
  index.mergeSort fun left right => decide (left.1 ≤ right.1)

end Index

end Tollgate
