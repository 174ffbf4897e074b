import Tollgate.Descriptor.Basic
import Tollgate.Json.Reader

/-!
Reading descriptions of models. A description is a record of named fields, of which unknown ones
are passed over, or a list of the values of its fields in their order.
-/

namespace Tollgate.Descriptor

open Json

/-- A description of which only some fields have been met. -/
structure Draft where
  /-- The name, once met. -/
  id : Option String
  /-- The name for people, once met. -/
  displayName : Option (Option String)
  /-- The owner, once met. -/
  ownedBy : Option (Option String)
  /-- The context length, once met. -/
  contextLength : Option (Option UInt32)
  /-- The capabilities, once met. -/
  capabilities : Option (List String)

/-- A description of which nothing has been met. -/
def Draft.blank : Draft := ⟨none, none, none, none, none⟩

/-- The description once no more fields follow, which only the name has to be among. -/
def Draft.finish (draft : Draft) : Except Flaw Descriptor :=
  match draft.id with
  | none => .error .unfit
  | some id =>
    .ok ⟨id, draft.displayName.join, draft.ownedBy.join, draft.contextLength.join,
      draft.capabilities.getD []⟩

/-- Takes colon and value of a field off the front of a text, unless the field was met before. -/
def readField {Value : Type} (reader : Reader Value) (met : Option Value)
    (keep : Value → Draft) (text : List Char) : Except Flaw (Draft × List Char) :=
  -- A second field of one name is refused before its value is looked at.
  if met.isSome then .error .unfit
  else do
    let text ← readColon text
    let (value, text) ← reader.run text
    return (keep value, text)

/-- Takes colon and value of a field nobody asked for off the front of a text. -/
def passField (draft : Draft) (text : List Char) : Except Flaw (Draft × List Char) := do
  let text ← readColon text
  let text ← skipValue text
  return (draft, text)

/-- Takes colon and value of the named field off the front of a text, into the draft. -/
def Draft.read (draft : Draft) (name : String) (text : List Char) :
    Except Flaw (Draft × List Char) :=
  match name with
  | "id" => readField .text draft.id (fun value => { draft with id := some value }) text
  | "display_name" =>
    readField Reader.text.optional draft.displayName
      (fun value => { draft with displayName := some value }) text
  | "owned_by" =>
    readField Reader.text.optional draft.ownedBy
      (fun value => { draft with ownedBy := some value }) text
  | "context_length" =>
    readField Reader.count.optional draft.contextLength
      (fun value => { draft with contextLength := some value }) text
  | "capabilities" =>
    readField Reader.text.list draft.capabilities
      (fun value => { draft with capabilities := some value }) text
  | _ => passField draft text

/-- A field that is wanted shortens the text. -/
theorem readField_shorter {Value : Type} {reader : Reader Value} {met : Option Value}
    {keep : Value → Draft} {text rest : List Char} {draft : Draft}
    (read : readField reader met keep text = .ok (draft, rest)) : rest.length < text.length := by
  -- Colon and value are taken together.
  unfold readField at read
  split at read
  · simp at read
  · obtain ⟨middle, colon, read⟩ := bind_eq_ok.mp read
    obtain ⟨last, value, read⟩ := bind_eq_ok.mp read
    simp only [Pure.pure, Except.pure, Except.ok.injEq, Prod.mk.injEq] at read
    have shrunk := readColon_shorter colon
    have further := reader.shorter value
    rw [← read.2]
    omega

/-- A field of any name shortens the text. -/
theorem Draft.read_shorter {draft next : Draft} {name : String} {text rest : List Char}
    (read : draft.read name text = .ok (next, rest)) : rest.length < text.length := by
  -- An unknown field has at least its colon.
  unfold Draft.read at read
  split at read
  -- Every known field is read in the same way.
  iterate 5 exact readField_shorter read
  unfold passField at read
  obtain ⟨middle, colon, read⟩ := bind_eq_ok.mp read
  obtain ⟨last, value, read⟩ := bind_eq_ok.mp read
  simp only [Pure.pure, Except.pure, Except.ok.injEq, Prod.mk.injEq] at read
  have shrunk := readColon_shorter colon
  have further := skipValue_bounded value
  rw [← read.2]
  omega

/-- Finds the next field of a record, past the comma that all but the first have before them and
past the quote that opens its name. -/
def nextField (isFirst : Bool) (text : List Char) : Except Flaw Turn :=
  match skipSpace text with
  | [] => .error .truncated
  | '\x7d' :: rest => .ok (.closed rest)
  | '"' :: rest => if isFirst then .ok (.member rest) else .error .malformed
  | ',' :: rest =>
    if isFirst then .error .malformed
    else match skipSpace rest with
      | [] => .error .truncated
      | '"' :: rest => .ok (.member rest)
      | _ => .error .malformed
  | _ => .error .malformed

/-- Finding the next field shortens the text. -/
theorem nextField_shorter {isFirst : Bool} {text : List Char} {turn : Turn}
    (found : nextField isFirst text = .ok turn) : turn.left.length < text.length := by
  -- A bracket or a quote is taken in every case.
  unfold nextField at found
  split at found
  · simp at found
  · rename_i located
    simp only [Except.ok.injEq] at found
    exact found ▸ skipSpace_shorter located
  · rename_i located
    split at found
    · simp only [Except.ok.injEq] at found
      exact found ▸ skipSpace_shorter located
    · simp at found
  · rename_i located
    split at found
    · simp at found
    · split at found
      · simp at found
      · rename_i behind
        simp only [Except.ok.injEq] at found
        exact found ▸ Nat.lt_trans (skipSpace_shorter behind) (skipSpace_shorter located)
      · simp at found
  · simp at found

/-- Takes the rest of a record, past its opening bracket, off the front of a text. -/
def readFields (draft : Draft) (isFirst : Bool) (text : List Char) :
    Except Flaw (Descriptor × List Char) :=
  match turn : nextField isFirst text with
  | .error flaw => .error flaw
  | .ok (.closed rest) => draft.finish.map fun descriptor => (descriptor, rest)
  | .ok (.member named) =>
    match name : readQuoted named with
    | .error flaw => .error flaw
    | .ok (found, behind) =>
      match field : draft.read (String.ofList found) behind with
      | .error flaw => .error flaw
      | .ok (next, after) =>
        have := nextField_shorter turn
        have := readQuoted_shorter name
        have := Draft.read_shorter field
        readFields next false after
termination_by text.length
decreasing_by simp only [Turn.left] at *; omega

/-- Where reading a list field by field stands. -/
inductive Place where
  /-- Between the members, or before the first. -/
  | within (text : List Char)
  /-- Past the closing bracket. -/
  | past (rest : List Char)

/-- The text that is left to read. -/
def Place.left : Place → List Char
  | .within text => text
  | .past rest => rest

/-- Takes the next member of a list, if it has one more. -/
def Place.next {Value : Type} (place : Place) (reader : Reader Value) (isFirst : Bool) :
    Except Flaw (Option Value × Place) :=
  match place with
  | .past rest => .ok (none, .past rest)
  | .within text =>
    match nextMember isFirst text with
    | .error flaw => .error flaw
    | .ok (.closed rest) => .ok (none, .past rest)
    | .ok (.member text) =>
      match reader.run text with
      | .error flaw => .error flaw
      | .ok (value, rest) => .ok (some value, .within rest)

/-- Takes the closing bracket, where no more members are wanted. -/
def Place.close : Place → Except Flaw (List Char)
  | .past rest => .ok rest
  | .within text =>
    match skipSpace text with
    | [] => .error .truncated
    | ']' :: rest => .ok rest
    | _ => .error .malformed

/-- Takes the rest of a list of field values, past its opening bracket, off the front of a text. -/
def readPositions (text : List Char) : Except Flaw (Descriptor × List Char) := do
  -- The name has to be there, and the other fields may be left out from the end.
  let (id, place) ← (Place.within text).next Reader.text true
  match id with
  | none => .error .unfit
  | some id =>
    let (displayName, place) ← place.next Reader.text.optional false
    let (ownedBy, place) ← place.next Reader.text.optional false
    let (contextLength, place) ← place.next Reader.count.optional false
    let (capabilities, place) ← place.next Reader.text.list false
    let rest ← place.close
    return (⟨id, displayName.join, ownedBy.join, contextLength.join, capabilities.getD []⟩, rest)

/-- Takes a description off the front of a text. -/
def read (text : List Char) : Except Flaw (Descriptor × List Char) :=
  match skipSpace text with
  | '\x7b' :: rest => readFields .blank true rest
  | '[' :: rest => readPositions rest
  | other => .error (mismatch other)

/-- The rest of a record shortens the text. -/
theorem readFields_shorter {draft : Draft} {isFirst : Bool} {text rest : List Char}
    {descriptor : Descriptor} (found : readFields draft isFirst text = .ok (descriptor, rest)) :
    rest.length < text.length := by
  -- Every field and the closing bracket shorten it.
  fun_induction readFields draft isFirst text with
  | case1 => simp at found
  | case2 draft _ _ _ turn =>
    cases finished : draft.finish with
    | error flaw => simp [finished, Except.map] at found
    | ok built =>
      simp only [finished, Except.map, Except.ok.injEq, Prod.mk.injEq] at found
      exact found.2 ▸ nextField_shorter turn
  | case3 => simp at found
  | case4 => simp at found
  | case5 _ _ _ _ _ _ _ _ _ _ _ opened quoted field ih =>
    have further := ih found
    simp only [Turn.left] at opened
    omega

/-- Taking a member never lengthens the text. -/
theorem Place.next_bounded {Value : Type} {place after : Place} {reader : Reader Value}
    {isFirst : Bool} {value : Option Value}
    (taken : place.next reader isFirst = .ok (value, after)) :
    after.left.length ≤ place.left.length := by
  -- Past the bracket nothing is taken any more.
  unfold Place.next at taken
  split at taken
  · simp only [Except.ok.injEq, Prod.mk.injEq] at taken
    simp [← taken.2]
  · split at taken
    · simp at taken
    · rename_i turn
      simp only [Except.ok.injEq, Prod.mk.injEq] at taken
      exact taken.2 ▸ nextMember_bounded turn
    · rename_i turn
      split at taken
      · simp at taken
      · rename_i read
        simp only [Except.ok.injEq, Prod.mk.injEq] at taken
        have bounded := nextMember_bounded turn
        have shrunk := reader.shorter read
        rw [← taken.2]
        simp only [Place.left, Turn.left] at *
        omega

/-- Taking the closing bracket never lengthens the text. -/
theorem Place.close_bounded {place : Place} {rest : List Char} (closed : place.close = .ok rest) :
    rest.length ≤ place.left.length := by
  -- Either the bracket was taken before or it is now.
  unfold Place.close at closed
  split at closed
  · simp only [Except.ok.injEq] at closed
    simp [← closed, Place.left]
  · split at closed
    · simp at closed
    · rename_i located
      simp only [Except.ok.injEq] at closed
      exact closed ▸ Nat.le_of_lt (skipSpace_shorter located)
    · simp at closed

/-- The rest of a list of field values never lengthens the text. -/
theorem readPositions_bounded {text rest : List Char} {descriptor : Descriptor}
    (found : readPositions text = .ok (descriptor, rest)) : rest.length ≤ text.length := by
  -- The five fields and the bracket are taken one after another.
  unfold readPositions at found
  obtain ⟨⟨id, first⟩, one, found⟩ := bind_eq_ok.mp found
  cases id with
  | none => simp at found
  | some id =>
    obtain ⟨second, two, found⟩ := bind_eq_ok.mp found
    obtain ⟨third, three, found⟩ := bind_eq_ok.mp found
    obtain ⟨fourth, four, found⟩ := bind_eq_ok.mp found
    obtain ⟨fifth, five, found⟩ := bind_eq_ok.mp found
    obtain ⟨last, closed, found⟩ := bind_eq_ok.mp found
    simp only [Pure.pure, Except.pure, Except.ok.injEq, Prod.mk.injEq] at found
    have shortened : first.left.length ≤ text.length := Place.next_bounded one
    -- What is left after each step is no longer than what was left before it.
    calc rest.length = last.length := by rw [found.2]
      _ ≤ fifth.2.left.length := Place.close_bounded closed
      _ ≤ fourth.2.left.length := Place.next_bounded five
      _ ≤ third.2.left.length := Place.next_bounded four
      _ ≤ second.2.left.length := Place.next_bounded three
      _ ≤ first.left.length := Place.next_bounded two
      _ ≤ text.length := shortened

/-- A description that is read leaves a shorter text. -/
theorem read_shorter {text rest : List Char} {descriptor : Descriptor}
    (found : read text = .ok (descriptor, rest)) : rest.length < text.length := by
  -- The opening bracket alone makes the difference.
  unfold read at found
  split at found
  · rename_i located
    exact Nat.lt_trans (readFields_shorter found) (skipSpace_shorter located)
  · rename_i located
    exact Nat.lt_of_le_of_lt (readPositions_bounded found) (skipSpace_shorter located)
  · simp at found

/-- Reads descriptions. -/
def reader : Reader Descriptor := ⟨read, read_shorter⟩

/-- The description a whole text stands for. -/
def ofText (text : String) : Except Flaw Descriptor :=
  reader.whole text

/-- The descriptions a whole text lists. -/
def listOfText (text : String) : Except Flaw (List Descriptor) :=
  reader.list.whole text

end Tollgate.Descriptor
