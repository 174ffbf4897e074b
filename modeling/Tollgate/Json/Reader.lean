import Tollgate.Json.Magnitude
import Tollgate.Json.Skip

/-!
Reading values of a wanted kind. A value of another kind is unfit as soon as its kind is certain:
a bracket gives it away at once, any other value once it has been read.
-/

namespace Tollgate.Json

/-- Takes a value of one kind off the front of a text. -/
structure Reader (Value : Type) where
  /-- The value and the text behind it, or the first flaw met. -/
  run : List Char → Except Flaw (Value × List Char)
  /-- A value that is read leaves a shorter text. -/
  shorter : ∀ {text value rest}, run text = .ok (value, rest) → rest.length < text.length

/-- The flaw of what has been read in vain, unless it is flawed in itself. -/
def unfitUnless {Found : Type} : Except Flaw Found → Flaw
  | .error flaw => flaw
  | .ok _ => .unfit

/-- The value of a numeral, which has to be within range even where it is unfit. -/
def readMagnitude (text : List Char) : Except Flaw (Option Nat × List Char) :=
  match readNumeral text with
  | .error flaw => .error flaw
  | .ok (numeral, rest) =>
    if numeral.outOfRange then .error .malformed else .ok (numeral.natural?, rest)

/-- The flaw of a text, spaces skipped, that begins with a value of a kind that is not wanted. -/
def mismatch : List Char → Flaw
  | [] => .truncated
  | 'n' :: rest => unfitUnless (readWord ['u', 'l', 'l'] rest)
  | 't' :: rest => unfitUnless (readWord ['r', 'u', 'e'] rest)
  | 'f' :: rest => unfitUnless (readWord ['a', 'l', 's', 'e'] rest)
  | '"' :: rest => unfitUnless (readQuoted rest)
  | '[' :: _ => .unfit
  | '\x7b' :: _ => .unfit
  | c :: rest => if startsNumeral c then unfitUnless (readMagnitude (c :: rest)) else .malformed

/-- Takes a quoted text off the front of a text. -/
def readText (text : List Char) : Except Flaw (String × List Char) :=
  match skipSpace text with
  | '"' :: rest =>
    match readQuoted rest with
    | .error flaw => .error flaw
    | .ok (found, after) => .ok (String.ofList found, after)
  | other => .error (mismatch other)

/-- A quoted text that is read leaves a shorter text. -/
theorem readText_shorter {text rest : List Char} {value : String}
    (read : readText text = .ok (value, rest)) : rest.length < text.length := by
  -- The opening quote alone makes the difference.
  unfold readText at read
  split at read
  · rename_i located
    have opened := skipSpace_shorter located
    split at read
    · simp at read
    · rename_i quoted
      simp only [Except.ok.injEq, Prod.mk.injEq] at read
      have shrunk := readQuoted_shorter quoted
      rw [← read.2]
      omega
  · simp at read

/-- Reads a text. -/
def Reader.text : Reader String := ⟨readText, readText_shorter⟩

/-- Takes a whole number of thirty-two bits off the front of a text. -/
def readCount (text : List Char) : Except Flaw (UInt32 × List Char) :=
  match skipSpace text with
  | [] => .error .truncated
  | c :: rest =>
    if startsNumeral c then
      match readMagnitude (c :: rest) with
      | .error flaw => .error flaw
      | .ok (none, _) => .error .unfit
      | .ok (some value, after) =>
        if value < UInt32.size then .ok (UInt32.ofNat value, after) else .error .unfit
    else .error (mismatch (c :: rest))

/-- A whole number that is read leaves a shorter text. -/
theorem readCount_shorter {text rest : List Char} {value : UInt32}
    (read : readCount text = .ok (value, rest)) : rest.length < text.length := by
  -- The rest is the one the reader of numerals leaves.
  unfold readCount at read
  split at read
  · simp at read
  · rename_i located
    have opened := skipSpace_shorter located
    split at read
    · split at read
      · simp at read
      · simp at read
      · rename_i magnitude
        split at read
        · simp only [Except.ok.injEq, Prod.mk.injEq] at read
          unfold readMagnitude at magnitude
          split at magnitude
          · simp at magnitude
          · rename_i numeral
            split at magnitude
            · simp at magnitude
            · simp only [Except.ok.injEq, Prod.mk.injEq] at magnitude
              have shrunk := readNumeral_shorter numeral
              rw [List.length_cons, magnitude.2, read.2] at shrunk
              omega
        · simp at read
    · simp at read

/-- Reads a whole number of thirty-two bits, written without sign, point or exponent. -/
def Reader.count : Reader UInt32 := ⟨readCount, readCount_shorter⟩

/-- Takes a value that may be null off the front of a text. -/
def readOptional {Value : Type} (inner : Reader Value) (text : List Char) :
    Except Flaw (Option Value × List Char) :=
  match skipSpace text with
  | 'n' :: rest =>
    match readWord ['u', 'l', 'l'] rest with
    | .error flaw => .error flaw
    | .ok after => .ok (none, after)
  | _ =>
    match inner.run text with
    | .error flaw => .error flaw
    | .ok (value, after) => .ok (some value, after)

/-- A value that may be null leaves a shorter text. -/
theorem readOptional_shorter {Value : Type} {inner : Reader Value} {text rest : List Char}
    {value : Option Value} (read : readOptional inner text = .ok (value, rest)) :
    rest.length < text.length := by
  -- Either the word for no value is taken, or a value is.
  unfold readOptional at read
  split at read
  · rename_i located
    have opened := skipSpace_shorter located
    split at read
    · simp at read
    · rename_i word
      simp only [Except.ok.injEq, Prod.mk.injEq] at read
      have bounded := readWord_shorter word
      rw [← read.2]
      omega
  · split at read
    · simp at read
    · rename_i taken
      simp only [Except.ok.injEq, Prod.mk.injEq] at read
      exact read.2 ▸ inner.shorter taken

/-- Reads a value that may be null. -/
def Reader.optional {Value : Type} (inner : Reader Value) : Reader (Option Value) :=
  ⟨readOptional inner, readOptional_shorter⟩

/-- What comes next inside brackets: another member, or the end. -/
inductive Turn where
  /-- Another member, from the given text on. -/
  | member (text : List Char)
  /-- The closing bracket, with the text behind it. -/
  | closed (rest : List Char)

/-- The text that is left to read. -/
def Turn.left : Turn → List Char
  | .member text => text
  | .closed rest => rest

/-- Finds the next member of a list, past the comma that all but the first have before them. -/
def nextMember (isFirst : Bool) (text : List Char) : Except Flaw Turn :=
  match skipSpace text with
  | [] => .error .truncated
  | ']' :: rest => .ok (.closed rest)
  | c :: rest =>
    if isFirst then .ok (.member (c :: rest))
    else if c = ',' then
      match skipSpace rest with
      | [] => .error .truncated
      | ']' :: _ => .error .malformed
      | next => .ok (.member next)
    else .error .malformed

/-- Finding the next member never lengthens the text. -/
theorem nextMember_bounded {isFirst : Bool} {text : List Char} {turn : Turn}
    (found : nextMember isFirst text = .ok turn) : turn.left.length ≤ text.length := by
  -- Spaces, a comma and a closing bracket are all that can be taken.
  have spaces := length_skipSpace text
  unfold nextMember at found
  split at found
  · simp at found
  · rename_i located
    simp only [Except.ok.injEq] at found
    rw [located, List.length_cons] at spaces
    simp only [← found, Turn.left]
    omega
  · rename_i located
    rw [located] at spaces
    split at found
    · simp only [Except.ok.injEq] at found
      simpa only [← found, Turn.left] using spaces
    · split at found
      · split at found
        · simp at found
        · simp at found
        · simp only [Except.ok.injEq] at found
          simp only [← found, Turn.left]
          refine Nat.le_trans (length_skipSpace _) ?_
          simp only [List.length_cons] at spaces
          omega
      · simp at found

/-- Takes the rest of a list, past its opening bracket, off the front of a text. -/
def readMembers {Value : Type} (inner : Reader Value) (isFirst : Bool) (text : List Char) :
    Except Flaw (List Value × List Char) :=
  match turn : nextMember isFirst text with
  | .error flaw => .error flaw
  | .ok (.closed rest) => .ok ([], rest)
  | .ok (.member next) =>
    match taken : inner.run next with
    | .error flaw => .error flaw
    | .ok (value, after) =>
      have := Nat.lt_of_lt_of_le (inner.shorter taken) (nextMember_bounded turn)
      match readMembers inner false after with
      | .error flaw => .error flaw
      | .ok (values, rest) => .ok (value :: values, rest)
termination_by text.length

/-- The rest of a list never lengthens the text. -/
theorem readMembers_bounded {Value : Type} {inner : Reader Value} {isFirst : Bool}
    {text rest : List Char} {values : List Value}
    (read : readMembers inner isFirst text = .ok (values, rest)) : rest.length ≤ text.length := by
  -- Each member is shorter than what precedes it, and the bracket is shorter still.
  fun_induction readMembers inner isFirst text generalizing values rest with
  | case1 => simp at read
  | case2 _ _ _ turn =>
    simp only [Except.ok.injEq, Prod.mk.injEq] at read
    exact read.2 ▸ nextMember_bounded turn
  | case3 => simp at read
  | case4 => simp at read
  | case5 _ _ _ _ _ _ _ shrunk _ _ rest_ ih =>
    simp only [Except.ok.injEq, Prod.mk.injEq] at read
    have further := ih rest_
    rw [← read.2]
    omega

/-- Takes a list off the front of a text. -/
def readList {Value : Type} (inner : Reader Value) (text : List Char) :
    Except Flaw (List Value × List Char) :=
  match skipSpace text with
  | '[' :: rest => readMembers inner true rest
  | other => .error (mismatch other)

/-- A list that is read leaves a shorter text. -/
theorem readList_shorter {Value : Type} {inner : Reader Value} {text rest : List Char}
    {values : List Value} (read : readList inner text = .ok (values, rest)) :
    rest.length < text.length := by
  -- The opening bracket alone makes the difference.
  unfold readList at read
  split at read
  · rename_i located
    exact Nat.lt_of_le_of_lt (readMembers_bounded read) (skipSpace_shorter located)
  · simp at read

/-- Reads a list of values of one kind. -/
def Reader.list {Value : Type} (inner : Reader Value) : Reader (List Value) :=
  ⟨readList inner, readList_shorter⟩

/-- The value a whole text stands for, with nothing but spaces behind it. -/
def Reader.whole {Value : Type} (reader : Reader Value) (text : String) : Except Flaw Value :=
  match reader.run text.toList with
  | .error flaw => .error flaw
  | .ok (value, rest) => if (skipSpace rest).isEmpty then .ok value else .error .malformed

end Tollgate.Json
