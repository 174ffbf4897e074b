/-!
Reading octets as UTF-8 without giving up at the first fault: each longest run of octets that
begins like a character but does not become one counts as one fault.
-/

namespace Tollgate.Text

/-- A character of which the first octets have been seen. -/
structure Unfinished where
  /-- Bits gathered so far. -/
  gathered : Nat
  /-- Octets still to come after the next one. -/
  after : Nat
  /-- Least value the next octet may have. -/
  low : Nat
  /-- Greatest value the next octet may have. -/
  high : Nat

/-- How a first octet is met: a whole character, the beginning of one, or a fault. -/
inductive Opening where
  | whole (c : Char)
  | begun (unfinished : Unfinished)
  | fault

/-- What a first octet says, with the bounds on the second that exclude overlong forms,
surrogates and values past the last code point. -/
def opening (octet : Nat) : Opening :=
  if octet < 0x80 then .whole (Char.ofNat octet)
  else if octet < 0xC2 then .fault
  else if octet < 0xE0 then .begun ⟨octet - 0xC0, 0, 0x80, 0xBF⟩
  else if octet = 0xE0 then .begun ⟨octet - 0xE0, 1, 0xA0, 0xBF⟩
  else if octet = 0xED then .begun ⟨octet - 0xE0, 1, 0x80, 0x9F⟩
  else if octet < 0xF0 then .begun ⟨octet - 0xE0, 1, 0x80, 0xBF⟩
  else if octet = 0xF0 then .begun ⟨octet - 0xF0, 2, 0x90, 0xBF⟩
  else if octet < 0xF4 then .begun ⟨octet - 0xF0, 2, 0x80, 0xBF⟩
  else if octet = 0xF4 then .begun ⟨octet - 0xF0, 2, 0x80, 0x8F⟩
  else .fault

/-- Reads octets where a character starts, with `none` for a fault. -/
def Opening.resume (met : Opening) (continued : Option Unfinished → List (Option Char)) :
    List (Option Char) :=
  match met with
  | .whole c => some c :: continued none
  | .begun unfinished => continued (some unfinished)
  | .fault => none :: continued none

/-- Reads octets from within or between characters, with `none` for each fault. -/
def scan : Option Unfinished → List UInt8 → List (Option Char)
  | none, [] => []
  | some _, [] => [none]
  | none, octet :: rest => (opening octet.toNat).resume fun state => scan state rest
  | some unfinished, octet :: rest =>
    -- An octet that cannot continue the character ends it and is met afresh.
    if unfinished.low ≤ octet.toNat && octet.toNat ≤ unfinished.high then
      let gathered := unfinished.gathered * 64 + (octet.toNat - 0x80)
      match unfinished.after with
      | 0 => some (Char.ofNat gathered) :: scan none rest
      | after + 1 => scan (some ⟨gathered, after, 0x80, 0xBF⟩) rest
    else none :: (opening octet.toNat).resume fun state => scan state rest

/-- The text of the octets, with a replacement character for each fault. -/
def decodeLossy (octets : List UInt8) : String :=
  String.ofList ((scan none octets).map fun read => read.getD '\uFFFD')

/-- The text of the octets, if they have no fault. -/
def decode? (octets : List UInt8) : Option String :=
  ((scan none octets).mapM id).map String.ofList

end Tollgate.Text
