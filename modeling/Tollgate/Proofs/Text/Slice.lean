import Tollgate.Proofs.Text.Utf8

/-!
Texts cut at a number of octets. A text cannot be cut within a character, but it can behind any
front of it, and fronts that differ in the casing of ASCII letters only have as many octets.
-/

namespace Tollgate.Text

/-- Two texts that differ in nothing but the casing of ASCII letters. -/
def SameLetters (text other : List Char) : Prop :=
  text.map Char.toLower = other.map Char.toLower

/-- Such texts have as many characters. -/
theorem SameLetters.length_eq {text other : List Char} (same : SameLetters text other) :
    text.length = other.length := by
  have lengths := congrArg List.length same
  rwa [List.length_map, List.length_map] at lengths

/-- The octets of a text, counted by its characters. -/
def octetCount : List Char → Nat
  | [] => 0
  | c :: rest => c.utf8Size + octetCount rest

/-- The characters of a text are encoded one after the other. -/
theorem length_flatMap_utf8EncodeChar (text : List Char) :
    (text.flatMap String.utf8EncodeChar).length = octetCount text := by
  -- By induction on the text, each character adding the octets of its own encoding.
  induction text with
  | nil => rfl
  | cons c rest ih =>
    rw [List.flatMap_cons, List.length_append, String.length_utf8EncodeChar, ih, octetCount]

/-- A text has as many octets as its characters have. -/
theorem utf8ByteSize_eq (text : String) : text.utf8ByteSize = octetCount text.toList := by
  -- The size of a text is the length of its encoding.
  have octets := congrArg List.length (octets_ofList text.toList)
  rw [String.ofList_toList, toList_eq_data, length_flatMap_utf8EncodeChar] at octets
  exact octets

/-- The casing of an ASCII letter is of no account for the octets of a character. -/
theorem utf8Size_toLower (c : Char) : c.toLower.utf8Size = c.utf8Size := by
  by_cases ascii : c.toNat < 0x80
  · -- Capital letters and small ones have one octet each.
    have each : ∀ code < 0x80,
        (Char.ofNat code).toLower.utf8Size = (Char.ofNat code).utf8Size := by decide
    have same := each c.toNat ascii
    rwa [Char.ofNat_toNat] at same
  · -- No capital letter is past the ASCII range.
    have other : ¬ (c.val ≥ 'A'.val ∧ c.val ≤ 'Z'.val) := by
      intro capital
      exact ascii (Nat.lt_of_le_of_lt capital.2 (by decide))
    have unchanged : c.toLower = c := dif_neg other
    rw [unchanged]

/-- A text has as many octets in lower case. -/
theorem octetCount_map_toLower (text : List Char) :
    octetCount (text.map Char.toLower) = octetCount text := by
  induction text with
  | nil => rfl
  | cons c rest ih => rw [List.map_cons, octetCount, octetCount, utf8Size_toLower, ih]

/-- Texts that differ in casing only have as many octets. -/
theorem SameLetters.octetCount_eq {text other : List Char} (same : SameLetters text other) :
    octetCount text = octetCount other := by
  -- In lower case, both are the same text.
  rw [← octetCount_map_toLower text, same, octetCount_map_toLower other]

/-- The text up to a number of octets, if it has that many and the last of them ends a character. -/
def upTo? : List Char → Nat → Option (List Char)
  | _, 0 => some []
  | [], _ + 1 => none
  | c :: rest, count + 1 =>
    if c.utf8Size ≤ count + 1 then (upTo? rest (count + 1 - c.utf8Size)).map (c :: ·) else none

/-- The text behind a number of octets, if it has that many and the last of them ends a
character. -/
def behind? : List Char → Nat → Option (List Char)
  | text, 0 => some text
  | [], _ + 1 => none
  | c :: rest, count + 1 =>
    if c.utf8Size ≤ count + 1 then behind? rest (count + 1 - c.utf8Size) else none

/-- The octets of the first character are passed over together. -/
theorem octetCount_cons (c : Char) (rest : List Char) :
    ∃ less, octetCount (c :: rest) = less + 1 ∧ c.utf8Size ≤ less + 1 ∧
      less + 1 - c.utf8Size = octetCount rest := by
  -- A character has one octet at least.
  have positive := c.utf8Size_pos
  have counted : octetCount (c :: rest) = c.utf8Size + octetCount rest := by rw [octetCount]
  exact ⟨c.utf8Size + octetCount rest - 1, by omega, by omega, by omega⟩

/-- The octets of the front of a text end a character. -/
theorem upTo?_append (front rest : List Char) :
    upTo? (front ++ rest) (octetCount front) = some front := by
  -- By induction on the front: the octets of its first character are counted, and the others are
  -- left.
  induction front with
  | nil => rw [octetCount, upTo?]
  | cons c more ih =>
    obtain ⟨less, counted, covered, left⟩ := octetCount_cons c more
    rw [counted, List.cons_append, upTo?, if_pos covered, left, ih, Option.map_some]

/-- Behind the octets of the front comes the rest. -/
theorem behind?_append (front rest : List Char) :
    behind? (front ++ rest) (octetCount front) = some rest := by
  -- The same induction, in which the characters passed over are not kept.
  induction front with
  | nil => rw [octetCount, List.nil_append, behind?]
  | cons c more ih =>
    obtain ⟨less, counted, covered, left⟩ := octetCount_cons c more
    rw [counted, List.cons_append, behind?, if_pos covered, left, ih]

/-- What ends with the last of a number of octets is a front of the text with that many. -/
theorem eq_append_of_upTo? {text front : List Char} {count : Nat}
    (found : upTo? text count = some front) :
    octetCount front = count ∧ ∃ rest, text = front ++ rest := by
  -- By induction on what is passed over, one character at a time.
  fun_induction upTo? text count generalizing front with
  | case1 text =>
    cases found
    exact ⟨rfl, text, rfl⟩
  -- Octets that are not there end nothing.
  | case2 => cases found
  | case3 c rest count covered ih =>
    obtain ⟨more, deeper, rfl⟩ := Option.map_eq_some_iff.mp found
    obtain ⟨counted, behind, rfl⟩ := ih deeper
    have whole : octetCount (c :: more) = c.utf8Size + octetCount more := by rw [octetCount]
    exact ⟨by omega, behind, rfl⟩
  -- Nor do octets within a character.
  | case4 => cases found

end Tollgate.Text
