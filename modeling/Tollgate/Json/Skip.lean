import Tollgate.Json.Lexeme

/-!
Passing over values nobody asked for: their grammar is checked, at any depth of nesting, but
neither the characters of their texts nor the size of their numbers.
-/

namespace Tollgate.Json

/-- Passes over the rest of an escape, past its backslash. -/
def skipEscape : List Char → Except Flaw (List Char)
  | [] => .error .truncated
  | 'u' :: rest => (readUnit rest).map Prod.snd
  | c :: rest => if (shortEscape? c).isSome then .ok rest else .error .malformed

/-- An escape passed over shortens the text. -/
theorem skipEscape_shorter {text rest : List Char} (passed : skipEscape text = .ok rest) :
    rest.length < text.length := by
  -- The letter of the escape is taken in every case.
  unfold skipEscape at passed
  split at passed
  · simp at passed
  · rename_i tail
    cases unit : readUnit tail with
    | error flaw => simp [unit, Except.map] at passed
    | ok found =>
      have shrunk := readUnit_shorter unit
      simp only [unit, Except.map, Except.ok.injEq] at passed
      simp only [List.length_cons]
      rw [← passed]
      omega
  · split at passed
    · simp only [Except.ok.injEq] at passed
      simp [← passed]
    · simp at passed

/-- Passes over the rest of a quoted text, past its opening quote. -/
def skipQuoted (text : List Char) : Except Flaw (List Char) :=
  match text with
  | [] => .error .truncated
  | '"' :: rest => .ok rest
  | '\\' :: rest =>
    match escape : skipEscape rest with
    | .error flaw => .error flaw
    | .ok after =>
      have := skipEscape_shorter escape
      skipQuoted after
  | c :: rest => if c.toNat < 0x20 then .error .malformed else skipQuoted rest
termination_by text.length

/-- A quoted text passed over shortens the text around it. -/
theorem skipQuoted_shorter {text rest : List Char} (passed : skipQuoted text = .ok rest) :
    rest.length < text.length := by
  -- The closing quote is always taken, whatever stands before it.
  fun_induction skipQuoted text with
  | case1 => simp at passed
  | case2 => simp only [Except.ok.injEq] at passed; simp [← passed]
  | case3 => simp at passed
  | case4 _ _ _ shrunk ih =>
    have further := ih passed
    simp only [List.length_cons]
    omega
  | case5 => simp at passed
  | case6 _ _ _ _ _ ih =>
    have further := ih passed
    simp only [List.length_cons]
    omega

/-- Passes over a numeral, whose end may not be the end of the text before it is complete. -/
def skipNumeral (text : List Char) : Except Flaw (List Char) :=
  match readNumeral text with
  | .error _ => .error .malformed
  | .ok (_, rest) => .ok rest

/-- A numeral passed over shortens the text. -/
theorem skipNumeral_shorter {text rest : List Char} (passed : skipNumeral text = .ok rest) :
    rest.length < text.length := by
  -- The rest is the one the reader of numerals leaves.
  unfold skipNumeral at passed
  split at passed
  · simp at passed
  · rename_i read
    simp only [Except.ok.injEq] at passed
    exact passed ▸ readNumeral_shorter read

/-- A character that begins a numeral. -/
def startsNumeral (c : Char) : Bool :=
  c == '-' || c.isDigit

/-- Passes over a value that holds no other values. -/
def skipScalar : List Char → Except Flaw (List Char)
  | [] => .error .truncated
  | 'n' :: rest => readWord ['u', 'l', 'l'] rest
  | 't' :: rest => readWord ['r', 'u', 'e'] rest
  | 'f' :: rest => readWord ['a', 'l', 's', 'e'] rest
  | '"' :: rest => skipQuoted rest
  | c :: rest => if startsNumeral c then skipNumeral (c :: rest) else .error .malformed

/-- A value passed over shortens the text. -/
theorem skipScalar_shorter {text rest : List Char} (passed : skipScalar text = .ok rest) :
    rest.length < text.length := by
  -- Every kind of value has at least its first character.
  unfold skipScalar at passed
  split at passed
  · simp at passed
  · exact Nat.lt_succ_of_le (readWord_shorter passed)
  · exact Nat.lt_succ_of_le (readWord_shorter passed)
  · exact Nat.lt_succ_of_le (readWord_shorter passed)
  · have := skipQuoted_shorter passed
    simp only [List.length_cons]
    omega
  · split at passed
    · exact skipNumeral_shorter passed
    · simp at passed

/-- Takes the colon between a name and its value off the front of a text. -/
def readColon (text : List Char) : Except Flaw (List Char) :=
  match skipSpace text with
  | [] => .error .truncated
  | ':' :: rest => .ok rest
  | _ => .error .malformed

/-- A colon shortens the text. -/
theorem readColon_shorter {text rest : List Char} (read : readColon text = .ok rest) :
    rest.length < text.length := by
  -- Spaces before the colon only shorten it further.
  have spaces := length_skipSpace text
  unfold readColon at read
  split at read
  · simp at read
  · rename_i located
    simp only [Except.ok.injEq] at read
    rw [located, List.length_cons, read] at spaces
    omega
  · simp at read

/-- Passes over the name of a field and the colon behind it. -/
def skipName (text : List Char) : Except Flaw (List Char) :=
  match skipSpace text with
  | [] => .error .truncated
  | '"' :: rest =>
    match skipQuoted rest with
    | .error flaw => .error flaw
    | .ok after => readColon after
  | _ => .error .malformed

/-- A name passed over shortens the text. -/
theorem skipName_shorter {text rest : List Char} (passed : skipName text = .ok rest) :
    rest.length < text.length := by
  -- Quotes and colon are taken together.
  have spaces := length_skipSpace text
  unfold skipName at passed
  split at passed
  · simp at passed
  · rename_i located
    split at passed
    · simp at passed
    · rename_i quoted
      have shrunk := skipQuoted_shorter quoted
      have further := readColon_shorter passed
      rw [located, List.length_cons] at spaces
      omega
  · simp at passed

/-- What a value stands in. -/
inductive Enclosure where
  | list
  | record
  deriving DecidableEq

/-- What has to be passed over after a comma or an opening bracket, before the next value. -/
def Enclosure.approach : Enclosure → List Char → Except Flaw (List Char)
  | .list, text => .ok text
  | .record, text => skipName text

/-- The approach to a value never lengthens the text. -/
theorem Enclosure.approach_shorter {enclosure : Enclosure} {text rest : List Char}
    (passed : enclosure.approach text = .ok rest) : rest.length ≤ text.length := by
  -- Members of a list have nothing before them.
  cases enclosure with
  | list => simp only [approach, Except.ok.injEq] at passed; simp [passed]
  | record => exact Nat.le_of_lt (skipName_shorter passed)

/-- The bracket that ends an enclosure. -/
def Enclosure.closing : Enclosure → Char
  | .list => ']'
  | .record => '\x7d'

/-- The enclosure a bracket begins, if it begins one. -/
def Enclosure.opened? (c : Char) : Option Enclosure :=
  if c = '[' then some .list else if c = '\x7b' then some .record else none

mutual

/-- Passes over a value and then over the rest of what it stands in, innermost first. -/
def skipNested (outer : List Enclosure) (text : List Char) : Except Flaw (List Char) :=
  match located : skipSpace text with
  | [] => .error .truncated
  | c :: rest =>
    have := skipSpace_shorter located
    match Enclosure.opened? c with
    | none =>
      match scalar : skipScalar (c :: rest) with
      | .error flaw => .error flaw
      | .ok after =>
        have := Nat.le_of_lt_succ (skipScalar_shorter scalar)
        skipRest outer after
    | some enclosure =>
      -- An enclosure may close again before it holds anything.
      match behind : skipSpace rest with
      | [] => .error .truncated
      | next :: after =>
        have := skipSpace_shorter behind
        if next = enclosure.closing then skipRest outer after
        else match passed : enclosure.approach rest with
          | .error flaw => .error flaw
          | .ok after =>
            have := Enclosure.approach_shorter passed
            skipNested (enclosure :: outer) after
termination_by text.length

/-- Passes over the rest of all enclosures, past a value in the innermost. -/
def skipRest (outer : List Enclosure) (text : List Char) : Except Flaw (List Char) :=
  match outer with
  | [] => .ok text
  | enclosure :: further =>
    match located : skipSpace text with
    | [] => .error .truncated
    | c :: rest =>
      have := skipSpace_shorter located
      if c = ',' then
        match passed : enclosure.approach rest with
        | .error flaw => .error flaw
        | .ok after =>
          have := Enclosure.approach_shorter passed
          skipNested (enclosure :: further) after
      else if c = enclosure.closing then skipRest further rest
      else .error .malformed
termination_by text.length

end

/-- Passing over values and brackets never lengthens the text. -/
theorem skip_bounded :
    (∀ outer text rest, skipNested outer text = .ok rest → rest.length ≤ text.length) ∧
      ∀ outer text rest, skipRest outer text = .ok rest → rest.length ≤ text.length := by
  -- Each of the two goes on with a text that is shorter than its own.
  have both : ∀ size,
      (∀ outer text rest, text.length = size → skipNested outer text = .ok rest →
        rest.length ≤ text.length) ∧
      ∀ outer text rest, text.length = size → skipRest outer text = .ok rest →
        rest.length ≤ text.length := by
    intro size
    induction size using Nat.strongRecOn with
    | _ size ih =>
      refine ⟨?_, ?_⟩
      · -- A value takes at least one character with it, be it only an opening bracket.
        intro outer text rest sized passed
        unfold skipNested at passed
        split at passed
        · simp at passed
        · rename_i located
          have shrunk := skipSpace_shorter located
          simp only at passed
          split at passed
          · -- A value without members is followed by the rest of its enclosures.
            split at passed
            · simp at passed
            · rename_i scalar
              have further := Nat.le_of_lt_succ (skipScalar_shorter scalar)
              have := (ih _ (by omega)).2 _ _ _ rfl passed
              omega
          · -- An enclosure is left again at once or entered at its first member.
            split at passed
            · simp at passed
            · rename_i behind
              have inner := skipSpace_shorter behind
              split at passed
              · have := (ih _ (by omega)).2 _ _ _ rfl passed
                omega
              · split at passed
                · simp at passed
                · rename_i approached
                  have further := Enclosure.approach_shorter approached
                  have := (ih _ (by omega)).1 _ _ _ rfl passed
                  omega
      · -- Going on takes a comma or a closing bracket.
        intro outer text rest sized passed
        unfold skipRest at passed
        split at passed
        · -- Outside all enclosures nothing more is taken.
          simp only [Except.ok.injEq] at passed
          exact passed ▸ Nat.le_refl _
        · split at passed
          · simp at passed
          · rename_i located
            have shrunk := skipSpace_shorter located
            split at passed
            · split at passed
              · simp at passed
              · rename_i approached
                have further := Enclosure.approach_shorter approached
                have := (ih _ (by omega)).1 _ _ _ rfl passed
                omega
            · split at passed
              · have := (ih _ (by omega)).2 _ _ _ rfl passed
                omega
              · simp at passed
  -- The size was only needed to induct on.
  exact ⟨fun outer text rest => (both _).1 outer text rest rfl,
    fun outer text rest => (both _).2 outer text rest rfl⟩

/-- Passes over one value of any kind. -/
def skipValue (text : List Char) : Except Flaw (List Char) :=
  skipNested [] text

/-- A value passed over never lengthens the text. -/
theorem skipValue_bounded {text rest : List Char} (passed : skipValue text = .ok rest) :
    rest.length ≤ text.length :=
  skip_bounded.1 [] text rest passed

end Tollgate.Json
