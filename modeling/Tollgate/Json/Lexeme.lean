import Tollgate.Text.Hex

/-!
The smallest parts of a JSON text, taken off its front: spaces, words, quoted texts and numerals.
Reading is from left to right, and the first flaw met is the one reported.
-/

namespace Tollgate.Json

/-- What is wrong with a text that does not hold the value wanted of it. -/
inductive Flaw where
  /-- The grammar of the format is broken. -/
  | malformed
  /-- The value is well formed but not of the kind wanted. -/
  | unfit
  /-- The text ends inside a value. -/
  | truncated
  deriving DecidableEq

/-- Two readings in a row succeed exactly if both do, the second on what the first has found. -/
theorem bind_eq_ok {First Second : Type} {first : Except Flaw First}
    {next : First → Except Flaw Second} {found : Second} :
    (first >>= next) = .ok found ↔ ∃ middle, first = .ok middle ∧ next middle = .ok found := by
  -- A flaw in the first reading is the flaw of both.
  cases first <;> simp [Bind.bind, Except.bind]

/-- The four characters that may stand between the parts of a text. -/
def isSpace (c : Char) : Bool :=
  c == ' ' || c == '\t' || c == '\n' || c == '\r'

/-- The text from its first part on. -/
def skipSpace (text : List Char) : List Char :=
  text.dropWhile isSpace

/-- Skipping spaces never lengthens a text. -/
theorem length_skipSpace (text : List Char) : (skipSpace text).length ≤ text.length :=
  (List.dropWhile_suffix isSpace).length_le

/-- What follows the first character past the spaces is shorter than the text. -/
theorem skipSpace_shorter {text rest : List Char} {c : Char}
    (located : skipSpace text = c :: rest) : rest.length < text.length := by
  -- The character itself is no longer part of the rest.
  have bounded := length_skipSpace text
  rw [located, List.length_cons] at bounded
  omega

/-- Takes a fixed word off the front of a text. -/
def readWord : List Char → List Char → Except Flaw (List Char)
  | [], text => .ok text
  | _ :: _, [] => .error .truncated
  | wanted :: more, c :: rest => if c = wanted then readWord more rest else .error .malformed

/-- A word that is read never lengthens the text. -/
theorem readWord_shorter {word text rest : List Char} (found : readWord word text = .ok rest) :
    rest.length ≤ text.length := by
  -- Each letter of the word takes one character with it.
  induction word generalizing text with
  | nil => simp only [readWord, Except.ok.injEq] at found; simp [found]
  | cons wanted more ih =>
    cases text with
    | nil => simp [readWord] at found
    | cons c rest =>
      simp only [readWord] at found
      split at found
      · exact Nat.le_trans (ih found) (by simp)
      · simp at found

/-- Takes the four digits of an escaped code unit off the front of a text. -/
def readUnit : List Char → Except Flaw (Nat × List Char)
  | a :: b :: c :: d :: rest =>
    match Text.hexValue? a, Text.hexValue? b, Text.hexValue? c, Text.hexValue? d with
    | some a, some b, some c, some d => .ok (((a * 16 + b) * 16 + c) * 16 + d, rest)
    | _, _, _, _ => .error .malformed
  | short =>
    -- Four octets are enough to tell a bad digit from a text that ends too soon.
    if 4 ≤ (String.ofList short).utf8ByteSize then .error .malformed else .error .truncated

/-- The digits of a code unit shorten the text. -/
theorem readUnit_shorter {text rest : List Char} {unit : Nat}
    (found : readUnit text = .ok (unit, rest)) : rest.length < text.length := by
  -- Only a text of at least four characters has a code unit at its front.
  unfold readUnit at found
  split at found
  · split at found
    · simp only [Except.ok.injEq, Prod.mk.injEq] at found
      simp only [← found.2, List.length_cons]
      omega
    · simp at found
  · split at found <;> simp at found

/-- The first unit of a pair that stands for one character beyond the first 65536. -/
def isLeading (unit : Nat) : Bool := 0xD800 ≤ unit && unit ≤ 0xDBFF

/-- The second unit of a pair that stands for one character beyond the first 65536. -/
def isTrailing (unit : Nat) : Bool := 0xDC00 ≤ unit && unit ≤ 0xDFFF

/-- Takes a character escaped by its code, past the letter that announces it, off the text. -/
def readCoded (text : List Char) : Except Flaw (Char × List Char) :=
  match readUnit text with
  | .error flaw => .error flaw
  | .ok (unit, rest) =>
    -- A leading unit needs its trailing unit, escaped in the same way, right behind it.
    if isTrailing unit then .error .malformed
    else if !isLeading unit then .ok (Char.ofNat unit, rest)
    else match rest with
      | [] | ['\\'] => .error .truncated
      | '\\' :: 'u' :: rest =>
        match readUnit rest with
        | .error flaw => .error flaw
        | .ok (second, rest) =>
          if isTrailing second then
            .ok (Char.ofNat (0x10000 + (unit - 0xD800) * 0x400 + (second - 0xDC00)), rest)
          else .error .malformed
      | _ => .error .malformed

/-- A coded character shortens the text. -/
theorem readCoded_shorter {text rest : List Char} {c : Char}
    (found : readCoded text = .ok (c, rest)) : rest.length < text.length := by
  -- The rest is what follows the last code unit read.
  unfold readCoded at found
  split at found
  · simp at found
  · rename_i unit middle first
    have shrunk := readUnit_shorter first
    split at found
    · simp at found
    · split at found
      · simp only [Except.ok.injEq, Prod.mk.injEq] at found
        simpa [← found.2] using shrunk
      · split at found
        · simp at found
        · simp at found
        · split at found
          · simp at found
          · rename_i second
            have further := readUnit_shorter second
            simp only [List.length_cons] at shrunk
            split at found
            · simp only [Except.ok.injEq, Prod.mk.injEq] at found
              rw [← found.2]
              omega
            · simp at found
        · simp at found

/-- The character meant by a one-letter escape. -/
def shortEscape? (c : Char) : Option Char :=
  match c with
  | '"' => some '"'
  | '\\' => some '\\'
  | '/' => some '/'
  | 'b' => some '\x08'
  | 'f' => some '\x0C'
  | 'n' => some '\n'
  | 'r' => some '\r'
  | 't' => some '\t'
  | _ => none

/-- Takes the rest of an escape, past its backslash, off the front of a text. -/
def readEscape : List Char → Except Flaw (Char × List Char)
  | [] => .error .truncated
  | 'u' :: rest => readCoded rest
  | c :: rest =>
    match shortEscape? c with
    | some meant => .ok (meant, rest)
    | none => .error .malformed

/-- An escape shortens the text. -/
theorem readEscape_shorter {text rest : List Char} {c : Char}
    (found : readEscape text = .ok (c, rest)) : rest.length < text.length := by
  -- The letter of the escape is taken in every case.
  unfold readEscape at found
  split at found
  · simp at found
  · have shrunk := readCoded_shorter found
    simp only [List.length_cons]
    omega
  · split at found
    · simp only [Except.ok.injEq, Prod.mk.injEq] at found
      simp [← found.2]
    · simp at found

/-- Takes the rest of a quoted text, past its opening quote, off the front of a text. -/
def readQuoted (text : List Char) : Except Flaw (List Char × List Char) :=
  match text with
  | [] => .error .truncated
  | '"' :: rest => .ok ([], rest)
  | '\\' :: rest =>
    match escape : readEscape rest with
    | .error flaw => .error flaw
    | .ok (c, after) =>
      have := readEscape_shorter escape
      match readQuoted after with
      | .error flaw => .error flaw
      | .ok (more, rest) => .ok (c :: more, rest)
  | c :: rest =>
    -- Control characters are allowed only as escapes.
    if c.toNat < 0x20 then .error .malformed
    else match readQuoted rest with
      | .error flaw => .error flaw
      | .ok (more, rest) => .ok (c :: more, rest)
termination_by text.length

/-- A quoted text shortens the text it is read from. -/
theorem readQuoted_shorter {text rest found : List Char}
    (read : readQuoted text = .ok (found, rest)) : rest.length < text.length := by
  -- The closing quote is always taken, whatever stands before it.
  fun_induction readQuoted text generalizing found rest with
  | case1 => simp at read
  | case2 => simp only [Except.ok.injEq, Prod.mk.injEq] at read; simp [← read.2]
  | case3 => simp at read
  | case4 => simp at read
  | case5 _ _ _ _ shrunk _ _ inner ih =>
    simp only [Except.ok.injEq, Prod.mk.injEq] at read
    have further := ih inner
    simp only [List.length_cons]
    rw [← read.2]
    omega
  | case6 => simp at read
  | case7 => simp at read
  | case8 _ _ _ _ _ _ _ inner ih =>
    simp only [Except.ok.injEq, Prod.mk.injEq] at read
    have further := ih inner
    simp only [List.length_cons]
    rw [← read.2]
    omega

/-- The parts of a numeral as they stand in a text. -/
structure Numeral where
  /-- A minus sign stands before it. -/
  negative : Bool
  /-- Digits before the point. -/
  whole : List Char
  /-- Digits behind the point, of which there is at least one if there is a point. -/
  fraction : List Char
  /-- Sign and digits of the exponent, if there is one. -/
  exponent : Option (Bool × List Char)

/-- What follows a place where a digit has to stand is no digit. -/
def digitMissing (rest : List Char) : Flaw :=
  if rest.isEmpty then .truncated else .malformed

/-- Takes digits, at least one, off the front of a text. -/
def readDigits (text : List Char) : Except Flaw (List Char × List Char) :=
  let digits := text.takeWhile Char.isDigit
  let rest := text.dropWhile Char.isDigit
  if digits.isEmpty then .error (digitMissing rest) else .ok (digits, rest)

/-- Digits shorten the text they are read from. -/
theorem readDigits_shorter {text digits rest : List Char}
    (read : readDigits text = .ok (digits, rest)) : rest.length < text.length := by
  -- What is taken and what is left make up the whole text.
  simp only [readDigits] at read
  split at read
  · simp at read
  · rename_i present
    simp only [Except.ok.injEq, Prod.mk.injEq] at read
    have whole := congrArg List.length
      (List.takeWhile_append_dropWhile (p := Char.isDigit) (l := text))
    have positive : 0 < (text.takeWhile Char.isDigit).length := by
      simpa [List.length_pos_iff] using present
    rw [List.length_append] at whole
    rw [← read.2]
    omega

/-- Takes the digits of a whole number, which begin with a zero only if it is zero. -/
def readWhole (text : List Char) : Except Flaw (List Char × List Char) :=
  match readDigits text with
  | .error flaw => .error flaw
  | .ok ('0' :: _ :: _, _) => .error .malformed
  | .ok (digits, rest) => .ok (digits, rest)

/-- A whole number shortens the text. -/
theorem readWhole_shorter {text digits rest : List Char}
    (read : readWhole text = .ok (digits, rest)) : rest.length < text.length := by
  -- The digits are those taken by the reader of digits.
  unfold readWhole at read
  split at read
  · simp at read
  · simp at read
  · rename_i inner
    simp only [Except.ok.injEq, Prod.mk.injEq] at read
    exact read.2 ▸ readDigits_shorter inner

/-- Takes the digits behind a point off the front of a text, if there is a point. -/
def readFraction : List Char → Except Flaw (List Char × List Char)
  | '.' :: rest => readDigits rest
  | text => .ok ([], text)

/-- A fraction never lengthens the text. -/
theorem readFraction_shorter {text digits rest : List Char}
    (read : readFraction text = .ok (digits, rest)) : rest.length ≤ text.length := by
  -- Without a point nothing is taken.
  unfold readFraction at read
  split at read
  · have := readDigits_shorter read
    simp only [List.length_cons]
    omega
  · simp only [Except.ok.injEq, Prod.mk.injEq] at read
    simp [← read.2]

/-- A sign and the text past it, with plus for a missing sign. -/
def signed : List Char → Bool × List Char
  | '-' :: rest => (true, rest)
  | '+' :: rest => (false, rest)
  | text => (false, text)

/-- Taking a sign never lengthens the text. -/
theorem signed_shorter (text : List Char) : (signed text).2.length ≤ text.length := by
  -- At most the sign itself is taken.
  unfold signed
  split <;> simp

/-- Takes an exponent off the front of a text, if there is one. -/
def readExponent : List Char → Except Flaw (Option (Bool × List Char) × List Char)
  | c :: rest =>
    if c = 'e' ∨ c = 'E' then
      match readDigits (signed rest).2 with
      | .error flaw => .error flaw
      | .ok (digits, after) => .ok (some ((signed rest).1, digits), after)
    else .ok (none, c :: rest)
  | [] => .ok (none, [])

/-- An exponent never lengthens the text. -/
theorem readExponent_shorter {text rest : List Char} {exponent : Option (Bool × List Char)}
    (read : readExponent text = .ok (exponent, rest)) : rest.length ≤ text.length := by
  -- Letter, sign and digits are taken together or not at all.
  cases text with
  | nil =>
    simp only [readExponent, Except.ok.injEq, Prod.mk.injEq] at read
    simp [← read.2]
  | cons c tail =>
    simp only [readExponent] at read
    split at read
    · split at read
      · simp at read
      · rename_i inner
        simp only [Except.ok.injEq, Prod.mk.injEq] at read
        have digits := readDigits_shorter inner
        have sign := signed_shorter tail
        simp only [List.length_cons]
        rw [← read.2]
        omega
    · simp only [Except.ok.injEq, Prod.mk.injEq] at read
      simp [← read.2]

/-- Takes a numeral off the front of a text, with whatever sign has been seen before it. -/
def readUnsigned (negative : Bool) (text : List Char) : Except Flaw (Numeral × List Char) := do
  let (whole, rest) ← readWhole text
  let (fraction, rest) ← readFraction rest
  let (exponent, rest) ← readExponent rest
  return (⟨negative, whole, fraction, exponent⟩, rest)

/-- Takes a numeral off the front of a text. -/
def readNumeral : List Char → Except Flaw (Numeral × List Char)
  | '-' :: rest => readUnsigned true rest
  | text => readUnsigned false text

/-- A numeral without its sign shortens the text. -/
theorem readUnsigned_shorter {negative : Bool} {text rest : List Char} {numeral : Numeral}
    (read : readUnsigned negative text = .ok (numeral, rest)) : rest.length < text.length := by
  -- Its whole part has at least one digit, and the other parts add nothing to the text.
  unfold readUnsigned at read
  obtain ⟨first, whole, read⟩ := bind_eq_ok.mp read
  obtain ⟨second, fraction, read⟩ := bind_eq_ok.mp read
  obtain ⟨third, exponent, read⟩ := bind_eq_ok.mp read
  simp only [Pure.pure, Except.pure, Except.ok.injEq, Prod.mk.injEq] at read
  have shrunk := readWhole_shorter whole
  have further := readFraction_shorter fraction
  have last := readExponent_shorter exponent
  rw [← read.2]
  omega

/-- A numeral shortens the text. -/
theorem readNumeral_shorter {text rest : List Char} {numeral : Numeral}
    (read : readNumeral text = .ok (numeral, rest)) : rest.length < text.length := by
  -- A sign, where there is one, only shortens it further.
  unfold readNumeral at read
  split at read
  · have := readUnsigned_shorter read
    simp only [List.length_cons]
    omega
  · exact readUnsigned_shorter read

end Tollgate.Json
