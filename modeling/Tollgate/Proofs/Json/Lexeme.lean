import Mathlib.Data.List.Induction
import Tollgate.Json.Basic
import Tollgate.Json.Magnitude
import Tollgate.Proofs.Web.Form

/-!
Quoted texts and numbers as they are written are read back. Inside quotes every character is read
from its own form, and a number is read up to where it ends.
-/

namespace Tollgate.Json

/-- A number ends before the text: it does not begin with what could go on with one. -/
def EndsNumber (rest : List Char) : Prop :=
  ∀ c ∈ rest.head?, c.isDigit = false ∧ c ≠ '.' ∧ c ≠ 'e' ∧ c ≠ 'E'

/-- A number ends where the whole text does. -/
theorem endsNumber_nil : EndsNumber [] := by
  simp [EndsNumber]

/-- A number ends before a comma and before a closing bracket. -/
theorem endsNumber_cons {c : Char} (mark : c = ',' ∨ c = ']' ∨ c = '\x7d') (rest : List Char) :
    EndsNumber (c :: rest) := by
  -- Only the first character counts.
  intro first found
  obtain rfl : c = first := by simpa using found
  rcases mark with rfl | rfl | rfl <;> decide

/-- The digits that escape a control character are read as its code. -/
theorem readUnit_control {code : Nat} (small : code < 0x20) (rest : List Char) :
    readUnit ('0' :: '0' :: Text.hexDigit (code / 16) :: Text.hexDigit (code % 16) :: rest) =
      .ok (code, rest) := by
  -- Both digits have their values, and these make up the code.
  have zero : Text.hexValue? '0' = some 0 := by decide
  have high : Text.hexValue? (Text.hexDigit (code / 16)) = some (code / 16) :=
    Text.IsHexDigit.value (Or.inl rfl) (by omega)
  have low : Text.hexValue? (Text.hexDigit (code % 16)) = some (code % 16) :=
    Text.IsHexDigit.value (Or.inl rfl) (by omega)
  have whole : ((0 * 16 + 0) * 16 + code / 16) * 16 + code % 16 = code := by omega
  simp only [readUnit, zero, high, low, whole]

/-- An escaped control character is read as itself. -/
theorem readCoded_control {c : Char} (control : c.toNat < 0x20) (rest : List Char) :
    readCoded
        ('0' :: '0' :: Text.hexDigit (c.toNat / 16) :: Text.hexDigit (c.toNat % 16) :: rest) =
      .ok (c, rest) := by
  -- Its code is far below those of the units that come in pairs.
  have notTrailing : isTrailing c.toNat = false := by
    simp only [isTrailing, Bool.and_eq_false_iff, decide_eq_false_iff_not]
    omega
  have notLeading : isLeading c.toNat = false := by
    simp only [isLeading, Bool.and_eq_false_iff, decide_eq_false_iff_not]
    omega
  -- So the unit stands for a character by itself.
  rw [readCoded, readUnit_control control]
  simp [notTrailing, notLeading, Char.ofNat_toNat]

/-- Reading a quoted text goes on behind an escape. -/
theorem readQuoted_escape {text after : List Char} {c : Char}
    (escape : readEscape text = .ok (c, after)) :
    readQuoted ('\\' :: text) = (readQuoted after).map fun (more, rest) => (c :: more, rest) := by
  rw [readQuoted]
  -- The escape decides: what follows it is read as before.
  split
  · rename_i flawed
    simp [escape] at flawed
  · rename_i found
    obtain ⟨rfl, rfl⟩ : c = _ ∧ after = _ := by simpa [escape] using found
    cases readQuoted after <;> rfl

/-- Reading a quoted text goes on behind a character that stands for itself. -/
theorem readQuoted_plain {c : Char} (quote : c ≠ '"') (backslash : c ≠ '\\')
    (visible : ¬ c.toNat < 0x20) (text : List Char) :
    readQuoted (c :: text) = (readQuoted text).map fun (more, rest) => (c :: more, rest) := by
  rw [readQuoted.eq_def]
  -- The equations are told apart by the first character, and the last of them is left.
  split <;> rename_i same
  · cases same
  · simp only [List.cons.injEq] at same
    exact absurd same.1 quote
  · simp only [List.cons.injEq] at same
    exact absurd same.1 backslash
  · obtain ⟨rfl, rfl⟩ := List.cons.inj same
    rw [if_neg visible]
    cases readQuoted text <;> rfl

/-- A character is read from the form it has inside quotes. -/
theorem readQuoted_escaped (c : Char) (text : List Char) :
    readQuoted (escaped c ++ text) =
      (readQuoted text).map fun (more, rest) => (c :: more, rest) := by
  -- Seven characters have short escapes, other control characters long ones, and all else none.
  unfold escaped
  split
  -- The short escapes are read back by computation.
  iterate 7 exact readQuoted_escape rfl
  rename_i quote backslash _ _ _ _ _
  split
  · rename_i control
    exact readQuoted_escape (readCoded_control control text)
  · rename_i visible
    exact readQuoted_plain quote backslash visible text

/-- A quoted text is read back up to its closing quote. -/
theorem readQuoted_flatMap (characters rest : List Char) :
    readQuoted (characters.flatMap escaped ++ '"' :: rest) = .ok (characters, rest) := by
  induction characters with
  -- The form of the first character is read, and the others follow.
  | nil => simp [readQuoted]
  | cons c more ih =>
    rw [List.flatMap_cons, List.append_assoc, readQuoted_escaped, ih]
    rfl

/-- The first digit of a number is a zero only if the number is. -/
theorem head_toDigits_ne_zero {number : Nat} (positive : 0 < number) (more : List Char) :
    Nat.toDigits 10 number ≠ '0' :: more := by
  -- Taking the last digit off leaves a smaller number with the same first digit.
  induction number using Nat.strongRecOn generalizing more with
  | _ number ih =>
    intro leading
    -- A single digit is the number itself.
    by_cases small : number < 10
    · rw [Nat.toDigits_of_lt_base small] at leading
      have digit : number.digitChar = '0' := (List.cons.inj leading).1
      have others : ∀ value < 10, 0 < value → value.digitChar ≠ '0' := by decide
      exact others number small positive digit
    · rw [Nat.toDigits_of_base_le (by omega) (by omega)] at leading
      -- The last digit is not the first, so the first one is that of the number without the last.
      cases shorter : Nat.toDigits 10 (number / 10) with
      | nil => exact Nat.toDigits_ne_nil shorter
      | cons first others =>
        rw [shorter, List.cons_append] at leading
        obtain rfl : first = '0' := (List.cons.inj leading).1
        exact ih (number / 10) (by omega) (by omega) others shorter

/-- The digits of a number are read up to where it ends. -/
theorem readDigits_toDigits (number : Nat) {rest : List Char} (ends : EndsNumber rest) :
    readDigits (Nat.toDigits 10 number ++ rest) = .ok (Nat.toDigits 10 number, rest) := by
  -- All characters of the number are digits, and what stands behind it begins with none.
  have digits : ∀ c ∈ Nat.toDigits 10 number, c.isDigit = true :=
    fun c => Nat.isDigit_of_mem_toDigits (by decide) (by decide)
  have nothing : rest.takeWhile Char.isDigit = [] ∧ rest.dropWhile Char.isDigit = rest := by
    cases rest with
    | nil => exact ⟨rfl, rfl⟩
    | cons c more =>
      have other := (ends c rfl).1
      -- Such a character is where taking digits stops.
      simp [other]
  have present : (Nat.toDigits 10 number).isEmpty = false := by
    simp [Nat.toDigits_ne_nil]
  simp only [readDigits, List.takeWhile_append_of_pos digits, List.dropWhile_append_of_pos digits,
    nothing.1, nothing.2, List.append_nil, present]
  rfl

/-- So is the number, since it has no zeros in front. -/
theorem readWhole_toDigits (number : Nat) {rest : List Char} (ends : EndsNumber rest) :
    readWhole (Nat.toDigits 10 number ++ rest) = .ok (Nat.toDigits 10 number, rest) := by
  rw [readWhole, readDigits_toDigits number ends]
  -- Only a zero in front would be an error, and then only with more digits behind it.
  split
  · rename_i read
    simp at read
  · rename_i leading
    simp only [Except.ok.injEq, Prod.mk.injEq] at leading
    -- A positive number has no zero in front, and zero is a single digit.
    rcases Nat.eq_zero_or_pos number with rfl | positive
    · simp [Nat.toDigits_of_lt_base] at leading
    · exact absurd leading.1 (head_toDigits_ne_zero positive _)
  · rename_i read
    exact read.symm

/-- A number without point and exponent is read as such. -/
theorem readNumeral_toDigits (number : Nat) {rest : List Char} (ends : EndsNumber rest) :
    readNumeral (Nat.toDigits 10 number ++ rest) =
      .ok (⟨false, Nat.toDigits 10 number, [], none⟩, rest) := by
  -- What stands behind the number goes on with none of its parts.
  have fraction : readFraction rest = .ok ([], rest) := by
    unfold readFraction
    split
    · exact absurd rfl (ends '.' rfl).2.1
    · rfl
  have exponent : readExponent rest = .ok (none, rest) := by
    cases rest with
    | nil => rfl
    | cons c more =>
      obtain ⟨-, -, lower, upper⟩ := ends c rfl
      simp [readExponent, lower, upper]
  have unsigned : readUnsigned false (Nat.toDigits 10 number ++ rest) =
      .ok (⟨false, Nat.toDigits 10 number, [], none⟩, rest) := by
    simp [readUnsigned, readWhole_toDigits number ends, fraction, exponent, Bind.bind, Except.bind,
      Pure.pure, Except.pure]
  -- A minus sign would have to be the first digit.
  unfold readNumeral
  split
  · rename_i more sign
    have digit : ∀ c ∈ (Nat.toDigits 10 number).head?, c.isDigit = true := fun c found =>
      Nat.isDigit_of_mem_toDigits (by decide) (by decide) (List.mem_of_mem_head? found)
    -- The first character of the number is a digit, and a minus sign is not.
    cases digits : Nat.toDigits 10 number with
    | nil => exact absurd digits Nat.toDigits_ne_nil
    | cons first others =>
      rw [digits, List.cons_append] at sign
      obtain rfl : first = '-' := (List.cons.inj sign).1
      have := digit '-' (by simp [digits])
      exact absurd this (by decide)
  · exact unsigned

/-- The value of the digits of a number is the number. -/
theorem digitsValue_toDigits (number : Nat) : digitsValue (Nat.toDigits 10 number) = number := by
  -- The library adds up digits in the same way.
  have value := Nat.ofDigitChars_toDigits (b := 10) (n := number) (by decide) (by decide)
  simpa only [digitsValue, Nat.ofDigitChars, Nat.mul_comm 10] using value

/-- One more digit. -/
theorem digitsValue_concat (digits : List Char) (c : Char) :
    digitsValue (digits ++ [c]) = digitsValue digits * 10 + (c.toNat - '0'.toNat) := by
  simp [digitsValue]

/-- More digits make no smaller value. -/
theorem digitsValue_le_append (digits more : List Char) :
    digitsValue digits ≤ digitsValue (digits ++ more) := by
  induction more using List.reverseRecOn with
  -- Each further digit multiplies what there is by ten, and adds to it.
  | nil => simp
  | append_singleton more c ih =>
    rw [← List.append_assoc, digitsValue_concat]
    omega

/-- All digits are taken into a significand that stays below the limit. -/
theorem absorbDigits_of_lt {taken digits : List Char}
    (fits : digitsValue (taken ++ digits) < UInt64.size) :
    absorbDigits (digitsValue taken) digits = (digitsValue (taken ++ digits), []) := by
  induction digits generalizing taken with
  | nil => simp [absorbDigits]
  | cons c rest ih =>
    -- The digits up to this one are among those whose value is below the limit.
    rw [List.append_cons] at fits ⊢
    have below := Nat.lt_of_le_of_lt (digitsValue_le_append _ rest) fits
    rw [digitsValue_concat] at below
    rw [absorbDigits, if_neg (Nat.not_le_of_lt below), ← digitsValue_concat, ih fits]

/-- A number of at most fifty-three bits is a double itself. -/
theorem toDoublePrecision_of_log2_le {value : Nat} (fits : value.log2 ≤ 52) :
    toDoublePrecision value = value := by
  -- Nothing is rounded off where all bits fit.
  have unit : value.log2 - 52 = 0 := by omega
  simp [toDoublePrecision, unit, Nat.mod_one]

/-- The value of a number of thirty-two bits, written in digits, is within range and is the
number. -/
theorem natural?_toDigits {number : Nat} (fits : number < UInt32.size) :
    let numeral : Numeral := ⟨false, Nat.toDigits 10 number, [], none⟩
    numeral.outOfRange = false ∧ numeral.natural? = some number := by
  intro numeral
  have below : number < UInt64.size := Nat.lt_trans fits (by decide)
  -- All digits go into the significand, so there is no power of ten to multiply it with.
  have absorbed : absorbDigits 0 (Nat.toDigits 10 number) = (number, []) := by
    have all : absorbDigits (digitsValue []) (Nat.toDigits 10 number) =
        (digitsValue ([] ++ Nat.toDigits 10 number), []) :=
      absorbDigits_of_lt (by rwa [List.nil_append, digitsValue_toDigits])
    rwa [List.nil_append, digitsValue_toDigits] at all
  have precise : toDoublePrecision number = number := by
    -- Thirty-two bits are fewer than fifty-three.
    refine toDoublePrecision_of_log2_le ?_
    rcases Nat.eq_zero_or_pos number with rfl | positive
    · decide
    · have bits : number.log2 < 32 := (Nat.log2_lt (by omega)).mpr fits
      omega
  -- Doubles reach far beyond thirty-two bits.
  have small : number < doubleLimit := Nat.lt_trans fits (by decide +kernel)
  constructor
  · have one : toDoublePrecision 1 = 1 := toDoublePrecision_of_log2_le (by decide)
    simp [Numeral.outOfRange, numeral, absorbed, absorbDigits, exponentValue, precise, one, small]
  · simp [Numeral.natural?, numeral, digitsValue_toDigits, below]

end Tollgate.Json
