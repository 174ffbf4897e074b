import Tollgate.Proofs.Text.Utf8
import Tollgate.Web.Form

/-!
Forms in every way they may be written. Whichever characters are escaped, in whatever casing, and
however many signs stand between the pairs, the names and values are read as they were meant.
-/

namespace Tollgate

namespace Text

section

variable {Symbol : Type} [DecidableEq Symbol] {mark : Symbol} {piece : List Symbol}

/-- A text without the mark is a single piece. -/
theorem pieces_of_unmarked (unmarked : mark ∉ piece) : pieces mark piece = [piece] := by
  -- The cut would be made at a mark, and there is none.
  induction piece with
  | nil => rfl
  | cons symbol rest ih =>
    obtain ⟨other, later⟩ := List.ne_and_not_mem_of_not_mem_cons unmarked
    rw [pieces, if_neg (Ne.symm other), ih later]

/-- The first piece ends where the mark occurs first. -/
theorem pieces_append (unmarked : mark ∉ piece) (rest : List Symbol) :
    pieces mark (piece ++ mark :: rest) = piece :: pieces mark rest := by
  -- The mark is found behind the symbols of the piece, none of which is a mark itself.
  induction piece with
  | nil => rw [List.nil_append, pieces, if_pos rfl]
  | cons symbol more ih =>
    obtain ⟨other, later⟩ := List.ne_and_not_mem_of_not_mem_cons unmarked
    rw [List.cons_append, pieces, if_neg (Ne.symm other), ih later]

/-- Marks at the front do not matter where empty pieces do not. -/
theorem filter_pieces_replicate (mark : Symbol) (count : Nat) (rest : List Symbol) :
    (pieces mark (List.replicate count mark ++ rest)).filter (!·.isEmpty) =
      (pieces mark rest).filter (!·.isEmpty) := by
  -- Every mark at the front ends one more piece, with nothing in it.
  induction count with
  | zero => rfl
  | succ count ih =>
    rw [List.replicate_succ, List.cons_append, pieces, if_pos rfl,
      List.filter_cons_of_neg (by simp), ih]

/-- The cut is made where the mark occurs first. -/
theorem cutAtFirst_append (unmarked : mark ∉ piece) (rest : List Symbol) :
    cutAtFirst mark (piece ++ mark :: rest) = (piece, rest) := by
  -- The symbols of the piece are passed by, and the mark that follows is not.
  have passed : ∀ symbol ∈ piece, decide (symbol ≠ mark) = true := by
    intro symbol member
    have other : symbol ≠ mark := fun same => unmarked (same ▸ member)
    exact decide_eq_true other
  rw [cutAtFirst, List.takeWhile_append_of_pos passed, List.dropWhile_append_of_pos passed]
  simp

end

/-- The character is the digit of base sixteen with a value, in either case. -/
def IsHexDigit (value : Nat) (c : Char) : Prop :=
  c = hexDigit value ∨ c = (hexDigit value).toUpper

/-- A digit of base sixteen has its value in either case. -/
theorem IsHexDigit.value {value : Nat} {c : Char} (digit : IsHexDigit value c)
    (fits : value < 16) : hexValue? c = some value := by
  -- There are sixteen digits in two cases, so each of them can be looked at.
  have each : ∀ value < 16, hexValue? (hexDigit value) = some value ∧
      hexValue? (hexDigit value).toUpper = some value := by decide
  rcases digit with rfl | rfl
  · exact (each value fits).1
  · exact (each value fits).2

end Text

namespace Web

/-- A character that a form carries as it is: a letter or a digit of the ASCII range, or one of four
signs. -/
def isPlain (c : Char) : Bool :=
  ('a' ≤ c && c ≤ 'z') || ('A' ≤ c && c ≤ 'Z') || ('0' ≤ c && c ≤ '9') || c == '*' || c == '-' ||
    c == '.' || c == '_'

/-- The ways to write an octet in a form: as the character it is the code of, if that is plain, as a
plus sign, if it is that of a space, or by an escape. -/
inductive WritesOctet (octet : UInt8) : List Char → Prop
  | plain {c : Char} (plain : isPlain c = true) (coded : octet.toNat = c.toNat) :
    WritesOctet octet [c]
  | plus (space : octet.toNat = ' '.toNat) : WritesOctet octet ['+']
  | escape {high low : Char} (first : Text.IsHexDigit (octet.toNat / 16) high)
      (second : Text.IsHexDigit (octet.toNat % 16) low) : WritesOctet octet ['%', high, low]

/-- The ways to write octets, one after another. -/
inductive WritesOctets : List UInt8 → List Char → Prop
  | nil : WritesOctets [] []
  | cons {octet : UInt8} {octets : List UInt8} {written more : List Char}
      (first : WritesOctet octet written) (rest : WritesOctets octets more) :
      WritesOctets (octet :: octets) (written ++ more)

/-- The ways to write a text, by its octets. -/
def WritesText (text : String) (written : List Char) : Prop :=
  WritesOctets text.toUTF8.toList written

/-- The ways to write names and values, each pair with a sign between, and any number of signs
between one pair and the next. -/
inductive WritesForm : List (String × String) → List Char → Prop
  | none : WritesForm [] []
  | one {name value : String} {spelled meant : List Char} (named : WritesText name spelled)
      (valued : WritesText value meant) : WritesForm [(name, value)] (spelled ++ '=' :: meant)
  | more {name value : String} {next : String × String} {others : List (String × String)}
      {spelled meant written : List Char} (named : WritesText name spelled)
      (valued : WritesText value meant) (count : Nat)
      (rest : WritesForm (next :: others) written) :
      WritesForm ((name, value) :: next :: others)
        (spelled ++ '=' :: meant ++ List.replicate (count + 1) '&' ++ written)

/-- Every text can be written, if need be by escapes alone. -/
theorem exists_writesText (text : String) : ∃ written, WritesText text written := by
  unfold WritesText
  -- Octets are escaped one by one, and every octet has two digits of base sixteen.
  induction text.toUTF8.toList with
  | nil => exact ⟨[], .nil⟩
  | cons octet rest ih =>
    obtain ⟨written, writes⟩ := ih
    exact ⟨_, .cons (.escape (Or.inl rfl) (Or.inl rfl)) writes⟩

/-- Whatever the names and values, there is a form for them. -/
theorem exists_writesForm (pairs : List (String × String)) :
    ∃ form : String, WritesForm pairs form.toList := by
  -- The last pair is written without a sign behind it, all others with a single one.
  have written : ∃ written, WritesForm pairs written := by
    induction pairs with
    | nil => exact ⟨[], .none⟩
    | cons pair others ih =>
      obtain ⟨spelled, named⟩ := exists_writesText pair.1
      obtain ⟨meant, valued⟩ := exists_writesText pair.2
      cases others with
      | nil => exact ⟨_, .one named valued⟩
      | cons next others =>
        obtain ⟨written, rest⟩ := ih
        exact ⟨_, .more named valued 0 rest⟩
  obtain ⟨written, writes⟩ := written
  exact ⟨String.ofList written, String.toList_ofList ▸ writes⟩

/-- The octet of a character of the ASCII range. -/
def octetOf (c : Char) : UInt8 := UInt8.ofNat c.toNat

/-- A character that is in the ASCII range and does not separate anything in a form. -/
def Inside (c : Char) : Prop := c.toNat < 0x80 ∧ c ≠ '&' ∧ c ≠ '='

variable {octet : UInt8} {octets : List UInt8} {written : List Char} {text : String} {c : Char}

/-- The octet of such a character has its code. -/
theorem toNat_octetOf (ascii : c.toNat < 0x80) : (octetOf c).toNat = c.toNat := by
  rw [octetOf, UInt8.toNat_ofNat', Nat.mod_eq_of_lt (by omega)]

/-- Such characters differ if their octets do not. -/
theorem octetOf_ne {other : Char} (ascii : c.toNat < 0x80) (alsoAscii : other.toNat < 0x80)
    (differ : c ≠ other) : octetOf c ≠ octetOf other := by
  -- Characters of the ASCII range are told apart by their codes, and these are kept in the octets.
  intro same
  have codes := congrArg UInt8.toNat same
  rw [toNat_octetOf ascii, toNat_octetOf alsoAscii] at codes
  exact differ (Char.toNat_inj.mp codes)

/-- Plain characters are in the ASCII range, and none of them has a meaning of its own in a form. -/
theorem isPlain_spec (plain : isPlain c = true) :
    c.toNat < 0x80 ∧ c ≠ '&' ∧ c ≠ '=' ∧ c ≠ '+' ∧ c ≠ '%' := by
  have ascii : c.toNat < 0x80 := by
    simp only [isPlain, Bool.or_eq_true, Bool.and_eq_true, decide_eq_true_eq, beq_iff_eq] at plain
    -- The last letters and the last digit bound the codes of the others.
    rcases plain with (((((⟨-, last⟩ | ⟨-, last⟩) | ⟨-, last⟩) | rfl) | rfl) | rfl) | rfl
    · exact Nat.lt_of_le_of_lt last (by decide)
    · exact Nat.lt_of_le_of_lt last (by decide)
    · exact Nat.lt_of_le_of_lt last (by decide)
    all_goals decide
  -- That none of them has a meaning of its own can be seen from each of the 128 characters.
  have each : ∀ code < 0x80, isPlain (Char.ofNat code) = true →
      Char.ofNat code ≠ '&' ∧ Char.ofNat code ≠ '=' ∧ Char.ofNat code ≠ '+' ∧
        Char.ofNat code ≠ '%' := by decide
  have apart := each c.toNat ascii
  rw [Char.ofNat_toNat] at apart
  exact ⟨ascii, apart plain⟩

/-- Digits of base sixteen are plain. -/
theorem isPlain_of_isHexDigit {value : Nat} (fits : value < 16) (digit : Text.IsHexDigit value c) :
    isPlain c = true := by
  have each : ∀ value < 16, isPlain (Text.hexDigit value) = true ∧
      isPlain (Text.hexDigit value).toUpper = true := by decide
  rcases digit with rfl | rfl
  · exact (each value fits).1
  · exact (each value fits).2

/-- Nothing with which an octet is written separates anything. -/
theorem WritesOctet.inside (writes : WritesOctet octet written) : ∀ c ∈ written, Inside c := by
  have plainInside {c : Char} (plain : isPlain c = true) : Inside c := by
    obtain ⟨ascii, notAnd, notEquals, -⟩ := isPlain_spec plain
    exact ⟨ascii, notAnd, notEquals⟩
  -- The digits of an octet are what makes the escapes fit.
  have high : octet.toNat / 16 < 16 := by
    have := octet.toNat_lt
    omega
  have low : octet.toNat % 16 < 16 := Nat.mod_lt _ (by decide)
  cases writes with
  | plain plain => simpa using plainInside plain
  | plus => simpa using show Inside '+' from ⟨by decide, by decide, by decide⟩
  | escape first second =>
    simp only [List.mem_cons, List.not_mem_nil, or_false, forall_eq_or_imp, forall_eq]
    exact ⟨⟨by decide, by decide, by decide⟩, plainInside (isPlain_of_isHexDigit high first),
      plainInside (isPlain_of_isHexDigit low second)⟩

/-- Nothing with which octets are written separates anything. -/
theorem WritesOctets.inside (writes : WritesOctets octets written) :
    ∀ c ∈ written, Inside c := by
  -- What is written consists of what is written for each octet.
  induction writes with
  | nil => simp
  | cons first rest ih =>
    intro c member
    rcases List.mem_append.mp member with here | later
    · exact first.inside c here
    · exact ih c later

/-- An octet that begins no escape stands for itself. -/
theorem unescape_cons_of_ne (other : octet.toNat ≠ '%'.toNat) (rest : List UInt8) :
    unescape (octet :: rest) = octet :: unescape rest := by
  -- An escape takes three octets, so the cases are those of the two that may follow.
  match rest with
  | [] | [_] => rfl
  | high :: low :: rest => rw [unescape, if_neg other]

/-- Only the sign that stands for a space is read as something else before escapes are. -/
theorem plusToSpace_octetOf (ascii : c.toNat < 0x80) (other : c ≠ '+') :
    plusToSpace (octetOf c) = octetOf c := by
  -- The octet of another character has another code than the plus sign.
  have differ : ¬ (octetOf c).toNat = '+'.toNat := by
    rw [toNat_octetOf ascii]
    exact fun same => other (Char.toNat_inj.mp same)
  rw [plusToSpace, if_neg differ]

/-- An octet is read back in whichever way it has been written, and reading goes on behind it. -/
theorem WritesOctet.read (writes : WritesOctet octet written) (rest : List UInt8) :
    unescape ((written.map octetOf).map plusToSpace ++ rest) = octet :: unescape rest := by
  cases writes with
  | @plain c plain coded =>
    obtain ⟨ascii, -, -, notPlus, notPercent⟩ := isPlain_spec plain
    -- A plain character stands for its own octet, which is not the one that begins escapes.
    have same : octetOf c = octet := by
      rw [octetOf, ← coded]
      exact UInt8.ofNat_toNat
    have apart : octet.toNat ≠ '%'.toNat := by
      rw [coded]
      exact fun same => notPercent (Char.toNat_inj.mp same)
    rw [List.map_singleton, List.map_singleton, plusToSpace_octetOf ascii notPlus, same,
      List.singleton_append, unescape_cons_of_ne apart]
  | plus space =>
    -- The plus sign is turned into a space first, and a space begins no escape.
    have same : plusToSpace (octetOf '+') = octet := by
      apply UInt8.toNat_inj.mp
      rw [space]
      rfl
    have apart : octet.toNat ≠ '%'.toNat := by
      rw [space]
      decide
    rw [List.map_singleton, List.map_singleton, same, List.singleton_append,
      unescape_cons_of_ne apart]
  | @escape high low first second =>
    have bound := octet.toNat_lt
    have fits : octet.toNat / 16 < 16 := by omega
    have alsoFits : octet.toNat % 16 < 16 := Nat.mod_lt _ (by decide)
    -- Both digits are plain characters, and so they come through as they are.
    obtain ⟨ascii, -, -, notPlus, -⟩ := isPlain_spec (isPlain_of_isHexDigit fits first)
    obtain ⟨alsoAscii, -, -, alsoNotPlus, -⟩ := isPlain_spec (isPlain_of_isHexDigit alsoFits second)
    have percent : plusToSpace (octetOf '%') = octetOf '%' := by decide
    have value : UInt8.ofNat (octet.toNat / 16 * 16 + octet.toNat % 16) = octet := by
      rw [Nat.div_add_mod']
      exact UInt8.ofNat_toNat
    simp only [List.map_cons, List.map_nil, percent, plusToSpace_octetOf ascii notPlus,
      plusToSpace_octetOf alsoAscii alsoNotPlus, List.cons_append, List.nil_append]
    rw [unescape, if_pos (by rfl), toNat_octetOf ascii, toNat_octetOf alsoAscii, Char.ofNat_toNat,
      Char.ofNat_toNat, first.value fits, second.value alsoFits]
    simp only [value]

/-- Octets are read back in whichever way they have been written. -/
theorem WritesOctets.read (writes : WritesOctets octets written) :
    unescape ((written.map octetOf).map plusToSpace) = octets := by
  -- Reading one octet leaves the rest as it is, so the octets are read one after another.
  induction writes with
  | nil => rfl
  | cons first rest ih => rw [List.map_append, List.map_append, first.read, ih]

/-- A text is read back in whichever way it has been written. -/
theorem WritesText.read (writes : WritesText text written) :
    decodeForm (written.map octetOf) = text := by
  rw [decodeForm, WritesOctets.read writes, Text.decodeLossy_octets]

/-- A sign that separates is none of the characters with which a text is written. -/
theorem WritesText.unmarked (writes : WritesText text written) {mark : Char}
    (separates : mark = '&' ∨ mark = '=') : octetOf mark ∉ written.map octetOf := by
  intro member
  -- Such a sign would be one of the characters written, and none of those separates anything.
  obtain ⟨c, inside, same⟩ := List.mem_map.mp member
  obtain ⟨ascii, notAnd, notEquals⟩ := WritesOctets.inside writes c inside
  rcases separates with rfl | rfl
  · exact octetOf_ne ascii (by decide) notAnd same
  · exact octetOf_ne ascii (by decide) notEquals same

/-- A pair is read back from the names and values that have been written with a sign between. -/
theorem formPair_of_writes {name value : String} {spelled meant : List Char}
    (named : WritesText name spelled) (valued : WritesText value meant) :
    formPair ((spelled ++ '=' :: meant).map octetOf) = (name, value) := by
  -- The first sign of the pair is the one between name and value, for no name contains it.
  have cut := Text.cutAtFirst_append (named.unmarked (Or.inr rfl)) (meant.map octetOf)
  rw [formPair, List.map_append, List.map_cons]
  show (decodeForm (Text.cutAtFirst (octetOf '=') _).1,
    decodeForm (Text.cutAtFirst (octetOf '=') _).2) = _
  rw [cut, named.read, valued.read]

/-- No pair is written without its sign, and none with a sign that separates pairs. -/
theorem unmarked_of_writes {name value : String} {spelled meant : List Char}
    (named : WritesText name spelled) (valued : WritesText value meant) :
    octetOf '&' ∉ (spelled ++ '=' :: meant).map octetOf := by
  -- A sign between pairs would be in the name, in the value, or the sign between the two.
  rw [List.map_append, List.map_cons, List.mem_append, List.mem_cons]
  rintro (inName | isSign | inValue)
  · exact named.unmarked (Or.inl rfl) inName
  · exact octetOf_ne (by decide) (by decide) (by decide) isSign
  · exact valued.unmarked (Or.inl rfl) inValue

/-- Forms are in the ASCII range throughout. -/
theorem WritesForm.ascii {pairs : List (String × String)} (writes : WritesForm pairs written) :
    ∀ c ∈ written, c.toNat < 0x80 := by
  have inPair {name value : String} {spelled meant : List Char} (named : WritesText name spelled)
      (valued : WritesText value meant) : ∀ c ∈ spelled ++ '=' :: meant, c.toNat < 0x80 := by
    intro c member
    rcases List.mem_append.mp member with inName | inRest
    · exact (WritesOctets.inside named c inName).1
    · rcases List.mem_cons.mp inRest with rfl | inValue
      · decide
      · exact (WritesOctets.inside valued c inValue).1
  -- Between the pairs there are only signs, and they are in the ASCII range too.
  induction writes with
  | none => simp
  | one named valued => exact inPair named valued
  | more named valued count rest ih =>
    intro c member
    rcases List.mem_append.mp member with inFront | later
    · rcases List.mem_append.mp inFront with here | between
      · exact inPair named valued c here
      · rw [List.eq_of_mem_replicate between]
        decide
    · exact ih c later

/-- The pairs of a form are read back in whichever way they have been written. -/
theorem formPairs_of_writes {pairs : List (String × String)} {form : String}
    (writes : WritesForm pairs form.toList) : formPairs form = pairs := by
  have octets := Text.octets_of_ascii writes.ascii
  rw [String.ofList_toList] at octets
  -- The octets that separate pairs are followed by those of the pairs that are left.
  have read {pairs : List (String × String)} {written : List Char}
      (writes : WritesForm pairs written) :
      ((Text.pieces (octetOf '&') (written.map octetOf)).filter (!·.isEmpty)).map formPair =
        pairs := by
    -- The induction follows the pairs: the first piece is the first pair, and the rest is a form
    -- again.
    induction writes with
    | none => rfl
    | one named valued =>
      rw [Text.pieces_of_unmarked (unmarked_of_writes named valued),
        List.filter_cons_of_pos (by simp)]
      exact congrArg ([·]) (formPair_of_writes named valued)
    | more named valued count rest ih =>
      rw [List.map_append, List.map_append, List.append_assoc, List.map_replicate,
        List.replicate_succ, List.cons_append, Text.pieces_append (unmarked_of_writes named valued),
        List.filter_cons_of_pos (by simp), Text.filter_pieces_replicate, List.map_cons, ih,
        formPair_of_writes named valued]
  rw [formPairs, octets]
  exact read writes

end Web

end Tollgate
