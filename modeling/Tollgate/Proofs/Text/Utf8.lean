import Tollgate.Text.Utf8

/-!
Octets of texts. A text is read back from its octets as it was, one character after another, and
characters of the ASCII range have one octet each.
-/

namespace Tollgate.Text

/-- The octets are listed in their order. -/
theorem toList_eq_data (octets : ByteArray) : octets.toList = octets.data.toList := by
  have listed (place : Nat) (done : List UInt8) :
      ByteArray.toList.loop octets place done =
        done.reverse ++ octets.data.toList.drop place := by
    -- The octets from the place on come behind those that are done.
    fun_induction ByteArray.toList.loop octets place done with
    | case1 place done inside ih =>
      have listed : place < octets.data.toList.length := by simpa using inside
      have found : octets.get! place = octets.data[place] := getElem!_pos octets.data place inside
      rw [ih, found, List.drop_eq_getElem_cons listed]
      simp
    | case2 place done outside =>
      -- Past the end there is nothing left to list.
      rw [List.drop_eq_nil_of_le (by simpa using Nat.le_of_not_lt outside)]
      simp
  simpa [ByteArray.toList] using listed 0 []

/-- The octets of a text are those of its characters. -/
theorem octets_ofList (text : List Char) :
    (String.ofList text).toUTF8.toList = text.flatMap String.utf8EncodeChar := by
  -- The octets are kept in an array, which is compared as a list.
  rw [toList_eq_data]
  show (String.ofList text).toByteArray.data.toList = _
  rw [String.toByteArray_ofList]
  exact List.toList_data_toByteArray

/-- A character of the ASCII range has one octet, which is its code. -/
theorem utf8EncodeChar_of_ascii {c : Char} (ascii : c.toNat < 0x80) :
    String.utf8EncodeChar c = [UInt8.ofNat c.toNat] := by
  -- The encoding asks for the code first, and such a code needs no more than seven bits.
  have small : c.val.toNat ≤ 127 := Nat.le_of_lt_succ ascii
  simp only [String.utf8EncodeChar, small, if_true]
  rfl

/-- A text of such characters has as many octets, their codes in their order. -/
theorem octets_of_ascii {text : List Char} (ascii : ∀ c ∈ text, c.toNat < 0x80) :
    (String.ofList text).toUTF8.toList = text.map fun c => UInt8.ofNat c.toNat := by
  rw [octets_ofList]
  -- Each character adds the one octet that is its code.
  induction text with
  | nil => rfl
  | cons first rest ih =>
    rw [List.flatMap_cons, utf8EncodeChar_of_ascii (ascii first (by simp)), List.map_cons,
      ih fun c member => ascii c (by simp [member])]
    rfl

/-- A first octet is met as its value says. -/
theorem scan_first {octet : Nat} (fits : octet < 256) (rest : List UInt8) :
    scan none (UInt8.ofNat octet :: rest) = (opening octet).resume fun state => scan state rest := by
  -- The octet keeps its value, as it is less than 256.
  rw [scan, UInt8.toNat_ofNat', Nat.mod_eq_of_lt fits]

section

variable {bits gathered low high : Nat}

/-- Six bits fit into an octet behind a first one. -/
theorem toNat_ofNat_continued (fits : bits < 64) :
    (UInt8.ofNat (bits + 128)).toNat = bits + 128 := by
  rw [UInt8.toNat_ofNat', Nat.mod_eq_of_lt (by omega)]

/-- An octet within its bounds goes on with a character. -/
theorem scan_next (fits : bits < 64) (least : low ≤ bits + 128) (greatest : bits + 128 ≤ high)
    (after : Nat) (rest : List UInt8) :
    scan (some ⟨gathered, after + 1, low, high⟩) (UInt8.ofNat (bits + 128) :: rest) =
      scan (some ⟨gathered * 64 + bits, after, 0x80, 0xBF⟩) rest := by
  -- Its bounds are met, and taking off the mark leaves the six bits.
  simp only [scan, toNat_ofNat_continued fits, least, greatest, decide_true, Bool.and_self, if_true,
    Nat.add_sub_cancel]

/-- The last octet within its bounds ends a character. -/
theorem scan_last (fits : bits < 64) (least : low ≤ bits + 128) (greatest : bits + 128 ≤ high)
    (rest : List UInt8) :
    scan (some ⟨gathered, 0, low, high⟩) (UInt8.ofNat (bits + 128) :: rest) =
      some (Char.ofNat (gathered * 64 + bits)) :: scan none rest := by
  -- With no octet to come the bits that are gathered make up the character.
  simp only [scan, toNat_ofNat_continued fits, least, greatest, decide_true, Bool.and_self, if_true,
    Nat.add_sub_cancel]

end

/-- The first of two octets. -/
theorem opening_of_two {bits : Nat} (least : 2 ≤ bits) (fits : bits < 32) :
    opening (bits + 192) = .begun ⟨bits, 0, 0x80, 0xBF⟩ := by
  -- Of the ranges of first octets, this is the only one with the value in it.
  simp (disch := omega) only [opening, if_neg, if_pos, Nat.add_sub_cancel]

/-- The first of three octets. The bounds on the second one exclude what would fit into two, and
surrogates. -/
theorem opening_of_three {bits : Nat} (fits : bits < 16) :
    opening (bits + 224) =
      .begun ⟨bits, 1, if bits = 0 then 0xA0 else 0x80, if bits = 13 then 0x9F else 0xBF⟩ := by
  -- Only two of the sixteen values set a bound of their own on what follows.
  by_cases first : bits = 0
  · subst first
    rfl
  · by_cases surrogates : bits = 13
    · subst surrogates
      rfl
    · simp (disch := omega) only [opening, if_neg, if_pos, Nat.add_sub_cancel]

/-- The first of four octets. The bounds on the second one exclude what would fit into three, and
what is past the last code point. -/
theorem opening_of_four {bits : Nat} (fits : bits ≤ 4) :
    opening (bits + 240) =
      .begun ⟨bits, 2, if bits = 0 then 0x90 else 0x80, if bits = 4 then 0x8F else 0xBF⟩ := by
  -- There are five such octets, and each of them says what it opens.
  match bits, fits with
  | 0, _ | 1, _ | 2, _ | 3, _ | 4, _ => rfl

/-- The octets of a character are read as the character, and reading goes on behind them. -/
theorem scan_utf8EncodeChar (c : Char) (rest : List UInt8) :
    scan none (String.utf8EncodeChar c ++ rest) = some c :: scan none rest := by
  have valid : c.toNat < 0xD800 ∨ 0xDFFF < c.toNat ∧ c.toNat < 0x110000 := c.valid
  -- The bits that the octets carry make up the code of the character again.
  have whole {code : Nat} (same : code = c.toNat) : some (Char.ofNat code) = some c := by
    rw [same, Char.ofNat_toNat]
  simp only [String.utf8EncodeChar, show c.val.toNat = c.toNat from rfl]
  -- The cases are those of the number of octets.
  split
  · rw [List.singleton_append, scan_first (by omega), opening, if_pos (by omega), Opening.resume,
      whole rfl]
  · split
    · rw [List.cons_append, List.singleton_append, scan_first (by omega),
        opening_of_two (by omega) (by omega), Opening.resume,
        scan_last (by omega) (by omega) (by omega), whole (by omega)]
    · split
      · rw [List.cons_append, List.cons_append, List.singleton_append, scan_first (by omega),
          opening_of_three (by omega), Opening.resume,
          scan_next (by omega) (by split <;> omega) (by split <;> omega),
          scan_last (by omega) (by omega) (by omega), whole (by omega)]
      · rw [List.cons_append, List.cons_append, List.cons_append, List.singleton_append,
          scan_first (by omega), opening_of_four (by omega), Opening.resume,
          scan_next (by omega) (by split <;> omega) (by split <;> omega),
          scan_next (by omega) (by omega) (by omega),
          scan_last (by omega) (by omega) (by omega), whole (by omega)]

/-- A text is read back from its octets. -/
theorem decodeLossy_octets (text : String) : decodeLossy text.toUTF8.toList = text := by
  -- Characters are read one after another, since each leaves the rest as it is.
  have read (text : List Char) :
      scan none (text.flatMap String.utf8EncodeChar) = text.map some := by
    induction text with
    | nil => rfl
    | cons first rest ih => rw [List.flatMap_cons, scan_utf8EncodeChar, ih, List.map_cons]
  have octets := octets_ofList text.toList
  rw [String.ofList_toList] at octets
  rw [decodeLossy, octets, read, List.map_map]
  -- Nothing has to be replaced where every character has been read.
  exact (congrArg String.ofList (List.map_id text.toList)).trans String.ofList_toList

end Tollgate.Text
