import Tollgate.Json.Reader
import Tollgate.Proofs.Json.Lexeme

/-!
Values that are read back from what is written for them, whatever stands behind. What holds of the
members of a list holds of the list.
-/

namespace Tollgate.Json

/-- The first character of a written value other than a word. -/
def opensValue (c : Char) : Bool :=
  c == '"' || c == '[' || c == '\x7b' || c.isDigit

/-- Such a character is no space, and no bracket that closes a list. -/
theorem isSpace_of_opensValue {c : Char} (opens : opensValue c = true) :
    isSpace c = false ∧ c ≠ ']' ∧ c ≠ 'n' := by
  refine ⟨?_, ?_, ?_⟩
  · -- The four spaces are none of these characters.
    rw [Bool.eq_false_iff]
    intro space
    simp only [isSpace, Bool.or_eq_true, beq_iff_eq] at space
    rcases space with ((rfl | rfl) | rfl) | rfl <;> exact absurd opens (by decide)
  · rintro rfl
    -- These two are bracket and letter, and open no value.
    exact absurd opens (by decide)
  · rintro rfl
    exact absurd opens (by decide)

/-- A reader takes a value off the front of any text that begins with what is written for it, unless
the value is a number that goes on behind that. -/
structure Recovers {Value : Type} (reader : Reader Value) (value : Value) (text : List Char) :
    Prop where
  -- What is written shows from its first character on that it is a value.
  opens : ∃ c more, text = c :: more ∧ opensValue c = true
  read : ∀ rest, EndsNumber rest → reader.run (text ++ rest) = .ok (value, rest)

/-- Spaces are skipped only up to a value. -/
theorem skipSpace_of_opensValue {c : Char} (opens : opensValue c = true) (text : List Char) :
    skipSpace (c :: text) = c :: text := by
  -- The first character is no space, so nothing is dropped.
  rw [skipSpace, List.dropWhile_cons_of_neg]
  simp [(isSpace_of_opensValue opens).1]

/-- A text is recovered from its quoted form. -/
theorem recovers_text (value : String) : Recovers .text value (quoted value) where
  opens := ⟨'"', _, rfl, rfl⟩
  read rest _ := by
    -- The opening quote is followed by the escaped characters, up to the closing quote.
    show readText (quoted value ++ rest) = .ok (value, rest)
    have shape : quoted value ++ rest = '"' :: (value.toList.flatMap escaped ++ '"' :: rest) := by
      simp [quoted]
    rw [shape, readText, skipSpace_of_opensValue rfl]
    simp [readQuoted_flatMap]

/-- A whole number of thirty-two bits is recovered from its digits. -/
theorem recovers_count (value : UInt32) :
    Recovers .count value (Nat.toDigits 10 value.toNat) where
  opens := by
    -- A number has at least one digit.
    cases digits : Nat.toDigits 10 value.toNat with
    | nil => exact absurd digits Nat.toDigits_ne_nil
    | cons first others =>
      have digit : first.isDigit = true :=
        Nat.isDigit_of_mem_toDigits (by decide) (by decide) (digits ▸ List.mem_cons_self)
      exact ⟨first, others, rfl, by simp [opensValue, digit]⟩
  read rest ends := by
    show readCount _ = _
    -- The first digit shows that there is a number, and all of them make up its value.
    have small : value.toNat < UInt32.size := value.toNat_lt_size
    obtain ⟨inRange, natural⟩ := natural?_toDigits small
    have magnitude : readMagnitude (Nat.toDigits 10 value.toNat ++ rest) =
        .ok (some value.toNat, rest) := by
      rw [readMagnitude, readNumeral_toDigits _ ends]
      simp [inRange, natural]
    -- The text is looked at from its first digit, which is no space.
    cases digits : Nat.toDigits 10 value.toNat with
    | nil => exact absurd digits Nat.toDigits_ne_nil
    | cons first others =>
      have digit : first.isDigit = true :=
        Nat.isDigit_of_mem_toDigits (by decide) (by decide) (digits ▸ List.mem_cons_self)
      rw [digits, List.cons_append] at magnitude
      rw [List.cons_append, readCount, skipSpace_of_opensValue (by simp [opensValue, digit])]
      simp [startsNumeral, digit, magnitude, small]

section

variable {Value : Type} {reader : Reader Value} {value : Value} {text : List Char}

/-- A value that may be null is recovered like one that may not. -/
theorem Recovers.optional (recovers : Recovers reader value text) :
    Recovers reader.optional (some value) text where
  opens := recovers.opens
  read rest ends := by
    -- The word for nothing begins with a letter that begins no other value.
    show readOptional _ _ = _
    have found := recovers.read rest ends
    obtain ⟨c, more, rfl, opens⟩ := recovers.opens
    rw [List.cons_append] at found ⊢
    rw [readOptional, skipSpace_of_opensValue opens]
    split
    · -- The first letter of that word is none that opens a value.
      rename_i same
      exact absurd (List.cons.inj same).1 (isSpace_of_opensValue opens).2.2
    · simp [found]

/-- The first member of a list is found behind the opening bracket. -/
theorem Recovers.nextMember_first (recovers : Recovers reader value text) (rest : List Char) :
    nextMember true (text ++ rest) = .ok (.member (text ++ rest)) := by
  obtain ⟨c, more, rfl, opens⟩ := recovers.opens
  rw [List.cons_append, nextMember, skipSpace_of_opensValue opens]
  split
  · -- The case for a bracket is excluded, and in the case for a member nothing is skipped.
    rename_i same
    simp at same
  · rename_i same
    exact absurd (List.cons.inj same).1 (isSpace_of_opensValue opens).2.1
  · rename_i same
    simp [same]

/-- Each further member is found behind a comma. -/
theorem Recovers.nextMember_later (recovers : Recovers reader value text) (rest : List Char) :
    nextMember false (',' :: (text ++ rest)) = .ok (.member (text ++ rest)) := by
  obtain ⟨c, more, rfl, opens⟩ := recovers.opens
  -- A comma is no space either.
  have comma : skipSpace (',' :: (c :: more ++ rest)) = ',' :: (c :: more ++ rest) := rfl
  simp only [List.cons_append] at comma ⊢
  rw [nextMember, comma]
  simp [skipSpace_of_opensValue opens, (isSpace_of_opensValue opens).2.1]

/-- What stands behind a member is another comma or the closing bracket, before which a number
ends. -/
theorem endsNumber_flatMap (texts : List (List Char)) {close : Char}
    (closes : close = ']' ∨ close = '\x7d') (rest : List Char) :
    EndsNumber (texts.flatMap (',' :: ·) ++ close :: rest) := by
  cases texts with
  -- Behind the last member stands the bracket, and a comma behind all others.
  | nil => exact endsNumber_cons (Or.inr closes) rest
  | cons first others => exact endsNumber_cons (Or.inl rfl) _

/-- All texts but the first have a comma in front. -/
theorem commaJoined_cons (first : List Char) (others : List (List Char)) :
    commaJoined (first :: others) = first ++ others.flatMap (',' :: ·) := by
  induction others generalizing first with
  | nil => simp [commaJoined]
  | cons second others ih => simp [commaJoined, ih]

/-- A list ends with its closing bracket. -/
theorem readMembers_of_closed {isFirst : Bool} {rest : List Char}
    (found : nextMember isFirst text = .ok (.closed rest)) :
    readMembers reader isFirst text = .ok ([], rest) := by
  rw [readMembers]
  -- The case is settled by what has been found.
  split <;> simp_all

/-- A list goes on behind a member. -/
theorem readMembers_of_member {isFirst : Bool} {next after rest : List Char} {values : List Value}
    (found : nextMember isFirst text = .ok (.member next))
    (taken : reader.run next = .ok (value, after))
    (later : readMembers reader false after = .ok (values, rest)) :
    readMembers reader isFirst text = .ok (value :: values, rest) := by
  rw [readMembers]
  -- Of the three turns only that of a member is taken, and its value has been read.
  split <;> rename_i turn
  · simp [found] at turn
  · simp [found] at turn
  · obtain rfl : next = _ := by simpa [found] using turn
    split <;> rename_i run
    · simp [taken] at run
    · obtain ⟨rfl, rfl⟩ : value = _ ∧ after = _ := by simpa [taken] using run
      simp [later]

variable {write : Value → List Char}

/-- Further members of a list are read one after another. -/
theorem readMembers_later {values : List Value}
    (recovers : ∀ value ∈ values, Recovers reader value (write value)) (rest : List Char) :
    readMembers reader false ((values.map write).flatMap (',' :: ·) ++ ']' :: rest) =
      .ok (values, rest) := by
  -- Behind each member stands the comma of the next one, or the bracket.
  induction values with
  | nil => exact readMembers_of_closed rfl
  | cons value values ih =>
    have first := recovers value List.mem_cons_self
    have others := ih fun other member => recovers other (List.mem_cons_of_mem _ member)
    have ends := endsNumber_flatMap (values.map write) (Or.inl rfl) rest
    rw [List.map_cons, List.flatMap_cons, List.append_assoc, List.cons_append]
    exact readMembers_of_member (first.nextMember_later _) (first.read _ ends) others

/-- A list is recovered if its members are. -/
theorem Recovers.list {values : List Value}
    (recovers : ∀ value ∈ values, Recovers reader value (write value)) :
    Recovers reader.list values ('[' :: commaJoined (values.map write) ++ [']']) where
  opens := ⟨'[', _, rfl, rfl⟩
  read rest _ := by
    -- The bracket in front is what tells a list.
    have opened : reader.list.run ('[' :: commaJoined (values.map write) ++ [']'] ++ rest) =
        readMembers reader true (commaJoined (values.map write) ++ ']' :: rest) := by
      rw [List.append_assoc, List.singleton_append]
      rfl
    rw [opened]
    cases values with
    -- An empty list ends as soon as it has begun.
    | nil => exact readMembers_of_closed rfl
    | cons value values =>
      -- The first member is read without a comma in front, and the others behind it.
      have first := recovers value List.mem_cons_self
      have others := readMembers_later
        (fun other member => recovers other (List.mem_cons_of_mem _ member)) rest
      have ends := endsNumber_flatMap (values.map write) (Or.inl rfl) rest
      rw [List.map_cons, commaJoined_cons, List.append_assoc]
      exact readMembers_of_member (first.nextMember_first _) (first.read _ ends) others

/-- A value that is recovered is the one its whole text stands for. -/
theorem Recovers.whole (recovers : Recovers reader value text) :
    reader.whole (String.ofList text) = .ok value := by
  -- Nothing is left over behind the value.
  have found := recovers.read [] endsNumber_nil
  rw [List.append_nil] at found
  rw [Reader.whole, String.toList_ofList, found]
  rfl

end

/-- Spaces in front of a list do not count. -/
theorem whole_list_append {Value : Type} {inner : Reader Value} {spaces : List Char}
    (space : ∀ c ∈ spaces, isSpace c = true) (text : String) :
    inner.list.whole (String.ofList spaces ++ text) = inner.list.whole text := by
  have skipped : skipSpace (spaces ++ text.toList) = skipSpace text.toList :=
    -- All these characters are skipped, and so are those that the text begins with.
    List.dropWhile_append_of_pos space
  have same : inner.list.run (spaces ++ text.toList) = inner.list.run text.toList := by
    -- Reading a list begins by skipping spaces.
    show readList inner _ = readList inner _
    rw [readList, skipped, readList]
  rw [Reader.whole, String.toList_append, String.toList_ofList, same, Reader.whole]

/-- The members of a list are written one by one. -/
theorem writtenItems_eq (items : List Json) : writtenItems items = items.map written := by
  induction items with
  | nil => rfl
  | cons item items ih => rw [writtenItems, ih, List.map_cons]

/-- The text of a list stands for it, if what is written for its members is recovered. -/
theorem whole_render_list {Value : Type} {reader : Reader Value} {toJson : Value → Json}
    {values : List Value}
    (recovers : ∀ value ∈ values, Recovers reader value (written (toJson value))) :
    reader.list.whole (Json.list (values.map toJson)).render = .ok values := by
  -- Written one by one, the members are the texts that are recovered.
  have forms : (values.map toJson).map written =
      values.map fun value => written (toJson value) := by
    simp [Function.comp_def]
  rw [render, written, writtenItems_eq, forms]
  exact (Recovers.list recovers).whole

end Tollgate.Json
