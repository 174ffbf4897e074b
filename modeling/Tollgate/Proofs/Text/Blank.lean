import Mathlib.Data.List.TakeWhile
import Tollgate.Text.Blank

/-!
White space around a text. What is left without it is the one part of the text with white space on
either side and none at its own ends.
-/

namespace Tollgate.Text

/-- The text is white space alone. -/
def AllBlank (text : List Char) : Prop :=
  ∀ c ∈ text, isBlank c = true

instance (text : List Char) : Decidable (AllBlank text) :=
  List.decidableBAll (isBlank · = true) text

/-- The text neither begins nor ends with white space. -/
structure IsTrimmed (text : List Char) : Prop where
  /-- It begins with something else. -/
  first : ∀ c, text.head? = some c → isBlank c = false
  /-- It ends with something else. -/
  last : ∀ c, text.getLast? = some c → isBlank c = false

variable {front kept back text : List Char}

/-- There is nothing in an empty text but white space. -/
theorem allBlank_nil : AllBlank [] :=
  fun _ member => absurd member List.not_mem_nil

/-- A text is white space alone if both of its parts are. -/
theorem allBlank_append : AllBlank (front ++ back) ↔ AllBlank front ∧ AllBlank back :=
  List.forall_mem_append

/-- White space at the front is dropped up to the first other character. -/
theorem dropWhile_isBlank_append (blank : AllBlank front)
    (first : ∀ c, kept.head? = some c → isBlank c = false) :
    (front ++ kept).dropWhile isBlank = kept := by
  -- The front is passed over, and the first character behind it stops the loop.
  rw [List.dropWhile_append_of_pos blank]
  -- Nothing is left to be passed over.
  cases kept with
  | nil => rfl
  | cons c rest => rw [List.dropWhile_cons_of_neg (by simp [first c rfl])]

/-- What has white space on either side and none at its ends is what is left. -/
theorem trimmed_append (blank : AllBlank front) (alsoBlank : AllBlank back)
    (neat : IsTrimmed kept) : trimmed (front ++ kept ++ back) = kept := by
  rw [trimmed, stripped]
  cases kept with
  | nil =>
    -- All of the text is white space, and nothing is left.
    have all : AllBlank (front ++ [] ++ back) := by
      rw [List.append_nil, allBlank_append]
      exact ⟨blank, alsoBlank⟩
    rw [List.dropWhile_eq_nil_iff.mpr all]
    rfl
  | cons c rest =>
    -- The first character that is kept is no white space, and neither is the last one.
    have begins : ∀ d, (c :: rest ++ back).head? = some d → isBlank d = false := neat.first
    have ends : ∀ d, (c :: rest).reverse.head? = some d → isBlank d = false := by
      intro d found
      rw [List.head?_reverse] at found
      exact neat.last d found
    have turned : AllBlank back.reverse := by
      intro d member
      exact alsoBlank d (List.mem_reverse.mp member)
    -- The front goes first, and the back once the text is turned round.
    rw [List.append_assoc, dropWhile_isBlank_append blank begins, List.reverse_append,
      dropWhile_isBlank_append turned ends, List.reverse_reverse]

/-- A text is what is left of it with white space on either side, and what is left has none at its
ends. -/
theorem trimmed_spec (text : List Char) :
    ∃ front back, AllBlank front ∧ AllBlank back ∧ text = front ++ trimmed text ++ back ∧
      IsTrimmed (trimmed text) := by
  -- Turned round, the text behind the front falls into what is kept and the back.
  have parted : text.dropWhile isBlank =
      trimmed text ++ ((text.dropWhile isBlank).reverse.takeWhile isBlank).reverse := by
    rw [trimmed, stripped, ← List.reverse_append, List.takeWhile_append_dropWhile,
      List.reverse_reverse]
  refine ⟨text.takeWhile isBlank, ((text.dropWhile isBlank).reverse.takeWhile isBlank).reverse,
    ?_, ?_, ?_, ?_, ?_⟩
  · -- What is passed over at either side is white space.
    intro c member
    exact List.mem_takeWhile_imp member
  · intro c member
    exact List.mem_takeWhile_imp (List.mem_reverse.mp member)
  · rw [List.append_assoc, ← parted, List.takeWhile_append_dropWhile]
  · -- What is left begins as the text does behind the white space at its front.
    intro c found
    have begins : (text.dropWhile isBlank).head? = some c := by
      rw [parted, List.head?_append, found, Option.some_or]
    have other := List.head?_dropWhile_not isBlank text
    rw [begins] at other
    exact other
  · -- Turned round, the text begins with its last character.
    intro c found
    rw [trimmed, stripped, List.getLast?_reverse] at found
    have other := List.head?_dropWhile_not isBlank (text.dropWhile isBlank).reverse
    rw [found] at other
    exact other

/-- What is left of a text is decided by the white space on either side of it. -/
theorem trimmed_eq_iff :
    trimmed text = kept ↔
      IsTrimmed kept ∧ ∃ front back, AllBlank front ∧ AllBlank back ∧
        text = front ++ kept ++ back := by
  constructor
  · -- The text is its own witness of where the white space ends.
    intro same
    obtain ⟨front, back, blank, alsoBlank, parted, neat⟩ := trimmed_spec text
    rw [same] at parted neat
    exact ⟨neat, front, back, blank, alsoBlank, parted⟩
  · intro parted
    obtain ⟨neat, front, back, blank, alsoBlank, rfl⟩ := parted
    exact trimmed_append blank alsoBlank neat

/-- What is left of a text has no white space at its ends. -/
theorem isTrimmed_trimmed (text : List Char) : IsTrimmed (trimmed text) :=
  (trimmed_eq_iff.mp rfl).1

/-- The characters of a text without white space around it. -/
theorem toList_trim (text : String) : (trim text).toList = trimmed text.toList :=
  String.toList_ofList

/-- A text says something exactly if something is left of it. -/
theorem trimToNonempty?_eq_some_iff {text kept : String} :
    trimToNonempty? text = some kept ↔ kept = trim text ∧ kept ≠ "" := by
  -- What is left is tested once it has been cut out.
  simp only [trimToNonempty?, String.isEmpty_iff]
  -- Either nothing is left, or what is left is kept.
  by_cases nothing : trim text = ""
  · simp only [nothing, if_true, reduceCtorEq, false_iff, not_and, not_not]
    exact id
  · simp only [if_neg nothing, Option.some.injEq]
    constructor
    · intro same
      obtain rfl := same
      exact ⟨rfl, nothing⟩
    · exact fun same => same.1.symm

end Tollgate.Text
