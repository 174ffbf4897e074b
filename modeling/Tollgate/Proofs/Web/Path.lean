import Tollgate.Proofs.Credential

/-!
Paths by their segments, the pieces between their slashes. A path lies under another one exactly if
its segments begin with those of the other one, of which slashes at the end do not count.
-/

namespace Tollgate

namespace Text

section

variable {Symbol : Type} [DecidableEq Symbol] {mark : Symbol} {stem text : List Symbol}
  {parts more : List (List Symbol)}

/-- Texts are cut as lists are split. -/
theorem pieces_eq_splitOn (mark : Symbol) (text : List Symbol) :
    pieces mark text = text.splitOn mark := by
  -- Both functions cut at the same symbols, so the induction is on the text.
  induction text with
  | nil => rw [pieces, List.splitOn_nil]
  | cons symbol rest ih =>
    rw [pieces, List.splitOn_cons_eq_if_modifyHead, ih]
    simp only [beq_iff_eq]
    split
    · rfl
    · -- There is always a first piece, so the symbol joins one.
      obtain ⟨piece, others, split⟩ := List.exists_cons_of_ne_nil (List.splitOn_ne_nil mark rest)
      simp only [split, List.modifyHead_cons]

/-- A text is what its pieces make with marks between them. -/
theorem intercalate_pieces (mark : Symbol) (text : List Symbol) :
    [mark].intercalate (pieces mark text) = text := by
  -- Putting the parts of a split list together again is known of lists.
  rw [pieces_eq_splitOn, List.intercalate_splitOn]

/-- At a mark, wherever it stands, the pieces before it end and those behind it begin. -/
theorem pieces_append_mark (mark : Symbol) (stem rest : List Symbol) :
    pieces mark (stem ++ mark :: rest) = pieces mark stem ++ pieces mark rest := by
  -- How a list is split at a separator is known as well.
  simp only [pieces_eq_splitOn, List.splitOn_append_cons_self]

omit [DecidableEq Symbol] in
/-- Between pieces that are put together in two parts, there is a mark as well. -/
theorem intercalate_append (parts : List (List Symbol)) (begun : parts ≠ []) (goesOn : more ≠ []) :
    [mark].intercalate (parts ++ more) =
      [mark].intercalate parts ++ mark :: [mark].intercalate more := by
  induction parts with
  | nil => exact absurd rfl begun
  | cons part rest ih =>
    -- The second part begins behind the only piece of the first one.
    cases rest with
    | nil =>
      rw [List.singleton_append, List.intercalate_cons_of_ne_nil goesOn, List.intercalate_singleton,
        List.append_assoc, List.singleton_append]
    -- Behind the first piece there is a mark in any case.
    | cons next others =>
      rw [List.cons_append, List.intercalate_cons_of_ne_nil (by simp), ih (by simp),
        List.intercalate_cons_cons]
      simp only [List.append_assoc]

/-- The pieces of a text begin with those of another one exactly if the text is the other one, or
goes on from it with a mark. -/
theorem pieces_prefix_iff :
    pieces mark stem <+: pieces mark text ↔ text = stem ∨ ∃ rest, text = stem ++ mark :: rest := by
  constructor
  · rintro ⟨others, parted⟩
    -- What the pieces make is the text, and the first of them make the other one.
    have made := congrArg [mark].intercalate parted
    rw [intercalate_pieces] at made
    -- Either all pieces are used up, or there is a mark behind them.
    cases others with
    | nil =>
      rw [List.append_nil, intercalate_pieces] at made
      exact Or.inl made.symm
    | cons next later =>
      rw [intercalate_append _ (pieces_ne_nil mark stem) (List.cons_ne_nil next later),
        intercalate_pieces] at made
      exact Or.inr ⟨_, made.symm⟩
  · rintro (rfl | ⟨rest, rfl⟩)
    · exact List.prefix_refl _
    · -- A mark behind the text is where its pieces end.
      rw [pieces_append_mark]
      exact List.prefix_append _ _

end

end Text

namespace Web

/-- A path lies under a base exactly if nothing is left of the base without the slashes at its end,
or the segments of what is left are the first ones of the path. -/
theorem liesUnder_iff_segments (path base : String) :
    (∃ slashes, base.toList =
        withoutTrailingSlashes base.toList ++ List.replicate slashes '/') ∧
      (withoutTrailingSlashes base.toList).getLast? ≠ some '/' ∧
      (liesUnder path base = true ↔ withoutTrailingSlashes base.toList = [] ∨
        Text.pieces '/' (withoutTrailingSlashes base.toList) <+: Text.pieces '/' path.toList) := by
  obtain ⟨slashes, parted, ends⟩ := withoutTrailingSlashes_spec base.toList
  refine ⟨⟨slashes, parted⟩, ends, ?_⟩
  -- What is left of the base is the stem of the path, and pieces tell whether it is.
  rw [liesUnder_iff, Text.pieces_prefix_iff]
  constructor
  · -- There is only one way to take the slashes off.
    rintro ⟨other, count, same, alsoEnds, goesOn⟩
    have alike : withoutTrailingSlashes base.toList = other := by
      rw [same, withoutTrailingSlashes_append alsoEnds]
    rwa [alike]
  · exact fun goesOn => ⟨_, slashes, parted, ends, goesOn⟩

/-- Empty segments count like others, and the slashes at the end of a base do not. -/
example : liesUnder "/v1//models" "/v1//" = true ∧ liesUnder "/v1/models" "/v1//m" = false := by
  decide

end Web

end Tollgate
