/-! Texts cut at every occurrence of a mark. -/

namespace Tollgate.Text

/-- The pieces between the occurrences of a mark, of which there is one more than of the mark. -/
def pieces {Symbol : Type} [DecidableEq Symbol] (mark : Symbol) :
    List Symbol → List (List Symbol)
  | [] => [[]]
  | symbol :: rest =>
    -- A mark opens an empty piece, and any other symbol joins the piece after it.
    if symbol = mark then [] :: pieces mark rest
    else match pieces mark rest with
      | [] => [[symbol]]
      | piece :: others => (symbol :: piece) :: others

/-- There is always a first piece. -/
theorem pieces_ne_nil {Symbol : Type} [DecidableEq Symbol] (mark : Symbol) (text : List Symbol) :
    pieces mark text ≠ [] := by
  -- Every branch of the definition builds a list with a head.
  cases text with
  | nil => simp [pieces]
  | cons symbol rest =>
    unfold pieces
    split
    · simp
    · split <;> simp

/-- What stands before and after the first occurrence of a mark, with nothing after if it is
absent. -/
def cutAtFirst {Symbol : Type} [DecidableEq Symbol] (mark : Symbol) (text : List Symbol) :
    List Symbol × List Symbol :=
  (text.takeWhile (· ≠ mark), (text.dropWhile (· ≠ mark)).drop 1)

end Tollgate.Text
