import Tollgate.Proofs.Credential

/-!
Open paths under both kinds of matching. Comparing segments opens no path that comparing letters
keeps closed, but for those that stop short of the slashes at the end of a base: these do not count
where segments are compared.
-/

namespace Tollgate.Web

variable {policy : Policy} {path base : String}

/-- The path is the base without some of the slashes at its end, or goes on from there with
something other than a slash. If none of the slashes is left, it goes on only from a base of nothing
but slashes. -/
def StopsShort (path base : String) : Prop :=
  ∃ (stem rest : List Char) (kept missing : Nat),
    base.toList = stem ++ List.replicate (kept + missing) '/' ∧ 0 < missing ∧
      stem.getLast? ≠ some '/' ∧ path.toList = stem ++ List.replicate kept '/' ++ rest ∧
        rest.head? ≠ some '/' ∧ (stem = [] ∨ 0 < kept ∨ rest = [])

/-- A text is the slashes it begins with and what stands behind them. -/
theorem exists_leadingSlashes (text : List Char) :
    ∃ (count : Nat) (rest : List Char), text = List.replicate count '/' ++ rest ∧
      rest.head? ≠ some '/' := by
  induction text with
  -- There are no slashes, and nothing behind them.
  | nil => exact ⟨0, [], rfl, by simp⟩
  | cons c others ih =>
    -- One more slash counts, and anything else ends them.
    by_cases slash : c = '/'
    · obtain ⟨count, rest, parted, first⟩ := ih
      exact ⟨count + 1, rest, by rw [slash, parted, List.replicate_succ, List.cons_append], first⟩
    · exact ⟨0, c :: others, rfl, by simpa using slash⟩

/-- Behind a common stem, the slashes of a base are found in a path exactly if there are enough. -/
theorem slashes_prefix_iff {stem rest : List Char} {count found : Nat}
    (first : rest.head? ≠ some '/') :
    stem ++ List.replicate count '/' <+: stem ++ List.replicate found '/' ++ rest ↔
      count ≤ found := by
  -- The stem is the same, so it is the slashes that are compared.
  rw [List.append_assoc, List.prefix_append_right_inj]
  constructor
  · -- One slash more than there are would have to be found where the rest begins.
    intro begun
    by_contra more
    obtain ⟨missing, rfl⟩ := Nat.exists_eq_add_of_lt (Nat.not_le.mp more)
    rw [Nat.add_assoc, List.replicate_add, List.prefix_append_right_inj,
      List.replicate_succ] at begun
    obtain ⟨others, rfl⟩ := begun
    exact first rfl
  · -- The slashes that are too many belong to what follows.
    intro enough
    obtain ⟨more, rfl⟩ := Nat.exists_eq_add_of_le enough
    rw [List.replicate_add, List.append_assoc]
    exact List.prefix_append _ _

/-- The paths that lie under a base without beginning with it are those that stop short of the
slashes at its end. -/
theorem stopsShort_iff :
    StopsShort path base ↔ Under path base ∧ ¬ base.toList <+: path.toList := by
  constructor
  · -- What is missing of the base keeps the path from beginning with it.
    rintro ⟨stem, rest, kept, missing, written, lacking, ends, goesOn, first, through⟩
    constructor
    · refine ⟨stem, kept + missing, written, ends, ?_⟩
      cases kept with
      | zero =>
        -- Without a slash that is kept, the path is what is left of the base, unless that is
        -- nothing.
        rcases through with nothing | left | nothing
        · exact Or.inl nothing
        · exact absurd left (Nat.lt_irrefl 0)
        · exact Or.inr (Or.inl (by simp [goesOn, nothing]))
      | succ fewer =>
        -- The path goes on behind the first of the slashes it has.
        refine Or.inr (Or.inr ⟨List.replicate fewer '/' ++ rest, ?_⟩)
        rw [goesOn, List.replicate_succ, List.append_assoc, List.cons_append]
    · rw [written, goesOn, slashes_prefix_iff first]
      omega
  · rintro ⟨⟨stem, count, written, ends, goesOn⟩, apart⟩
    -- In each case the path begins with what is left of the base.
    have begun : ∃ behind, path.toList = stem ++ behind ∧
        (stem = [] ∨ behind = [] ∨ behind.head? = some '/') := by
      rcases goesOn with nothing | same | ⟨rest, same⟩
      · exact ⟨path.toList, by rw [nothing, List.nil_append], Or.inl nothing⟩
      · exact ⟨[], by rw [same, List.append_nil], Or.inr (Or.inl rfl)⟩
      · exact ⟨'/' :: rest, same, Or.inr (Or.inr rfl)⟩
    -- Behind the stem the path has slashes of its own, which are too few.
    obtain ⟨behind, parted, through⟩ := begun
    obtain ⟨kept, rest, rfl, first⟩ := exists_leadingSlashes behind
    rw [← List.append_assoc] at parted
    rw [written, parted, slashes_prefix_iff first, Nat.not_le] at apart
    obtain ⟨missing, rfl⟩ := Nat.exists_eq_add_of_lt apart
    refine ⟨stem, rest, kept, missing + 1, written, by omega, ends, parted, first, ?_⟩
    -- How the path goes on from the stem tells how it goes on from the slashes.
    rcases through with nothing | nothing | slash
    · exact Or.inl nothing
    · exact Or.inr (Or.inr (List.append_eq_nil_iff.mp nothing).2)
    · refine Or.inr (Or.inl (Nat.pos_of_ne_zero ?_))
      rintro rfl
      exact first slash

/-- Only a base that ends with a slash can be stopped short of. -/
theorem StopsShort.getLast?_base (short : StopsShort path base) :
    base.toList.getLast? = some '/' := by
  obtain ⟨stem, rest, kept, missing, written, fewer, -⟩ := short
  -- At least one slash is missing, and it is at the end of the base.
  obtain ⟨more, rfl⟩ := Nat.exists_eq_add_of_lt fewer
  rw [written, ← Nat.add_assoc, List.replicate_succ', ← List.append_assoc, List.getLast?_concat]

/-- Where segments are compared, a path is open if it lies under a base. -/
theorem isOpen_strict_iff :
    isOpen { policy with rawMatching := false } path = true ↔
      ∃ base ∈ policy.openBases, Under path base := by
  simp [isOpen, liesUnder_iff]

/-- Where letters are compared, a path is open if it begins with a base. -/
theorem isOpen_raw_iff :
    isOpen { policy with rawMatching := true } path = true ↔
      ∃ base ∈ policy.openBases, base.toList <+: path.toList := by
  simp [isOpen]

/-- The paths that are open only where segments are compared are those that stop short of the
slashes at the end of a base and begin with no base. Where no base ends with a slash, a path that is
open when segments are compared is open when letters are. -/
theorem open_beyond_raw_iff (policy : Policy) (path : String) :
    (isOpen { policy with rawMatching := false } path = true ∧
        ¬ isOpen { policy with rawMatching := true } path = true ↔
      (∃ base ∈ policy.openBases, StopsShort path base) ∧
        ∀ base ∈ policy.openBases, ¬ base.toList <+: path.toList) ∧
    ((∀ base ∈ policy.openBases, base.toList.getLast? ≠ some '/') →
      isOpen { policy with rawMatching := false } path = true →
        isOpen { policy with rawMatching := true } path = true) := by
  rw [isOpen_strict_iff, isOpen_raw_iff]
  constructor
  · constructor
    · rintro ⟨⟨base, member, under⟩, closed⟩
      -- A path that is closed when letters are compared begins with none of the bases.
      have apart : ∀ base ∈ policy.openBases, ¬ base.toList <+: path.toList :=
        fun other inside begun => closed ⟨other, inside, begun⟩
      exact ⟨⟨base, member, stopsShort_iff.mpr ⟨under, apart base member⟩⟩, apart⟩
    · rintro ⟨⟨base, member, short⟩, apart⟩
      refine ⟨⟨base, member, (stopsShort_iff.mp short).1⟩, ?_⟩
      rintro ⟨other, inside, begun⟩
      exact apart other inside begun
  · -- Where no base ends with a slash, nothing can be stopped short of.
    rintro plain ⟨base, member, under⟩
    refine ⟨base, member, ?_⟩
    -- A path that did not begin with the base would stop short of slashes that are not there.
    by_contra apart
    exact plain base member (stopsShort_iff.mpr ⟨under, apart⟩).getLast?_base

/-- Two slashes at the end of a base, of which the path has one; and bases without such slashes. -/
theorem open_beyond_raw_iff_doubled :
    let doubled : Policy := { Policy.standard with openBases := ["/v1//"] }
    let plain : Policy := { Policy.standard with openBases := ["", "/health"] }
    (isOpen { doubled with rawMatching := false } "/v1/models" = true ∧
        ¬ isOpen { doubled with rawMatching := true } "/v1/models" = true) ∧
      (∀ base ∈ plain.openBases, base.toList.getLast? ≠ some '/') ∧
      isOpen { plain with rawMatching := false } "/health/live" = true ∧
      isOpen { plain with rawMatching := true } "/health/live" = true := by
  intro doubled plain
  -- One of the two slashes is kept and the other one is missing.
  have short : StopsShort "/v1/models" "/v1//" :=
    ⟨"/v1".toList, "models".toList, 1, 1, by decide, by decide, by decide, by decide, by decide,
      Or.inr (Or.inl (by decide))⟩
  have apart : ∀ base ∈ doubled.openBases, ¬ base.toList <+: "/v1/models".toList := by decide
  have unslashed : ∀ base ∈ plain.openBases, base.toList.getLast? ≠ some '/' := by decide
  have opened : isOpen { plain with rawMatching := false } "/health/live" = true := by decide
  refine ⟨(open_beyond_raw_iff doubled _).1.mpr ⟨⟨"/v1//", ?_, short⟩, apart⟩, unslashed, opened,
    (open_beyond_raw_iff plain _).2 unslashed opened⟩
  exact List.mem_singleton_self _

/-- A base with a slash at its end opens the path without it, but not where letters are compared. -/
theorem trailing_slash_opens_more :
    ¬ ∀ (policy : Policy) (path : String),
      isOpen { policy with rawMatching := false } path = true →
        isOpen { policy with rawMatching := true } path = true := by
  intro tightens
  -- A single base and the path without its slash are enough.
  have opened := tightens { Policy.standard with openBases := ["/health/"] } "/health" (by decide)
  exact absurd opened (by decide)

end Tollgate.Web
