import Mathlib.Data.List.Induction

/-! The last entry of a list that meets a condition, as the list grows at its end. -/

namespace Tollgate

variable {Entry : Type} {wanted : Entry → Prop} {entries : List Entry} {entry last : Entry}

/-- The entry meets a condition, and none that comes after it in the list does. -/
def IsLatest (wanted : Entry → Prop) (entries : List Entry) (entry : Entry) : Prop :=
  ∃ before after, entries = before ++ entry :: after ∧ wanted entry ∧
    ∀ later ∈ after, ¬ wanted later

/-- No entry of an empty list is the latest one. -/
theorem not_isLatest_nil : ¬ IsLatest wanted [] entry := by
  rintro ⟨before, after, split, -, -⟩
  simp at split

/-- A new entry is the latest one if it meets the condition, and changes nothing otherwise. -/
theorem isLatest_concat :
    IsLatest wanted (entries ++ [last]) entry ↔
      (wanted last ∧ entry = last) ∨ (¬ wanted last ∧ IsLatest wanted entries entry) := by
  constructor
  · -- Either the list ends with the entry found, or with one that comes after it.
    rintro ⟨before, after, split, met, unmet⟩
    rcases List.eq_nil_or_concat after with rfl | ⟨shorter, final, rfl⟩
    · -- Nothing comes after the entry, so it is the new one.
      obtain ⟨-, same⟩ := List.append_inj' split rfl
      cases same
      exact Or.inl ⟨met, rfl⟩
    · -- The new entry comes after the one found, so it does not meet the condition.
      rw [List.concat_eq_append, ← List.cons_append, ← List.append_assoc] at split
      obtain ⟨rfl, same⟩ := List.append_inj' split rfl
      cases same
      exact Or.inr ⟨unmet last (by simp), before, shorter, rfl, met,
        fun later member => unmet later (by simp [member])⟩
  · -- A new entry that does not meet the condition joins those that come after.
    rintro (⟨met, rfl⟩ | ⟨unmet, before, after, rfl, met, final⟩)
    · exact ⟨entries, [], rfl, met, by simp⟩
    · refine ⟨before, after ++ [last], by simp, met, ?_⟩
      intro later member
      rcases List.mem_append.mp member with inside | new
      · exact final later inside
      · rw [List.mem_singleton.mp new]
        exact unmet

/-- There is a latest entry if any entry meets the condition. -/
theorem exists_isLatest :
    (∃ entry, IsLatest wanted entries entry) ↔ ∃ entry ∈ entries, wanted entry := by
  induction entries using List.reverseRecOn with
  | nil => simp [not_isLatest_nil]
  | append_singleton earlier last ih =>
    simp only [isLatest_concat]
    by_cases met : wanted last
    · exact iff_of_true ⟨last, Or.inl ⟨met, rfl⟩⟩ ⟨last, by simp, met⟩
    · simp [met, ih, or_and_right, exists_or]

/-- Only the entries decide what the condition comes to. -/
theorem IsLatest.imp {also : Entry → Prop} (latest : IsLatest wanted entries entry)
    (same : ∀ entry ∈ entries, wanted entry ↔ also entry) : IsLatest also entries entry := by
  obtain ⟨before, after, rfl, met, unmet⟩ := latest
  refine ⟨before, after, rfl, (same entry (by simp)).mp met, ?_⟩
  intro later member also
  exact unmet later member ((same later (by simp [member])).mpr also)

/-- The entries that do not meet the condition make no difference. -/
theorem isLatest_filter [DecidablePred wanted] :
    IsLatest wanted (entries.filter fun entry => wanted entry) entry ↔
      IsLatest wanted entries entry := by
  induction entries using List.reverseRecOn with
  | nil => rfl
  | append_singleton earlier last ih =>
    rw [List.filter_append, isLatest_concat, ← ih]
    by_cases met : wanted last <;> simp [met, isLatest_concat]

end Tollgate
