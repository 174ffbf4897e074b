import Tollgate.Web.Headers

/-!
Headers by their names. Of several headers of one name, however it is written, only the first one
counts, and it says nothing if it cannot be read.
-/

namespace Tollgate.Web

/-- A text that can be the name of a header. -/
def IsHeaderName (name : String) : Prop :=
  name ≠ "" ∧ ∀ c ∈ name.toList, isTokenChar c = true

/-- Two names of headers that differ in nothing but the casing of ASCII letters. -/
def SameName (name other : String) : Prop :=
  name.toList.map Char.toLower = other.toList.map Char.toLower

/-- The first header of a name has this value. -/
def Headers.IsFirst (headers : Headers) (name value : String) : Prop :=
  IsHeaderName name ∧ ∃ front back header, headers = front ++ header :: back ∧
    SameName header.name name ∧ header.value = value ∧
      ∀ earlier ∈ front, ¬ SameName earlier.name name

/-- A value that can be read as text holds nothing but tabs and printable characters of the ASCII
range. -/
def IsReadable (value : String) : Prop :=
  ∀ c ∈ value.toList, c = '\t' ∨ 0x20 ≤ c.toNat ∧ c.toNat ≤ 0x7E

/-- Only names of headers are compared, in lower case. -/
theorem headerKey?_eq_some_iff {name : String} {key : List Char} :
    headerKey? name = some key ↔ IsHeaderName name ∧ key = name.toList.map Char.toLower := by
  have nameable : (!name.isEmpty && name.toList.all isTokenChar) = true ↔ IsHeaderName name := by
    rw [Bool.and_eq_true, Bool.not_eq_true', ← Bool.not_eq_true, String.isEmpty_iff,
      List.all_eq_true]
    exact Iff.rfl
  -- A text that is not such a name has no key at all.
  unfold headerKey?
  by_cases named : IsHeaderName name
  · rw [if_pos (nameable.mpr named), Option.some.injEq]
    exact ⟨fun same => ⟨named, same.symm⟩, fun same => same.2.symm⟩
  · rw [if_neg (mt nameable.mp named)]
    simp [named]

/-- What is found under a name is the value of the first header of that name. -/
theorem Headers.first?_eq_some_iff {headers : Headers} {name value : String} :
    headers.first? name = some value ↔ headers.IsFirst name value := by
  -- Nothing is found under a text that cannot be a name, and keys are the same exactly for same
  -- names.
  unfold first? IsFirst
  cases keyed : headerKey? name with
  | none =>
    -- Any name of a header would have a key.
    have unnamed : ¬ IsHeaderName name := by
      intro named
      rw [headerKey?_eq_some_iff.mpr ⟨named, rfl⟩] at keyed
      cases keyed
    simp [unnamed]
  | some key =>
    obtain ⟨named, rfl⟩ := headerKey?_eq_some_iff.mp keyed
    simp only [Option.map_eq_some_iff, List.find?_eq_some_iff_append, beq_iff_eq, named, true_and]
    constructor
    · intro found
      obtain ⟨header, ⟨same, front, back, listed, others⟩, valued⟩ := found
      refine ⟨front, back, header, listed, same, valued, ?_⟩
      -- The headers passed over have other keys, and so other names.
      intro earlier member
      simpa [SameName] using others earlier member
    · intro first
      obtain ⟨front, back, header, listed, same, valued, others⟩ := first
      refine ⟨header, ⟨same, front, back, listed, ?_⟩, valued⟩
      intro earlier member
      simpa [SameName] using others earlier member

/-- Only one header of a name is the first one. -/
theorem Headers.IsFirst.unique {headers : Headers} {name value other : String}
    (first : headers.IsFirst name value) (also : headers.IsFirst name other) : value = other := by
  -- Both are what is found under the name.
  rw [← first?_eq_some_iff] at first also
  exact Option.some.inj (first.symm.trans also)

/-- The text found under a name is the value of the first header of that name, if it can be read. -/
theorem Headers.text?_eq_some_iff {headers : Headers} {name value : String} :
    headers.text? name = some value ↔ headers.IsFirst name value ∧ IsReadable value := by
  have readable (value : String) :
      value.toList.all isReadableChar = true ↔ IsReadable value := by
    simp only [List.all_eq_true, IsReadable, isReadableChar, Bool.or_eq_true, beq_iff_eq,
      Bool.and_eq_true, decide_eq_true_eq]
  rw [← first?_eq_some_iff, text?]
  cases found : headers.first? name with
  | none => simp
  | some first =>
    by_cases legible : first.toList.all isReadableChar = true
    · simp only [if_pos legible, Option.some.injEq]
      constructor
      · intro same
        obtain rfl := same
        exact ⟨rfl, (readable first).mp legible⟩
      · exact fun same => same.1
    · -- A value that cannot be read is not passed over for the next one.
      simp only [if_neg legible, Option.some.injEq, reduceCtorEq, false_iff, not_and]
      intro same also
      rw [same] at legible
      exact legible ((readable value).mpr also)

end Tollgate.Web
