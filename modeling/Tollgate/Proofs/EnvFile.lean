import Tollgate.EnvFile.Basic
import Tollgate.Proofs.Index

/-!
Files that set variables, line by line. What a file adds and what it overrides comes down to the
values of its lines, which are the same both ways unless a value refers to a variable that is set
twice.
-/

namespace Tollgate.EnvFile

variable {known again : Index String} {file : List (String × Template)} {name : String}

/-- The variables that lines set, with the values they come to as the variables stand when a line
says what is not set yet. -/
def values (known : Index String) : List (String × Template) → Index String
  | [] => []
  | (name, template) :: rest =>
    (name, template.expand known) :: values (known.putNew name (template.expand known)) rest

/-- A value of the file refers to the variable. -/
def Refers (file : List (String × Template)) (name : String) : Prop :=
  ∃ setting ∈ file, .valueOf name ∈ setting.2

/-- Every line that sets the variable gives it one and the same value, also if it is set before. -/
def IsConstant (known : Index String) (file : List (String × Template)) (name : String) : Prop :=
  ∀ value other, (name, value) ∈ values known file →
    (known.get? name = some other ∨ (name, other) ∈ values known file) → other = value

/-- The lines set the variables that the file names. -/
theorem names_values (known : Index String) (file : List (String × Template)) :
    (values known file).map (·.1) = file.map (·.1) := by
  -- What a line sets the variables to changes later values, but none of the names.
  induction file generalizing known with
  | nil => rfl
  | cons line rest ih => rw [values, List.map_cons, List.map_cons, ih]

/-- Lines set no variable of the environment if the file names none. -/
theorem apart_values {environment : Index String}
    (apart : ∀ setting ∈ file, setting.1 ∉ environment.map (·.1)) :
    ∀ entry ∈ values environment file, entry.1 ∉ environment.map (·.1) := by
  intro entry member
  -- What a line sets, it sets under the name that the file gives it.
  have named : entry.1 ∈ file.map (·.1) := by
    rw [← names_values environment]
    exact List.mem_map.mpr ⟨entry, member, rfl⟩
  obtain ⟨setting, inside, same⟩ := List.mem_map.mp named
  exact same ▸ apart setting inside

/-- Adding a file is adding the values of its lines. -/
theorem addTo_eq (known : Index String) (file : List (String × Template)) :
    addTo known file =
      (values known file).foldl (fun known entry => known.putNew entry.1 entry.2) known := by
  -- Adding the value of a line is what adding the line begins with.
  induction file generalizing known with
  | nil => rfl
  | cons line rest ih => exact ih _

/-- A value comes to the same where the variables do that it refers to. -/
theorem Template.expand_congr {template : Template}
    (alike : ∀ name, .valueOf name ∈ template → known.get? name = again.get? name) :
    template.expand known = template.expand again := by
  -- Only the pieces that refer to a variable look at any.
  have pieces : ∀ piece ∈ template, piece.expand known = piece.expand again := by
    intro piece member
    cases piece with
    | symbol c => rfl
    | valueOf name => rw [Piece.expand, Piece.expand, alike name member]
  rw [Template.expand, Template.expand, List.flatMap_def, List.flatMap_def,
    List.map_congr_left pieces]

/-- A variable that lines give one value has it behind the first of them, and keeps it. -/
theorem IsConstant.tail {line : String × Template}
    (constant : IsConstant known (line :: file) name) :
    IsConstant (known.putNew line.1 (line.2.expand known)) file name := by
  intro value other member before
  refine constant value other (List.mem_cons_of_mem _ member) ?_
  rcases before with held | later
  · -- What the variable has behind the line is what it had or what the line gives it.
    rw [Index.get?_putNew, Option.or_eq_some_iff] at held
    rcases held with held | ⟨-, here⟩
    · exact Or.inl held
    · obtain ⟨rfl, rfl⟩ : line.1 = name ∧ line.2.expand known = other := by simpa using here
      exact Or.inr List.mem_cons_self
  · exact Or.inr (List.mem_cons_of_mem _ later)

/-- Overriding by a file is overriding by the values of its lines, if the variables that its values
refer to are alike at first and are never given another value. -/
theorem override_eq (alike : ∀ name, Refers file name → known.get? name = again.get? name)
    (constant : ∀ name, Refers file name → IsConstant known file name) :
    override again file =
      (values known file).foldl (fun known entry => known.put entry.1 entry.2) again := by
  -- Line by line, both courses of the variables stay alike in what the lines to come refer to.
  induction file generalizing known again with
  | nil => rfl
  | cons line rest ih =>
    -- A reference in a later line is one of the whole file.
    have inRest {name : String} (refers : Refers rest name) : Refers (line :: rest) name := by
      obtain ⟨setting, member, inside⟩ := refers
      exact ⟨setting, List.mem_cons_of_mem line member, inside⟩
    -- The line comes to the same either way, as it refers only to what is alike.
    have value : line.2.expand known = line.2.expand again :=
      Template.expand_congr fun name inside => alike name ⟨line, List.mem_cons_self, inside⟩
    have alikeBehind : ∀ name, Refers rest name →
        (known.putNew line.1 (line.2.expand known)).get? name =
          (again.put line.1 (line.2.expand known)).get? name := by
      intro name refers
      rw [Index.get?_putNew, Index.get?_put, ← alike name (inRest refers)]
      by_cases here : line.1 = name
      · -- If the variable has a value already, the line gives it the same one.
        subst here
        cases held : known.get? line.1 with
        | none => simp
        | some other =>
          have same := constant _ (inRest refers) _ other List.mem_cons_self (Or.inl held)
          simp [same]
      · simp [here]
    show override (again.put line.1 (line.2.expand again)) rest = _
    -- Behind the line all is as before, with fewer lines to come.
    rw [← value, ih alikeBehind fun name refers => (constant name (inRest refers)).tail]
    rfl

end Tollgate.EnvFile
