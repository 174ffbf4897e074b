import Tollgate.Index

/-! What an index holds after a change, name by name, and that no name comes to occur twice. -/

namespace Tollgate.Index

variable {Value : Type} {index other : Index Value} {name wanted : String} {value : Value}

/-- No name occurs twice. -/
def Distinct (index : Index Value) : Prop :=
  (index.map (·.1)).Nodup

@[simp] theorem get?_nil (wanted : String) : get? ([] : Index Value) wanted = none := rfl

/-- The first entry of a name decides. -/
theorem get?_cons (entry : String × Value) (rest : Index Value) (wanted : String) :
    get? (entry :: rest) wanted = if entry.1 = wanted then some entry.2 else get? rest wanted := by
  -- The library compares the names the other way round.
  obtain ⟨name, value⟩ := entry
  simp only [get?, List.lookup_cons]
  by_cases same : name = wanted
  · simp [same]
  · have different : (wanted == name) = false := by simpa using Ne.symm same
    simp only [different, if_neg same]

/-- What is found under a name is one of the entries. -/
theorem mem_of_get? (found : get? index name = some value) : (name, value) ∈ index := by
  -- The search ends at an entry of the name, which is the one found.
  induction index with
  | nil => simp at found
  | cons entry rest ih =>
    rw [get?_cons] at found
    by_cases same : entry.1 = name
    · rw [if_pos same, Option.some.injEq] at found
      simp [← same, ← found]
    · rw [if_neg same] at found
      exact List.mem_cons_of_mem entry (ih found)

/-- Something is found under every name that occurs. -/
theorem exists_get? (member : name ∈ index.map (·.1)) : ∃ value, get? index name = some value := by
  -- The first entry of the name is the one that is found.
  induction index with
  | nil => simp at member
  | cons entry rest ih =>
    by_cases same : entry.1 = name
    · exact ⟨entry.2, by rw [get?_cons, if_pos same]⟩
    · have tail : name ∈ rest.map (·.1) := by simpa [Ne.symm same] using member
      obtain ⟨value, found⟩ := ih tail
      exact ⟨value, by rw [get?_cons, if_neg same, found]⟩

/-- The names that occur are those under which something is found. -/
theorem mem_names_iff : name ∈ index.map (·.1) ↔ ∃ value, get? index name = some value := by
  constructor
  · exact exists_get?
  · rintro ⟨value, found⟩
    exact List.mem_map_of_mem (mem_of_get? found)

/-- Nothing is found under the names that do not occur. -/
theorem get?_eq_none_iff : get? index name = none ↔ name ∉ index.map (·.1) := by
  rw [mem_names_iff]
  cases get? index name <;> simp

/-- Where no name occurs twice, every entry is found under its name. -/
theorem get?_eq_some_iff (distinct : Distinct index) :
    get? index name = some value ↔ (name, value) ∈ index := by
  constructor
  · exact mem_of_get?
  · intro member
    induction index with
    | nil => simp at member
    | cons entry rest ih =>
      obtain ⟨fresh, tail⟩ := List.nodup_cons.mp distinct
      rw [get?_cons]
      rcases List.mem_cons.mp member with same | member
      · simp [← same]
      · -- A later entry of the same name would be the second one.
        have different : entry.1 ≠ name := by
          rintro rfl
          exact fresh (List.mem_map.mpr ⟨(entry.1, value), member, rfl⟩)
        rw [if_neg different]
        exact ih tail member

/-- Two orders of the same entries hold the same under every name. -/
theorem get?_perm (distinct : Distinct index) (same : index.Perm other) (wanted : String) :
    get? index wanted = get? other wanted := by
  -- Without repetition, being found is being an entry, which no order affects.
  have distinct' : Distinct other := (same.map _).nodup_iff.mp distinct
  apply Option.ext
  intro value
  rw [get?_eq_some_iff distinct, get?_eq_some_iff distinct', same.mem_iff]

/-- Only the name that is given a value changes. -/
theorem get?_put (index : Index Value) (name : String) (value : Value) (wanted : String) :
    get? (put index name value) wanted =
      if name = wanted then some value else get? index wanted := by
  -- Walk to the entry of the name, which is the only one that is replaced.
  induction index with
  | nil => simp only [put, get?_cons, get?_nil]
  | cons entry rest ih =>
    by_cases here : entry.1 = name
    · -- The entry of that name is replaced where it stands.
      subst here
      by_cases same : entry.1 = wanted <;> simp [put, get?_cons, same]
    · -- This entry stays, and is found under its own name only.
      simp only [put, if_neg here, get?_cons, ih]
      by_cases same : entry.1 = wanted
      · have different : name ≠ wanted := fun equal => here (same.trans equal.symm)
        rw [if_pos same, if_neg different, if_pos same]
      · rw [if_neg same, if_neg same]

/-- The names after one of them has been given a value. -/
theorem mem_names_put :
    wanted ∈ (put index name value).map (·.1) ↔ wanted = name ∨ wanted ∈ index.map (·.1) := by
  simp only [mem_names_iff, get?_put]
  by_cases same : name = wanted
  · simp [same]
  · simp [same, Ne.symm same]

/-- A name that is given a value still occurs only once. -/
theorem distinct_put (distinct : Distinct index) (name : String) (value : Value) :
    Distinct (put index name value) := by
  induction index with
  | nil => simp [put, Distinct]
  | cons entry rest ih =>
    obtain ⟨fresh, tail⟩ := List.nodup_cons.mp distinct
    by_cases here : entry.1 = name
    · -- The replaced entry keeps its name.
      subst here
      simpa [put, Distinct] using distinct
    · simp only [put, if_neg here]
      refine List.nodup_cons.mpr ⟨?_, ih tail⟩
      intro member
      rcases mem_names_put.mp member with same | member
      · exact here same
      · exact fresh member

/-- A name that is taken away is found no more, and the others as before. -/
theorem get?_drop (index : Index Value) (name wanted : String) :
    get? (drop index name) wanted = if name = wanted then none else get? index wanted := by
  induction index with
  | nil => simp [drop]
  | cons entry rest ih =>
    simp only [drop] at ih
    simp only [drop, List.filter_cons]
    by_cases here : entry.1 = name
    · -- The entry goes, and with it nothing but its own name.
      subst here
      rw [if_neg (by simp), ih, get?_cons]
      by_cases same : entry.1 = wanted <;> simp [same]
    · -- The entry stays, and only the name taken away is found no more behind it.
      rw [if_pos (by simpa using here), get?_cons, get?_cons, ih]
      by_cases same : entry.1 = wanted
      · have different : name ≠ wanted := fun equal => here (same.trans equal.symm)
        rw [if_pos same, if_neg different, if_pos same]
      · rw [if_neg same, if_neg same]

/-- Taking a name away leaves no name twice. -/
theorem distinct_drop (distinct : Distinct index) (name : String) : Distinct (drop index name) :=
  distinct.sublist (List.filter_sublist.map _)

/-- Names of the second index are found where the first one lacks them. -/
theorem get?_append (index other : Index Value) (wanted : String) :
    get? (index ++ other) wanted = (get? index wanted).or (get? other wanted) :=
  List.lookup_append

/-- A name that has a value keeps it, and is given one otherwise. -/
theorem get?_putNew (index : Index Value) (name : String) (value : Value) (wanted : String) :
    get? (putNew index name value) wanted =
      (get? index wanted).or (if name = wanted then some value else none) := by
  unfold putNew
  split
  · -- The name has a value already, which is the one found.
    rename_i present
    by_cases same : name = wanted
    · subst same
      obtain ⟨found, held⟩ := Option.isSome_iff_exists.mp present
      simp [held]
    · simp [same]
  · rw [get?_append, get?_cons, get?_nil]

/-- A name that is given a value if it has none still occurs only once. -/
theorem distinct_putNew (distinct : Distinct index) (name : String) (value : Value) :
    Distinct (putNew index name value) := by
  unfold putNew
  split
  · exact distinct
  · -- The name is new, so it may stand at the end.
    rename_i absent
    have fresh : name ∉ index.map (·.1) := by
      intro member
      obtain ⟨found, held⟩ := exists_get? member
      simp [held] at absent
    simp only [Distinct, List.map_append, List.map_cons, List.map_nil]
    exact List.nodup_append.mpr ⟨distinct, by simp, by
      intro left member right last same
      rw [List.mem_singleton] at last
      subst last
      exact fresh (same ▸ member)⟩

/-- A name that is given a value keeps its place, or comes behind all others. -/
theorem names_put (index : Index Value) (name : String) (value : Value) :
    (put index name value).map (·.1) =
      if name ∈ index.map (·.1) then index.map (·.1) else index.map (·.1) ++ [name] := by
  -- Walk to the entry of the name, or past all of them.
  induction index with
  | nil => simp [put]
  | cons entry rest ih =>
    by_cases here : entry.1 = name
    · simp [put, here]
    · -- The name is looked for behind this entry.
      simp only [put, if_neg here, List.map_cons, ih, List.mem_cons, Ne.symm here, false_or]
      split <;> simp

/-- A name that is given a value if it has none comes behind all others, unless it has its place. -/
theorem names_putNew (index : Index Value) (name : String) (value : Value) :
    (putNew index name value).map (·.1) =
      if name ∈ index.map (·.1) then index.map (·.1) else index.map (·.1) ++ [name] := by
  have known : (get? index name).isSome = true ↔ name ∈ index.map (·.1) := by
    rw [Option.isSome_iff_exists, mem_names_iff]
  unfold putNew
  by_cases present : name ∈ index.map (·.1)
  · rw [if_pos (known.mpr present), if_pos present]
  · rw [if_neg (mt known.mp present), if_neg present, List.map_append, List.map_singleton]

/-- A name that does not occur at the front is given its value behind. -/
theorem put_append (fresh : name ∉ index.map (·.1)) (other : Index Value) (value : Value) :
    put (index ++ other) name value = index ++ put other name value := by
  induction index with
  | nil => rfl
  | cons entry rest ih =>
    simp only [List.map_cons, List.mem_cons, not_or] at fresh
    rw [List.cons_append, put, if_neg (Ne.symm fresh.1), ih fresh.2, List.cons_append]

/-- A name that does not occur at the front is given its value behind, if it has none there. -/
theorem putNew_append (fresh : name ∉ index.map (·.1)) (other : Index Value) (value : Value) :
    putNew (index ++ other) name value = index ++ putNew other name value := by
  unfold putNew
  rw [get?_append, get?_eq_none_iff.mpr fresh, Option.none_or]
  split
  · rfl
  · rw [List.append_assoc]

/-- What is found among the entries of some names. -/
theorem get?_filter (index : Index Value) (keeps : String → Bool) (wanted : String) :
    get? (index.filter fun entry => keeps entry.1) wanted =
      if keeps wanted then get? index wanted else none := by
  induction index with
  | nil => simp
  | cons entry rest ih =>
    by_cases kept : keeps entry.1 = true
    · rw [List.filter_cons_of_pos (by simpa using kept), get?_cons, get?_cons, ih]
      by_cases same : entry.1 = wanted
      · simp [← same, kept]
      · simp [same]
    · -- An entry of another name makes no difference.
      rw [List.filter_cons_of_neg (by simpa using kept), get?_cons, ih]
      by_cases same : entry.1 = wanted
      · simp [← same, kept]
      · simp [same]

/-- Without repetition, the names in their order and what is found under them are all there is. -/
theorem ext_get? (distinct : Distinct index) (names : index.map (·.1) = other.map (·.1))
    (same : ∀ name, get? index name = get? other name) : index = other := by
  -- Entry by entry: the first name of both is found in the first entries, and nowhere behind them.
  induction index generalizing other with
  | nil => exact (List.map_eq_nil_iff.mp names.symm).symm
  | cons entry rest ih =>
    cases other with
    | nil => cases names
    | cons first others =>
      obtain ⟨fresh, tail⟩ := List.nodup_cons.mp distinct
      simp only [List.map_cons, List.cons.injEq] at names
      obtain ⟨named, behind⟩ := names
      -- The first entries are what is found under their common name.
      have value := same entry.1
      rw [get?_cons, if_pos rfl, get?_cons, if_pos named.symm, Option.some.injEq] at value
      have alike : ∀ name, get? rest name = get? others name := by
        intro name
        by_cases here : entry.1 = name
        · subst here
          rw [get?_eq_none_iff.mpr fresh, get?_eq_none_iff.mpr (behind ▸ fresh)]
        · have found := same name
          rwa [get?_cons, if_neg here, get?_cons, if_neg (named ▸ here)] at found
      rw [Prod.ext named value, ih tail behind alike]

section

variable (entries : Index Value)

/-- Entries that are added where they are new are found behind those that were there before. -/
theorem get?_foldl_putNew (index : Index Value) (wanted : String) :
    get? (entries.foldl (fun known entry => putNew known entry.1 entry.2) index) wanted =
      (get? index wanted).or (get? entries wanted) := by
  -- What is there already stays, so it is found before anything that is added.
  induction entries generalizing index with
  | nil => simp
  | cons entry rest ih =>
    rw [List.foldl_cons, ih, get?_putNew, get?_cons, Option.or_assoc]
    by_cases same : entry.1 = wanted <;> simp [same]

/-- Entries that replace others are found before those that were there, and the last of them
first. -/
theorem get?_foldl_put (index : Index Value) (wanted : String) :
    get? (entries.foldl (fun known entry => put known entry.1 entry.2) index) wanted =
      (get? entries.reverse wanted).or (get? index wanted) := by
  -- What comes later takes the place of what is there, so it is found before it.
  induction entries generalizing index with
  | nil => simp
  | cons entry rest ih =>
    rw [List.foldl_cons, ih, get?_put, List.reverse_cons, get?_append, Option.or_assoc, get?_cons,
      get?_nil]
    by_cases same : entry.1 = wanted <;> simp [same]

/-- Adding entries where they are new leaves no name twice. -/
theorem distinct_foldl_putNew (distinct : Distinct index) :
    Distinct (entries.foldl (fun known entry => putNew known entry.1 entry.2) index) := by
  induction entries generalizing index with
  | nil => exact distinct
  | cons entry rest ih => exact ih (distinct_putNew distinct entry.1 entry.2)

/-- Names come in the same order, whether entries are added where they are new or replace others. -/
theorem names_foldl (names : index.map (·.1) = other.map (·.1)) :
    (entries.foldl (fun known entry => putNew known entry.1 entry.2) index).map (·.1) =
      (entries.foldl (fun known entry => put known entry.1 entry.2) other).map (·.1) := by
  -- A name that is there keeps its place both ways, and a new one comes last.
  induction entries generalizing index other with
  | nil => exact names
  | cons entry rest ih => exact ih (by rw [names_putNew, names_put, names])

/-- Entries of names that do not occur at the front are added behind. -/
theorem foldl_putNew_append (fresh : ∀ entry ∈ entries, entry.1 ∉ index.map (·.1))
    (other : Index Value) :
    entries.foldl (fun known entry => putNew known entry.1 entry.2) (index ++ other) =
      index ++ entries.foldl (fun known entry => putNew known entry.1 entry.2) other := by
  induction entries generalizing other with
  | nil => rfl
  | cons entry rest ih =>
    rw [List.foldl_cons, putNew_append (fresh entry List.mem_cons_self),
      ih fun later member => fresh later (List.mem_cons_of_mem entry member), List.foldl_cons]

/-- Entries of names that do not occur at the front replace others behind. -/
theorem foldl_put_append (fresh : ∀ entry ∈ entries, entry.1 ∉ index.map (·.1))
    (other : Index Value) :
    entries.foldl (fun known entry => put known entry.1 entry.2) (index ++ other) =
      index ++ entries.foldl (fun known entry => put known entry.1 entry.2) other := by
  induction entries generalizing other with
  | nil => rfl
  | cons entry rest ih =>
    rw [List.foldl_cons, put_append (fresh entry List.mem_cons_self),
      ih fun later member => fresh later (List.mem_cons_of_mem entry member), List.foldl_cons]

end

/-- Where all values are replaced by the same rule, so is the one found. -/
theorem get?_map {Other : Type} (index : Index Value) (change : Value → Other) (wanted : String) :
    get? (index.map fun entry => (entry.1, change entry.2)) wanted =
      (get? index wanted).map change := by
  induction index with
  | nil => rfl
  | cons entry rest ih =>
    rw [List.map_cons, get?_cons, get?_cons, ih]
    by_cases same : entry.1 = wanted <;> simp [same]

/-- Sorting keeps the entries. -/
theorem mem_sorted {entry : String × Value} : entry ∈ sorted index ↔ entry ∈ index :=
  List.mem_mergeSort

/-- Where no name occurs twice, every name comes before those sorted behind it. -/
theorem ascending_sorted (distinct : Distinct index) :
    (sorted index).Pairwise fun left right => left.1 < right.1 := by
  have weakly : (sorted index).Pairwise fun left right => decide (left.1 ≤ right.1) = true := by
    apply List.pairwise_mergeSort
    · intro first second third
      simpa using String.le_trans
    · intro left right
      simpa using String.le_total left.1 right.1
  -- Sorting does not bring in a second entry of a name.
  have different : (sorted index).Pairwise fun left right => left.1 ≠ right.1 := by
    have names : ((sorted index).map (·.1)).Nodup :=
      ((List.mergeSort_perm index _).map _).nodup_iff.mpr distinct
    exact List.pairwise_map.mp names
  -- Names that are in order and differ are strictly in order.
  refine (weakly.and different).imp ?_
  intro left right order
  obtain ⟨below, unequal⟩ := order
  apply Decidable.byContradiction
  intro notLess
  exact unequal (String.le_antisymm (of_decide_eq_true below) (String.not_lt.mp notLess))

end Tollgate.Index
