import Tollgate.Policy.Configuration
import Tollgate.Proofs.EnvFile

/-!
Reading the configuration again. The file prevails over the environment then, and at the start the
environment prevails; but unless one line of the file overrules another one, this makes no
difference to variables of which the environment has none.
-/

namespace Tollgate.Configuration

variable {environment : Index String} {file : List (String × EnvFile.Template)}

/-- The fields of a configuration, by the names of their variables in lower case. -/
def fields : List String :=
  ["database_url", "server_port", "auth_header", "auth_scheme", "allow_alternate_headers",
    "legacy_query_prefix", "bypass_prefixes", "legacy_prefix_matching", "background_queue_capacity",
    "background_concurrency"]

/-- The variable is one of a configuration's. -/
def concerns (name : String) : Bool :=
  fields.contains (Text.fold name)

/-- Other variables are passed over. -/
theorem absorb_of_not_concerns {name : String} (other : ¬ concerns name = true) (draft : Draft)
    (value : String) : draft.absorb name value = .ok draft := by
  -- The name is none of the ten that are compared with it.
  simp only [concerns, fields, List.contains_cons, List.contains_nil, Bool.or_eq_true, beq_iff_eq,
    Bool.false_eq_true, or_false, not_or] at other
  simp only [Draft.absorb]
  split <;> simp_all

/-- Only the variables of a configuration count for it. -/
theorem ofVariables_filter (environment : Index String) :
    ofVariables (environment.filter fun entry => concerns entry.1) = ofVariables environment := by
  -- To leave entries out first is to pass over them while the others are taken up.
  rw [ofVariables, ofVariables, List.foldlM_filter]
  congr 2
  -- Passing an entry over is what taking it up comes to if it is none of the configuration's.
  funext draft entry
  split
  · rfl
  · rename_i other
    exact (absorb_of_not_concerns other draft entry.2).symm

/-- No line of a file overrules an earlier one in what counts for the configuration. -/
structure IsSettled (environment : Index String) (file : List (String × EnvFile.Template)) :
    Prop where
  /-- The last line that sets a variable of the configuration gives it the value the first one
  does. -/
  fields : ∀ name, concerns name = true →
    Index.get? (EnvFile.values environment file).reverse name =
      Index.get? (EnvFile.values environment file) name
  /-- Lines that set a variable to which values refer all give it the same value. -/
  references : ∀ name, EnvFile.Refers file name → ∀ value other,
    (name, value) ∈ EnvFile.values environment file →
      (name, other) ∈ EnvFile.values environment file → value = other

/-- A file that sets no variable twice overrules nothing. -/
theorem isSettled_of_nodup (once : (file.map (·.1)).Nodup) : IsSettled environment file := by
  -- The values bear the names of their lines, none of which occurs twice.
  have distinct : Index.Distinct (EnvFile.values environment file) := by
    rwa [Index.Distinct, EnvFile.names_values]
  constructor
  · -- With every name once, the order of the lines makes no difference.
    intro name _
    exact (Index.get?_perm distinct (List.reverse_perm _).symm name).symm
  · -- With every name once, two values of a name are one.
    intro name _ value other member also
    have found := (Index.get?_eq_some_iff distinct).mpr member
    rw [(Index.get?_eq_some_iff distinct).mpr also] at found
    exact (Option.some.inj found).symm

/-- A settled file overrides an environment that has none of its variables by the values of its
lines. -/
theorem override_of_settled (settled : IsSettled environment file)
    (apart : ∀ setting ∈ file, setting.1 ∉ environment.map (·.1)) :
    EnvFile.override environment file = (EnvFile.values environment file).foldl
      (fun known entry => known.put entry.1 entry.2) environment := by
  -- A value would differ only if it referred to something that has been overridden.
  refine EnvFile.override_eq (fun _ _ => rfl) fun name refers value other member before => ?_
  rcases before with held | also
  · -- A variable that a line sets is none of the environment's.
    exact absurd (Index.mem_names_iff.mpr ⟨other, held⟩) (EnvFile.apart_values apart _ member)
  · exact settled.references name refers other value also member

/-- What a settled file adds to an environment that has none of its variables and what it overrides
there are the same variables of the configuration, with the same values and in the same order. -/
theorem filter_override (settled : IsSettled environment file)
    (apart : ∀ setting ∈ file, setting.1 ∉ environment.map (·.1)) :
    (EnvFile.override environment file).filter (fun entry => concerns entry.1) =
      (EnvFile.addTo environment file).filter fun entry => concerns entry.1 := by
  have fresh := EnvFile.apart_values apart
  -- Both ways the variables of the file come behind those of the environment.
  have overridden := Index.foldl_put_append _ fresh []
  have added := Index.foldl_putNew_append _ fresh []
  rw [List.append_nil] at overridden added
  rw [override_of_settled settled apart, EnvFile.addTo_eq, overridden, added, List.filter_append,
    List.filter_append, List.append_cancel_left_eq]
  symm
  -- Two lists without repeated names are equal if they have the same names and values.
  apply Index.ext_get?
  · exact (Index.distinct_foldl_putNew _ (by simp [Index.Distinct])).sublist
      (List.filter_sublist.map _)
  · -- The names come in the order in which the lines name them first.
    have names := Index.names_foldl (EnvFile.values environment file)
      (rfl : ([] : Index String).map (·.1) = ([] : Index String).map (·.1))
    have kept := congrArg (List.filter concerns) names
    rwa [List.filter_map, List.filter_map] at kept
  · -- Which of several values counts makes no difference in a settled file.
    intro name
    rw [Index.get?_filter, Index.get?_filter, Index.get?_foldl_putNew, Index.get?_foldl_put]
    split
    · rename_i concerned
      rw [settled.fields name concerned, Index.get?_nil, Option.none_or, Option.or_none]
    · rfl

/-- Reading a configuration again, with nothing changed, leads to the same configuration or to the
same flaw, if the environment has none of the variables of the file and no line of the file
overrules an earlier one. A file that sets no variable twice overrules nothing. -/
theorem again_eq_atStart (environment : Index String) (file : List (String × EnvFile.Template))
    (apart : ∀ setting ∈ file, setting.1 ∉ environment.map (·.1)) :
    (IsSettled environment file → again environment file = atStart environment file) ∧
      ((file.map (·.1)).Nodup → IsSettled environment file) := by
  refine ⟨fun settled => ?_, isSettled_of_nodup⟩
  -- Only the variables of the configuration count, and these are the same.
  rw [again, atStart, ← ofVariables_filter, filter_override settled apart, ofVariables_filter]

/-- The port is set twice to the same value, which another value refers to in between; a variable
that is none of the configuration's is set to two values. -/
theorem again_eq_atStart_repeated :
    let environment : Index String := [("BYPASS_PREFIXES", "/x")]
    let file := EnvFile.ofText
      "# gate\nSERVER_PORT=80\nDATABASE_URL=\"db $\x7bSERVER_PORT\x7d\"\nNOTE=1\nSERVER_PORT='80'\nNOTE=2\n"
    let once := EnvFile.ofText "DATABASE_URL=db\nSERVER_PORT=80"
    (∀ setting ∈ file, setting.1 ∉ environment.map (·.1)) ∧ IsSettled environment file ∧
      again environment file = atStart environment file ∧
      (again environment file).toOption.map (·.databaseUrl) = some "db 80" ∧
      (∀ setting ∈ once, setting.1 ∉ environment.map (·.1)) ∧ (once.map (·.1)).Nodup ∧
      IsSettled environment once := by
  intro environment file once
  -- The file is read line by line, with the comment left out.
  have listed : file = [("SERVER_PORT", [.symbol '8', .symbol '0']),
      ("DATABASE_URL", [.symbol 'd', .symbol 'b', .symbol ' ', .valueOf "SERVER_PORT"]),
      ("NOTE", [.symbol '1']), ("SERVER_PORT", [.symbol '8', .symbol '0']),
      ("NOTE", [.symbol '2'])] := by decide +kernel
  have alsoListed : once = [("DATABASE_URL", [.symbol 'd', .symbol 'b']),
      ("SERVER_PORT", [.symbol '8', .symbol '0'])] := by decide +kernel
  have apart : ∀ setting ∈ file, setting.1 ∉ environment.map (·.1) := by
    rw [listed]
    decide
  have alsoApart : ∀ setting ∈ once, setting.1 ∉ environment.map (·.1) := by
    rw [alsoListed]
    decide
  have different : (once.map (·.1)).Nodup := by
    rw [alsoListed]
    decide
  -- The values are those of the lines, with the port filled in for the reference.
  have said : EnvFile.values environment file = [("SERVER_PORT", "80"), ("DATABASE_URL", "db 80"),
      ("NOTE", "1"), ("SERVER_PORT", "80"), ("NOTE", "2")] := by
    rw [listed]
    decide
  have settled : IsSettled environment file := by
    constructor
    · intro name concerned
      have silent : name ≠ "NOTE" := by
        rintro rfl
        exact absurd concerned (by decide +kernel)
      -- The last line for the port has the value of the first one, and the note does not count.
      rw [said]
      by_cases port : name = "SERVER_PORT"
      · simp [Index.get?_cons, port]
      · simp [Index.get?_cons, Ne.symm silent, Ne.symm port]
    · -- Only the port is referred to, and it is 80 throughout.
      rintro name ⟨setting, member, inside⟩
      have named : name = "SERVER_PORT" := by
        rw [listed] at member
        simp only [List.mem_cons, List.not_mem_nil, or_false] at member
        rcases member with rfl | rfl | rfl | rfl | rfl <;> simp_all
      rw [said, named]
      simp
  obtain ⟨unchanged, -⟩ := again_eq_atStart environment file apart
  obtain ⟨-, alsoSettled⟩ := again_eq_atStart environment once alsoApart
  exact ⟨apart, settled, unchanged settled, by decide +kernel, alsoApart, different,
    alsoSettled different⟩

/-- Of two values for one variable, the first one counts at the start and the last one later on. -/
theorem again_ne_atStart_of_overruled :
    ¬ ∀ (environment : Index String) (text : String),
      (∀ setting ∈ EnvFile.ofText text, setting.1 ∉ environment.map (·.1)) →
        again environment (EnvFile.ofText text) = atStart environment (EnvFile.ofText text) := by
  intro unchanged
  -- The second line overrules the first one when the file is read again.
  have same := unchanged [] "DATABASE_URL=a\nDATABASE_URL=b\n" (by simp)
  have places := congrArg (fun read => read.toOption.map (·.databaseUrl)) same
  revert places
  decide +kernel

end Tollgate.Configuration
