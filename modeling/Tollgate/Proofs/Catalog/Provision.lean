import Tollgate.Proofs.Catalog.Seeding

/-!
What a single seeding brings about while others write to the store as well. Mappings are never taken
away, so a seeding that is answered all it asks leaves every one of its models mentioned for good,
even if it is told that there is no mapping where there is one.
-/

namespace Tollgate

namespace Text

/-- Every character has a lower-case form. -/
theorem lowerChar_ne_nil (c : Char) : lowerChar c ≠ [] := by
  unfold lowerChar
  split
  · simp
  · split
    · simp
    · split <;> simp

/-- A name that is not empty does not become so by folding. -/
theorem fold_ne_empty {name : String} (named : name ≠ "") : fold name ≠ "" := by
  have letters : name.toList ≠ [] := by simpa using named
  obtain ⟨first, rest, spelled⟩ := List.exists_cons_of_ne_nil letters
  -- The form of the first character is in front.
  rw [fold, spelled, lowerFrom]
  split <;> simp [lowerChar_ne_nil]

end Text

namespace Vault.Tables

/-- Changes leave all mappings there are, and only put new ones behind them. -/
theorem mappings_write (tables : Tables) (change : Write) :
    ∃ added, (tables.write change).mappings = tables.mappings ++ added := by
  cases change with
  | addMapping mapping => exact ⟨[mapping], rfl⟩
  | openAccount account | issueKey token key =>
    -- The account or the key is added only if its identity is free.
    refine ⟨[], ?_⟩
    simp only [write, addAccount, addKey, List.append_nil]
    split <;> rfl
  | _ => exact ⟨[], (List.append_nil _).symm⟩

/-- A model that is mentioned stays so, whatever changes. -/
theorem hasMapping_write {tables : Tables} {provider model : String}
    (mentioned : tables.hasMapping provider model = true) (change : Write) :
    (tables.write change).hasMapping provider model = true := by
  obtain ⟨added, grown⟩ := tables.mappings_write change
  rw [hasMapping, grown, List.any_append, ← hasMapping, mentioned, Bool.true_or]

/-- A model that is mentioned stays so, whatever is said to the store. -/
theorem Becomes.hasMapping {allowed : Write → Prop} {before after : Tables}
    {provider model : String} (becomes : Becomes allowed before after)
    (mentioned : before.hasMapping provider model = true) :
    after.hasMapping provider model = true :=
  becomes.keeps (·.hasMapping provider model = true)
    (fun _ change _ mentioned => hasMapping_write mentioned change) mentioned

end Vault.Tables

namespace Seeding

open Vault (Watched)

/-- A seeding that is answered all it asks leaves no model behind that is not mentioned. -/
theorem Stage.hasMapping_run {stage : Stage} {watched : Watched}
    (answered : stage.dialogue.allAnswered Watched.answer watched = true) {model : Descriptor}
    (pending : model ∈ stage.pending) :
    (stage.dialogue.run Watched.answer watched).2.vault.tables.hasMapping stage.provider
      model.id = true := by
  -- The seeding is followed call by call, and each time only its stage is left.
  generalize asks : stage.dialogue = dialogue at answered ⊢
  induction dialogue generalizing stage watched with
  | done count =>
    -- A stage that asks nothing more has come through all its models.
    have ended : stage.dialogue.result? = some count := by
      rw [asks]
      rfl
    rw [(Stage.eq_of_result? ended).2] at pending
    simp at pending
  | ask call next ih =>
    rcases made : watched.answer call with ⟨outage | answer, after⟩ <;>
      simp only [Dialogue.allAnswered, made] at answered
    · exact absurd answered Bool.false_ne_true
    · -- A store that answers is in order, and so the seeding advances.
      have behind := Vault.answer_of_watched_answer_ok made
      obtain ⟨later, goesOn, -, advances, -⟩ :=
        advances_of_ask asks behind (Vault.inOrder_of_answer_ok behind)
      simp only [Dialogue.run, made]
      rcases advances.mentioned pending with still | mentioned
      · rw [← advances.pending_subset.1]
        exact ih _ still goesOn.symm answered
      · -- What is mentioned now stays so for the rest of the seeding.
        have rest := Vault.run_becomes (·.vault.tables) Vault.watched_answer_becomes
          (next (.ok answer)) after
        exact rest.hasMapping mentioned

/-- A seeding that is answered all it asks leaves every model mentioned that was asked for. -/
theorem hasMapping_run_seed {provider : String} {models : List Descriptor} {watched : Watched}
    (answered : (seed provider models).allAnswered Watched.answer watched = true)
    (providerNamed : provider ≠ "") {model : Descriptor} (listed : model ∈ models)
    (named : model.id ≠ "") :
    ((seed provider models).run Watched.answer watched).2.vault.tables.hasMapping provider
      model.id = true := by
  -- The model, or one of its name before it, is a candidate.
  obtain seen | ⟨chosen, candidate, same⟩ := exists_candidate [] listed named
  · simp at seen
  have pending : chosen ∈ (Stage.opening (provider, models)).pending := by
    simpa [Stage.pending, Stage.opening, providerNamed] using candidate
  have opening := Stage.dialogue_opening (provider, models)
  simp only at opening
  rw [← opening] at answered ⊢
  have mentioned := Stage.hasMapping_run answered pending
  obtain ⟨mapping, member, mentions⟩ := List.any_eq_true.mp mentioned
  exact List.any_eq_true.mpr ⟨mapping, member, Mapping.mentions_of_key_eq same mentions⟩

end Seeding

end Tollgate
