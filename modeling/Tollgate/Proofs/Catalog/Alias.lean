import Tollgate.Proofs.Catalog.Seeding

/-!
A seeding among others who write mappings by hand. The store adds no mapping whose name is taken,
but it does not look at what the names stand for. So a name that was chosen by hand is respected if
it was there when the seeding looked for it, and may be given a second mapping if it came in later.
-/

namespace Tollgate.Seeding

/-- Something that happens while a seeding is under way. -/
inductive Moment where
  /-- The seeding makes its next call. -/
  | call
  /-- Somebody else adds a mapping, whatever mappings there are. -/
  | write (mapping : Mapping)
  deriving DecidableEq

/-- What is left of a seeding, and the store it shares with others. -/
structure Scene where
  /-- The store. -/
  vault : Vault
  /-- What is left of the seeding. -/
  task : Dialogue Nat

namespace Scene

/-- A seeding that has not made any call. -/
def opening (vault : Vault) (request : Request) : Scene :=
  ⟨vault, seed request.1 request.2⟩

/-- The mappings there are. -/
def mappings (scene : Scene) : List Mapping := scene.vault.tables.mappings

/-- Lets something happen; a seeding that asks nothing more is left alone. -/
def step (scene : Scene) : Moment → Scene
  | .call =>
    match scene.task with
    | .done _ => scene
    | .ask call next =>
      let (outcome, vault) := Vault.answer call scene.vault
      ⟨vault, next outcome⟩
  | .write mapping =>
    { scene with vault := { scene.vault with tables := scene.vault.tables.addMapping mapping } }

/-- Lets one thing happen after another. -/
def run (scene : Scene) (moments : List Moment) : Scene :=
  moments.foldl step scene

end Scene

theorem Scene.run_concat (scene : Scene) (moments : List Moment) (last : Moment) :
    scene.run (moments ++ [last]) = (scene.run moments).step last := by
  -- The moments are gone through in their order, so the last one comes last.
  simp [run]

/-- A seeding that asks nothing more lets the moment pass. -/
theorem Scene.step_call_of_done {scene : Scene} {count : Nat} (ended : scene.task = .done count) :
    scene.step .call = scene := by
  simp only [step, ended]

/-- A seeding that asks something goes on with the outcome. -/
theorem Scene.step_call_of_ask {scene : Scene} {call : Call} {next : call.Outcome → Dialogue Nat}
    {outcome : call.Outcome} {after : Vault} (asks : scene.task = .ask call next)
    (answered : Vault.answer call scene.vault = (outcome, after)) :
    scene.step .call = ⟨after, next outcome⟩ := by
  simp only [step, asks, answered]

/-- The last call looked for a mapping of the model and found none, and since then nothing has
happened but that others have added these mappings. -/
def LookedFor (start : Scene) (provider : String) (moments : List Moment) (model : Descriptor)
    (written : List Mapping) : Prop :=
  ∃ earlier, moments = earlier ++ .call :: written.map .write ∧
    (start.run earlier).vault.tables.hasMapping provider model.id = false ∧
    (start.run moments).mappings = (start.run earlier).mappings ++ written

/-- What holds of a seeding at any moment, if the store is in order and tells the truth. -/
structure Attentive (start : Scene) (request : Request) (moments : List Moment) (stage : Stage) :
    Prop where
  inOrder : (start.run moments).vault.failing = false
  truthful : (start.run moments).vault.staleMappings = false
  task : (start.run moments).task = stage.dialogue
  provider : stage.provider = request.1
  pending : stage.pending ⊆ request.2
  -- Whatever model it is about to add a mapping for, it has just looked for.
  looked : ∀ model, stage.chosen = some model →
    ∃ written, LookedFor start request.1 moments model written

section

variable {start : Scene} {provider : String} {moments : List Moment} {model : Descriptor}
  {written : List Mapping} {mapping : Mapping}

/-- A mapping that was not there when it was looked for has been written since. -/
theorem LookedFor.mem_written (looked : LookedFor start provider moments model written)
    (member : mapping ∈ (start.run moments).mappings)
    (mentions : mapping.mentions provider model.id = true) : mapping ∈ written := by
  -- The mapping was there before, or has come in since.
  obtain ⟨earlier, -, missed, grown⟩ := looked
  rw [grown] at member
  rcases List.mem_append.mp member with before | since
  · -- A mapping that was there would have been found.
    have found : (start.run earlier).vault.tables.hasMapping provider model.id = true :=
      List.any_eq_true.mpr ⟨mapping, before, mentions⟩
    rw [missed] at found
    cases found
  · exact since

end

/-- A mapping that mentions a model while the name of the model is free has it as what it stands
for. -/
theorem target_of_mentions {mappings : List Mapping} {mapping : Mapping} {provider name : String}
    (free : ¬ mappings.any (·.sameSource (.identity provider name)) = true)
    (member : mapping ∈ mappings) (mentions : mapping.mentions provider name = true) :
    Text.fold mapping.target = Text.fold name ∧ Text.fold mapping.source ≠ Text.fold name := by
  -- The mapping has the provider of the model, and the model on one of its sides.
  obtain ⟨sameProvider, side⟩ := Mapping.mentions_iff.mp mentions
  -- Were it the name of the mapping, the name would not be free.
  have other : Text.fold mapping.source ≠ Text.fold name := by
    intro same
    have taken : mapping.sameSource (.identity provider name) = true := by
      simp [Mapping.sameSource, Mapping.identity, Text.sameFolded, sameProvider, same]
    exact free (List.any_eq_true.mpr ⟨mapping, member, taken⟩)
  exact ⟨side.resolve_left other, other⟩

section

variable {start : Scene} {request : Request} {moments : List Moment} {stage : Stage}

theorem attentive_opening {vault : Vault} (inOrder : vault.failing = false)
    (truthful : vault.staleMappings = false) :
    Attentive (.opening vault request) request [] (.opening request) where
  inOrder := inOrder
  truthful := truthful
  task := (Stage.dialogue_opening request).symm
  provider := rfl
  pending := by
    -- At the start the models that may be chosen are all those that have a name.
    intro model member
    simp only [Stage.pending, Stage.opening, Option.toList_none, List.nil_append] at member
    split at member
    · simp at member
    · exact (mem_of_mem_candidates member).1
  looked := by
    -- Nothing has been chosen yet.
    intro model chosen
    simp [Stage.opening] at chosen

/-- A seeding does not notice what others write, and still knows when it has looked. -/
theorem Attentive.write (attentive : Attentive start request moments stage) (mapping : Mapping) :
    Attentive start request (moments ++ [.write mapping]) stage where
  inOrder := by
    rw [Scene.run_concat]
    exact attentive.inOrder
  truthful := by
    rw [Scene.run_concat]
    exact attentive.truthful
  task := by
    rw [Scene.run_concat]
    exact attentive.task
  provider := attentive.provider
  pending := attentive.pending
  looked := by
    intro model chosen
    -- The model was looked for at the same earlier moment.
    obtain ⟨written, earlier, same, missed, grown⟩ := attentive.looked model chosen
    refine ⟨written ++ [mapping], earlier, by simp [same], missed, ?_⟩
    -- The mapping comes behind all those that have been written before.
    rw [Scene.run_concat, ← List.append_assoc, ← grown]
    rfl

/-- The next call of a seeding leaves it attentive, and if it changes the mappings, then as a
seeding advances. -/
theorem Attentive.call (attentive : Attentive start request moments stage) :
    ∃ later, Attentive start request (moments ++ [.call]) later ∧
      ((start.run (moments ++ [.call])).mappings = (start.run moments).mappings ∨
        Advances (start.run moments).mappings stage
          (start.run (moments ++ [.call])).mappings later) := by
  obtain ⟨inOrder, truthful, task, provider, pending, looked⟩ := attentive
  -- The moment of the call comes behind all others.
  have run := start.run_concat moments .call
  cases asks : stage.dialogue with
  | done count =>
    -- There is nothing more to ask, and no model is chosen.
    rw [Scene.step_call_of_done (task.trans asks)] at run
    have unchosen : stage.chosen = none := by
      obtain ⟨provider, counted, chosen, rest⟩ := stage
      cases chosen with
      | none => rfl
      | some model => simp [Stage.dialogue] at asks
    -- The moment passes without a change, so all is as it was.
    have idle : Attentive start request (moments ++ [.call]) stage := by
      constructor
      · rwa [run]
      · rwa [run]
      · rwa [run]
      · exact provider
      · exact pending
      · intro model chosen
        simp [unchosen] at chosen
    exact ⟨stage, idle, Or.inl (by rw [run])⟩
  | ask call next =>
    rcases answered : Vault.answer call (start.run moments).vault with ⟨outcome, after⟩
    rw [Scene.step_call_of_ask (task.trans asks) answered] at run
    -- A call that is made leads to a later stage, which still knows when it has looked.
    obtain ⟨later, goesOn, stillInOrder, advances, missed⟩ := advances_of_ask asks answered inOrder
    obtain ⟨sameProvider, fewer⟩ := advances.pending_subset
    have moved : Attentive start request (moments ++ [.call]) later := by
      constructor
      · rwa [run]
      · -- Calls do not change whether the store tells the truth.
        have same := Vault.staleMappings_answer call (start.run moments).vault
        rw [answered] at same
        rw [run]
        exact same.trans truthful
      · rwa [run]
      · exact sameProvider.trans provider
      · exact fun model member => pending (fewer member)
      · -- A model that is chosen now has just been looked for, and nobody else was in between.
        intro model chosen
        refine ⟨[], moments, by simp, ?_, ?_⟩
        · rw [← provider]
          exact missed model chosen truthful
        · rw [run, List.append_nil]
          exact advances.of_chosen chosen
    refine ⟨later, moved, Or.inr ?_⟩
    rw [run]
    exact advances

/-- A seeding is attentive at any moment. -/
theorem exists_attentive {vault : Vault} (inOrder : vault.failing = false)
    (truthful : vault.staleMappings = false) (request : Request) (moments : List Moment) :
    ∃ stage, Attentive (.opening vault request) request moments stage := by
  -- The last thing that happened is the last one that the seeding has come through.
  induction moments using List.reverseRecOn with
  | nil => exact ⟨_, attentive_opening inOrder truthful⟩
  | append_singleton earlier last ih =>
    obtain ⟨stage, attentive⟩ := ih
    cases last with
    -- Moments of both kinds leave the seeding attentive.
    | write mapping => exact ⟨stage, attentive.write mapping⟩
    | call =>
      obtain ⟨later, moved, -⟩ := attentive.call
      exact ⟨later, moved⟩

end

/-- Whatever others write in between, a call of a seeding leaves the mappings as they are, or adds
the mapping of one of its models to itself. In that case it has found no mapping for the model just
before, and those that mention it now have all been written since, with the model as what they
stand for and under another name. -/
theorem adds_only_what_it_missed (vault : Vault) (request : Request) (moments : List Moment)
    (inOrder : vault.failing = false) (truthful : vault.staleMappings = false) :
    let start := Scene.opening vault request
    let before := (start.run moments).mappings
    let after := (start.run (moments ++ [.call])).mappings
    after = before ∨
      ∃ model ∈ request.2, ∃ written, LookedFor start request.1 moments model written ∧
        after = before ++ [.identity request.1 model.id] ∧
        ∀ mapping ∈ before, mapping.mentions request.1 model.id = true →
          mapping ∈ written ∧ Text.fold mapping.target = Text.fold model.id ∧
            Text.fold mapping.source ≠ Text.fold model.id := by
  intro start before after
  -- The stage of the seeding tells what its next call can do.
  obtain ⟨stage, attentive⟩ := exists_attentive inOrder truthful request moments
  obtain ⟨later, -, same | advances⟩ := attentive.call
  · exact Or.inl same
  -- The store adds a mapping only for a model that has been chosen, and only if its name is free.
  obtain same | ⟨model, chosen, free, grown⟩ := advances.same_or_add
  · exact Or.inl same
  · right
    rw [attentive.provider] at free grown
    obtain ⟨written, looked⟩ := attentive.looked model chosen
    -- The model that was chosen is one of those the seeding was asked for.
    have listed : model ∈ request.2 := attentive.pending (by simp [Stage.pending, chosen])
    refine ⟨model, listed, written, looked, grown, ?_⟩
    intro mapping member mentions
    exact ⟨looked.mem_written member mentions, target_of_mentions free member mentions⟩

/-- Somebody maps a name to the model just after the seeding has looked for it. -/
theorem adds_only_what_it_missed_late_alias :
    let byHand : Mapping := ⟨"claude", "real-model", "alias", true⟩
    let model : Descriptor := ⟨"Alias", none, none, none, []⟩
    let start := Scene.opening .empty ("Claude", [model])
    let moments : List Moment := [.call, .write byHand]
    (start.run (moments ++ [.call])).mappings = [byHand, .identity "Claude" "Alias"] ∧
      ∃ written, LookedFor start "Claude" moments model written ∧ byHand ∈ written ∧
        Text.fold byHand.target = Text.fold "Alias" := by
  intro byHand model start moments
  have before : (start.run moments).mappings = [byHand] := by decide +kernel
  -- The second mapping of the name comes in although the name has one by then.
  have after : (start.run (moments ++ [.call])).mappings =
      [byHand, .identity "Claude" "Alias"] := by decide +kernel
  obtain same | ⟨added, listed, written, looked, -, late⟩ :=
    adds_only_what_it_missed .empty ("Claude", [model]) moments rfl rfl
  · -- It has changed the mappings, so the other case is the one to look at.
    exact absurd (after.symm.trans (same.trans before)) (by decide)
  · obtain rfl := List.mem_singleton.mp listed
    obtain ⟨since, target, -⟩ := late byHand (by rw [before]; simp) (by decide +kernel)
    exact ⟨after, written, looked, since, target⟩

/-- A name that is chosen by hand just after the seeding has looked for it gets a second mapping. -/
theorem late_alias_is_mapped_again :
    ¬ ∀ (vault : Vault) (request : Request) (moments : List Moment) (model : Descriptor),
      vault.failing = false → vault.staleMappings = false →
        let start := Scene.opening vault request
        (start.run (moments ++ [.call])).mappings =
            (start.run moments).mappings ++ [.identity request.1 model.id] →
          (start.run moments).vault.tables.hasMapping request.1 model.id = false := by
  intro claimed
  have free := claimed .empty ("claude", [⟨"alias", none, none, none, []⟩])
    [.call, .write ⟨"claude", "real-model", "alias", true⟩] ⟨"alias", none, none, none, []⟩
    rfl rfl (by decide +kernel)
  -- The name was taken by the time the seeding added its own mapping.
  have taken : ((Scene.opening .empty ("claude", [⟨"alias", none, none, none, []⟩])).run
      [.call, .write ⟨"claude", "real-model", "alias", true⟩]).vault.tables.hasMapping
        "claude" "alias" = true := by decide +kernel
  exact Bool.false_ne_true (free.symm.trans taken)

end Tollgate.Seeding
