import Mathlib.Algebra.GroupWithZero.Nat
import Mathlib.Data.List.Induction
import Tollgate.Catalog.Seeding
import Tollgate.Proofs.Vault.Pool
import Tollgate.Proofs.Vault.Writing

/-!
Several seedings at once. Between the moment one of them finds no mapping for a model and the moment
it adds one, another may have added the same, and what it found may have been out of date to begin
with. What keeps mappings apart is the order to the store, which adds none whose name is taken.
-/

namespace Tollgate

namespace Mapping

/-- A mapping mentions a provider's model by the folded names of both. -/
theorem mentions_iff {mapping : Mapping} {provider model : String} :
    mapping.mentions provider model = true ↔
      Text.fold mapping.provider = Text.fold provider ∧
        (Text.fold mapping.source = Text.fold model ∨
          Text.fold mapping.target = Text.fold model) := by
  simp [mentions, Text.sameFolded]

/-- The mapping of a model to itself mentions it. -/
theorem mentions_identity (provider model : String) :
    (identity provider model).mentions provider model = true :=
  mentions_iff.mpr ⟨rfl, Or.inl rfl⟩

/-- A mapping for the name that a model would be given mentions the model. -/
theorem mentions_of_sameSource {mapping : Mapping} {provider model : String}
    (same : mapping.sameSource (identity provider model) = true) :
    mapping.mentions provider model = true := by
  simp only [sameSource, identity, Text.sameFolded, Bool.and_eq_true, beq_iff_eq] at same
  exact mentions_iff.mpr ⟨same.1, Or.inl same.2⟩

/-- A mapping that mentions a model mentions all models of the same folded name. -/
theorem mentions_of_key_eq {mapping : Mapping} {provider : String} {model other : Descriptor}
    (same : model.key = other.key) (mentions : mapping.mentions provider model.id = true) :
    mapping.mentions provider other.id = true := by
  -- Of the model, mentioning looks at nothing but the folded name.
  rw [mentions_iff] at mentions ⊢
  rw [← show Text.fold model.id = Text.fold other.id from same]
  exact mentions

/-- No two of the mappings are for the same name of the same provider, whatever the casing. -/
def Unambiguous (mappings : List Mapping) : Prop :=
  mappings.Pairwise fun left right => left.sameSource right = false

instance (mappings : List Mapping) : Decidable (Unambiguous mappings) :=
  inferInstanceAs (Decidable (mappings.Pairwise _))

/-- A mapping may be added if its name has none. -/
theorem Unambiguous.concat {mappings : List Mapping} {mapping : Mapping}
    (unambiguous : Unambiguous mappings)
    (free : ¬ mappings.any (·.sameSource mapping) = true) :
    Unambiguous (mappings ++ [mapping]) := by
  refine List.pairwise_append.mpr ⟨unambiguous, List.pairwise_singleton _ _, ?_⟩
  -- The mapping that is added comes last, so it is compared with all those before it.
  intro earlier member last added
  rw [List.mem_singleton.mp added, Bool.eq_false_iff]
  intro taken
  exact free (List.any_eq_true.mpr ⟨earlier, member, taken⟩)

end Mapping

namespace Seeding

open Mapping (Unambiguous)

variable {model : Descriptor} {models : List Descriptor} {seen : List String}

/-- Only models that are listed and have a name are sought a mapping for. -/
theorem mem_of_mem_candidates (chosen : model ∈ candidates seen models) :
    model ∈ models ∧ model.id ≠ "" := by
  induction models generalizing seen with
  -- Nobody is listed.
  | nil => simp [candidates] at chosen
  | cons first rest ih =>
    simp only [candidates] at chosen
    split at chosen
    · -- The first model is passed over.
      obtain ⟨listed, named⟩ := ih chosen
      exact ⟨List.mem_cons_of_mem _ listed, named⟩
    · -- The first model is one of those chosen, so it has a name.
      rename_i kept
      rcases List.mem_cons.mp chosen with rfl | later
      · have named : model.id ≠ "" := by
          intro unnamed
          simp [unnamed] at kept
        exact ⟨List.mem_cons_self, named⟩
      · obtain ⟨listed, named⟩ := ih later
        exact ⟨List.mem_cons_of_mem _ listed, named⟩

/-- A model that has a name is sought a mapping for under its folded name, unless that name has been
seen before. -/
theorem exists_candidate (seen : List String) (listed : model ∈ models) (named : model.id ≠ "") :
    model.key ∈ seen ∨ ∃ chosen ∈ candidates seen models, chosen.key = model.key := by
  induction models generalizing seen with
  | nil => simp at listed
  | cons first rest ih =>
    simp only [candidates]
    -- The split is the one the search makes: is the first model passed over or chosen?
    split
    · rename_i skipped
      rcases List.mem_cons.mp listed with rfl | later
      · -- A model with a name is passed over only because its name has been seen.
        left
        simpa [named] using skipped
      · exact ih _ later
    · -- A first model that is chosen is the one found, if it has the name.
      by_cases same : first.key = model.key
      · exact Or.inr ⟨first, List.mem_cons_self, same⟩
      · rcases List.mem_cons.mp listed with rfl | later
        · exact absurd rfl same
        · -- The first model has another name, so what it adds to those seen makes no difference.
          rcases ih (first.key :: seen) later with known | ⟨chosen, member, found⟩
          · rcases List.mem_cons.mp known with equal | before
            · exact absurd equal.symm same
            · exact Or.inl before
          · exact Or.inr ⟨chosen, List.mem_cons_of_mem _ member, found⟩

/-- A provider and the models for which it is to have mappings. -/
abbrev Request := String × List Descriptor

/-- How far a seeding has come. -/
structure Stage where
  /-- Who serves the models. -/
  provider : String
  /-- How many mappings have been added for them. -/
  count : Nat
  /-- A model for which no mapping has been found, and which is about to be given one. -/
  chosen : Option Descriptor
  /-- Models for which a mapping is still to be sought. -/
  rest : List Descriptor

namespace Stage

/-- What is left of a seeding at a stage. -/
def dialogue (stage : Stage) : Dialogue Nat :=
  match stage.chosen with
  | none => seedEach stage.provider stage.count stage.rest
  | some model =>
    .ask (.insertMapping (.identity stage.provider model.id)) fun
      | .ok true => seedEach stage.provider (stage.count + 1) stage.rest
      | _ => seedEach stage.provider stage.count stage.rest

/-- The models a seeding has not done with. -/
def pending (stage : Stage) : List Descriptor :=
  stage.chosen.toList ++ stage.rest

/-- The first stage of a seeding. -/
def opening (request : Request) : Stage :=
  ⟨request.1, 0, none, if request.1.isEmpty then [] else candidates [] request.2⟩

/-- A seeding starts at its first stage. -/
theorem dialogue_opening (request : Request) :
    (opening request).dialogue = seed request.1 request.2 := by
  show seedEach request.1 0 (if request.1.isEmpty then [] else candidates [] request.2) = _
  unfold seed
  split <;> rfl

/-- A seeding that comes to a model asks whether it has a mapping, and leaves it alone unless it is
told that there is none. -/
theorem dialogue_cons (provider : String) (count : Nat) (model : Descriptor)
    (rest : List Descriptor) :
    dialogue ⟨provider, count, none, model :: rest⟩ =
      .ask (.mappingExists provider model.id) fun
        | .ok false => dialogue ⟨provider, count, some model, rest⟩
        | _ => dialogue ⟨provider, count, none, rest⟩ := by
  refine congrArg (Dialogue.ask _) (funext fun outcome => ?_)
  rcases outcome with _ | (_ | _)
  · rfl
  · exact congrArg (Dialogue.ask _) (funext fun added => by rcases added with _ | (_ | _) <;> rfl)
  · rfl

/-- A seeding that asks nothing more is done with all models, and has counted what it tells. -/
theorem eq_of_result? {stage : Stage} {count : Nat} (ended : stage.dialogue.result? = some count) :
    -- A question is still open if a model is chosen, or if any are left.
    stage.count = count ∧ stage.pending = [] := by
  obtain ⟨provider, counted, chosen, rest⟩ := stage
  cases chosen with
  | some model => simp [dialogue, Dialogue.result?] at ended
  | none =>
    cases rest with
    | nil => exact ⟨by simpa [dialogue, seedEach, Dialogue.result?] using ended, rfl⟩
    | cons model rest => simp [dialogue, seedEach, Dialogue.result?] at ended

end Stage

/-- What the next call of a seeding makes of the mappings and of its stage. -/
inductive Advances : List Mapping → Stage → List Mapping → Stage → Prop
  /-- No mapping is found for the next model, rightly or not. -/
  | choose {mappings : List Mapping} {provider : String} {count : Nat} {model : Descriptor}
      {rest : List Descriptor} :
      Advances mappings ⟨provider, count, none, model :: rest⟩
        mappings ⟨provider, count, some model, rest⟩
  /-- The model turns out to be mentioned already, at the first look or when its mapping is to be
  added. -/
  | leave {mappings : List Mapping} {stage : Stage} {model : Descriptor} {rest : List Descriptor}
      (next : stage.pending = model :: rest)
      (known : mappings.any (·.mentions stage.provider model.id) = true) :
      Advances mappings stage mappings ⟨stage.provider, stage.count, none, rest⟩
  /-- The model gets its mapping. -/
  | add {mappings : List Mapping} {provider : String} {count : Nat} {model : Descriptor}
      {rest : List Descriptor}
      (free : ¬ mappings.any (·.sameSource (.identity provider model.id)) = true) :
      Advances mappings ⟨provider, count, some model, rest⟩
        (mappings ++ [.identity provider model.id]) ⟨provider, count + 1, none, rest⟩

/-- A seeding that calls a store in order advances, however its question is answered. It comes to
have chosen a model only if it finds no mapping for it, as long as it is told the truth. -/
theorem advances_of_ask {vault after : Vault} {stage : Stage} {call : Call}
    {next : call.Outcome → Dialogue Nat} {outcome : call.Outcome}
    (asks : stage.dialogue = .ask call next)
    (answered : Vault.answer call vault = (outcome, after)) (inOrder : vault.failing = false) :
    ∃ later : Stage, next outcome = later.dialogue ∧ after.failing = false ∧
      Advances vault.tables.mappings stage after.tables.mappings later ∧
      ∀ model, later.chosen = some model → vault.staleMappings = false →
        vault.tables.hasMapping stage.provider model.id = false := by
  obtain ⟨provider, count, chosen, rest⟩ := stage
  cases chosen with
  | none =>
    cases rest with
    | nil => cases asks
    | cons model rest =>
      -- The store is asked whether the model has a mapping, and stays as it is.
      rw [Stage.dialogue_cons] at asks
      cases asks
      rw [Vault.answer_of_isRead inOrder rfl] at answered
      cases answered
      cases found : !vault.staleMappings && vault.tables.hasMapping provider model.id with
      -- The next question is whether there is a mapping, and any answer but a plain no is left
      -- alone.
      | false =>
        -- There may be a mapping all the same, so nothing is known about the model now.
        refine ⟨⟨provider, count, some model, rest⟩, ?_, inOrder, .choose, ?_⟩
        · simp only [Vault.respond, found]
        · rintro _ ⟨⟩
          simpa using found
      | true =>
        have known := (Bool.and_eq_true_iff.mp found).2
        refine ⟨⟨provider, count, none, rest⟩, ?_, inOrder, .leave rfl known, by simp⟩
        simp only [Vault.respond, found]
  | some model =>
    -- The store is told to add the mapping, and does if the name is free at this moment.
    cases asks
    rw [Vault.answer_insertMapping inOrder] at answered
    cases answered
    by_cases taken : vault.tables.mappings.any (·.sameSource (.identity provider model.id)) = true
    · -- Somebody else was faster, and the mapping in the way mentions the model.
      have known : vault.tables.mappings.any (·.mentions provider model.id) = true := by
        obtain ⟨mapping, member, same⟩ := List.any_eq_true.mp taken
        exact List.any_eq_true.mpr ⟨mapping, member, Mapping.mentions_of_sameSource same⟩
      refine ⟨⟨provider, count, none, rest⟩, ?_, inOrder, ?_, by simp⟩
      · simp only [Vault.Tables.insertMapping, if_pos taken]
        rfl
      · simp only [Vault.Tables.insertMapping, if_pos taken]
        exact .leave rfl known
    · refine ⟨⟨provider, count + 1, none, rest⟩, ?_, inOrder, ?_, by simp⟩
      · simp only [Vault.Tables.insertMapping, if_neg taken]
        rfl
      · simp only [Vault.Tables.insertMapping, if_neg taken]
        exact .add taken

/-- The provider and the models of a request have names, and the mapping is that of one of these
models to itself. -/
def Requested (requests : List Request) (mapping : Mapping) : Prop :=
  ∃ request ∈ requests, ∃ model ∈ request.2,
    request.1 ≠ "" ∧ model.id ≠ "" ∧ mapping = .identity request.1 model.id

namespace Advances

variable {mappings after : List Mapping} {stage later : Stage}

/-- A seeding stays with its provider, and takes up no models. -/
theorem pending_subset (advances : Advances mappings stage after later) :
    later.provider = stage.provider ∧ later.pending ⊆ stage.pending := by
  cases advances with
  | choose => exact ⟨rfl, fun _ => id⟩
  | leave next known =>
    refine ⟨rfl, fun model member => ?_⟩
    rw [next]
    exact List.mem_cons_of_mem _ member
  -- The models left are those behind the one just done with.
  | add free => exact ⟨rfl, fun model member => List.mem_cons_of_mem _ member⟩

/-- A seeding is not done with a model before a mapping mentions it. -/
theorem mentioned (advances : Advances mappings stage after later)
    (member : model ∈ stage.pending) :
    model ∈ later.pending ∨ after.any (·.mentions stage.provider model.id) = true := by
  cases advances with
  | choose => exact Or.inl member
  | leave next known =>
    -- The model that is left is the one in front, and it is mentioned by now.
    rw [next] at member
    rcases List.mem_cons.mp member with rfl | further
    · exact Or.inr known
    · exact Or.inl further
  | add free =>
    -- The model in front is the one that gets its mapping.
    rcases List.mem_cons.mp member with rfl | further
    · right
      simp [Mapping.mentions_identity]
    · exact Or.inl further

/-- A seeding adds only mappings of models it has not done with, and counts what it adds. -/
theorem grows (advances : Advances mappings stage after later) :
    ∃ added : List Mapping, after = mappings ++ added ∧ later.count = stage.count + added.length ∧
      ∀ row ∈ added, ∃ model ∈ stage.pending, row = .identity stage.provider model.id := by
  cases advances with
  | choose => exact ⟨[], by simp⟩
  | leave next known => exact ⟨[], by simp⟩
  | @add provider count model rest free =>
    -- The one mapping that is added is that of the chosen model.
    refine ⟨[.identity provider model.id], rfl, rfl, ?_⟩
    intro row member
    exact ⟨model, List.mem_cons_self, List.mem_singleton.mp member⟩

/-- A seeding that comes to have chosen a model has left the mappings as they were. -/
theorem of_chosen (advances : Advances mappings stage after later)
    (chosen : later.chosen = some model) : after = mappings := by
  cases advances with
  | choose => rfl
  -- In the other two cases no model is chosen afterwards.
  | leave next known => simp at chosen
  | add free => simp at chosen

/-- A seeding leaves the mappings as they are, or adds that of the model it has chosen. -/
theorem same_or_add (advances : Advances mappings stage after later) :
    after = mappings ∨ ∃ model, stage.chosen = some model ∧
      ¬ mappings.any (·.sameSource (.identity stage.provider model.id)) = true ∧
      after = mappings ++ [.identity stage.provider model.id] := by
  cases advances with
  | choose => exact Or.inl rfl
  | leave next known => exact Or.inl rfl
  | add free => exact Or.inr ⟨_, rfl, free, rfl⟩

/-- A seeding adds no second mapping for a name. -/
theorem unambiguous (advances : Advances mappings stage after later)
    (before : Unambiguous mappings) : Unambiguous after := by
  cases advances with
  | choose | leave => exact before
  | add free => exact before.concat free

end Advances

/-- Where one entry of a list has taken the place of another, the others are as they were. -/
theorem eq_or_mem_of_mem_replaced {Entry : Type} {left right : List Entry} {entry old : Entry}
    (new : Entry) (member : entry ∈ left ++ old :: right) :
    entry = old ∨ entry ∈ left ++ new :: right := by
  -- What is not the entry replaced stands in front of it or behind it.
  simp only [List.mem_append, List.mem_cons] at member ⊢
  rcases member with inside | same | inside
  · exact Or.inr (Or.inl inside)
  · exact Or.inl same
  · exact Or.inr (Or.inr (Or.inr inside))

/-- Some mapping mentions the model, or one of the seedings is not done with its name. -/
def Served (mappings : List Mapping) (stages : List Stage) (provider : String)
    (model : Descriptor) : Prop :=
  mappings.any (·.mentions provider model.id) = true ∨
    ∃ stage ∈ stages, stage.provider = provider ∧ ∃ other ∈ stage.pending, other.key = model.key

/-- A seeding that advances drops no model that nobody else sees to. -/
theorem Served.advance {mappings after : List Mapping} {left right : List Stage}
    {stage later : Stage} {provider : String}
    (served : Served mappings (left ++ stage :: right) provider model)
    (advances : Advances mappings stage after later) :
    Served after (left ++ later :: right) provider model := by
  rcases served with known | ⟨other, member, own, awaited, pending, same⟩
  · -- Mappings that were there before are still there.
    obtain ⟨added, rfl, -⟩ := advances.grows
    left
    rw [List.any_append, known, Bool.true_or]
  rcases eq_or_mem_of_mem_replaced later member with rfl | idle
  · -- The seeding that advances is the one that was not done with the name.
    rcases advances.mentioned pending with still | mentioned
    · have stays : later.provider = provider := advances.pending_subset.1.trans own
      exact Or.inr ⟨later, by simp, stays, awaited, still, same⟩
    · -- What mentions the one model mentions the other one of its name.
      obtain ⟨mapping, inside, mentions⟩ := List.any_eq_true.mp mentioned
      rw [own] at mentions
      have mentions' := Mapping.mentions_of_key_eq same mentions
      exact Or.inl (List.any_eq_true.mpr ⟨mapping, inside, mentions'⟩)
  · -- It is another seeding, which is as it was.
    exact Or.inr ⟨other, idle, own, awaited, pending, same⟩

/-- What holds of several seedings at any moment, given the mappings there were at first and those
that have been added since. -/
structure Attended (requests : List Request) (initial : List Mapping) (stages : List Stage)
    (added : List Mapping) : Prop where
  -- Mappings have been added for models that were asked for, and whoever added one has counted it.
  requested : ∀ row ∈ added, Requested requests row
  counted : (stages.map (·.count)).sum = added.length
  -- The models not done with are among those asked for.
  pending : ∀ stage ∈ stages, ∀ model ∈ stage.pending,
    Requested requests (.identity stage.provider model.id)
  -- All models that were asked for are seen to.
  served : ∀ request ∈ requests, request.1 ≠ "" → ∀ model ∈ request.2, model.id ≠ "" →
    Served (initial ++ added) stages request.1 model

/-- What holds of them besides, if no name had two mappings at first. -/
structure Underway (requests : List Request) (initial : List Mapping) (stages : List Stage)
    (added : List Mapping) : Prop extends Attended requests initial stages added where
  -- No name has two mappings.
  unambiguous : Unambiguous (initial ++ added)

section

variable {requests : List Request} {initial added after : List Mapping} {stages : List Stage}

theorem attended_nil (initial : List Mapping) : Attended [] initial [] [] where
  requested := by simp
  counted := rfl
  pending := by simp
  served := by simp

/-- More requests make no difference to those there are. -/
theorem Requested.append {mapping : Mapping} (requested : Requested requests mapping)
    (more : List Request) : Requested (requests ++ more) mapping := by
  obtain ⟨request, listed, asked⟩ := requested
  exact ⟨request, List.mem_append_left _ listed, asked⟩

/-- Another seeding may begin at any moment. -/
theorem Attended.open (attended : Attended requests initial stages added) (request : Request) :
    Attended (requests ++ [request]) initial (stages ++ [.opening request]) added where
  requested row member := (attended.requested row member).append _
  counted := by simpa [Stage.opening] using attended.counted
  pending stage member model pending := by
    -- The seedings that had begun are as they were; the new one awaits its candidates.
    rcases List.mem_append.mp member with earlier | new
    · exact (attended.pending stage earlier model pending).append _
    · rw [List.mem_singleton.mp new] at pending ⊢
      simp only [Stage.pending, Stage.opening, Option.toList_none, List.nil_append] at pending
      split at pending
      · -- Nothing is done for a provider without a name.
        simp at pending
      · rename_i provider
        have provider : request.1 ≠ "" := by simpa using provider
        obtain ⟨found, named⟩ := mem_of_mem_candidates pending
        exact ⟨request, by simp, model, found, provider, named, rfl⟩
  served asked listed provider model found named := by
    rcases List.mem_append.mp listed with earlier | new
    · -- For earlier requests nothing has changed.
      rcases attended.served asked earlier provider model found named with
        known | ⟨stage, member, awaited⟩
      · exact Or.inl known
      · exact Or.inr ⟨stage, List.mem_append_left _ member, awaited⟩
    · -- The model, or one of its name before it, is a candidate of the seeding that begins.
      obtain rfl := List.mem_singleton.mp new
      rcases exists_candidate [] found named with seen | ⟨chosen, member, same⟩
      · simp at seen
      · have pending : chosen ∈ (Stage.opening asked).pending := by
          simpa [Stage.pending, Stage.opening, provider] using member
        exact Or.inr ⟨.opening asked, by simp, rfl, chosen, pending, same⟩

/-- So it stays when one of them advances. -/
theorem Attended.advance {left right : List Stage} {stage later : Stage}
    (attended : Attended requests initial (left ++ stage :: right) added)
    (advances : Advances (initial ++ added) stage after later) :
    ∃ more, after = initial ++ (added ++ more) ∧
      Attended requests initial (left ++ later :: right) (added ++ more) := by
  obtain ⟨more, grown, counted, rows⟩ := advances.grows
  obtain ⟨sameProvider, fewer⟩ := advances.pending_subset
  have acting : stage ∈ left ++ stage :: right := by simp
  rw [List.append_assoc] at grown
  refine ⟨more, grown, ?requested, ?counted, ?pending, ?served⟩
  case requested =>
    -- What is added is for a model that the seeding was not done with.
    intro row member
    rcases List.mem_append.mp member with before | new
    · exact attended.requested row before
    · obtain ⟨model, pending, rfl⟩ := rows row new
      exact attended.pending stage acting model pending
  case counted =>
    -- The seeding that advances counts what it adds, and the others do not count.
    have before := attended.counted
    simp only [List.map_append, List.map_cons, List.sum_append, List.sum_cons, counted,
      List.length_append] at before ⊢
    omega
  case pending =>
    intro other member model pending
    -- The seeding that advances has at most the models it had.
    rcases eq_or_mem_of_mem_replaced stage member with rfl | idle
    · rw [sameProvider]
      exact attended.pending stage acting model (fewer pending)
    · exact attended.pending other idle model pending
  case served =>
    intro request listed provider model found named
    rw [← grown]
    exact (attended.served request listed provider model found named).advance advances

/-- No name comes to have two mappings when one of them advances. -/
theorem Underway.advance {left right : List Stage} {stage later : Stage}
    (underway : Underway requests initial (left ++ stage :: right) added)
    (advances : Advances (initial ++ added) stage after later) :
    ∃ more, after = initial ++ (added ++ more) ∧
      Underway requests initial (left ++ later :: right) (added ++ more) := by
  obtain ⟨more, grown, attended⟩ := underway.toAttended.advance advances
  refine ⟨more, grown, attended, ?_⟩
  rw [← grown]
  exact advances.unambiguous underway.unambiguous

end

/-- Several seedings held with one store at once. -/
def start (vault : Vault) (requests : List Request) : Vault.Pool Nat :=
  ⟨vault, requests.map fun request => seed request.1 request.2⟩

/-- The pool consists of seedings at these stages and a store in order, in which these mappings have
been added to those that were there at first. -/
structure Holds (requests : List Request) (initial added : List Mapping) (stages : List Stage)
    (pool : Vault.Pool Nat) : Prop where
  inOrder : pool.vault.failing = false
  mappings : pool.vault.tables.mappings = initial ++ added
  tasks : pool.tasks = stages.map Stage.dialogue
  underway : Underway requests initial stages added

/-- Seedings stay under way whoever makes the next call. -/
theorem Holds.step {requests : List Request} {initial added : List Mapping} {stages : List Stage}
    {pool : Vault.Pool Nat} (holds : Holds requests initial added stages pool)
    (turn : Vault.Turn) :
    ∃ more moved, Holds requests initial (added ++ more) moved (pool.step turn) := by
  rcases Vault.Pool.step_cases pool turn with
    idle | ⟨left, call, next, right, outcome, after, parted, answered, moved⟩
  · refine ⟨[], stages, ?_⟩
    rwa [idle, List.append_nil]
  -- The dialogue that makes the call is that of one of the stages.
  obtain ⟨inOrder, mappings, tasks, underway⟩ := holds
  rw [parted] at tasks
  obtain ⟨before, behind, rfl, rfl, acting⟩ := List.map_eq_append_iff.mp tasks.symm
  obtain ⟨stage, others, rfl, asks, rfl⟩ := List.map_eq_cons_iff.mp acting
  -- That stage advances, and all others stay where they are.
  obtain ⟨later, goesOn, stillInOrder, advances, -⟩ := advances_of_ask asks answered inOrder
  simp only [mappings] at advances
  obtain ⟨more, grown, still⟩ := underway.advance advances
  rw [moved]
  refine ⟨more, before ++ later :: others, stillInOrder, grown, ?_, still⟩
  simp [goesOn]

/-- Seedings that have all come to their end tell what they have counted, and are done with all
their models. -/
theorem settled_of_leadsTo {stages : List Stage} {pool : Vault.Pool Nat} {counts : List Nat}
    (tasks : pool.tasks = stages.map Stage.dialogue) (ended : pool.LeadsTo counts) :
    counts = stages.map (·.count) ∧ ∀ stage ∈ stages, stage.pending = [] := by
  -- Each stage of a pool at its end tells a count, and it is the count of the stage.
  have told : stages.map (·.dialogue.result?) = counts.map some := by
    rw [← ended, tasks, List.map_map]
    rfl
  have settled (stage : Stage) (member : stage ∈ stages) :
      stage.dialogue.result? = some stage.count ∧ stage.pending = [] := by
    have listed : stage.dialogue.result? ∈ counts.map some :=
      told ▸ List.mem_map.mpr ⟨stage, member, rfl⟩
    obtain ⟨count, -, same⟩ := List.mem_map.mp listed
    obtain ⟨rfl, nothing⟩ := Stage.eq_of_result? same.symm
    exact ⟨same.symm, nothing⟩
  refine ⟨?_, fun stage member => (settled stage member).2⟩
  have same : counts.map some = (stages.map (·.count)).map some := by
    rw [← told, List.map_map]
    exact List.map_congr_left fun stage member => (settled stage member).1
  exact (List.map_inj_right fun _ _ => Option.some.inj).mp same

/-- Where all seedings are done with all their models, every model that was asked for is
mentioned. -/
theorem Attended.mentioned {requests : List Request} {initial added : List Mapping}
    {stages : List Stage} (attended : Attended requests initial stages added)
    (settled : ∀ stage ∈ stages, stage.pending = []) {request : Request}
    (listed : request ∈ requests) (provider : request.1 ≠ "") {model : Descriptor}
    (found : model ∈ request.2) (named : model.id ≠ "") :
    (initial ++ added).any (·.mentions request.1 model.id) = true := by
  -- Whoever was awaited at the end would be pending at some stage.
  rcases attended.served request listed provider model found named with
    known | ⟨stage, member, -, other, pending, -⟩
  · exact known
  · -- Nobody waits for the model any more.
    rw [settled stage member] at pending
    simp at pending

/-- Seedings that have all come to their end have counted every mapping they added, and every model
that was asked for is mentioned. -/
theorem Holds.ended {requests : List Request} {initial added : List Mapping} {stages : List Stage}
    {pool : Vault.Pool Nat} {counts : List Nat}
    (holds : Holds requests initial added stages pool) (ended : pool.LeadsTo counts) :
    counts.sum = added.length ∧
      ∀ request ∈ requests, request.1 ≠ "" → ∀ model ∈ request.2, model.id ≠ "" →
        pool.vault.tables.hasMapping request.1 model.id = true := by
  -- Each has counted what it added, so the sum is the number of mappings added.
  obtain ⟨counted, settled⟩ := settled_of_leadsTo holds.tasks ended
  constructor
  · rw [counted, holds.underway.counted]
  · intro request listed provider model found named
    have known := holds.underway.mentioned settled listed provider found named
    rw [← holds.mappings] at known
    exact known

end Seeding

end Tollgate
