import Mathlib.Data.List.Sort
import Tollgate.Proofs.Catalog.Seeding
import Tollgate.Proofs.Catalog.View

/-!
Announcements of many connections. Those of one connection come in their order, but nothing is said
about the order of different connections, nor about the seedings that follow, which take place at
once with all that comes later. What becomes of it does not depend on any of this: the catalog goes
by the last word of each connection, and mappings by what has been announced at all.
-/

namespace Tollgate

namespace Mapping

/-- The folded names of the provider and of the name that clients use. -/
def foldedName (mapping : Mapping) : String × String :=
  (Text.fold mapping.provider, Text.fold mapping.source)

/-- The mapping of a model to itself mentions only models of its folded name. -/
theorem foldedName_of_mentions_identity {provider model owner name : String}
    (mentions : (identity provider model).mentions owner name = true) :
    (identity provider model).foldedName = (Text.fold owner, Text.fold name) := by
  -- The name is the same as that of the model, or as what the model is mapped to, itself.
  obtain ⟨sameOwner, sameName | sameName⟩ := mentions_iff.mp mentions
  · exact Prod.ext sameOwner sameName
  · exact Prod.ext sameOwner sameName

end Mapping

namespace ModelEvent

instance (event : ModelEvent) (provider connection : String) :
    Decidable (event.Names provider connection) :=
  inferInstanceAs (Decidable (_ ∧ _))

/-- The models for which the event makes sure that there are mappings. -/
def request? : ModelEvent → Option Seeding.Request
  | .registered provider _ models => some (provider, models)
  | .withdrawn _ _ => none

/-- The events about a connection, in their order. -/
def about (events : List ModelEvent) (provider connection : String) : List ModelEvent :=
  events.filter fun event => event.Names provider connection

/-- The events are those of a family of connections, each of which has sent its own in this
order. -/
def Interleaves (sent : String → String → List ModelEvent) (events : List ModelEvent) : Prop :=
  ∀ provider connection, about events provider connection = sent provider connection

variable {sent : String → String → List ModelEvent} {events others : List ModelEvent}

/-- An event has been sent if its connection has sent it. -/
theorem Interleaves.mem_iff (interleaves : Interleaves sent events) (event : ModelEvent) :
    event ∈ events ↔ event ∈ sent event.provider event.connection := by
  -- An event names its own connection, so the selection keeps it.
  rw [← interleaves, about, List.mem_filter]
  simp [Names]

/-- A connection is live by what it has sent itself. -/
theorem Interleaves.live_iff (interleaves : Interleaves sent events) (provider connection : String)
    (models : List Descriptor) :
    Catalog.Live events provider connection models ↔
      Catalog.Live (sent provider connection) provider connection models := by
  simp only [Catalog.Live]
  -- What is the latest of its kind is so among those of its connection.
  rw [← interleaves, about, isLatest_filter]

end ModelEvent

namespace Catalog

variable {events others : List ModelEvent} {catalog rival : Catalog} {provider : String}

/-- A model that is found is offered. -/
theorem Tracks.offered_of_find? (tracks : Tracks events catalog) {name : String}
    {model : Descriptor} (found : catalog.find? provider name = some model) :
    Offered events provider (Text.fold name) model :=
  tracks.genuine (Option.bind_eq_some_iff.mp found)

/-- A model is found under every name that is offered. -/
theorem Tracks.exists_find? (tracks : Tracks events catalog) {name : String} {model : Descriptor}
    (offered : Offered events provider (Text.fold name) model) :
    ∃ shown, catalog.find? provider name = some shown := by
  obtain ⟨shown, shows⟩ := tracks.present offered
  exact ⟨shown, Option.bind_eq_some_iff.mpr shows⟩

end Catalog

namespace Seeding

/-- Nothing is added for a model that has been mentioned from the start. -/
structure Sparing (initial : List Mapping) (stages : List Stage) (added : List Mapping) : Prop where
  spared : ∀ row ∈ added, ¬ initial.any (·.mentions row.provider row.source) = true
  missed : ∀ stage ∈ stages, ∀ model, stage.chosen = some model →
    ¬ initial.any (·.mentions stage.provider model.id) = true

variable {initial added after more : List Mapping} {stages left right : List Stage}
  {stage later : Stage}

/-- A seeding that begins has chosen nothing. -/
theorem Sparing.open (sparing : Sparing initial stages added) (request : Request) :
    Sparing initial (stages ++ [.opening request]) added where
  spared := sparing.spared
  missed other member model chosen := by
    -- The new stage has chosen nothing, so it only adds to those to be gone through.
    rcases List.mem_append.mp member with earlier | new
    · exact sparing.missed other earlier model chosen
    · rw [List.mem_singleton.mp new] at chosen
      cases chosen

/-- A seeding that chooses only models it has found no mapping for spares those mentioned. -/
theorem Sparing.advance (sparing : Sparing initial (left ++ stage :: right) added)
    (advances : Advances (initial ++ added) stage after later)
    (grown : after = initial ++ (added ++ more))
    (missed : ∀ model, later.chosen = some model →
      (initial ++ added).any (·.mentions stage.provider model.id) = false) :
    Sparing initial (left ++ later :: right) (added ++ more) where
  spared := by
    -- A row has been there before, or is what this step has added.
    intro row member
    rcases List.mem_append.mp member with before | new
    · exact sparing.spared row before
    · rw [← List.append_assoc] at grown
      -- A step adds nothing, or the mapping of the model it had chosen.
      rcases advances.same_or_add with same | ⟨model, chosen, -, grows⟩
      · have nothing : more = [] := by simpa using grown.symm.trans same
        rw [nothing] at new
        simp at new
      · -- The model had been chosen, and so it was missed before.
        obtain rfl : more = [.identity stage.provider model.id] :=
          List.append_cancel_left (grown.symm.trans grows)
        rw [List.mem_singleton.mp new]
        exact sparing.missed stage (by simp) model chosen
  missed := by
    intro other member model chosen
    -- Only the stage that has gone on can have chosen another model.
    rcases eq_or_mem_of_mem_replaced stage member with rfl | idle
    · have unmentioned := missed model chosen
      rw [List.any_append, Bool.or_eq_false_iff] at unmentioned
      rw [advances.pending_subset.1, unmentioned.1]
      exact Bool.false_ne_true
    · exact sparing.missed other idle model chosen

end Seeding

open Seeding (Stage Request Attended Sparing)

/-- A catalog and a store that are told of the models of connections, and what is left of the
seedings this has led to. -/
structure Hub where
  /-- What is shown of the connections. -/
  catalog : Catalog
  /-- The store, and those who give new models their mappings. -/
  pool : Vault.Pool Nat

namespace Hub

/-- Something that happens at a hub. -/
inductive Move where
  /-- An event is announced, connections and models being gone through in the given way. The
  catalog follows at once, and a seeding begins if there are new models. -/
  | announce (traversal : Traversal) (event : ModelEvent)
  /-- One of the seedings makes its next call. -/
  | call (place : Nat)

/-- The event that is announced by a move. -/
def Move.event? : Move → Option ModelEvent
  | .announce _ event => some event
  | .call _ => none

/-- Makes a move. -/
def step (hub : Hub) : Move → Hub
  | .announce traversal event =>
    let begun := event.request?.map fun request => Seeding.seed request.1 request.2
    { catalog := hub.catalog.note traversal event
      pool := { hub.pool with tasks := hub.pool.tasks ++ begun.toList } }
  | .call place => { hub with pool := hub.pool.step ⟨place, false⟩ }

/-- Makes one move after another. -/
def run (hub : Hub) (moves : List Move) : Hub :=
  moves.foldl step hub

/-- A hub at which nothing has been announced. -/
def opening (vault : Vault) : Hub := ⟨.empty, vault, []⟩

/-- The mappings there are. -/
def mappings (hub : Hub) : List Mapping := hub.pool.vault.tables.mappings

/-- No two connections of the provider have registered different models under the folded name. -/
def Undisputed (hub : Hub) (provider key : String) : Prop :=
  ∀ connection set model rival rivals other,
    hub.catalog.setOf? provider connection = some set → Index.get? set key = some model →
      hub.catalog.setOf? provider rival = some rivals → Index.get? rivals key = some other →
        model = other

/-- What can be seen of two hubs is the same, but for the choice between connections that describe a
model differently, and for the order and the casing of mappings. -/
structure Alike (first second : Hub) : Prop where
  providers : ∀ provider, provider ∈ first.catalog.snapshot.map (·.1) ↔
    provider ∈ second.catalog.snapshot.map (·.1)
  names : ∀ provider, (first.catalog.modelsOf provider).map (·.key) =
    (second.catalog.modelsOf provider).map (·.key)
  models : ∀ provider name, first.Undisputed provider (Text.fold name) →
    first.catalog.find? provider name = second.catalog.find? provider name
  mapped : ∀ name, name ∈ first.mappings.map (·.foldedName) ↔
    name ∈ second.mappings.map (·.foldedName)

/-- The models for which these events make sure that there are mappings. -/
def requests (events : List ModelEvent) : List Request :=
  events.filterMap (·.request?)

/-- The hub has been told these events, its seedings are at these stages, and these mappings have
been added to those there were at first. -/
structure Reflects (initial : List Mapping) (events : List ModelEvent) (added : List Mapping)
    (stages : List Stage) (hub : Hub) : Prop where
  tracks : Catalog.Tracks events hub.catalog
  inOrder : hub.pool.vault.failing = false
  mappings : hub.mappings = initial ++ added
  tasks : hub.pool.tasks = stages.map Stage.dialogue
  attended : Attended (requests events) initial stages added
  sparing : Sparing initial stages added

variable {initial added : List Mapping} {events : List ModelEvent} {stages : List Stage}
  {hub : Hub}

theorem reflects_opening {vault : Vault} (inOrder : vault.failing = false) :
    Reflects vault.tables.mappings [] [] [] (opening vault) where
  tracks := Catalog.tracks_nil
  inOrder := inOrder
  mappings := (List.append_nil _).symm
  tasks := rfl
  attended := Seeding.attended_nil _
  sparing := ⟨by simp, by simp⟩

/-- An announcement is followed, and what is to be seeded is. -/
theorem Reflects.announce (reflects : Reflects initial events added stages hub)
    (traversal : Traversal) (event : ModelEvent) :
    ∃ opened, Reflects initial (events ++ [event]) added opened
      (hub.step (.announce traversal event)) := by
  obtain ⟨tracks, inOrder, mappings, tasks, attended, sparing⟩ := reflects
  have tracks := tracks.note traversal event
  -- The event asks for a seeding if it is a registration, and then for one.
  have asked : requests (events ++ [event]) = requests events ++ event.request?.toList := by
    rw [requests, List.filterMap_append]
    cases event <;> rfl
  cases event with
  -- A withdrawal leaves the store and the seedings alone.
  | withdrawn provider connection =>
    refine ⟨stages, tracks, inOrder, mappings, ?_, ?_, sparing⟩
    · simpa [step, ModelEvent.request?] using tasks
    · rw [asked]
      simpa [ModelEvent.request?] using attended
  -- A registration opens one more seeding, behind those that are under way.
  | registered provider connection models =>
    refine ⟨stages ++ [.opening (provider, models)], tracks, inOrder, mappings, ?_, ?_,
      sparing.open _⟩
    · rw [List.map_append, ← tasks, List.map_singleton, Stage.dialogue_opening]
      rfl
    · rw [asked]
      exact attended.open (provider, models)

/-- The next call of a seeding is one that seedings make. -/
theorem Reflects.call (reflects : Reflects initial events added stages hub) (place : Nat) :
    ∃ more moved, Reflects initial events (added ++ more) moved (hub.step (.call place)) := by
  rcases Vault.Pool.step_cases hub.pool ⟨place, false⟩ with
    idle | ⟨left, call, next, right, outcome, after, parted, answered, moved⟩
  · -- Nothing is left to be asked at this place, and so nothing moves.
    refine ⟨[], stages, ?_⟩
    rw [List.append_nil]
    simpa only [step, idle] using reflects
  -- The dialogue that makes the call is that of one of the stages.
  obtain ⟨tracks, inOrder, mappings, tasks, attended, sparing⟩ := reflects
  rw [parted] at tasks
  obtain ⟨before, behind, rfl, rfl, acting⟩ := List.map_eq_append_iff.mp tasks.symm
  obtain ⟨stage, others, rfl, asks, rfl⟩ := List.map_eq_cons_iff.mp acting
  -- The call is one of a seeding, and the stage it leads to is one as well.
  obtain ⟨later, goesOn, stillInOrder, advances, missed⟩ :=
    Seeding.advances_of_ask asks answered inOrder
  have mappings : hub.pool.vault.tables.mappings = initial ++ added := mappings
  simp only [Vault.Tables.hasMapping, mappings] at advances missed
  obtain ⟨more, grown, still⟩ := attended.advance advances
  have spares := sparing.advance advances grown fun model chosen => missed model chosen trivial
  refine ⟨more, before ++ later :: others, ?_⟩
  simp only [step, moved]
  exact ⟨tracks, stillInOrder, grown, by simp [goesOn], still, spares⟩

/-- A hub reflects all that it has been told in a run. -/
theorem Reflects.run (reflects : Reflects initial events added stages hub) (moves : List Move) :
    ∃ more moved, Reflects initial (events ++ moves.filterMap (·.event?)) (added ++ more) moved
      (hub.run moves) := by
  -- Each move hands on what is reflected after it.
  induction moves generalizing hub events added stages with
  | nil => exact ⟨[], stages, by simpa [Hub.run] using reflects⟩
  | cons move rest ih =>
    cases move with
    -- An announcement adds an event, and perhaps a stage.
    | announce traversal event =>
      obtain ⟨opened, next⟩ := reflects.announce traversal event
      obtain ⟨more, moved, last⟩ := ih next
      rw [List.append_assoc] at last
      exact ⟨more, moved, last⟩
    -- A call adds no event, and at most one mapping.
    | call place =>
      obtain ⟨first, stages', next⟩ := reflects.call place
      obtain ⟨more, moved, last⟩ := ih next
      rw [List.append_assoc] at last
      exact ⟨first ++ more, moved, last⟩

/-- Once all seedings have come to their end, the names mapped are those that were mapped at first,
and those announced that were not mentioned then. -/
theorem Reflects.mem_foldedNames (reflects : Reflects initial events added stages hub)
    {counts : List Nat} (ended : hub.pool.LeadsTo counts) (name : String × String) :
    name ∈ hub.mappings.map (·.foldedName) ↔
      name ∈ initial.map (·.foldedName) ∨
        ∃ request ∈ requests events, ∃ model ∈ request.2, request.1 ≠ "" ∧ model.id ≠ "" ∧
          ¬ initial.any (·.mentions request.1 model.id) = true ∧
          name = (Text.fold request.1, Text.fold model.id) := by
  -- What was mapped at first goes on being mapped, so the question is what is added.
  rw [reflects.mappings, List.map_append, List.mem_append]
  apply or_congr Iff.rfl
  constructor
  · -- Whatever has been added was asked for, and had been looked for before.
    intro member
    obtain ⟨row, inside, rfl⟩ := List.mem_map.mp member
    obtain ⟨request, listed, model, found, provider, named, rfl⟩ :=
      reflects.attended.requested row inside
    have unmentioned := reflects.sparing.spared (.identity request.1 model.id) inside
    exact ⟨request, listed, model, found, provider, named, unmentioned, rfl⟩
  · rintro ⟨request, listed, model, found, provider, named, unmentioned, rfl⟩
    -- What mentions the model now was not there at first, and so it maps a model to itself.
    have settled := (Seeding.settled_of_leadsTo reflects.tasks ended).2
    have known := reflects.attended.mentioned settled listed provider found named
    rw [List.any_append, Bool.or_eq_true] at known
    obtain ⟨row, inside, mentions⟩ := List.any_eq_true.mp (known.resolve_left unmentioned)
    obtain ⟨asked, -, other, -, -, -, rfl⟩ := reflects.attended.requested row inside
    have name := Mapping.foldedName_of_mentions_identity mentions
    rw [← name]
    exact List.mem_map_of_mem inside

section

open ModelEvent (Interleaves)
open Catalog (Live Offered Tracks)

variable {sent : String → String → List ModelEvent} {first second : Hub}
  {earlier later : List ModelEvent} {provider key name : String}

/-- Two orders of the events of the same connections leave the same of them live. -/
theorem offered_iff (told : Interleaves sent earlier) (retold : Interleaves sent later)
    (model : Descriptor) :
    Offered earlier provider key model ↔ Offered later provider key model := by
  -- Offers are made by live connections, and these are the same in either order.
  simp only [Offered, told.live_iff, retold.live_iff]

/-- Where a name is undisputed, all live connections that offer it describe the model alike. -/
theorem Undisputed.unique {model other : Descriptor} (undisputed : first.Undisputed provider key)
    (tracks : Tracks earlier first.catalog) (offered : Offered earlier provider key model)
    (rival : Offered earlier provider key other) : model = other := by
  obtain ⟨connection, models, live, offers⟩ := offered
  obtain ⟨elsewhere, others, alsoLive, alsoOffers⟩ := rival
  -- Both models are in the sets that are kept for the connections.
  have kept := (tracks.connected provider connection _).mpr ⟨models, live, rfl⟩
  have alsoKept := (tracks.connected provider elsewhere _).mpr ⟨others, alsoLive, rfl⟩
  exact undisputed _ _ _ _ _ _ kept (ModelSet.get?_ofList_iff.mpr offers) alsoKept
    (ModelSet.get?_ofList_iff.mpr alsoOffers)

/-- A model that one catalog finds under an undisputed name is found by the other one as well. -/
theorem Undisputed.find? {model : Descriptor}
    (undisputed : first.Undisputed provider (Text.fold name))
    (firstTracks : Tracks earlier first.catalog) (secondTracks : Tracks later second.catalog)
    (told : Interleaves sent earlier) (retold : Interleaves sent later)
    (found : first.catalog.find? provider name = some model) :
    second.catalog.find? provider name = some model := by
  -- The other catalog finds some model under the name, and there is only one that it can be.
  have offered := firstTracks.offered_of_find? found
  obtain ⟨shown, alsoFound⟩ := secondTracks.exists_find? ((offered_iff told retold model).mp offered)
  -- What the other catalog shows was offered in the first order too.
  have rival := (offered_iff told retold shown).mpr (secondTracks.offered_of_find? alsoFound)
  rw [undisputed.unique firstTracks offered rival]
  exact alsoFound

/-- An undisputed name is undisputed wherever the same connections have been told of. -/
theorem Undisputed.transfer (undisputed : first.Undisputed provider key)
    (firstTracks : Tracks earlier first.catalog) (secondTracks : Tracks later second.catalog)
    (told : Interleaves sent earlier) (retold : Interleaves sent later) :
    second.Undisputed provider key := by
  -- The sets kept for connections are told from what these have sent themselves.
  have same (connection : String) (set : ModelSet) :
      second.catalog.setOf? provider connection = some set ↔
        first.catalog.setOf? provider connection = some set := by
    rw [firstTracks.connected, secondTracks.connected]
    simp only [told.live_iff, retold.live_iff]
  simp only [Undisputed, same]
  exact undisputed

/-- Two orders of the events of the same connections ask for the same to be seeded. -/
theorem mem_requests_iff (told : Interleaves sent earlier) (retold : Interleaves sent later)
    (request : Request) : request ∈ requests earlier ↔ request ∈ requests later := by
  -- An event leads to the same seeding wherever it stands.
  simp only [requests, List.mem_filterMap, told.mem_iff, retold.mem_iff]

end

/-- Two hubs that have been told the events of the same connections look the same once all seedings
have come to their end, if they have started from the same mappings. -/
theorem Reflects.alike {initial added more : List Mapping} {earlier later : List ModelEvent}
    {stages moved : List Stage} {first second : Hub} {sent : String → String → List ModelEvent}
    {counts others : List Nat} (reflects : Reflects initial earlier added stages first)
    (mirrors : Reflects initial later more moved second)
    (told : ModelEvent.Interleaves sent earlier) (retold : ModelEvent.Interleaves sent later)
    (firstEnded : first.pool.LeadsTo counts) (secondEnded : second.pool.LeadsTo others) :
    Alike first second where
  providers provider := by
    rw [reflects.tracks.refines.providers, mirrors.tracks.refines.providers]
    simp only [told.live_iff, retold.live_iff]
  names provider := by
    -- Both lists ascend, so it is enough that they have the same names.
    refine (reflects.tracks.ascending_keys provider).eq_of_mem_iff
      (mirrors.tracks.ascending_keys provider) fun key => ?_
    rw [reflects.tracks.mem_keys, mirrors.tracks.mem_keys]
    simp only [offered_iff told retold]
  models provider name undisputed := by
    -- Whichever of the two finds a model, the other one finds it too.
    apply Option.ext
    intro model
    constructor
    · exact undisputed.find? reflects.tracks mirrors.tracks told retold
    · have elsewhere := undisputed.transfer reflects.tracks mirrors.tracks told retold
      exact elsewhere.find? mirrors.tracks reflects.tracks retold told
  mapped name := by
    rw [reflects.mem_foldedNames firstEnded, mirrors.mem_foldedNames secondEnded]
    simp only [mem_requests_iff told retold]

/-- Whatever order the events of different connections are announced in, whenever the seedings that
follow make their calls, and in whatever way things are gone through: in the end, once all seedings
have come to theirs, the hub looks the same, but for the choice between connections that
disagree. -/
theorem announcements_commute (sent : String → String → List ModelEvent) (first second : Vault)
    (moves others : List Move) (counts more : List Nat)
    (firstInOrder : first.failing = false) (secondInOrder : second.failing = false)
    (same : first.tables.mappings = second.tables.mappings)
    (told : ModelEvent.Interleaves sent (moves.filterMap (·.event?)))
    (retold : ModelEvent.Interleaves sent (others.filterMap (·.event?)))
    (firstEnded : ((opening first).run moves).pool.LeadsTo counts)
    (secondEnded : ((opening second).run others).pool.LeadsTo more) :
    Alike ((opening first).run moves) ((opening second).run others) := by
  -- Each of the hubs reflects what it has been told, and that is the same but for the order.
  obtain ⟨_, _, reflects⟩ := (reflects_opening firstInOrder).run moves
  obtain ⟨_, _, mirrors⟩ := (reflects_opening secondInOrder).run others
  rw [List.nil_append] at reflects mirrors
  rw [← same] at mirrors
  exact reflects.alike mirrors told retold firstEnded secondEnded

/-- Three connections, of which one registers twice, one registers and withdraws, and one belongs to
what is the same provider for mappings but not for the catalog. One of its models is chosen by hand.
Different casing wins in either order, and both look the same in the end. -/
theorem announcements_commute_three_connections :
    let model (id : String) : Descriptor := ⟨id, none, none, none, []⟩
    let byHand : Mapping := ⟨"p", "real", "ALIAS", true⟩
    let vault : Vault := { Vault.empty with tables := Vault.Tables.empty.addMapping byHand }
    let opus : ModelEvent := .registered "P" "c" [model "Opus"]
    let again : ModelEvent := .registered "P" "c" [model "OPUS"]
    let haiku : ModelEvent := .registered "P" "d" [model "haiku"]
    let gone : ModelEvent := .withdrawn "P" "d"
    let lower : ModelEvent := .registered "p" "c" [model "opus", model "Alias"]
    let moves : List Move :=
      [.announce .inOrder opus, .call 0, .announce .inOrder haiku, .announce .inOrder lower,
        .call 2, .call 0, .call 2, .call 2, .call 1, .announce .inOrder again,
        .announce .inOrder gone, .call 1, .call 3]
    let others : List Move :=
      [.announce .inOrder lower, .call 0, .call 0, .announce .inOrder haiku, .call 1,
        .announce .inOrder gone, .announce .inOrder opus, .announce .inOrder again, .call 3,
        .call 2, .call 0, .call 1]
    ((opening vault).run moves).mappings =
        [byHand, .identity "P" "Opus", .identity "P" "haiku"] ∧
      ((opening vault).run others).mappings =
        [byHand, .identity "p" "opus", .identity "P" "haiku"] ∧
      Alike ((opening vault).run moves) ((opening vault).run others) := by
  intro model byHand vault opus again haiku gone lower moves others
  -- Only events of different connections have changed places.
  have retold : ModelEvent.Interleaves (ModelEvent.about (moves.filterMap (·.event?)))
      (others.filterMap (·.event?)) := by
    intro provider connection
    show ModelEvent.about [lower, haiku, gone, opus, again] provider connection =
      ModelEvent.about [opus, haiku, lower, again, gone] provider connection
    -- No two of the events that have changed places are about the same connection.
    by_cases small : "p" = provider
    · subst small
      simp [ModelEvent.about, ModelEvent.Names, ModelEvent.provider, ModelEvent.connection,
        List.filter_cons, opus, again, haiku, gone, lower]
    by_cases first : "c" = connection
    · subst first
      simp [ModelEvent.about, ModelEvent.Names, ModelEvent.provider, ModelEvent.connection,
        List.filter_cons, opus, again, haiku, gone, lower, small]
    · simp [ModelEvent.about, ModelEvent.Names, ModelEvent.provider, ModelEvent.connection,
        List.filter_cons, opus, again, haiku, gone, lower, small, first]
  refine ⟨by decide +kernel, by decide +kernel, ?_⟩
  exact announcements_commute (ModelEvent.about (moves.filterMap (·.event?))) vault vault moves
    others [1, 1, 0, 0] [1, 1, 0, 0] rfl rfl rfl (fun _ _ => rfl) retold (by decide +kernel)
    (by decide +kernel)

end Hub

end Tollgate
