import Tollgate.Gate.Basic
import Tollgate.Proofs.Catalog.ModelSet

/-!
The catalog against the events it has taken note of. After any history it shows the providers with a
live connection, and under each name what one of these connections offers, in whatever order
connections and models are gone through.
-/

namespace Tollgate

/-- A way to go through the connections of a provider and the models of each. None is left out or
made up, but both come in any order. -/
structure Traversal where
  arrange : Arrangement
  -- The models of every connection are shuffled, and so are the connections.
  visits : ∀ sets, ∃ shuffle : String × ModelSet → ModelSet,
    (∀ entry, (shuffle entry).Perm entry.2) ∧
      (arrange sets).Perm (sets.map fun entry => (entry.1, shuffle entry))

namespace Traversal

/-- Connections and models as they come. -/
def inOrder : Traversal where
  arrange := id
  visits sets := ⟨(·.2), fun entry => List.Perm.refl entry.2, by simp⟩

/-- A model is met under a name exactly if one of the connections holds it. -/
theorem exists_get?_arrange (traversal : Traversal) {sets : Index ModelSet}
    (distinct : ∀ entry ∈ sets, Index.Distinct entry.2) (key : String) (model : Descriptor) :
    (∃ entry ∈ traversal.arrange sets, Index.get? entry.2 key = some model) ↔
      ∃ entry ∈ sets, Index.get? entry.2 key = some model := by
  obtain ⟨shuffle, shuffled, same⟩ := traversal.visits sets
  -- Shuffling a set in which no name occurs twice does not change what it holds.
  have held : ∀ entry ∈ sets, Index.get? (shuffle entry) key = Index.get? entry.2 key :=
    fun entry member => (Index.get?_perm (distinct entry member) (shuffled entry).symm key).symm
  constructor
  · rintro ⟨entry, member, found⟩
    -- The set that is met is the shuffled form of one that is kept.
    obtain ⟨given, inside, rfl⟩ := List.mem_map.mp (same.mem_iff.mp member)
    exact ⟨given, inside, held given inside ▸ found⟩
  · rintro ⟨given, inside, found⟩
    exact ⟨(given.1, shuffle given),
      same.mem_iff.mpr (List.mem_map.mpr ⟨given, inside, rfl⟩),
      (held given inside).trans found⟩

end Traversal

namespace ModelEvent

/-- The provider an event is about. -/
def provider : ModelEvent → String
  | .registered provider _ _ | .withdrawn provider _ => provider

/-- The connection an event is about. -/
def connection : ModelEvent → String
  | .registered _ connection _ | .withdrawn _ connection => connection

/-- The event is about just this connection of this provider. -/
def Names (event : ModelEvent) (provider connection : String) : Prop :=
  event.provider = provider ∧ event.connection = connection

end ModelEvent

namespace Catalog

/-- A connection is live with these models if neither it nor its provider lacks a name and the last
event about it registers them. -/
def Live (events : List ModelEvent) (provider connection : String) (models : List Descriptor) :
    Prop :=
  provider ≠ "" ∧ connection ≠ "" ∧
    IsLatest (·.Names provider connection) events (.registered provider connection models)

/-- Takes note of an event, connections and models being gone through in the given way. -/
def note (catalog : Catalog) (traversal : Traversal) : ModelEvent → Catalog
  | .registered provider connection models =>
    catalog.registerBy traversal.arrange provider connection models
  | .withdrawn provider connection => catalog.withdrawBy traversal.arrange provider connection

/-- Takes note of one event after another, each with a way of its own to go through things. -/
def follow (catalog : Catalog) (history : List (Traversal × ModelEvent)) : Catalog :=
  history.foldl (fun catalog step => catalog.note step.1 step.2) catalog

/-- The set that a connection has registered. -/
def setOf? (catalog : Catalog) (provider connection : String) : Option ModelSet :=
  (catalog.connections.get? provider).bind fun sets => Index.get? sets connection

/-- The sets of the connections of a provider, none if it has no connection. -/
def setsOf (catalog : Catalog) (provider : String) : Index ModelSet :=
  (catalog.connections.get? provider).getD []

/-- Gives a provider other sets of models, and takes it away where there are none. -/
def replaceSets (arrange : Arrangement) (catalog : Catalog) (provider : String)
    (sets : Index ModelSet) : Catalog :=
  let connections :=
    if sets.isEmpty then catalog.connections.drop provider
    else catalog.connections.put provider sets
  refresh arrange { catalog with connections } provider

/-- Neither a provider nor a connection may lack a name. -/
theorem isNamed_iff (provider connection : String) :
    isNamed provider connection = true ↔ provider ≠ "" ∧ connection ≠ "" := by
  -- Each of the two names is tested for being empty.
  simp [isNamed]

/-- Where they do not both have a name, one of them lacks it. -/
theorem not_isNamed_iff (provider connection : String) :
    ¬ isNamed provider connection = true ↔ provider = "" ∨ connection = "" := by
  rw [isNamed_iff, Classical.not_and_iff_not_or_not, Classical.not_not, Classical.not_not]

/-- Registering replaces the set of one connection among those of its provider. -/
theorem registerBy_eq {provider connection : String}
    (named : isNamed provider connection = true) (arrange : Arrangement) (catalog : Catalog)
    (models : List Descriptor) :
    catalog.registerBy arrange provider connection models =
      catalog.replaceSets arrange provider
        (Index.put (catalog.setsOf provider) connection (ModelSet.ofList models)) := by
  -- There is a set at least for the connection that registers.
  have nonempty : ∀ sets : Index ModelSet,
      (Index.put sets connection (ModelSet.ofList models)).isEmpty = false := by
    intro sets
    cases sets with
    | nil => rfl
    | cons entry rest =>
      simp only [Index.put]
      split <;> rfl
  simp only [registerBy, named, if_true, setsOf, replaceSets, nonempty, Bool.false_eq_true,
    if_false]

/-- Withdrawing takes the set of one connection from those of its provider. -/
theorem withdrawBy_eq {provider connection : String} {catalog : Catalog} {set : ModelSet}
    (named : isNamed provider connection = true)
    (known : catalog.setOf? provider connection = some set) (arrange : Arrangement) :
    catalog.withdrawBy arrange provider connection =
      catalog.replaceSets arrange provider
        (Index.drop (catalog.setsOf provider) connection) := by
  -- The provider is known, and so is this connection of it.
  obtain ⟨sets, found, held⟩ := Option.bind_eq_some_iff.mp known
  simp only [withdrawBy, named, found, held, if_true, setsOf, replaceSets, Option.isNone_some,
    Bool.false_eq_true, if_false, Option.getD_some]

/-- Nothing is done about a connection that lacks a name, or whose provider does. -/
theorem note_of_unnamed {event : ModelEvent}
    (unnamed : event.provider = "" ∨ event.connection = "") (catalog : Catalog)
    (traversal : Traversal) : catalog.note traversal event = catalog := by
  have refused : isNamed event.provider event.connection = false := by
    -- One of the two tests fails.
    rcases unnamed with missing | missing <;> simp [isNamed, missing]
  -- Both kinds of event look at the names before anything else.
  cases event <;>
    simp_all [note, registerBy, withdrawBy, ModelEvent.provider, ModelEvent.connection]

/-- Nothing is done about the withdrawal of a connection that has registered nothing. -/
theorem note_of_unknown {provider connection : String} {catalog : Catalog}
    (unknown : catalog.setOf? provider connection = none) (traversal : Traversal) :
    catalog.note traversal (.withdrawn provider connection) = catalog := by
  -- The withdrawal looks for the provider first, and then for the connection.
  simp only [note, withdrawBy]
  split
  · cases found : catalog.connections.get? provider with
    | none => rfl
    | some sets =>
      -- The provider is known, but not this connection of it.
      have absent : Index.get? sets connection = none := by simpa [setOf?, found] using unknown
      simp only [absent, Option.isNone_none, if_true]
  · rfl

/-- Only the provider concerned gets other sets. -/
theorem get?_connections_replaceSets (arrange : Arrangement) (catalog : Catalog)
    (provider wanted : String) (sets : Index ModelSet) :
    (catalog.replaceSets arrange provider sets).connections.get? wanted =
      if provider = wanted then (if sets = [] then none else some sets)
      else catalog.connections.get? wanted := by
  -- What is shown of the provider is brought up to date afterwards, which leaves the sets alone.
  show Index.get? (if sets.isEmpty then catalog.connections.drop provider
    else catalog.connections.put provider sets) wanted = _
  by_cases empty : sets = []
  · -- Without sets the provider is dropped.
    simp [empty, Index.get?_drop]
  · simp [empty, Index.get?_put]

/-- Only the provider concerned is shown anew, as its sets stand then. -/
theorem get?_merged_refresh (arrange : Arrangement) (catalog : Catalog)
    (provider wanted : String) :
    (refresh arrange catalog provider).merged.get? wanted =
      if provider = wanted then
        (catalog.connections.get? provider).map fun sets => ModelSet.union (arrange sets)
      else catalog.merged.get? wanted := by
  -- Only what is shown of this provider is put in or dropped.
  cases found : catalog.connections.get? provider with
  | none => simp only [refresh, found, Index.get?_drop, Option.map_none]
  | some sets => simp only [refresh, found, Index.get?_put, Option.map_some]

/-- The providers shown remain without repetition. -/
theorem distinct_merged_refresh (arrange : Arrangement) {catalog : Catalog}
    (distinct : Index.Distinct catalog.merged) (provider : String) :
    Index.Distinct (refresh arrange catalog provider).merged := by
  -- Names are dropped, or put in where they are.
  simp only [refresh]
  split
  · exact Index.distinct_drop distinct provider
  · exact Index.distinct_put distinct provider _

/-- What is known of the catalog after a history of events. -/
structure Tracks (events : List ModelEvent) (catalog : Catalog) : Prop where
  -- The sets kept are those of the live connections.
  connected : ∀ provider connection set,
    catalog.setOf? provider connection = some set ↔
      ∃ models, Live events provider connection models ∧ set = ModelSet.ofList models
  -- A provider that is kept has connections, each of them once.
  inhabited : ∀ provider sets, catalog.connections.get? provider = some sets →
    sets ≠ [] ∧ Index.Distinct sets
  -- A provider is shown as its sets were met when they last changed.
  shown : ∀ provider, ∃ traversal : Traversal, catalog.merged.get? provider =
    (catalog.connections.get? provider).map fun sets =>
      ModelSet.union (traversal.arrange sets)
  -- No provider is shown twice.
  distinct : Index.Distinct catalog.merged

/-- An event about one connection does not touch another one. -/
theorem live_concat_of_other {events : List ModelEvent} {event : ModelEvent}
    {provider connection : String} {models : List Descriptor}
    (other : ¬ event.Names provider connection) :
    Live (events ++ [event]) provider connection models ↔
      Live events provider connection models := by
  -- The last event does not count, as it names another connection.
  simp only [Live, isLatest_concat, other, false_and, not_false_eq_true, true_and, false_or]

/-- A connection that has just registered is live with what it registered. -/
theorem live_concat_registered {events : List ModelEvent} {provider connection : String}
    {models listed : List Descriptor} (named : isNamed provider connection = true) :
    Live (events ++ [.registered provider connection listed]) provider connection models ↔
      models = listed := by
  obtain ⟨providerNamed, connectionNamed⟩ := (isNamed_iff provider connection).mp named
  have names : (ModelEvent.registered provider connection listed).Names provider connection :=
    ⟨rfl, rfl⟩
  -- The last event names the connection, and is the one that counts.
  simp [Live, isLatest_concat, names, providerNamed, connectionNamed]

/-- A connection that has just been withdrawn is not live. -/
theorem not_live_concat_withdrawn {events : List ModelEvent} {provider connection : String}
    {models : List Descriptor} :
    ¬ Live (events ++ [.withdrawn provider connection]) provider connection models := by
  have names : (ModelEvent.withdrawn provider connection).Names provider connection :=
    ⟨rfl, rfl⟩
  simp [Live, isLatest_concat, names]

/-- Before any event, nothing is kept and nothing is shown. -/
theorem tracks_nil : Tracks [] empty where
  connected provider connection set := by
    constructor
    · intro found
      simp [setOf?, empty] at found
    · -- No event registers anything, so no connection is live.
      rintro ⟨models, ⟨-, -, latest⟩, -⟩
      exact absurd latest not_isLatest_nil
  inhabited provider sets found := by simp [empty] at found
  shown provider := ⟨.inOrder, rfl⟩
  distinct := by simp [empty, Index.Distinct]

/-- An event about which nothing is done keeps what is known, if it leaves all connections live that
were. -/
theorem Tracks.idle {events : List ModelEvent} {event : ModelEvent} {catalog : Catalog}
    (tracks : Tracks events catalog)
    (same : ∀ provider connection models,
      Live (events ++ [event]) provider connection models ↔
        Live events provider connection models) :
    Tracks (events ++ [event]) catalog where
  connected provider connection set := by
    simp only [same]
    exact tracks.connected provider connection set
  inhabited := tracks.inhabited
  shown := tracks.shown
  distinct := tracks.distinct

/-- Giving a provider other sets keeps what is known, if these are the sets of the connections that
are live after the event. -/
theorem Tracks.replaceSets {events : List ModelEvent} {catalog : Catalog} {sets : Index ModelSet}
    (tracks : Tracks events catalog) (event : ModelEvent) (traversal : Traversal)
    (distinct : Index.Distinct sets)
    (current : ∀ connection set, Index.get? sets connection = some set ↔
      ∃ models, Live (events ++ [event]) event.provider connection models ∧
        set = ModelSet.ofList models) :
    Tracks (events ++ [event]) (catalog.replaceSets traversal.arrange event.provider sets) where
  connected provider connection set := by
    rw [setOf?, get?_connections_replaceSets]
    by_cases same : event.provider = provider
    · -- The provider concerned has the new sets, or is gone for want of any.
      subst same
      rw [if_pos rfl, ← current]
      by_cases empty : sets = [] <;> simp [empty]
    · -- The event is not about any connection of another provider.
      have other : ¬ event.Names provider connection := fun names => same names.1
      simp only [if_neg same, live_concat_of_other other]
      exact tracks.connected provider connection set
  inhabited provider found kept := by
    rw [get?_connections_replaceSets] at kept
    by_cases same : event.provider = provider
    · -- A provider without connections is not kept.
      by_cases empty : sets = []
      · simp [same, empty] at kept
      · simp only [if_pos same, if_neg empty, Option.some.injEq] at kept
        exact kept ▸ ⟨empty, distinct⟩
    · rw [if_neg same] at kept
      exact tracks.inhabited provider found kept
  shown provider := by
    by_cases same : event.provider = provider
    · -- The provider concerned has just been gone through anew.
      subst same
      exact ⟨traversal, by rw [Catalog.replaceSets, get?_merged_refresh, if_pos rfl]; rfl⟩
    · -- Another provider is still shown as it was met earlier.
      obtain ⟨earlier, shown⟩ := tracks.shown provider
      refine ⟨earlier, ?_⟩
      rw [get?_connections_replaceSets, if_neg same, Catalog.replaceSets, get?_merged_refresh,
        if_neg same]
      exact shown
  distinct := by
    rw [Catalog.replaceSets]
    apply distinct_merged_refresh
    exact tracks.distinct

/-- The sets of a provider are those of its live connections. -/
theorem Tracks.get?_setsOf {events : List ModelEvent} {catalog : Catalog}
    (tracks : Tracks events catalog) (provider connection : String) (set : ModelSet) :
    Index.get? (catalog.setsOf provider) connection = some set ↔
      ∃ models, Live events provider connection models ∧ set = ModelSet.ofList models := by
  rw [← tracks.connected, setsOf, setOf?]
  cases catalog.connections.get? provider <;> simp

/-- The sets that are kept for a provider are those of its live connections. -/
theorem Tracks.get?_kept {events : List ModelEvent} {catalog : Catalog}
    (tracks : Tracks events catalog) {provider : String} {sets : Index ModelSet}
    (kept : catalog.connections.get? provider = some sets) (connection : String)
    (set : ModelSet) :
    Index.get? sets connection = some set ↔
      ∃ models, Live events provider connection models ∧ set = ModelSet.ofList models := by
  have listed := tracks.get?_setsOf provider connection set
  rw [setsOf, kept, Option.getD_some] at listed
  exact listed

/-- The sets of a provider belong to different connections. -/
theorem Tracks.distinct_setsOf {events : List ModelEvent} {catalog : Catalog}
    (tracks : Tracks events catalog) (provider : String) :
    Index.Distinct (catalog.setsOf provider) := by
  rw [setsOf]
  cases kept : catalog.connections.get? provider with
  | none => simp [Index.Distinct]
  | some sets => exact (tracks.inhabited provider sets kept).2

/-- A connection that registers keeps what is known. -/
theorem Tracks.note_registered {events : List ModelEvent} {catalog : Catalog}
    (tracks : Tracks events catalog) (traversal : Traversal) {provider connection : String}
    (named : isNamed provider connection = true) (models : List Descriptor) :
    Tracks (events ++ [.registered provider connection models])
      (catalog.note traversal (.registered provider connection models)) := by
  rw [note, registerBy_eq named]
  apply tracks.replaceSets (.registered provider connection models)
  · exact Index.distinct_put (tracks.distinct_setsOf provider) connection _
  · intro wanted set
    rw [Index.get?_put]
    by_cases same : connection = wanted
    · -- The connection itself is live with what it has just registered.
      subst same
      rw [if_pos rfl, Option.some.injEq, eq_comm]
      simp only [ModelEvent.provider, live_concat_registered named, exists_eq_left]
    · -- The other connections of the provider keep their sets.
      have other : ¬ (ModelEvent.registered provider connection models).Names provider wanted :=
        fun names => same names.2
      rw [if_neg same, ModelEvent.provider, tracks.get?_setsOf]
      simp only [live_concat_of_other other]

/-- A connection that withdraws keeps what is known, whether it was live or not. -/
theorem Tracks.note_withdrawn {events : List ModelEvent} {catalog : Catalog}
    (tracks : Tracks events catalog) (traversal : Traversal) {provider connection : String}
    (named : isNamed provider connection = true) :
    Tracks (events ++ [.withdrawn provider connection])
      (catalog.note traversal (.withdrawn provider connection)) := by
  cases known : catalog.setOf? provider connection with
  | none =>
    rw [note_of_unknown known]
    apply tracks.idle
    intro wantedProvider wanted models
    by_cases names : (ModelEvent.withdrawn provider connection).Names wantedProvider wanted
    · -- The connection was not live before, and is not live now.
      obtain ⟨rfl, rfl⟩ := names
      refine iff_of_false not_live_concat_withdrawn ?_
      intro live
      have held := (tracks.connected provider connection _).mpr ⟨models, live, rfl⟩
      exact absurd (known.symm.trans held) (by simp)
    · exact live_concat_of_other names
  | some set =>
    -- The connection was live, so the provider loses its set.
    rw [note, withdrawBy_eq named known]
    apply tracks.replaceSets (.withdrawn provider connection)
    · exact Index.distinct_drop (tracks.distinct_setsOf provider) connection
    · intro wanted set
      rw [Index.get?_drop]
      by_cases same : connection = wanted
      · -- The connection itself is live no longer.
        subst same
        simp [ModelEvent.provider, not_live_concat_withdrawn]
      · have other : ¬ (ModelEvent.withdrawn provider connection).Names provider wanted :=
          fun names => same names.2
        rw [if_neg same, ModelEvent.provider, tracks.get?_setsOf]
        simp only [live_concat_of_other other]

/-- An event about a connection that lacks a name, or whose provider does, keeps what is known. -/
theorem Tracks.note_unnamed {events : List ModelEvent} {catalog : Catalog}
    (tracks : Tracks events catalog) (traversal : Traversal) {event : ModelEvent}
    (unnamed : event.provider = "" ∨ event.connection = "") :
    Tracks (events ++ [event]) (catalog.note traversal event) := by
  rw [note_of_unnamed unnamed]
  apply tracks.idle
  intro provider connection models
  by_cases names : event.Names provider connection
  · -- A connection that lacks a name is not live, whatever happens.
    obtain ⟨rfl, rfl⟩ := names
    rcases unnamed with missing | missing <;> simp [Live, missing]
  · exact live_concat_of_other names

/-- Taking note of an event keeps what is known. -/
theorem Tracks.note {events : List ModelEvent} {catalog : Catalog} (tracks : Tracks events catalog)
    (traversal : Traversal) (event : ModelEvent) :
    Tracks (events ++ [event]) (catalog.note traversal event) := by
  -- Only events about connections with names get as far as the sets.
  by_cases named : isNamed event.provider event.connection = true
  · cases event with
    | registered provider connection models => exact tracks.note_registered traversal named models
    | withdrawn provider connection => exact tracks.note_withdrawn traversal named
  · exact tracks.note_unnamed traversal ((not_isNamed_iff _ _).mp named)

/-- After any history, what is known holds of the catalog that has followed it. -/
theorem tracks_follow (history : List (Traversal × ModelEvent)) :
    Tracks (history.map (·.2)) (empty.follow history) := by
  -- The last event is the one that was taken note of last.
  induction history using List.reverseRecOn with
  | nil => exact tracks_nil
  | append_singleton earlier last ih =>
    rw [List.map_append, follow, List.foldl_append]
    exact ih.note last.1 last.2

end Catalog

end Tollgate
