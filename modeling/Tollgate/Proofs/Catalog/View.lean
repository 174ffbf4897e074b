import Tollgate.Proofs.Catalog.History

/-!
What the catalog shows after a history of events, told from the events alone: which providers, and
under each name which models. Every reading of the catalog agrees on it.
-/

namespace Tollgate

namespace Catalog

variable {events : List ModelEvent} {catalog : Catalog} {provider key : String}
  {model : Descriptor}

/-- The model is shown for a provider under a folded name. -/
def Shows (catalog : Catalog) (provider key : String) (model : Descriptor) : Prop :=
  ∃ view, catalog.merged.get? provider = some view ∧ Index.get? view key = some model

/-- Some live connection of the provider offers the model under the folded name. -/
def Offered (events : List ModelEvent) (provider key : String) (model : Descriptor) : Prop :=
  ∃ connection models, Live events provider connection models ∧ ModelSet.Offers models key model

/-- The catalog shows what the events call for, and takes no note of what concerns nobody. -/
structure Refines (events : List ModelEvent) (catalog : Catalog) : Prop where
  -- The providers listed are those with a live connection, and each is listed once.
  providers : ∀ provider, provider ∈ catalog.snapshot.map (·.1) ↔
    ∃ connection models, Live events provider connection models
  once : Index.Distinct catalog.snapshot
  -- A name is shown if some live connection has it, and then as one of these describes it.
  present : ∀ provider key, (∃ model, catalog.Shows provider key model) ↔
    ∃ model, Offered events provider key model
  genuine : ∀ provider key model, catalog.Shows provider key model →
    Offered events provider key model
  -- A list of models has those shown, in ascending order of their folded names.
  listed : ∀ provider models, Index.get? catalog.snapshot provider = some models →
    (∀ model, model ∈ models ↔ catalog.Shows provider model.key model) ∧
      models.Pairwise fun left right => left.key < right.key
  -- The readings of one provider and of one model tell the same.
  modelsOf : ∀ provider,
    catalog.modelsOf provider = (Index.get? catalog.snapshot provider).getD []
  found : ∀ provider name model, catalog.find? provider name = some model ↔
    catalog.Shows provider (Text.fold name) model
  -- Nothing follows from an event that lacks a name, or from the withdrawal of what is not live.
  unnamed : ∀ traversal event, event.provider = "" ∨ event.connection = "" →
    catalog.note traversal event = catalog
  unknown : ∀ traversal provider connection,
    (¬ ∃ models, Live events provider connection models) →
      catalog.note traversal (.withdrawn provider connection) = catalog

/-- The providers listed are those that are shown. -/
theorem names_snapshot (catalog : Catalog) :
    -- The snapshot rearranges the models, and leaves the names of the providers.
    catalog.snapshot.map (·.1) = catalog.merged.map (·.1) := by
  rw [snapshot, List.map_map]
  rfl

/-- The list of a provider has the models shown for it. -/
theorem get?_snapshot (catalog : Catalog) (provider : String) :
    Index.get? catalog.snapshot provider = (catalog.merged.get? provider).map ordered :=
  Index.get?_map catalog.merged ordered provider

/-- What is held for a provider under a name is what its live connections offer. -/
theorem Tracks.held_iff (tracks : Tracks events catalog) {sets : Index ModelSet}
    (kept : catalog.connections.get? provider = some sets) :
    (∃ entry ∈ sets, Index.get? entry.2 key = some model) ↔ Offered events provider key model := by
  have distinct := (tracks.inhabited provider sets kept).2
  constructor
  · -- Every set that is kept is that of a live connection.
    rintro ⟨⟨connection, set⟩, member, held⟩
    have found := (Index.get?_eq_some_iff distinct).mpr member
    obtain ⟨models, live, rfl⟩ := (tracks.get?_kept kept connection set).mp found
    exact ⟨connection, models, live, ModelSet.get?_ofList_iff.mp held⟩
  · -- The set of every live connection is kept.
    rintro ⟨connection, models, live, offers⟩
    have held := (tracks.get?_kept kept connection _).mpr ⟨models, live, rfl⟩
    exact ⟨_, Index.mem_of_get? held, ModelSet.get?_ofList_iff.mpr offers⟩

/-- A provider that is shown is one whose connections are kept, and its view is that of their
sets, as these were met. -/
theorem Tracks.view (tracks : Tracks events catalog) {view : ModelSet}
    (shown : catalog.merged.get? provider = some view) :
    ∃ sets, ∃ traversal : Traversal, catalog.connections.get? provider = some sets ∧
      view = ModelSet.union (traversal.arrange sets) := by
  -- What is shown has been joined from the sets at the last change.
  obtain ⟨traversal, same⟩ := tracks.shown provider
  rw [shown, eq_comm, Option.map_eq_some_iff] at same
  obtain ⟨sets, kept, union⟩ := same
  exact ⟨sets, traversal, kept, union.symm⟩

/-- No name occurs twice among the models shown for a provider. -/
theorem Tracks.distinct_view (tracks : Tracks events catalog) {view : ModelSet}
    (shown : catalog.merged.get? provider = some view) : Index.Distinct view := by
  -- A union has no name twice, whatever it is made of.
  obtain ⟨sets, traversal, -, rfl⟩ := tracks.view shown
  exact ModelSet.distinct_union _

/-- No name occurs twice in the set of a connection. -/
theorem Tracks.distinct_entry (tracks : Tracks events catalog) {sets : Index ModelSet}
    (kept : catalog.connections.get? provider = some sets) :
    ∀ entry ∈ sets, Index.Distinct entry.2 := by
  rintro ⟨connection, set⟩ member
  -- The set belongs to a live connection, and is made of what that has registered.
  have found := (Index.get?_eq_some_iff (tracks.inhabited provider sets kept).2).mpr member
  obtain ⟨models, -, rfl⟩ := (tracks.get?_kept kept connection set).mp found
  exact ModelSet.distinct_ofList models

/-- What is shown is offered by a live connection. -/
theorem Tracks.genuine (tracks : Tracks events catalog)
    (shows : catalog.Shows provider key model) : Offered events provider key model := by
  obtain ⟨view, shown, held⟩ := shows
  obtain ⟨sets, traversal, kept, rfl⟩ := tracks.view shown
  -- The model was met in some set, and every set that is met is kept.
  rw [ModelSet.get?_union] at held
  obtain ⟨entry, member, found⟩ := List.exists_of_findSome?_eq_some held
  apply (tracks.held_iff kept).mp
  exact (traversal.exists_get?_arrange (tracks.distinct_entry kept) key model).mp
    ⟨entry, member, found⟩

/-- A provider is shown if one of its connections is live. -/
theorem Tracks.exists_view (tracks : Tracks events catalog) {connection : String}
    {models : List Descriptor} (live : Live events provider connection models) :
    ∃ view, catalog.merged.get? provider = some view := by
  -- A live connection has a set that is kept, so its provider is kept.
  have held := (tracks.connected provider connection _).mpr ⟨models, live, rfl⟩
  obtain ⟨sets, kept, -⟩ := Option.bind_eq_some_iff.mp held
  obtain ⟨traversal, shown⟩ := tracks.shown provider
  rw [kept] at shown
  exact ⟨_, shown⟩

/-- What some live connection offers is shown, in its own description or another one's. -/
theorem Tracks.present (tracks : Tracks events catalog)
    (offered : Offered events provider key model) :
    ∃ model, catalog.Shows provider key model := by
  -- The provider is shown, and the name occurs in one of the sets joined for it.
  obtain ⟨connection, models, live, -⟩ := id offered
  obtain ⟨view, shown⟩ := tracks.exists_view live
  obtain ⟨sets, traversal, kept, rfl⟩ := tracks.view shown
  obtain ⟨entry, member, found⟩ :=
    (traversal.exists_get?_arrange (tracks.distinct_entry kept) key model).mpr
      ((tracks.held_iff kept).mpr offered)
  -- One of the sets that are met has the name, so the first of these is found.
  have met : ((traversal.arrange sets).findSome? fun set => Index.get? set.2 key).isSome := by
    rw [List.findSome?_isSome_iff]
    exact ⟨entry, member, by rw [found, Option.isSome_some]⟩
  obtain ⟨first, held⟩ := Option.isSome_iff_exists.mp met
  exact ⟨first, _, shown, by rw [ModelSet.get?_union, held]⟩

/-- The providers shown are those with a live connection. -/
theorem Tracks.exists_view_iff (tracks : Tracks events catalog) (provider : String) :
    (∃ view, catalog.merged.get? provider = some view) ↔
      ∃ connection models, Live events provider connection models := by
  constructor
  · rintro ⟨view, shown⟩
    obtain ⟨sets, traversal, kept, -⟩ := tracks.view shown
    -- The provider has at least one connection, and all of them are live.
    obtain ⟨inhabited, distinct⟩ := tracks.inhabited provider sets kept
    obtain ⟨⟨connection, set⟩, rest, rfl⟩ := List.exists_cons_of_ne_nil inhabited
    have found : Index.get? ((connection, set) :: rest) connection = some set := by
      rw [Index.get?_cons, if_pos rfl]
    obtain ⟨models, live, -⟩ := (tracks.get?_kept kept connection set).mp found
    exact ⟨connection, models, live⟩
  · -- A live connection is enough for its provider to be shown.
    rintro ⟨connection, models, live⟩
    exact tracks.exists_view live

/-- A model is shown under its own folded name. -/
theorem Tracks.key_of_shows (tracks : Tracks events catalog)
    (shows : catalog.Shows provider key model) : model.key = key := by
  -- It is shown as a connection has offered it, under the name it has there.
  obtain ⟨connection, models, -, offers⟩ := tracks.genuine shows
  exact offers.key

/-- The models listed for a provider are those shown for it. -/
theorem Tracks.mem_ordered (tracks : Tracks events catalog) {view : ModelSet}
    (shown : catalog.merged.get? provider = some view) :
    model ∈ ordered view ↔ catalog.Shows provider model.key model := by
  have distinct := tracks.distinct_view shown
  rw [ordered, List.mem_map]
  constructor
  · -- Whatever is listed is shown under some name, which is its own.
    rintro ⟨⟨name, listed⟩, member, rfl⟩
    have shows : catalog.Shows provider name listed :=
      ⟨view, shown, (Index.get?_eq_some_iff distinct).mpr (Index.mem_sorted.mp member)⟩
    rw [tracks.key_of_shows shows]
    exact shows
  · -- Both refer to the same view of the provider.
    rintro ⟨same, shown', held⟩
    obtain rfl : view = same := Option.some.inj (shown.symm.trans shown')
    exact ⟨(model.key, model), Index.mem_sorted.mpr (Index.mem_of_get? held), rfl⟩

/-- The models listed for a provider ascend by their folded names. -/
theorem Tracks.ascending_ordered (tracks : Tracks events catalog) {view : ModelSet}
    (shown : catalog.merged.get? provider = some view) :
    (ordered view).Pairwise fun left right => left.key < right.key := by
  have distinct := tracks.distinct_view shown
  -- Every model is entered under its own folded name.
  have entered : ∀ entry ∈ Index.sorted view, entry.2.key = entry.1 := by
    rintro ⟨name, listed⟩ member
    exact tracks.key_of_shows
      ⟨view, shown, (Index.get?_eq_some_iff distinct).mpr (Index.mem_sorted.mp member)⟩
  -- The entries are sorted by these names.
  rw [ordered, List.pairwise_map]
  refine (Index.ascending_sorted distinct).imp_of_mem ?_
  intro left right leftMember rightMember before
  rw [entered left leftMember, entered right rightMember]
  exact before

/-- A model is listed for a provider if it is shown under its own folded name. -/
theorem Tracks.mem_modelsOf (tracks : Tracks events catalog) :
    model ∈ catalog.modelsOf provider ↔ catalog.Shows provider model.key model := by
  cases shown : catalog.merged.get? provider with
  | some view =>
    simp only [modelsOf, shown]
    exact tracks.mem_ordered shown
  | none =>
    -- There is no view in which anything could be shown.
    simp [modelsOf, Shows, shown]

/-- The names listed for a provider are those offered by its live connections. -/
theorem Tracks.mem_keys (tracks : Tracks events catalog) (provider key : String) :
    key ∈ (catalog.modelsOf provider).map (·.key) ↔ ∃ model, Offered events provider key model := by
  rw [List.mem_map]
  constructor
  · -- What is listed is offered, and what is offered is shown under its own name.
    rintro ⟨model, member, rfl⟩
    exact ⟨model, tracks.genuine (tracks.mem_modelsOf.mp member)⟩
  · rintro ⟨model, offered⟩
    obtain ⟨shown, shows⟩ := tracks.present offered
    obtain rfl := tracks.key_of_shows shows
    exact ⟨shown, tracks.mem_modelsOf.mpr shows, rfl⟩

/-- The names listed for a provider ascend. -/
theorem Tracks.ascending_keys (tracks : Tracks events catalog) (provider : String) :
    ((catalog.modelsOf provider).map (·.key)).Pairwise (· < ·) := by
  simp only [modelsOf]
  -- Without a view there is nothing in the list.
  split
  · simp
  · rename_i view shown
    exact List.pairwise_map.mpr (tracks.ascending_ordered shown)

/-- The readings of a catalog that is tracked tell what the events call for. -/
theorem Tracks.refines (tracks : Tracks events catalog) : Refines events catalog where
  providers provider := by
    rw [names_snapshot, Index.mem_names_iff]
    exact tracks.exists_view_iff provider
  once := by
    rw [Index.Distinct, names_snapshot]
    exact tracks.distinct
  present provider key := by
    -- The two directions are those of what is shown and what is offered.
    constructor
    · rintro ⟨model, shows⟩
      exact ⟨model, tracks.genuine shows⟩
    · rintro ⟨model, offered⟩
      exact tracks.present offered
  genuine provider key model := tracks.genuine
  listed provider models read := by
    rw [get?_snapshot, Option.map_eq_some_iff] at read
    obtain ⟨view, shown, rfl⟩ := read
    exact ⟨fun model => tracks.mem_ordered shown, tracks.ascending_ordered shown⟩
  modelsOf provider := by
    -- The list is that of the view, if there is one.
    rw [Catalog.modelsOf, get?_snapshot]
    cases catalog.merged.get? provider <;> rfl
  found provider name model := Option.bind_eq_some_iff
  unnamed traversal event missing := note_of_unnamed missing catalog traversal
  unknown traversal provider connection withdrawn := by
    apply note_of_unknown
    cases known : catalog.setOf? provider connection with
    | none => rfl
    | some set =>
      obtain ⟨models, live, -⟩ := (tracks.connected provider connection set).mp known
      exact absurd ⟨models, live⟩ withdrawn

/-- A catalog that has followed a history of events from nothing shows what they call for, in
whatever way connections and models were gone through each time. -/
theorem follow_refines (history : List (Traversal × ModelEvent)) :
    Refines (history.map (·.2)) (empty.follow history) :=
  (tracks_follow history).refines

end Catalog

namespace Gate

/-- The catalog of a gate goes through connections and models as they come. -/
theorem record_catalog (gate : Gate) (event : ModelEvent) :
    (gate.record event).catalog = gate.catalog.note .inOrder event := by
  cases event <;> rfl

/-- Announcing an event does to the catalog what taking note of it does. -/
theorem publish_catalog (gate : Gate) (event : ModelEvent) :
    (gate.publish event).catalog = gate.catalog.note .inOrder event := by
  cases event with
  | registered provider connection models => exact record_catalog gate _
  | withdrawn provider connection => exact record_catalog gate _

/-- After announcements one after another, the catalog has followed them all. -/
theorem foldl_publish_catalog (gate : Gate) (events : List ModelEvent) :
    (events.foldl publish gate).catalog =
      gate.catalog.follow (events.map fun event => (.inOrder, event)) := by
  -- Each announcement hands its catalog on to the next.
  induction events generalizing gate with
  | nil => rfl
  | cons event rest ih =>
    rw [List.foldl_cons, ih, publish_catalog]
    rfl

/-- The catalog of a gate shows what the announcements since its opening call for. -/
theorem publish_refines (zone : Calendar.Zone) (policy : Policy) (limits : WorkerLimits)
    (events : List ModelEvent) :
    Catalog.Refines events (events.foldl publish (opened zone policy limits)).catalog := by
  have tracks := Catalog.tracks_follow (events.map fun event => (Traversal.inOrder, event))
  rw [List.map_map, Function.comp_def, List.map_id'] at tracks
  rw [foldl_publish_catalog]
  exact tracks.refines

/-- A model of one connection is withdrawn, while another connection has it in another casing. -/
theorem publish_refines_withdrawn :
    let named (id : String) : Descriptor := ⟨id, none, none, none, []⟩
    let events : List ModelEvent := [.registered "p" "c" [named "Opus"],
      .registered "p" "d" [named "opus"], .withdrawn "p" "c", .registered "q" "" [named "lost"]]
    let catalog := (events.foldl publish (opened .universal .standard .standard)).catalog
    Catalog.Refines events catalog ∧ catalog.find? "p" "OPUS" = some (named "opus") ∧
      catalog.snapshot.map (·.1) = ["p"] := by
  intro named events catalog
  exact ⟨publish_refines .universal .standard .standard events, by decide +kernel, by decide +kernel⟩

end Gate

end Tollgate
