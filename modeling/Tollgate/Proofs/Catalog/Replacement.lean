import Tollgate.Proofs.Catalog.Readers

/-!
What is listed of a provider once one of its connections has registered anew. Its models are the
last ones listed under their names, nothing is left of those it has registered before, and whatever
other connections have registered stays.
-/

namespace Tollgate

namespace ModelSet

variable {models : List Descriptor} {key : String} {model other : Descriptor}

/-- Among models that all have names, the one offered is the last of its folded name. -/
theorem offers_iff_isLatest (named : ∀ model ∈ models, model.id ≠ "") :
    Offers models key model ↔ IsLatest (·.key = key) models model := by
  constructor
  · exact fun offers => offers.imp fun listed member => and_iff_right (named listed member)
  · exact fun latest => latest.imp fun listed member => (and_iff_right (named listed member)).symm

/-- No two models are offered under one name. -/
theorem Offers.unique (offers : Offers models key model) (also : Offers models key other) :
    model = other :=
  Option.some.inj ((get?_ofList_iff.mpr offers).symm.trans (get?_ofList_iff.mpr also))

end ModelSet

namespace Catalog

variable {events : List ModelEvent} {catalog : Catalog} {provider connection key : String}
  {models : List Descriptor} {model : Descriptor}

/-- The connection has registered the model under the folded name. -/
def Holds (catalog : Catalog) (provider connection key : String) (model : Descriptor) : Prop :=
  ∃ set, catalog.setOf? provider connection = some set ∧ Index.get? set key = some model

/-- Nothing that is known of the provider differs. -/
structure SameOf (provider : String) (before after : Catalog) : Prop where
  sets : after.connections.get? provider = before.connections.get? provider
  view : after.merged.get? provider = before.merged.get? provider

/-- What is listed of a provider after one of its connections has registered these models. -/
structure Replaced (before : Catalog) (provider connection : String)
    (models listed : List Descriptor) : Prop where
  -- The folded names ascend, and so none is listed twice.
  ascending : (listed.map (·.key)).Pairwise (· < ·)
  -- They are those of the models, and those under which other connections have registered any. Hence
  -- what only the connection itself had registered is gone, unless it is among the models again.
  names : ∀ key, key ∈ listed.map (·.key) ↔ key ∈ models.map (·.key) ∨
    ∃ other, other ≠ connection ∧ ∃ model, before.Holds provider other key model
  -- Each is listed as the last of the models has it, or as another connection has registered it.
  genuine : ∀ model ∈ listed, IsLatest (·.key = model.key) models model ∨
    ∃ other, other ≠ connection ∧ before.Holds provider other model.key model
  -- Without any other connection, all the last ones of the models are listed, and nothing else.
  alone : (∀ other, other ≠ connection → before.setOf? provider other = none) →
    ∀ model, model ∈ listed ↔ IsLatest (·.key = model.key) models model

/-- An event about a provider makes no difference to another one. -/
theorem sameOf_note (catalog : Catalog) (traversal : Traversal) {other : String}
    (different : other ≠ provider) :
    SameOf other catalog
      (catalog.note traversal (.registered provider connection models)) := by
  by_cases named : isNamed provider connection = true
  · rw [note, registerBy_eq named]
    constructor
    · rw [get?_connections_replaceSets, if_neg different.symm]
    · rw [replaceSets, get?_merged_refresh, if_neg different.symm]
  · rw [note, registerBy, if_neg named]
    exact ⟨rfl, rfl⟩

/-- After a connection has registered, its provider is offered its models, and what other
connections hold. -/
theorem Tracks.offered_registered (tracks : Tracks events catalog)
    (named : isNamed provider connection = true) (spoken : ∀ model ∈ models, model.id ≠ "") :
    Offered (events ++ [.registered provider connection models]) provider key model ↔
      IsLatest (·.key = key) models model ∨
        ∃ other, other ≠ connection ∧ catalog.Holds provider other key model := by
  rw [← ModelSet.offers_iff_isLatest spoken]
  constructor
  · rintro ⟨source, offered, live, offers⟩
    by_cases same : source = connection
    · -- The connection itself is live with what it has just registered.
      subst same
      rw [(live_concat_registered named).mp live] at offers
      exact Or.inl offers
    · rw [live_concat_of_other fun names => same names.2.symm] at live
      have kept := (tracks.connected provider source _).mpr ⟨offered, live, rfl⟩
      exact Or.inr ⟨source, same, _, kept, ModelSet.get?_ofList_iff.mpr offers⟩
  · rintro (offers | ⟨source, different, set, kept, held⟩)
    · exact ⟨connection, models, (live_concat_registered named).mpr rfl, offers⟩
    · -- What another connection holds is what it is live with, before and after.
      obtain ⟨offered, live, rfl⟩ := (tracks.connected provider source set).mp kept
      refine ⟨source, offered, ?_, ModelSet.get?_ofList_iff.mp held⟩
      rw [live_concat_of_other fun names => different names.2.symm]
      exact live

/-- A connection that registers replaces what it has registered before, and nothing else. -/
theorem Tracks.replaced (tracks : Tracks events catalog) (traversal : Traversal)
    (named : isNamed provider connection = true) (spoken : ∀ model ∈ models, model.id ≠ "") :
    Replaced catalog provider connection models
      ((catalog.note traversal (.registered provider connection models)).modelsOf provider) := by
  have after := tracks.note_registered traversal named models
  generalize catalog.note traversal (.registered provider connection models) = shown at after ⊢
  have listed (model : Descriptor) : model ∈ shown.modelsOf provider →
      Offered (events ++ [.registered provider connection models]) provider model.key model :=
    fun member => after.genuine (after.mem_modelsOf.mp member)
  constructor
  · exact after.ascending_keys provider
  · intro key
    rw [after.mem_keys]
    simp only [tracks.offered_registered named spoken, exists_or, exists_isLatest, List.mem_map]
    rw [exists_comm]
    simp only [exists_and_left]
  · exact fun model member => (tracks.offered_registered named spoken).mp (listed model member)
  · intro alone
    -- Nothing is offered but by the connection itself.
    have only (key : String) (model : Descriptor) :
        Offered (events ++ [.registered provider connection models]) provider key model ↔
          IsLatest (·.key = key) models model := by
      rw [tracks.offered_registered named spoken, or_iff_left]
      rintro ⟨other, different, set, kept, -⟩
      rw [alone other different] at kept
      cases kept
    intro model
    constructor
    · exact fun member => (only _ _).mp (listed model member)
    · intro latest
      -- Some model is shown under the name, and only this one can be.
      obtain ⟨other, shows⟩ := after.present ((only _ _).mpr latest)
      have also := (only _ _).mp (after.genuine shows)
      rw [← ModelSet.offers_iff_isLatest spoken] at latest also
      rw [latest.unique also] at shows ⊢
      rw [after.mem_modelsOf, after.key_of_shows shows]
      exact shows

end Catalog

end Tollgate
