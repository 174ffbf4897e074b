import Tollgate.Index
import Tollgate.Descriptor.Basic

/-!
The models that connections serve at the moment. Every connection of a provider registers its own
set of models, and clients see the sets of all connections of a provider as one.
-/

namespace Tollgate

/-- Models by their folded names. -/
abbrev ModelSet := Index Descriptor

/-- The set of the models listed, of which unnamed ones are left out and the last of a name
stays. -/
def ModelSet.ofList (models : List Descriptor) : ModelSet :=
  -- A later model of the same name takes the place of the earlier one, at its position.
  (models.filter (!·.id.isEmpty)).foldl (fun set model => Index.put set model.key model) []

/-- An order in which the connections of a provider are gone through. -/
abbrev Arrangement := Index ModelSet → Index ModelSet

/-- The sets seen as one, in which the first set to hold a name decides what is shown for it. -/
def ModelSet.union (sets : Index ModelSet) : ModelSet :=
  -- A name that is there already keeps its model.
  (sets.flatMap (·.2)).foldl (fun view (key, model) => Index.putNew view key model) []

/-- The models registered, by provider. -/
structure Catalog where
  /-- The set of each connection of each provider. -/
  connections : Index (Index ModelSet)
  /-- What is shown of each provider. -/
  merged : Index ModelSet

namespace Catalog

/-- A catalog in which nothing has been registered. -/
def empty : Catalog := ⟨[], []⟩

/-- Brings what is shown of a provider up to date with its connections. -/
def refresh (arrange : Arrangement) (catalog : Catalog) (provider : String) : Catalog :=
  -- A provider without connections is no longer shown at all.
  let merged := match catalog.connections.get? provider with
    | none => catalog.merged.drop provider
    | some sets => catalog.merged.put provider (ModelSet.union (arrange sets))
  { catalog with merged }

/-- Neither the provider nor the connection is without a name. -/
def isNamed (provider connection : String) : Bool :=
  !provider.isEmpty && !connection.isEmpty

/-- Replaces the set of a connection, connections being gone through in the order given. -/
def registerBy (arrange : Arrangement) (catalog : Catalog) (provider connection : String)
    (models : List Descriptor) : Catalog :=
  if isNamed provider connection then
    let sets := (catalog.connections.get? provider).getD []
    let sets := sets.put connection (ModelSet.ofList models)
    refresh arrange { catalog with connections := catalog.connections.put provider sets } provider
  else catalog

/-- Takes a connection away, and its provider with the last of them. -/
def withdrawBy (arrange : Arrangement) (catalog : Catalog) (provider connection : String) :
    Catalog :=
  if isNamed provider connection then
    match catalog.connections.get? provider with
    | none => catalog
    | some sets =>
      -- What has registered nothing has nothing to lose, and what is shown stays as it is.
      if (sets.get? connection).isNone then catalog
      else
        let sets := sets.drop connection
        let connections :=
          if sets.isEmpty then catalog.connections.drop provider
          else catalog.connections.put provider sets
        refresh arrange { catalog with connections } provider
  else catalog

/-- Replaces the set of a connection; the connection that came first prevails over later ones. -/
def register (catalog : Catalog) (provider connection : String) (models : List Descriptor) :
    Catalog :=
  catalog.registerBy id provider connection models

/-- Takes a connection away; the connection that came first prevails over later ones. -/
def withdraw (catalog : Catalog) (provider connection : String) : Catalog :=
  catalog.withdrawBy id provider connection

/-- The model of a provider with a name, whatever its casing. -/
def find? (catalog : Catalog) (provider name : String) : Option Descriptor :=
  (catalog.merged.get? provider).bind fun view => Index.get? view (Text.fold name)

/-- The models of a set in ascending order of their folded names. -/
def ordered (view : ModelSet) : List Descriptor :=
  (Index.sorted view).map (·.2)

/-- The models of a provider in ascending order of their folded names. -/
def modelsOf (catalog : Catalog) (provider : String) : List Descriptor :=
  match catalog.merged.get? provider with
  | none => []
  | some view => ordered view

/-- The models of every provider. -/
def snapshot (catalog : Catalog) : Index (List Descriptor) :=
  catalog.merged.map fun (provider, view) => (provider, ordered view)

/-- The models of all providers as clients see them, providers in ascending order. -/
def listings (catalog : Catalog) : List Listing :=
  (Index.sorted catalog.snapshot).flatMap fun (provider, models) =>
    models.map (Listing.ofDescriptor provider)

end Catalog

end Tollgate
