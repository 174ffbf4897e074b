import Tollgate.Proofs.Catalog.Provision

/-!
What one seeding does to the mappings, told from the mappings there were before. The mappings it
adds come to be among those it looks at, but they mention no other name than the one they are for.
-/

namespace Tollgate

namespace Mapping

end Mapping

namespace Seeding

/-- The mappings to themselves that a provider's models are to get: those that no mapping mentions,
on either side. -/
def missing (mappings : List Mapping) (provider : String) (models : List Descriptor) :
    List Mapping :=
  (models.filter fun model => ¬ mappings.any (·.mentions provider model.id) = true).map
    (.identity provider ·.id)

variable {model : Descriptor} {models : List Descriptor} {seen : List String} {provider : String}
  {mappings : List Mapping} {vault : Vault}

end Seeding

end Tollgate
