import Tollgate.Descriptor.Basic
import Tollgate.Vault.Dialogue

/-!
Giving newly registered models their mappings. A model that some mapping mentions already is left
alone, so that names chosen by hand stay in force.
-/

namespace Tollgate.Seeding

/-- The models for which a mapping is sought: the first of every folded name, unnamed ones left
out. -/
def candidates : List String → List Descriptor → List Descriptor
  | _, [] => []
  | seen, model :: rest =>
    -- A name counts as seen under its folded form, so another casing of it is passed over.
    if model.id.isEmpty || seen.contains model.key then candidates seen rest
    else model :: candidates (model.key :: seen) rest

/-- Seeks a mapping for one model after another, and counts the mappings added. A model for which
a call fails is passed over. -/
def seedEach (provider : String) (count : Nat) : List Descriptor → Dialogue Nat
  | [] => .done count
  | model :: rest =>
    .ask (.mappingExists provider model.id) fun
      | .error _ => seedEach provider count rest
      | .ok true => seedEach provider count rest
      | .ok false =>
        -- Somebody else may have added a mapping since, which the store finds out.
        .ask (.insertMapping (.identity provider model.id)) fun
          | .ok true => seedEach provider (count + 1) rest
          | _ => seedEach provider count rest

/-- Gives a provider's models mappings to themselves, and tells how many were added. -/
def seed (provider : String) (models : List Descriptor) : Dialogue Nat :=
  -- Without a provider there is nobody to have models.
  if provider.isEmpty then .done 0 else seedEach provider 0 (candidates [] models)

end Tollgate.Seeding
