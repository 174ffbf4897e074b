import Tollgate.Text.Fold

/-! Mappings of the names clients use for a provider's models to the names the provider uses. -/

namespace Tollgate

/-- A mapping of a name to the model it stands for. -/
structure Mapping where
  /-- Who serves the model. -/
  provider : String
  /-- The name clients use. -/
  source : String
  /-- The model it stands for. -/
  target : String
  /-- The mapping is in use. -/
  enabled : Bool
  deriving DecidableEq

namespace Mapping

/-- The mapping of a model to itself, in use. -/
def identity (provider model : String) : Mapping :=
  ⟨provider, model, model, true⟩

/-- The mapping belongs to the provider and has the model on either side, whatever the casing. -/
def mentions (mapping : Mapping) (provider model : String) : Bool :=
  Text.sameFolded mapping.provider provider &&
    (Text.sameFolded mapping.source model || Text.sameFolded mapping.target model)

/-- The two mappings are for the same name of the same provider, whatever the casing. -/
def sameSource (left right : Mapping) : Bool :=
  Text.sameFolded left.provider right.provider && Text.sameFolded left.source right.source

end Mapping

end Tollgate
