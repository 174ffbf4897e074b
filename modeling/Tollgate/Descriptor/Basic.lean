import Tollgate.Json.Basic
import Tollgate.Text.Fold

/-! Descriptions of models, as a connection registers them and as they are written out. -/

namespace Tollgate

/-- A model as one connection of a provider describes it. -/
structure Descriptor where
  /-- Name of the model, in the casing it was registered with. -/
  id : String
  /-- Name for people to read. -/
  displayName : Option String
  /-- Who owns the model, if not the provider that serves it. -/
  ownedBy : Option String
  /-- How many tokens the model can take into account. -/
  contextLength : Option UInt32
  /-- What the model can do. -/
  capabilities : List String
  deriving DecidableEq

namespace Descriptor

/-- The folded name under which the model is looked up. -/
def key (descriptor : Descriptor) : String :=
  Text.fold descriptor.id

/-- The description as a record, with a field only for what is known. -/
def toJson (descriptor : Descriptor) : Json :=
  .record (
    ("id", .string descriptor.id) ::
    Json.optionalField "display_name" (descriptor.displayName.map .string) ++
    Json.optionalField "owned_by" (descriptor.ownedBy.map .string) ++
    Json.optionalField "context_length"
      (descriptor.contextLength.map fun length => .number length.toNat) ++
    if descriptor.capabilities.isEmpty then []
    else [("capabilities", .list (descriptor.capabilities.map .string))])

end Descriptor

/-- A model as it is listed to clients. -/
structure Listing where
  /-- Name of the model, in the casing it was registered with. -/
  id : String
  /-- Who owns the model. -/
  ownedBy : String
  /-- Who serves the model. -/
  provider : String
  /-- Name for people to read. -/
  displayName : Option String
  deriving DecidableEq

namespace Listing

/-- What clients see of a provider's model, which the provider owns if no other owner is given. -/
def ofDescriptor (provider : String) (descriptor : Descriptor) : Listing :=
  ⟨descriptor.id, descriptor.ownedBy.getD provider, provider, descriptor.displayName⟩

/-- The listed model as a record. -/
def toJson (listing : Listing) : Json :=
  .record (
    [("id", .string listing.id), ("object", .string "model"), ("owned_by", .string listing.ownedBy),
      ("provider", .string listing.provider)] ++
    Json.optionalField "display_name" (listing.displayName.map .string))

/-- A list of models as clients receive it. -/
def envelope (listings : List Listing) : Json :=
  .record [("object", .string "list"), ("data", .list (listings.map toJson))]

end Listing

end Tollgate
