import BoundEntity.Fault

/-!
# Mapped metadata

What a persistence layer knows about an entity. A provider is asked about an entity and the
properties that it declares, and answers with metadata or a fault.
-/
namespace BoundEntity

structure PropertyMeta where
  name : String
  kind : Kind
deriving DecidableEq

structure Metadata where
  entity : String
  properties : List PropertyMeta
deriving DecidableEq

namespace Metadata

/-- The first property with the name. -/
def property? (m : Metadata) (name : String) : Option PropertyMeta :=
  m.properties.find? fun property => property.name = name

/-- Whether the property of that name holds free-form documents. -/
def hasDynamicAttributes (m : Metadata) (key : String) : Bool :=
  match m.property? key with
  | some property => property.kind = .json
  | none => false

end Metadata

/-- The question that is put to a provider. -/
structure Query where
  entity : String
  declared : List PropertyMeta
deriving DecidableEq

abbrev Provider := Query → Except Fault Metadata

namespace Provider

/-- Answers with what the entity declares itself. -/
def declared : Provider := fun query => .ok ⟨query.entity, query.declared⟩

/-- Answers with the metadata registered last under the entity's name. -/
def mapped (entities : Keyed Metadata) : Provider := fun query =>
  match entities.get? query.entity with
  | some metadata => .ok metadata
  | none => .error (.metadataUnavailable query.entity "entity is not mapped")

end Provider

/-- Adds metadata under its entity's name. -/
def Metadata.register (entities : Keyed Metadata) (m : Metadata) : Keyed Metadata :=
  entities.insert m.entity m

end BoundEntity
