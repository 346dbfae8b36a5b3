import BoundEntity.Declaration.MethodBlock
import BoundEntity.Entity.TypedMethod

/-!
# Classes from declarations

A host says what the texts of a declaration mean for a type `E` of entities. With a host a declared model
and its methods become an entity class.
-/
namespace BoundEntity

structure Host (E : Type) where
  type : String → FieldType
  read : (p : RegisteredProperty) → E → (type p.type).Carrier
  write : (p : RegisteredProperty) → E → (type p.type).Carrier → E
  standard : E
  construct : Path → Except Fault E
  call : (m : RegisteredMethod) → E → Arguments (m.types.map type) → Except Fault Value

namespace Host
variable {E : Type}

def visibility (isPublic : Bool) : Visibility := if isPublic then .visible else .restricted

/-- Values pass through the field type on their way in and out. -/
def property (h : Host E) (p : RegisteredProperty) : Property E where
  name := p.name
  kind := (h.type p.type).kind
  visibility := visibility p.isPublic
  getter := some fun entity => (h.type p.type).toValue (h.read p entity)
  setter :=
    if p.isReadOnly then none
    else some fun entity value =>
      match (h.type p.type).ofValue value with
      | .error fault => .error fault
      | .ok content => .ok (h.write p entity content)

def method (h : Host E) (m : RegisteredMethod) : Method E :=
  .typed m.name (visibility m.isPublic) (m.types.map h.type) (h.call m)

def constructor (h : Host E) : ModelConstructor → Option (Except Fault E)
  | .standard => some (.ok h.standard)
  | .path p => some (h.construct p)
  | .absent => none

/-- The class of a model with the methods that are registered for it. -/
def toClass (h : Host E) (model : EntityModel) (methods : List RegisteredMethod) :
    EntityClass E where
  name := model.entity
  properties := model.properties.map h.property
  methods := methods.map h.method
  constructor := h.constructor model.constructor
  isSealed := model.isSealed

end Host
end BoundEntity
