import BoundEntity.Entity.Class
import BoundEntity.Value.Coerce

/-!
# Dispatch tables

A table says how the members of an entity are served once it is bound to a context.
-/
namespace BoundEntity

/-- A property served by the context. -/
structure PropertySlot (E : Type) where
  kind : Kind
  getter : Option (E → Value)
  setter : Option (E → Value → Except Fault E)
  /-- The method that derives the property while the context does not hold it. -/
  compute : Option String

/-- A method whose results are kept in the context. -/
structure ComputeSlot (E : Type) where
  key : String
  arity : Nat
  body : E → List Value → Except Fault Value

structure Table (E : Type) where
  entity : String
  properties : Keyed (PropertySlot E)
  /-- Declared properties that the context does not serve, in the order of declaration. -/
  hidden : List String
  computes : Keyed (ComputeSlot E)
  passthrough : Keyed (Method E)
  constructor : Option (Except Fault E)
  /-- The property with dynamic attributes, if the entity has a map view. -/
  attributesKey : Option String

namespace Table
variable {E : Type}

/-- The names of all methods, ascending. -/
def methodNames (t : Table E) : List String := (t.computes.keys ++ t.passthrough.keys).mergeSort

def hasProperty (t : Table E) (name : String) : Bool := t.properties.contains name

def isMapCapable (t : Table E) : Bool := t.attributesKey.isSome

/-- A newly constructed entity. -/
def instantiate (t : Table E) : Except Fault E :=
  match t.constructor with
  | none => .error (.instantiationFailure t.entity "type has no default constructor")
  | some (.error fault) => .error (.instantiationFailure t.entity fault.message)
  | some (.ok entity) => .ok entity

/-- Puts a context value into an entity through a setter. -/
def assign (t : Table E) (values : Context) (entity : E) (name : String) (slot : PropertySlot E) :
    Except Fault E :=
  match slot.setter, values.get? name with
  | some setter, some value =>
    match slot.kind.coerce value with
    | .error fault => .error (fault.during t.entity name)
    | .ok value =>
      match setter entity value with
      | .error fault => .error (fault.during t.entity name)
      | .ok entity => .ok entity
  | _, _ => .ok entity

/-- `assign` for one slot after the other. -/
def assignEach (t : Table E) (values : Context) :
    E → List (String × PropertySlot E) → Except Fault E
  | entity, [] => .ok entity
  | entity, (name, slot) :: rest =>
    match t.assign values entity name slot with
    | .error fault => .error fault
    | .ok entity => assignEach t values entity rest

/-- A new entity with the context applied through the setters, in ascending order of names. -/
def materialize (t : Table E) (values : Context) : Except Fault E :=
  match t.instantiate with
  | .error fault => .error fault
  | .ok entity => assignEach t values entity t.properties.entries

def inspect (t : Table E) : String :=
  let names (keys : List String) := Inspect.listed (keys.map Inspect.quoted)
  Inspect.record "ProxyType"
    [("entity", Inspect.quoted t.entity), ("properties", names t.properties.keys),
     ("computes", names t.computes.keys), ("passthrough", names t.passthrough.keys),
     ("dynamic_attributes_key", Inspect.optional (t.attributesKey.map Inspect.quoted))]

end Table
end BoundEntity
