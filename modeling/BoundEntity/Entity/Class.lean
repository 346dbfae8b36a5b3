import BoundEntity.Metadata.Basic

/-!
# Entity classes

A class registers what can be done with entities of a type `E`: properties with their accessors,
methods over context values, and a way to construct an entity.
-/
namespace BoundEntity

/-- Who may use a member. -/
inductive Visibility where
  | visible
  | restricted
deriving DecidableEq

namespace Visibility

def name : Visibility → String
  | .visible => "Public"
  | .restricted => "Protected"

def ofName? (name : String) : Option Visibility :=
  if name = "Public" then some .visible else if name = "Protected" then some .restricted else none

end Visibility

/-- A declared property; either accessor may be missing. -/
structure Property (E : Type) where
  name : String
  kind : Kind
  visibility : Visibility
  getter : Option (E → Value)
  setter : Option (E → Value → Except Fault E)

/-- A declared method with a fixed number of arguments. -/
structure Method (E : Type) where
  name : String
  visibility : Visibility
  arity : Nat
  body : E → List Value → Except Fault Value

structure EntityClass (E : Type) where
  name : String
  properties : List (Property E)
  methods : List (Method E)
  constructor : Option (Except Fault E)
  isSealed : Bool

/-- A method takes exactly the declared number of arguments. -/
def checkArity (method : String) (args : List Value) (arity : Nat) : Except Fault Unit :=
  if args.length = arity then .ok () else .error (Mismatch.arity method arity args.length).fault

variable {E : Type}

namespace Property

def isPublic (p : Property E) : Bool := p.visibility = .visible

def toMeta (p : Property E) : PropertyMeta := ⟨p.name, p.kind⟩

def inspect (p : Property E) : String :=
  Inspect.record "PropertyDef"
    [("name", Inspect.quoted p.name), ("kind", p.kind.name), ("visibility", p.visibility.name),
     ("getter", Inspect.flag p.getter.isSome), ("setter", Inspect.flag p.setter.isSome)]

end Property

namespace Method

/-- Runs the body on an entity, given the right number of arguments. -/
def invoke (m : Method E) (target : E) (args : List Value) : Except Fault Value :=
  match checkArity m.name args m.arity with
  | .error fault => .error fault
  | .ok () => m.body target args

def inspect (m : Method E) : String :=
  Inspect.record "MethodDef"
    [("name", Inspect.quoted m.name), ("visibility", m.visibility.name), ("arity", toString m.arity)]

end Method

namespace EntityClass

/-- The first property with the name. -/
def property? (c : EntityClass E) (name : String) : Option (Property E) :=
  c.properties.find? fun property => property.name = name

/-- The first method with the name. -/
def method? (c : EntityClass E) (name : String) : Option (Method E) :=
  c.methods.find? fun method => method.name = name

/-- What the getters answer for an entity, in the order of declaration. -/
def snapshot (c : EntityClass E) (entity : E) : List (String × Value) :=
  c.properties.filterMap fun property =>
    property.getter.map fun getter => (property.name, getter entity)

def inspect (c : EntityClass E) : String :=
  Inspect.record "EntityClass"
    [("name", Inspect.quoted c.name),
     ("properties", Inspect.listed (c.properties.map Property.inspect)),
     ("methods", Inspect.listed (c.methods.map Method.inspect)),
     ("constructor", Inspect.flag c.constructor.isSome), ("sealed", Inspect.flag c.isSealed)]

end EntityClass
end BoundEntity
