import BoundEntity.Declaration.Host

/-!
# Functions behind methods

The functions of a block answer with contents of field types. One that is declared to return a result may
answer with a fault instead, which its method passes on.
-/
namespace BoundEntity

/-- What a function answers with, given the field type that its answers have. -/
abbrev FunctionAnswer (type : FieldType) : (isFallible : Bool) → Type
  | true => Except Fault type.Carrier
  | false => type.Carrier

/-- The answer as a method gives it. -/
def FunctionAnswer.toValue (type : FieldType) :
    (isFallible : Bool) → FunctionAnswer type isFallible → Except Fault Value
  | true, .error fault => .error fault
  | true, .ok content => .ok (type.toValue content)
  | false, content => .ok (type.toValue content)

/-- The functions for which methods are registered. -/
structure HostFunctions (E : Type) (type : String → FieldType) where
  result : RegisteredMethod → FieldType
  run : (m : RegisteredMethod) → E → Arguments (m.types.map type) →
    FunctionAnswer (result m) m.isFallible

/-- The answer of a method's function. -/
def HostFunctions.answer {E : Type} {type : String → FieldType} (functions : HostFunctions E type)
    (m : RegisteredMethod) (entity : E) (args : Arguments (m.types.map type)) : Except Fault Value :=
  FunctionAnswer.toValue (functions.result m) m.isFallible (functions.run m entity args)

/-- The host whose methods run the given functions. -/
def Host.calling {E : Type} (h : Host E) (functions : HostFunctions E h.type) : Host E :=
  { h with call := functions.answer }

end BoundEntity
