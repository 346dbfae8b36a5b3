import BoundEntity.Entity.Class
import BoundEntity.Field.Conversion

/-!
# Methods with typed arguments

A typed method declares the types of its arguments. They are converted from left to right, and the
body runs only if all of them convert.
-/
namespace BoundEntity

/-- One argument of each of the given types. -/
abbrev Arguments : List FieldType → Type
  | [] => Unit
  | type :: types => type.Carrier × Arguments types

/-- Converts context values in order. A missing value counts as null. -/
def Arguments.ofValues : (types : List FieldType) → List Value → Except Fault (Arguments types)
  | [], _ => .ok ()
  | type :: types, values =>
    match type.ofValue (values.headD .null) with
    | .error fault => .error fault
    | .ok first =>
      match ofValues types values.tail with
      | .error fault => .error fault
      | .ok rest => .ok (first, rest)

/-- A method that takes arguments of the given types. -/
def Method.typed {E : Type} (name : String) (visibility : Visibility) (types : List FieldType)
    (body : E → Arguments types → Except Fault Value) : Method E where
  name := name
  visibility := visibility
  arity := types.length
  body entity values :=
    match Arguments.ofValues types values with
    | .error fault => .error fault
    | .ok args => body entity args

end BoundEntity
