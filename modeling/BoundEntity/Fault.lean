import BoundEntity.Value.Basic

/-!
# Faults

A fault names the kind of failure, the entity and member where there are any, and a reason. Reasons
may come from outside, so they are texts.
-/
namespace BoundEntity

inductive Fault where
  | metadataUnavailable (entity reason : String)
  | generationFailure (entity reason : String)
  | instantiationFailure (entity reason : String)
  | dispatchFailure (entity member reason : String)
  | typeMismatch (reason : String)
  | configError (reason : String)
  | lockError (reason : String)
deriving DecidableEq

namespace Fault

/-- The entity that the fault is about. -/
def entity? : Fault → Option String
  | metadataUnavailable entity _ => some entity
  | generationFailure entity _ => some entity
  | instantiationFailure entity _ => some entity
  | dispatchFailure entity _ _ => some entity
  | _ => none

def isDispatch : Fault → Bool
  | dispatchFailure _ _ _ => true
  | _ => false

def message : Fault → String
  | metadataUnavailable entity reason =>
    "Metadata unavailable for entity '" ++ entity ++ "': " ++ reason
  | generationFailure entity reason =>
    "Cannot generate proxy type for '" ++ entity ++ "': " ++ reason
  | instantiationFailure entity reason => "Cannot instantiate '" ++ entity ++ "': " ++ reason
  | dispatchFailure entity member reason =>
    "Dispatch of '" ++ member ++ "' on '" ++ entity ++ "' failed: " ++ reason
  | typeMismatch reason => "Type mismatch: " ++ reason
  | configError reason => "Invalid configuration: " ++ reason
  | lockError reason => "Lock error: " ++ reason

/-- The fault as met while a member of an entity was served. -/
def during (entity member : String) (fault : Fault) : Fault :=
  dispatchFailure entity member fault.message

/-- `during`, for all faults that are not yet about a member. -/
def asDispatch (entity member : String) (fault : Fault) : Fault :=
  if fault.isDispatch then fault else fault.during entity member

private def inspectFields (name : String) (fields : List (String × String)) : String :=
  Inspect.record name (fields.map fun (field, text) => (field, Inspect.quoted text))

def inspect : Fault → String
  | metadataUnavailable entity reason =>
    inspectFields "MetadataUnavailable" [("entity", entity), ("reason", reason)]
  | generationFailure entity reason =>
    inspectFields "GenerationFailure" [("entity", entity), ("reason", reason)]
  | instantiationFailure entity reason =>
    inspectFields "InstantiationFailure" [("entity", entity), ("reason", reason)]
  | dispatchFailure entity member reason =>
    inspectFields "DispatchFailure" [("entity", entity), ("member", member), ("reason", reason)]
  | typeMismatch reason => Inspect.call "TypeMismatch" [Inspect.quoted reason]
  | configError reason => Inspect.call "ConfigError" [Inspect.quoted reason]
  | lockError reason => Inspect.call "LockError" [Inspect.quoted reason]

end Fault

/-- Texts with a format of their own. -/
inductive TextForm where
  | uuid
  | timestamp
  | date
deriving DecidableEq

def TextForm.label : TextForm → String
  | uuid => "UUID"
  | timestamp => "timestamp"
  | date => "date"

/-- What makes a value unfit for the type it is asked to have. -/
inductive Mismatch where
  | unconvertible (value : Value) (kind : Kind)
  | beyondInt32 (n : Int64)
  | malformed (form : TextForm) (text : String)
  | arity (method : String) (expected given : Nat)
  | notAnObject (document : Json)

namespace Mismatch

def message : Mismatch → String
  | unconvertible value kind =>
    "Cannot convert " ++ value.label ++ " value '" ++ value.display ++ "' to " ++ kind.label
  | beyondInt32 n => "Integer " ++ toString n.toInt ++ " is out of range for i32"
  | malformed form text => "Invalid " ++ form.label ++ " '" ++ text ++ "': malformed"
  | arity method expected given =>
    "Method '" ++ method ++ "' expects " ++ toString expected ++ " argument(s), got " ++ toString given
  | notAnObject document => "context must be a JSON object, got " ++ document.print

def fault (m : Mismatch) : Fault := .typeMismatch m.message

end Mismatch
end BoundEntity
