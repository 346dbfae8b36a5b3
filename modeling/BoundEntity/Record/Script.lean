import BoundEntity.Dispatch.Intercept
import BoundEntity.Record.Basic

/-!
# Scripts

A script is an expression over named values, arguments and, in an evaluator, the request. Scripts
give records their methods and contexts their evaluators.
-/
namespace BoundEntity

inductive RequestPart where
  | entity
  | method
  | key
deriving DecidableEq

inductive Script where
  | literal (value : Value)
  /-- A field of the record, or an entry of the context. -/
  | field (name : String)
  | argument (position : Nat)
  /-- The displayed values one after the other. -/
  | joined (parts : List Script)
  /-- A sum of integers that wraps around. -/
  | sum (terms : List Script)
  /-- A value after a passage through a field type. -/
  | converted (type : FieldType) (script : Script)
  | failure (fault : Fault)
  /-- A text of the request, empty outside evaluators. -/
  | request (part : RequestPart)

namespace Script

/-- What a script can refer to. -/
structure Scope where
  field : String → Value
  args : List Value
  request : RequestPart → String

namespace Scope

def ofRecord (r : Record) (args : List Value) : Scope := ⟨r.value, args, fun _ => ""⟩

def ofRequest (request : Request) : Scope where
  field name := (request.values.get? name).getD .null
  args := request.args
  request
    | .entity => request.entity
    | .method => request.method
    | .key => request.key

end Scope

mutual

def eval (scope : Scope) : Script → Except Fault Value
  | literal value => .ok value
  | field name => .ok (scope.field name)
  | argument position => .ok (scope.args[position]?.getD .null)
  | joined parts =>
    match evalText scope parts with
    | .error fault => .error fault
    | .ok s => .ok (.text s)
  | sum terms =>
    match evalSum scope terms with
    | .error fault => .error fault
    | .ok n => .ok (.integer n)
  | converted type script =>
    match eval scope script with
    | .error fault => .error fault
    | .ok value => type.pass value
  | failure fault => .error fault
  | request part => .ok (.text (scope.request part))

/-- The joined texts of scripts, evaluated in order. -/
def evalText (scope : Scope) : List Script → Except Fault String
  | [] => .ok ""
  | script :: rest =>
    match eval scope script with
    | .error fault => .error fault
    | .ok value =>
      match evalText scope rest with
      | .error fault => .error fault
      | .ok s => .ok (value.display ++ s)

/-- The sum of scripts, each evaluated and converted in turn. -/
def evalSum (scope : Scope) : List Script → Except Fault Int64
  | [] => .ok 0
  | script :: rest =>
    match eval scope script with
    | .error fault => .error fault
    | .ok value =>
      match (FieldType.required .int64).ofValue value with
      | .error fault => .error fault
      | .ok n =>
        match evalSum scope rest with
        | .error fault => .error fault
        | .ok m => .ok (n + m)

end

/-- A method of records that answers what a script yields. -/
def toMethod (script : Script) (name : String) (visibility : Visibility) (arity : Nat) :
    Method Record :=
  ⟨name, visibility, arity, fun r args => script.eval (.ofRecord r args)⟩

/-- An evaluator with scripts for some methods, of which the first for a method counts. -/
def evaluator (rules : List (String × Script)) : Evaluator := fun request =>
  (rules.find? fun rule => rule.1 = request.method).map fun rule =>
    rule.2.eval (.ofRequest request)

end Script
end BoundEntity
