import BoundEntity.Json.Parser
import BoundEntity.Json.Printer
import BoundEntity.Metadata.Basic

/-!
# Metadata as JSON text

Records are written as objects with their fields in the order of declaration. They are read from
such objects, with the fields in any order, or from arrays of exactly the fields.
-/
namespace BoundEntity

namespace Json.Written

private def keyed (fields : List (Option String × Written)) (name : String) : List Written :=
  fields.filterMap fun (key, member) => if key = some name then some member else none

/-- The fields of a record, in the order of the given names. -/
def record? (names : List String) : Written → Option (List Written)
  | .object n key member =>
    let fields := List.ofFn fun i : Fin n => (text? (key i), member i)
    if fields.all fun field => field.1.isSome then
      sequence? (names.map fun name =>
        match keyed fields name with
        | [w] => some w
        | _ => none)
    else none
  | .array n item => if n = names.length then some (List.ofFn item) else none
  | _ => none

def string? : Written → Option String
  | .string pieces => text? pieces
  | _ => none

/-- A name out of a fixed list of names. -/
def variant? : Written → Option String
  | .string pieces => text? pieces
  | .object 1 key member =>
    match member 0 with
    | .null => text? (key 0)
    | _ => none
  | _ => none

def list? {α : Type} (read : Written → Option α) : Written → Option (List α)
  | .array _ item => sequence? (List.ofFn fun i => read (item i))
  | _ => none

end Json.Written

open Json.Written in
/-- The kind of that name. -/
def Kind.ofWritten? (w : Json.Written) : Option Kind :=
  match variant? w with
  | some name => Kind.ofName? name
  | none => none

namespace PropertyMeta

def print (p : PropertyMeta) : String :=
  "\x7b\"name\":" ++ Json.quoted p.name ++ ",\"kind\":" ++ Json.quoted p.kind.name ++ "\x7d"

def ofWritten? (w : Json.Written) : Option PropertyMeta :=
  match w.record? ["name", "kind"] with
  | some [name, kind] =>
    match name.string?, Kind.ofWritten? kind with
    | some name, some kind => some ⟨name, kind⟩
    | _, _ => none
  | _ => none

end PropertyMeta

namespace Metadata

def print (m : Metadata) : String :=
  "\x7b\"entity\":" ++ Json.quoted m.entity ++ ",\"properties\":[" ++
    ",".intercalate (m.properties.map PropertyMeta.print) ++ "]\x7d"

def ofWritten? (w : Json.Written) : Option Metadata :=
  match w.record? ["entity", "properties"] with
  | some [entity, properties] =>
    match entity.string?, properties.list? PropertyMeta.ofWritten? with
    | some entity, some properties => some ⟨entity, properties⟩
    | _, _ => none
  | _ => none

end Metadata
end BoundEntity
