import BoundEntity.Record.Basic

/-!
# A gallery of entities

Ready-made schemas that show between them every field type, derived properties, pass-through
methods, a sealed type and one that cannot be constructed.
-/
namespace BoundEntity.Gallery

open FieldType Scalar

def person : Schema where
  name := "Person"
  fields :=
    [{ name := "name", type := required text },
     { name := "last_name", type := required text },
     { name := "age", type := required int64 },
     { name := "nickname", type := optional text },
     { name := "full_name", type := required text, writable := false },
     { name := "secret", type := required text, visibility := .restricted }]
  methods :=
    [.typed "compute_full_name" .restricted [] fun r () =>
       .ok (.text (Text.trim (r.read "name" (required text) ++ " " ++
         r.read "last_name" (required text)))),
     .typed "compute_greeting" .restricted [required text] fun r (greeting, ()) =>
       .ok (.text (greeting ++ ", " ++ r.read "name" (required text))),
     .typed "describe" .visible [] fun r () =>
       .ok (.text (r.read "name" (required text) ++ " (" ++
         toString (r.read "age" (required int64)).toInt ++ ")")),
     .typed "checked_age" .visible [required int64] fun r (limit, ()) =>
       if limit.toInt < 0 then .error (.typeMismatch "limit must not be negative")
       else .ok (.boolean (decide (limit.toInt ≤ (r.read "age" (required int64)).toInt)))]

def marker : Schema where
  name := "Marker"

def unconstructible : Schema where
  name := "Unconstructible"
  fields := [{ name := "id", type := required int64 }]
  construction := .absent

def frozen : Schema where
  name := "Frozen"
  fields := [{ name := "id", type := required int64 }]
  isSealed := true

def account : Schema where
  name := "Account"
  fields :=
    [{ name := "currency", type := required text, initial := .text "EUR" },
     { name := "balance", type := required float }]

def invoice : Schema where
  name := "Invoice"
  fields :=
    [{ name := "quantity", type := required int64 },
     { name := "total", type := required float, writable := false }]
  methods :=
    [.typed "compute_total" .restricted [] fun r () =>
       .ok (.integer (r.read "quantity" (required int64) * 10))]

def product : Schema where
  name := "Product"
  fields :=
    [{ name := "sku", type := required text },
     { name := "price", type := required float },
     { name := "attrs", type := required json }]

def allTypes : Schema where
  name := "all.types"
  fields :=
    [{ name := "big", type := required int64 },
     { name := "small", type := required int32 },
     { name := "ratio", type := required float },
     { name := "on", type := required boolean },
     { name := "id", type := required uuid },
     { name := "at", type := required timestamp },
     { name := "day", type := required date },
     { name := "maybe", type := optional int32 },
     { name := "attrs", type := required json },
     { name := "inner", type := required text, visibility := .restricted },
     { name := "label", type := optional text, writable := false }]
  methods :=
    [.typed "compute_label" .restricted [] fun r () =>
       .ok (if r.read "on" (required boolean) then
         .text (toString (r.read "small" (required int32)).toInt ++ "/" ++
           r.read "inner" (required text))
       else .null),
     .typed "compute_sum" .restricted [required int32, optional int32] fun r (a, b, ()) =>
       .ok (.integer (Int64.ofInt
         (a.toInt + (b.getD 100).toInt + (r.read "small" (required int32)).toInt))),
     .typed "compute_next_day" .restricted [] fun r () =>
       match (r.read "day" (required date)).next? with
       | some day => .ok ((required date).toValue day)
       | none => .error (.configError "no next day"),
     .typed "compute_public" .visible [required uuid] fun r (id, ()) =>
       .ok (.boolean (decide (r.read "id" (required uuid) = id)))]

/-- All schemas by the names of their types. -/
def all : List (String × Schema) :=
  [("Person", person), ("Marker", marker), ("Unconstructible", unconstructible),
   ("Frozen", frozen), ("Account", account), ("Invoice", invoice), ("Product", product),
   ("AllTypes", allTypes)]

def schema? (type : String) : Option Schema := (all.find? fun entry => entry.1 = type).map Prod.snd

end BoundEntity.Gallery
