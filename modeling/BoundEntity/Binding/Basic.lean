import BoundEntity.Dispatch.Intercept
import BoundEntity.Field.Conversion

/-!
# Bound entities

A binding is an entity whose members are served by a handler through a dispatch table.
-/
namespace BoundEntity

/-- An entity of type `key` bound to a context. The number tells tables apart that were generated
for one type at different times. -/
structure Binding (κ E : Type) where
  key : κ
  tableNumber : Nat
  table : Table E
  base : E
  handler : Handler

namespace Binding
variable {κ E : Type}

def entityName (b : Binding κ E) : String := b.table.entity

def isInstanceOf [DecidableEq κ] (b : Binding κ E) (key : κ) : Bool := b.key = key

def store (b : Binding κ E) : Store := b.handler.store

/-- The binding after a call. -/
def after {α : Type} (b : Binding κ E) (r : Reply α) : Binding κ E :=
  { b with handler := b.handler.after r }

def intercept (b : Binding κ E) (call : Call) : Reply Answer := b.handler.intercept b.table b.base call

def getValue (b : Binding κ E) (property : String) : Reply Value :=
  b.handler.get b.table b.base property

/-- Reads a property as a field of the given type. -/
def get (b : Binding κ E) (type : FieldType) (property : String) : Reply type.Carrier :=
  (b.getValue property).andThen fun value =>
    match type.ofValue value with
    | .ok x => .ok x
    | .error fault => .error (fault.during b.entityName property)

def setValue (b : Binding κ E) (property : String) (value : Value) : Reply Unit :=
  b.handler.set b.table property value

/-- Writes a field of the given type to a property. -/
def set (b : Binding κ E) (type : FieldType) (property : String) (x : type.Carrier) : Reply Unit :=
  b.setValue property (type.toValue x)

def compute (b : Binding κ E) (method : String) (args : List Value) : Reply Value :=
  b.handler.compute b.table method args

/-- Calls any method of the entity. -/
def invoke (b : Binding κ E) (method : String) (args : List Value) : Reply Value :=
  b.handler.invoke b.table method args

/-- A call of the map view, if the entity has one. -/
def map? (b : Binding κ E) (call : MapCall) : Option (Reply Answer) :=
  if b.table.isMapCapable then some (b.intercept (.map call)) else none

/-- Whether the map view, if there is one, shows no entries. -/
def isEmpty? (b : Binding κ E) : Option (Reply Bool) :=
  (b.map? .len).map fun reply => reply.map fun answer => answer = .count 0

/-- A snapshot of the context. -/
def context (b : Binding κ E) : Context := b.store.values

/-- A plain entity that carries the context. -/
def entity (b : Binding κ E) : Except Fault E := b.table.materialize b.context

def inspect (b : Binding κ E) : String :=
  Inspect.record "ContextProxy"
    [("entity", Inspect.quoted b.entityName),
     ("handler", Inspect.optional (some b.handler.inspect))]

end Binding
end BoundEntity
