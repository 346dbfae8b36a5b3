import BoundEntity.Dispatch.Call
import BoundEntity.Dispatch.Store
import BoundEntity.Dispatch.Table
import BoundEntity.Json.Parser

/-!
# Serving calls from a store

`Handler.intercept` serves one call on a bound entity. It answers with a result, the store after the
call and a record of the outside code that ran.
-/
namespace BoundEntity

/-- What an evaluator is asked. -/
structure Request where
  entity : String
  method : String
  /-- The context key under which the result is kept. -/
  key : String
  values : Context
  args : List Value
deriving DecidableEq

/-- Derives values in the place of method bodies; nothing means that the body is to be used. -/
abbrev Evaluator := Request → Option (Except Fault Value)

/-- Outside code that was run. -/
inductive Run where
  | evaluation (request : Request)
  | body (method : String) (args : List Value)
deriving DecidableEq

structure Reply (α : Type) where
  result : Except Fault α
  store : Store
  runs : List Run

/-- The context of one bound entity. -/
structure Handler where
  store : Store
  evaluator : Option Evaluator

/-- Why a member cannot be called. -/
inductive Obstacle where
  | noSuchProperty
  | writeOnly
  | readOnly
  | notCompute
  | noSuchMethod
  | noMapView
deriving DecidableEq

namespace Obstacle

def message : Obstacle → String
  | noSuchProperty => "no such property"
  | writeOnly => "property is write-only"
  | readOnly => "property is read-only"
  | notCompute => "not a compute method"
  | noSuchMethod => "no such method"
  | noMapView => "map view is not available for this type"

def fault (o : Obstacle) (entity member : String) : Fault := .dispatchFailure entity member o.message

end Obstacle

namespace Reply
variable {α β : Type}

/-- A result that needed no outside code and changed nothing. -/
def quiet (store : Store) (result : Except Fault α) : Reply α := ⟨result, store, []⟩

def map (f : α → β) (r : Reply α) : Reply β :=
  ⟨match r.result with
    | .ok x => .ok (f x)
    | .error fault => .error fault, r.store, r.runs⟩

/-- A further step on the result that can fail. -/
def andThen (r : Reply α) (f : α → Except Fault β) : Reply β :=
  ⟨match r.result with
    | .ok x => f x
    | .error fault => .error fault, r.store, r.runs⟩

end Reply

namespace Table
variable {E : Type}

/-- A value as the property of that name holds it; other keys hold any value. -/
def fit (t : Table E) (key : String) (value : Value) : Except Fault Value :=
  match t.properties.get? key with
  | none => .ok value
  | some slot =>
    match slot.kind.coerce value with
    | .error fault => .error (fault.during t.entity key)
    | .ok value => .ok value

/-- Runs a body on an entity that carries the context. -/
def runBody (t : Table E) (values : Context) (method : String) (slot : ComputeSlot E)
    (args : List Value) : Except Fault Value × List Run :=
  match t.materialize values with
  | .error fault => (.error fault, [])
  | .ok entity => (slot.body entity args, [.body method args])

/-- Asks the evaluator, then the body. -/
def evaluate (t : Table E) (evaluator : Option Evaluator) (values : Context) (method : String)
    (slot : ComputeSlot E) (args : List Value) : Except Fault Value × List Run :=
  match evaluator with
  | none => t.runBody values method slot args
  | some evaluator =>
    let request : Request := ⟨t.entity, method, slot.key, values, args⟩
    match evaluator request with
    | some result => (result, [.evaluation request])
    | none =>
      let (result, runs) := t.runBody values method slot args
      (result, .evaluation request :: runs)

/-- The kind of the property that a method derives. -/
def derivedKind? (t : Table E) (method key : String) : Option Kind :=
  match t.properties.get? key with
  | some slot => if slot.compute = some method then some slot.kind else none
  | none => none

/-- An evaluated result as the method answers it. -/
def settle (t : Table E) (method key : String) : Except Fault Value → Except Fault Value
  | .error fault => .error (fault.asDispatch t.entity method)
  | .ok value =>
    match t.derivedKind? method key with
    | none => .ok value
    | some kind =>
      match kind.coerce value with
      | .error fault => .error (fault.during t.entity method)
      | .ok value => .ok value

/-- What a compute method yields for a context. -/
def derive (t : Table E) (evaluator : Option Evaluator) (values : Context) (method : String)
    (slot : ComputeSlot E) (args : List Value) : Except Fault Value × List Run :=
  let (result, runs) := t.evaluate evaluator values method slot args
  (t.settle method slot.key result, runs)

end Table

namespace Context

/-- A key inside the bag of dynamic attributes, kept as an object or as the text of one. -/
def dynamicAttribute? (values : Context) (attributesKey key : String) : Option Value :=
  let document := match values.get? attributesKey with
    | some (.text raw) => Json.parse? raw
    | some (.json (.string raw)) => Json.parse? raw
    | some (.json j) => some j
    | _ => none
  match document with
  | none => none
  | some document => (document.member? key).map Value.ofJson

end Context

namespace Handler
variable {E : Type}

def ofContext (values : Context) (evaluator : Option Evaluator) : Handler :=
  ⟨.ofContext values, evaluator⟩

/-- A result without arguments is derived once and then kept. -/
def compute (h : Handler) (t : Table E) (method : String) (args : List Value) : Reply Value :=
  match t.computes.get? method with
  | none => .quiet h.store (.error (Obstacle.notCompute.fault t.entity method))
  | some slot =>
    match checkArity method args slot.arity with
    | .error fault => .quiet h.store (.error (fault.during t.entity method))
    | .ok () =>
      match (if args.isEmpty then h.store.cached? slot.key else none) with
      | some value => .quiet h.store (.ok value)
      | none =>
        let (result, runs) := t.derive h.evaluator h.store.values method slot args
        match result with
        | .error fault => ⟨.error fault, h.store, runs⟩
        | .ok value =>
          ⟨.ok value, if args.isEmpty then h.store.remember slot.key value else h.store, runs⟩

/-- The entry of a property, else what its method derives, else what the entity itself answers. -/
def get (h : Handler) (t : Table E) (base : E) (property : String) : Reply Value :=
  match t.properties.get? property with
  | none => .quiet h.store (.error (Obstacle.noSuchProperty.fault t.entity property))
  | some slot =>
    match slot.getter with
    | none => .quiet h.store (.error (Obstacle.writeOnly.fault t.entity property))
    | some getter =>
      match h.store.value? property with
      | some value => .quiet h.store (t.fit property value)
      | none =>
        match slot.compute with
        | some method => h.compute t method []
        | none => .quiet h.store (.ok (getter base))

def set (h : Handler) (t : Table E) (property : String) (value : Value) : Reply Unit :=
  match t.properties.get? property with
  | none => .quiet h.store (.error (Obstacle.noSuchProperty.fault t.entity property))
  | some slot =>
    match slot.setter with
    | none => .quiet h.store (.error (Obstacle.readOnly.fault t.entity property))
    | some _ =>
      match t.fit property value with
      | .error fault => .quiet h.store (.error fault)
      | .ok value => .quiet (h.store.put property value) (.ok ())

/-- All entries as the map view shows them; the first that does not fit fails. -/
def fitEntries (t : Table E) (entries : List (String × Value)) :
    Except Fault (List (String × Value)) :=
  entries.mapM fun (key, value) => (t.fit key value).map fun value => (key, value)

/-- The map view: entries by key, declared properties in their kind, and dynamic attributes below
the keys that are present. -/
def map (h : Handler) (t : Table E) (call : MapCall) : Reply Answer :=
  match t.attributesKey with
  | none => .quiet h.store (.error (Obstacle.noMapView.fault t.entity call.name))
  | some attributesKey =>
    match call with
    | .get key =>
      match h.store.value? key with
      | some value => (Reply.quiet h.store (t.fit key value)).map fun value => .entry (some value)
      | none => .quiet h.store (.ok (.entry (h.store.values.dynamicAttribute? attributesKey key)))
    | .insert key value =>
      match t.fit key value with
      | .error fault => .quiet h.store (.error fault)
      | .ok value =>
        .quiet (h.store.put key value) (.ok (.entry ((h.store.invalidate key).value? key)))
    | .remove key =>
      .quiet (h.store.drop key) (.ok (.entry ((h.store.invalidate key).value? key)))
    | .containsKey key =>
      .quiet h.store (.ok (.flag ((h.store.value? key).isSome ||
        (h.store.values.dynamicAttribute? attributesKey key).isSome)))
    | .len => .quiet h.store (.ok (.count h.store.values.size))
    | .keys => .quiet h.store (.ok (.keys h.store.values.keys))
    | .entries => (Reply.quiet h.store (fitEntries t h.store.values.entries)).map .entries
    | .clear => .quiet .cleared (.ok .unit)

def intercept (h : Handler) (t : Table E) (base : E) : Call → Reply Answer
  | .get property => (h.get t base property).map .value
  | .set property value => (h.set t property value).map fun () => .unit
  | .compute method args => (h.compute t method args).map .value
  | .map call => h.map t call

/-- Runs a method that is not intercepted on an entity that carries the context. -/
def runPassthrough (h : Handler) (t : Table E) (method : Method E) (args : List Value) :
    Reply Value :=
  match t.materialize h.store.values with
  | .error fault => .quiet h.store (.error fault)
  | .ok entity =>
    match checkArity method.name args method.arity with
    | .error fault => .quiet h.store (.error (fault.during t.entity method.name))
    | .ok () =>
      ⟨match method.body entity args with
        | .ok value => .ok value
        | .error fault => .error (fault.during t.entity method.name),
        h.store, [.body method.name args]⟩

/-- Calls any method of the entity. -/
def invoke (h : Handler) (t : Table E) (method : String) (args : List Value) : Reply Value :=
  if t.computes.contains method then h.compute t method args
  else
    match t.passthrough.get? method with
    | none => .quiet h.store (.error (Obstacle.noSuchMethod.fault t.entity method))
    | some direct => h.runPassthrough t direct args

/-- The same handler after a reply. -/
def after {α : Type} (h : Handler) (r : Reply α) : Handler := { h with store := r.store }

def inspect (h : Handler) : String :=
  Inspect.record "ContextHandler"
    [("values", h.store.values.inspect),
     ("computed", Inspect.braced (h.store.computed.keys.map Inspect.quoted)),
     ("evaluator", Inspect.flag h.evaluator.isSome)]

end Handler
end BoundEntity
