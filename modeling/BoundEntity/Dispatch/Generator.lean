import BoundEntity.Dispatch.Table
import BoundEntity.Settings

/-!
# From classes to dispatch tables

A class is refused (`Refusal`) or gets a table, and then its provider is asked once whether the entity has
dynamic attributes.
-/
namespace BoundEntity

/-- Why a class gets no table. -/
inductive Refusal where
  | sealed
  | reservedProperty
  | repeatedProperty (name : String)
  | reservedMethod
  | ambiguousMethod (name : String)
deriving DecidableEq

/-- The member name that is kept for the handler. -/
def handlerSlot : String := "context_handler"

namespace Refusal
variable {E : Type}

def message : Refusal → String
  | sealed => "type is sealed and cannot be extended"
  | reservedProperty => "property '" ++ handlerSlot ++ "' collides with the handler slot"
  | repeatedProperty name => "property '" ++ name ++ "' is declared more than once"
  | reservedMethod => "method '" ++ handlerSlot ++ "' collides with the handler slot"
  | ambiguousMethod name => "method '" ++ name ++ "' is ambiguous"

/-- The first fault among properties, given the names before them. -/
def ofProperties? : List String → List (Property E) → Option Refusal
  | _, [] => none
  | seen, p :: rest =>
    if p.name = handlerSlot then some reservedProperty
    else if seen.contains p.name then some (repeatedProperty p.name)
    else ofProperties? (p.name :: seen) rest

/-- The first fault among methods, given the names before them. -/
def ofMethods? : List String → List (Method E) → Option Refusal
  | _, [] => none
  | seen, m :: rest =>
    if m.name = handlerSlot then some reservedMethod
    else if seen.contains m.name then some (ambiguousMethod m.name)
    else ofMethods? (m.name :: seen) rest

def ofClass? (c : EntityClass E) : Option Refusal :=
  if c.isSealed then some sealed
  else
    match ofProperties? [] c.properties with
    | some refusal => some refusal
    | none => ofMethods? [] c.methods

end Refusal

structure Generator where
  computePrefix : String
  attributesKey : String
  provider : Provider

namespace Generator
variable {E : Type}

def ofSettings (s : Settings) (provider : Provider) : Generator :=
  ⟨s.computePrefix, s.attributesKey, provider⟩

/-- `computeKey` on characters. -/
def keyChars (computePrefix method : List Char) : List Char :=
  let rest := (computePrefix.isPrefixOf? method).getD method
  let key := rest.dropWhile fun c => c = '_'
  if key.isEmpty then method else key

/-- The context key of a method: its name without the compute prefix and the underscores after it,
or the whole name if nothing else is left. -/
def computeKey (g : Generator) (method : String) : String :=
  String.ofList (keyChars g.computePrefix.toList method.toList)

def isCompute (g : Generator) (m : Method E) : Bool :=
  m.visibility = .restricted && g.computePrefix.toList.isPrefixOf m.name.toList

def computeSlot (g : Generator) (m : Method E) : ComputeSlot E :=
  ⟨g.computeKey m.name, m.arity, m.body⟩

/-- Properties that may be seen and can be read or written. -/
def isIntercepted (p : Property E) : Bool := p.isPublic && (p.getter.isSome || p.setter.isSome)

def slot (p : Property E) : PropertySlot E := ⟨p.kind, p.getter, p.setter, none⟩

def slots (c : EntityClass E) : Keyed (PropertySlot E) :=
  Keyed.ofList ((c.properties.filter isIntercepted).map fun p => (p.name, slot p))

/-- Lets a compute method without arguments derive the readable property of its key. -/
def link (g : Generator) (slots : Keyed (PropertySlot E)) (m : Method E) : Keyed (PropertySlot E) :=
  if g.isCompute m && m.arity == 0 then
    slots.modify (g.computeKey m.name) fun s =>
      if s.getter.isSome then { s with compute := some m.name } else s
  else slots

/-- The table of an accepted class, without a map view. -/
def plainTable (g : Generator) (c : EntityClass E) : Table E where
  entity := c.name
  properties := c.methods.foldl g.link (slots c)
  hidden := (c.properties.filter fun p => !isIntercepted p).map Property.name
  computes := Keyed.ofList ((c.methods.filter g.isCompute).map fun m => (m.name, g.computeSlot m))
  passthrough := Keyed.ofList ((c.methods.filter fun m => !g.isCompute m).map fun m => (m.name, m))
  constructor := c.constructor
  attributesKey := none

/-- What the provider is asked about a class. -/
def query (c : EntityClass E) : Query := ⟨c.name, c.properties.map Property.toMeta⟩

/-- Whether the provider knows dynamic attributes; a failing provider knows none. -/
def isMapCapable (g : Generator) (q : Query) : Bool :=
  match g.provider q with
  | .ok metadata => metadata.hasDynamicAttributes g.attributesKey
  | .error _ => false

/-- The table of a class or the reason for refusing it, with the questions put to the provider. -/
def generate (g : Generator) (c : EntityClass E) : Except Fault (Table E) × List Query :=
  match Refusal.ofClass? c with
  | some refusal => (.error (.generationFailure c.name refusal.message), [])
  | none =>
    let q := query c
    let key := if g.isMapCapable q then some g.attributesKey else none
    (.ok { g.plainTable c with attributesKey := key }, [q])

end Generator
end BoundEntity
