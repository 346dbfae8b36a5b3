import BoundEntity.Entity.TypedMethod

/-!
# Records and their schemas

A record is an entity made of named typed cells. The class of its schema (`Schema.toClass`) has one property
per field.
-/
namespace BoundEntity

structure Cell where
  name : String
  type : FieldType
  content : type.Carrier
deriving DecidableEq

abbrev Record := List Cell

namespace Cell

def value (c : Cell) : Value := c.type.toValue c.content

/-- The cell with a value converted to its type. -/
def assign (c : Cell) (value : Value) : Except Fault Cell :=
  match c.type.ofValue value with
  | .error fault => .error fault
  | .ok content => .ok { c with content }

/-- The content of a cell of that type, and the zero value of the type for any other cell. -/
def read (c : Cell) (type : FieldType) : type.Carrier :=
  if h : c.type = type then h ▸ c.content else type.zero

end Cell

namespace Record

/-- The value at a position, null beyond the end. -/
def valueAt (r : Record) (position : Nat) : Value := (r[position]?.map Cell.value).getD .null

/-- Puts a value into the cell at a position. -/
def assignAt : Record → Nat → Value → Except Fault Record
  | [], _, _ => .ok []
  | c :: r, 0, value =>
    match c.assign value with
    | .error fault => .error fault
    | .ok c => .ok (c :: r)
  | c :: r, position + 1, value =>
    match assignAt r position value with
    | .error fault => .error fault
    | .ok r => .ok (c :: r)

/-- The value of the first cell with the name, null if there is none. -/
def value (r : Record) (name : String) : Value :=
  ((r.find? fun c => c.name = name).map Cell.value).getD .null

/-- The content of the first cell with the name, as a field of the given type. -/
def read (r : Record) (name : String) (type : FieldType) : type.Carrier :=
  match r.find? fun c => c.name = name with
  | some c => c.read type
  | none => type.zero

end Record

/-- A declared field. Its kind may differ from the kind of its type. -/
structure Schema.Field where
  name : String
  type : FieldType
  kind : Kind := type.kind
  visibility : Visibility := .visible
  readable : Bool := true
  writable : Bool := true
  initial : Value := .null

/-- How records are constructed. -/
inductive Construction where
  /-- Each field from its initial value. -/
  | standard
  | absent
  | failing (fault : Fault)

structure Schema where
  name : String
  fields : List Schema.Field := []
  methods : List (Method Record) := []
  construction : Construction := .standard
  isSealed : Bool := false

namespace Schema

namespace Field

def construct (f : Field) : Except Fault Cell :=
  match f.type.ofValue f.initial with
  | .error fault => .error fault
  | .ok content => .ok ⟨f.name, f.type, content⟩

/-- The property of a field at a position. -/
def property (f : Field) (position : Nat) : Property Record where
  name := f.name
  kind := f.kind
  visibility := f.visibility
  getter := if f.readable then some fun r => r.valueAt position else none
  setter := if f.writable then some fun r value => r.assignAt position value else none

end Field

/-- A record of initial values; the first that does not convert fails. -/
def construct (fields : List Field) : Except Fault Record := fields.mapM Field.construct

/-- The properties of fields, each at its position. -/
def properties (fields : List Field) : List (Property Record) :=
  fields.zipIdx.map fun (f, position) => f.property position

def constructor (s : Schema) : Option (Except Fault Record) :=
  match s.construction with
  | .standard => some (construct s.fields)
  | .absent => none
  | .failing fault => some (.error fault)

def toClass (s : Schema) : EntityClass Record where
  name := s.name
  properties := properties s.fields
  methods := s.methods
  constructor := s.constructor
  isSealed := s.isSealed

end Schema
end BoundEntity
