import BoundEntity.Declaration.Attribute

/-!
# Entity models from type declarations

A declared struct becomes an entity model: its fields that are not skipped are registered as
properties, and public ones get typed accessors.
-/
namespace BoundEntity

structure FieldDeclaration where
  visibility : String
  name : String
  type : String
  attributes : List Attribute

inductive DeclarationBody where
  | named (fields : List FieldDeclaration)
  | unit
  | tuple (types : List String)
  | variants (cases : List String)
  | union (fields : List FieldDeclaration)

structure TypeDeclaration where
  visibility : String
  name : String
  generics : List String
  attributes : List Attribute
  body : DeclarationBody

/-- A property as it is registered; it always has a getter. -/
structure RegisteredProperty where
  name : String
  type : String
  isPublic : Bool
  isReadOnly : Bool
deriving DecidableEq

inductive ModelConstructor where
  | standard
  | path (p : Path)
  | absent
deriving DecidableEq

/-- What a type declaration registers. -/
structure EntityModel where
  /-- The declared type. -/
  target : String
  visibility : String
  /-- The name under which its entities are known. -/
  entity : String
  properties : List RegisteredProperty
  constructor : ModelConstructor
  isSealed : Bool
  /-- Whether the model itself declares that there are no methods. -/
  declaresNoMethods : Bool
deriving DecidableEq

/-- A name without the mark of a raw name. -/
def bareName (name : String) : String :=
  match name.toList with
  | 'r' :: '#' :: rest => String.ofList rest
  | _ => name

namespace FieldDeclaration

/-- Public fields whose accessors the handles to entities hide. -/
def shadowed : List String := ["value"]

/-- The property of a field, unless it is skipped. -/
def register? (f : FieldDeclaration) : Except Defect (Option RegisteredProperty) :=
  match MemberOptions.ofAttributes f.attributes with
  | .error defect => .error defect
  | .ok options =>
    let isPublic := TypeText.isPublic f.visibility
    if options.isSkipped then .ok none
    else if isPublic && shadowed.contains f.name then .error (.shadowedAccessors f.name)
    else .ok (some ⟨f.name, f.type, isPublic, options.isReadOnly⟩)

/-- The properties of fields in order; the first defect fails. -/
def registerAll (fields : List FieldDeclaration) : Except Defect (List RegisteredProperty) :=
  (fields.mapM register?).map (List.filterMap id)

end FieldDeclaration

namespace DeclarationBody

/-- The fields of a struct that has no unnamed ones. -/
def fields? : DeclarationBody → Except Defect (List FieldDeclaration)
  | named fields => .ok fields
  | unit => .ok []
  | tuple _ => .error .unnamedFields
  | variants _ => .error .notAStruct
  | union _ => .error .notAStruct

end DeclarationBody

namespace ModelOptions

def modelConstructor (o : ModelOptions) : Except Defect ModelConstructor :=
  match o.constructor, o.hasNoDefault with
  | some _, true => .error .constructorWithoutDefault
  | some p, false => .ok (.path p)
  | none, true => .ok .absent
  | none, false => .ok .standard

end ModelOptions

/-- The entity model of a type, or the first defect of its declaration. -/
def TypeDeclaration.model (d : TypeDeclaration) : Except Defect EntityModel :=
  if !d.generics.all TypeText.isEmpty then .error .genericType
  else
    match ModelOptions.ofAttributes d.attributes with
    | .error defect => .error defect
    | .ok options =>
      match d.body.fields? with
      | .error defect => .error defect
      | .ok fields =>
        match FieldDeclaration.registerAll fields with
        | .error defect => .error defect
        | .ok properties =>
          match options.modelConstructor with
          | .error defect => .error defect
          | .ok constructor =>
            .ok {
              target := d.name
              visibility := d.visibility
              entity := options.name.getD d.name
              properties
              constructor
              isSealed := options.isSealed
              declaresNoMethods := !options.hasMethods }

inductive AccessMode where
  | get
  | set
deriving DecidableEq

def AccessMode.name : AccessMode → String
  | get => "get"
  | set => "set"

/-- A function that reads or writes one property of a bound entity. -/
structure Accessor where
  name : String
  mode : AccessMode
  type : String
  property : String
deriving DecidableEq

/-- The accessor of a property in a mode. -/
def RegisteredProperty.accessor (p : RegisteredProperty) (mode : AccessMode) : Accessor :=
  ⟨mode.name ++ "_" ++ bareName p.name, mode, p.type, p.name⟩

namespace EntityModel

/-- All getters of public properties, then the setters of those that are not read-only. -/
def accessors (m : EntityModel) : List Accessor :=
  let visible := m.properties.filter RegisteredProperty.isPublic
  visible.map (·.accessor .get) ++
    (visible.filter fun p => !p.isReadOnly).map (·.accessor .set)

/-- The name of the trait with the accessors. -/
def accessorTrait (m : EntityModel) : String := bareName m.target ++ "Accessors"

/-- The type that the accessors are for. -/
def accessorTarget (m : EntityModel) : String :=
  "::entity_context::ContextProxy<" ++ m.target ++ ">"

end EntityModel
end BoundEntity
