import BoundEntity.Proofs.EntityFields
import BoundEntity.Proofs.OptionLists
import Mathlib.Data.List.Forall2
import Mathlib.Tactic.MkIffOfInductiveProp

/-!
# Declarations that are supported

What it takes for a type declaration to be registered is said of the declaration alone (`Supported`).
-/
namespace BoundEntity
variable {E : Type}

/-! ## Fields -/

namespace FieldDeclaration

def isPublic (f : FieldDeclaration) : Bool := TypeText.isPublic f.visibility

def isSkipped (f : FieldDeclaration) : Bool :=
  Attribute.gives MemberOptions.attributeName "skip" f.attributes

def isReadOnly (f : FieldDeclaration) : Bool :=
  Attribute.gives MemberOptions.attributeName "read_only" f.attributes

/-- The options of a skipped field count too, but its name does not. -/
@[mk_iff]
structure Supported (f : FieldDeclaration) : Prop where
  options : Attribute.AreLists MemberOptions.attributeName MemberOptions.Allows f.attributes
  unshadowed : f.isSkipped = false → f.isPublic = true → f.name ≠ "value"

/-- The property of a field that is not skipped. -/
def property (f : FieldDeclaration) : RegisteredProperty :=
  ⟨f.name, f.type, f.isPublic, f.isReadOnly⟩

def property? (f : FieldDeclaration) : Option RegisteredProperty :=
  if f.isSkipped then none else some f.property

theorem register?_ok_iff (f : FieldDeclaration) (registered : Option RegisteredProperty) :
    f.register? = .ok registered ↔ f.Supported ∧ registered = f.property? := by
  rw [supported_iff]
  unfold register?
  cases hoptions : MemberOptions.ofAttributes f.attributes with
  | error defect =>
    simp [MemberOptions.not_areLists_of_error hoptions]
  | ok options =>
    obtain ⟨hlists, rfl⟩ := MemberOptions.ofAttributes_ok_iff.1 hoptions
    rw [and_iff_right hlists]
    change (if f.isSkipped = true then Except.ok none
      else if (f.isPublic && shadowed.contains f.name) = true then .error (Defect.shadowedAccessors f.name)
      else .ok (some f.property)) = .ok registered ↔ _
    unfold property?
    cases f.isSkipped <;> cases f.isPublic <;> by_cases hname : f.name = "value" <;>
      simp [shadowed, hname, eq_comm]

theorem filterMap_property? (fields : List FieldDeclaration) :
    fields.filterMap property? = (fields.filter fun f => !f.isSkipped).map property := by
  rw [← List.filterMap_eq_map, List.filterMap_filter]
  refine List.filterMap_congr fun f _ => ?_
  cases hskipped : f.isSkipped <;> simp [property?, hskipped]

theorem registerAll_ok_iff {fields : List FieldDeclaration} {properties : List RegisteredProperty} :
    registerAll fields = .ok properties ↔ (∀ f ∈ fields, f.Supported) ∧
      properties = (fields.filter fun f => !f.isSkipped).map property := by
  rw [registerAll, collect_ok_iff register?_ok_iff, filterMap_property?]

/-- How a property of a class goes back to a field. -/
structure Registers (host : Host E) (f : FieldDeclaration) (p : Property E) : Prop where
  name_eq : p.name = f.name
  kind_eq : p.kind = (host.type f.type).kind
  visible_iff : p.visibility = .visible ↔ f.isPublic = true
  isSome_getter : p.getter.isSome = true
  isSome_setter_iff : p.setter.isSome = true ↔ f.isReadOnly = false

theorem registers_property (host : Host E) (f : FieldDeclaration) :
    f.Registers host (host.property f.property) where
  name_eq := rfl
  kind_eq := rfl
  visible_iff := by
    cases hpublic : f.isPublic <;> simp [Host.property, property, Host.visibility, hpublic]
  isSome_getter := rfl
  isSome_setter_iff := by rw [Host.isSome_setter, Bool.not_eq_true', property]

end FieldDeclaration

/-! ## Types -/

/-- The fields of a struct; a struct without a list of fields has none. -/
inductive DeclarationBody.HasFields : DeclarationBody → List FieldDeclaration → Prop
  | named (fields : List FieldDeclaration) : HasFields (.named fields) fields
  | unit : HasFields .unit []

theorem DeclarationBody.fields?_ok_iff {body : DeclarationBody} {fields : List FieldDeclaration} :
    body.fields? = .ok fields ↔ body.HasFields fields := by
  constructor
  · intro hfields
    cases body with
    | named declared =>
      obtain rfl := Except.ok.inj hfields
      exact .named declared
    | unit =>
      obtain rfl := Except.ok.inj hfields
      exact .unit
    | tuple _ => cases hfields
    | variants _ => cases hfields
    | union _ => cases hfields
  · rintro (_ | _) <;> rfl

namespace ModelOptions

/-- What is constructed with, unless two ways are given. -/
def chosen (o : ModelOptions) : ModelConstructor :=
  match o.constructor with
  | some p => .path p
  | none => if o.hasNoDefault then .absent else .standard

theorem modelConstructor_ok_iff {o : ModelOptions} {constructor : ModelConstructor} :
    o.modelConstructor = .ok constructor ↔
      ¬ (o.constructor.isSome = true ∧ o.hasNoDefault = true) ∧ constructor = o.chosen := by
  unfold modelConstructor chosen
  cases o.constructor <;> cases o.hasNoDefault <;> simp [eq_comm]

end ModelOptions

namespace TypeDeclaration

/-- The declaration with these fields can be registered. -/
structure Supported (d : TypeDeclaration) (fields : List FieldDeclaration) : Prop where
  notGeneric : ∀ parameter ∈ d.generics, TypeText.isEmpty parameter = true
  options : Attribute.AreLists ModelOptions.attributeName ModelOptions.Allows d.attributes
  hasFields : d.body.HasFields fields
  supported : ∀ f ∈ fields, f.Supported
  constructible : ¬ (Attribute.gives ModelOptions.attributeName "constructor" d.attributes = true ∧
    Attribute.gives ModelOptions.attributeName "no_default" d.attributes = true)

/-- What a supported declaration registers. -/
def registered (d : TypeDeclaration) (fields : List FieldDeclaration) : EntityModel where
  target := d.name
  visibility := d.visibility
  entity := (Attribute.lastText? ModelOptions.attributeName "name" d.attributes).getD d.name
  properties := (fields.filter fun f => !f.isSkipped).map FieldDeclaration.property
  constructor := (ModelOptions.given d.attributes).chosen
  isSealed := Attribute.gives ModelOptions.attributeName "sealed" d.attributes
  declaresNoMethods := !Attribute.gives ModelOptions.attributeName "methods" d.attributes

theorem model_ok_iff {d : TypeDeclaration} {model : EntityModel} :
    d.model = .ok model ↔ ∃ fields, d.Supported fields ∧ model = d.registered fields := by
  constructor
  · intro hmodel
    unfold TypeDeclaration.model at hmodel
    split at hmodel
    · cases hmodel
    · next hgenerics =>
      split at hmodel
      · cases hmodel
      · next options hoptions =>
        split at hmodel
        · cases hmodel
        · next fields hfields =>
          split at hmodel
          · cases hmodel
          · next properties hproperties =>
            split at hmodel
            · cases hmodel
            · next constructor hconstructor =>
              obtain ⟨hlists, rfl⟩ := ModelOptions.ofAttributes_ok_iff.1 hoptions
              obtain ⟨hsupported, rfl⟩ := FieldDeclaration.registerAll_ok_iff.1 hproperties
              obtain ⟨hone, rfl⟩ := ModelOptions.modelConstructor_ok_iff.1 hconstructor
              refine ⟨fields, ⟨?_, hlists, DeclarationBody.fields?_ok_iff.1 hfields, hsupported, ?_⟩,
                (Except.ok.inj hmodel).symm⟩
              · simpa using hgenerics
              · rwa [← ModelOptions.isSome_constructor_given hlists]
  · rintro ⟨fields, supported, rfl⟩
    have hgenerics : d.generics.all TypeText.isEmpty = true := List.all_eq_true.2 supported.notGeneric
    have hone := supported.constructible
    rw [← ModelOptions.isSome_constructor_given supported.options] at hone
    simp only [TypeDeclaration.model, hgenerics, Bool.not_true, Bool.false_eq_true, if_false,
      ModelOptions.ofAttributes_ok_iff.2 ⟨supported.options, rfl⟩,
      DeclarationBody.fields?_ok_iff.2 supported.hasFields,
      FieldDeclaration.registerAll_ok_iff.2 ⟨supported.supported, rfl⟩,
      ModelOptions.modelConstructor_ok_iff.2 ⟨hone, rfl⟩]
    rfl

theorem Supported.constructor_eq_none_iff {d : TypeDeclaration} {fields : List FieldDeclaration}
    (supported : d.Supported fields) (host : Host E) :
    host.constructor (d.registered fields).constructor = none ↔
      Attribute.gives ModelOptions.attributeName "no_default" d.attributes = true := by
  have hone := supported.constructible
  rw [← ModelOptions.isSome_constructor_given supported.options] at hone
  change ¬ (_ ∧ (ModelOptions.given d.attributes).hasNoDefault = true) at hone
  change host.constructor (ModelOptions.given d.attributes).chosen = none ↔
    (ModelOptions.given d.attributes).hasNoDefault = true
  unfold ModelOptions.chosen
  revert hone
  cases (ModelOptions.given d.attributes).constructor <;>
    cases (ModelOptions.given d.attributes).hasNoDefault <;> simp [Host.constructor]

end TypeDeclaration

/-- A declaration is registered exactly if it is supported. The class has one property for each field that
is not skipped, in their order. -/
theorem declaration_registers_fields (d : TypeDeclaration) :
    ((∃ model, d.model = .ok model) ↔ ∃ fields, d.Supported fields) ∧
    ∀ model, d.model = .ok model → ∃ fields, d.body.HasFields fields ∧
      ∀ {E : Type} (host : Host E) (methods : List RegisteredMethod),
        List.Forall₂ (FieldDeclaration.Registers host) (fields.filter fun f => !f.isSkipped)
          (host.toClass model methods).properties ∧
        (host.toClass model methods).name =
          (Attribute.lastText? ModelOptions.attributeName "name" d.attributes).getD d.name ∧
        ((host.toClass model methods).isSealed = true ↔
          Attribute.gives ModelOptions.attributeName "sealed" d.attributes = true) ∧
        ((host.toClass model methods).constructor = none ↔
          Attribute.gives ModelOptions.attributeName "no_default" d.attributes = true) := by
  refine ⟨?_, fun model hmodel => ?_⟩
  · simp only [TypeDeclaration.model_ok_iff]
    constructor
    · rintro ⟨_, fields, supported, -⟩
      exact ⟨fields, supported⟩
    · rintro ⟨fields, supported⟩
      exact ⟨_, fields, supported, rfl⟩
  · obtain ⟨fields, supported, rfl⟩ := TypeDeclaration.model_ok_iff.1 hmodel
    refine ⟨fields, supported.hasFields, fun host methods => ⟨?_, rfl, Iff.rfl, ?_⟩⟩
    · have hproperties : (host.toClass (d.registered fields) methods).properties =
          (fields.filter fun f => !f.isSkipped).map fun f => host.property f.property := List.map_map
      rw [hproperties, List.forall₂_map_right_iff, List.forall₂_same]
      exact fun f _ => f.registers_property host
    · exact supported.constructor_eq_none_iff host

/-! ## A dial with two names -/

/-- The fields of a panel and a skipped one whose name would hide an accessor. -/
def dialFields : List FieldDeclaration :=
  panelFields ++ [⟨"pub", "value", "f64", [⟨"context", .arguments [⟨"skip", .bare⟩]⟩]⟩]

/-- A dial is renamed twice, sealed and without a default. -/
def dial : TypeDeclaration where
  visibility := "pub"
  name := "Dial"
  generics := []
  attributes :=
    [⟨"context_model", .arguments [⟨"name", .text "Meter"⟩, ⟨"sealed", .bare⟩]⟩, ⟨"doc", .text "Dials."⟩,
     ⟨"context_model", .arguments [⟨"no_default", .bare⟩, ⟨"name", .text "Gauge"⟩]⟩]
  body := .named dialFields

theorem dial_registers_fields :
    ∃ model, dial.model = .ok model ∧ (∃ fields, dial.Supported fields) ∧
      List.Forall₂ (FieldDeclaration.Registers panelHost) (dialFields.filter fun f => !f.isSkipped)
        (panelHost.toClass model []).properties ∧
      (dialFields.filter fun f => !f.isSkipped).map FieldDeclaration.name = ["level", "serial", "peak"] ∧
      (panelHost.toClass model []).name = "Gauge" ∧ (panelHost.toClass model []).isSealed = true ∧
      (panelHost.toClass model []).constructor = none := by
  obtain ⟨haccepted, hregisters⟩ := declaration_registers_fields dial
  have hmodel : dial.model = .ok _ := rfl
  obtain ⟨fields, hfields, hclass⟩ := hregisters _ hmodel
  cases hfields
  obtain ⟨hproperties, hname, hsealed, hconstructor⟩ := hclass panelHost []
  exact ⟨_, hmodel, haccepted.1 ⟨_, hmodel⟩, hproperties, by decide, hname, hsealed.2 rfl,
    hconstructor.2 rfl⟩

end BoundEntity
