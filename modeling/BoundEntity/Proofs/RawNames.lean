import BoundEntity.Proofs.Accessors
import BoundEntity.Proofs.Links
import BoundEntity.Proofs.SupportedModels

/-!
# Raw names

A raw name carries a mark that is no part of it. Properties are registered under the name as it is written, and
only the names of accessors leave the mark out.
-/
namespace BoundEntity
variable {E : Type} {host : Host E} {model : EntityModel} {g : Generator} {c : EntityClass E} {t : Table E}
  {name bare : String} {f : FieldDeclaration}

/-! ## The mark -/

def IsRaw (name : String) : Prop := ∃ rest, name = "r#" ++ rest

theorem bareName_raw (rest : String) : bareName ("r#" ++ rest) = rest := by
  have hchars : ("r#" ++ rest).toList = 'r' :: '#' :: rest.toList := String.toList_append
  rw [bareName, hchars]
  exact String.ofList_toList

theorem bareName_of_not_isRaw (hraw : ¬ IsRaw name) : bareName name = name := by
  unfold bareName
  split
  · next rest hchars =>
    refine absurd ⟨String.ofList rest, ?_⟩ hraw
    have happend : ("r#" ++ String.ofList rest).toList = 'r' :: '#' :: rest := by simp
    exact String.toList_inj.1 (hchars.trans happend.symm)
  · rfl

theorem bareName_eq_self_iff : bareName name = name ↔ ¬ IsRaw name := by
  refine ⟨?_, bareName_of_not_isRaw⟩
  rintro hbare ⟨rest, rfl⟩
  have hlength := congrArg String.length hbare
  have hmark : "r#".length = 2 := rfl
  rw [bareName_raw, String.length_append] at hlength
  omega

theorem eq_or_of_bareName_eq (hbare : bareName name = bare) : name = bare ∨ name = "r#" ++ bare := by
  by_cases hraw : IsRaw name
  · obtain ⟨rest, rfl⟩ := hraw
    rw [bareName_raw] at hbare
    exact .inr (congrArg ("r#" ++ ·) hbare)
  · exact .inl ((bareName_of_not_isRaw hraw).symm.trans hbare)

/-! ## Entries that are read -/

namespace FieldType

theorem carries_null_zero (type : FieldType) : type.Carries type.kind .null type.zero := by
  refine ⟨.null, Kind.coerce_of_holds (by cases type.kind <;> rfl), ?_⟩
  cases type with
  | required s => cases s <;> rfl
  | optional s => rfl

theorem carries_iff {type : FieldType} {kind : Kind} {value : Value} {content : type.Carrier} :
    type.Carries kind value content ↔ (kind.coerce value).bind type.ofValue = .ok content := by
  unfold Carries
  cases kind.coerce value with
  | error fault => simp [Except.bind]
  | ok held => simp [Except.bind]

theorem not_carries_zero (type : FieldType) : ¬ type.Carries type.kind (.text "1") type.zero := by
  rw [carries_iff]
  cases type with
  | required s => cases s <;> decide +kernel
  | optional s => cases s <;> decide +kernel

end FieldType

theorem Host.exists_binding_holding (host : Host E) (t : Table E) {key other : String} (hne : key ≠ other)
    (value value' : Value) : ∃ b : Binding Unit E, b.table = t ∧
      b.store.value? key = some value ∧ b.store.value? other = some value' := by
  have hnodup : ([(key, value), (other, value')].map Prod.fst).Nodup := by simpa using hne
  refine ⟨⟨(), 0, t, host.standard, .ofContext (.ofList [(key, value), (other, value')]) none⟩, rfl, ?_, ?_⟩
  · exact Keyed.get?_ofList_of_mem hnodup (.head _)
  · exact Keyed.get?_ofList_of_mem hnodup (.tail _ (.head _))

/-- What the getter answers in any state is what the entry under the key carries. -/
def Accessor.Reads (a : Accessor) (host : Host E) (t : Table E) (key : String) : Prop :=
  ∀ b : Binding Unit E, b.table = t → ∀ value, b.store.value? key = some value → ∀ content,
    (b.get (host.type a.type) a.property).result = .ok content ↔
      (host.type a.type).Carries (host.type a.type).kind value content

theorem Accessor.reads_iff {a : Accessor} {key : String} {slot : PropertySlot E}
    (hslot : t.properties.get? a.property = some slot) (hgetter : slot.getter.isSome = true)
    (hkind : slot.kind = (host.type a.type).kind) : a.Reads host t key ↔ key = a.property := by
  constructor
  · intro hreads
    by_contra hne
    obtain ⟨b, rfl, hown, hother⟩ :=
      host.exists_binding_holding t (Ne.symm hne) Value.null (.text "1")
    have hzero : (b.get (host.type a.type) a.property).result = .ok (host.type a.type).zero := by
      rw [Binding.get_stored_iff hslot hgetter hown, hkind]
      exact (host.type a.type).carries_null_zero
    exact (host.type a.type).not_carries_zero ((hreads b rfl _ hother _).1 hzero)
  · rintro rfl b rfl value hstored content
    rw [Binding.get_stored_iff hslot hgetter hstored, hkind]

/-! ## Fields with raw names -/

namespace FieldDeclaration

theorem property_mem {fields : List FieldDeclaration} {properties : List RegisteredProperty}
    (hall : registerAll fields = .ok properties) (hf : f ∈ fields) (hskipped : f.isSkipped = false) :
    f.property ∈ properties := by
  obtain ⟨-, rfl⟩ := registerAll_ok_iff.1 hall
  exact List.mem_map_of_mem (List.mem_filter.2 ⟨hf, by rw [hskipped]; rfl⟩)

theorem isPublic_of_allows {mode : AccessMode} (hallows : f.property.allows mode = true) :
    f.isPublic = true := by
  cases mode with
  | get => exact hallows
  | set => exact (Bool.and_eq_true_iff.1 hallows).1

theorem name_eq_of_bareName (hsupported : f.Supported) (hskipped : f.isSkipped = false)
    (hpublic : f.isPublic = true) (hbare : bareName f.name = "value") : f.name = "r#value" := by
  rcases eq_or_of_bareName_eq hbare with hplain | hraw
  · exact absurd hplain (hsupported.unshadowed hskipped hpublic)
  · exact hraw

section
variable {key : String} (hmem : f.property ∈ model.properties) (hpublic : f.isPublic = true)
  (hproperties : c.properties = model.properties.map host.property)
  (accepted : (g.generate c).1 = .ok t)
include hmem hpublic hproperties accepted

theorem getter_reads_iff : (f.accessor .get).Reads host t key ↔ key = f.name := by
  have hp : host.property f.property ∈ c.properties := hproperties ▸ List.mem_map_of_mem hmem
  have hintercepted := (host.isIntercepted_property f.property).trans hpublic
  obtain ⟨slot, hslot, heq⟩ := Option.map_eq_some_iff.1
    ((Generator.accepted_slot_iff accepted).2 ⟨_, hp, hintercepted, rfl, rfl⟩)
  have hgetter : slot.getter.isSome = true := congrArg Option.isSome (congrArg PropertySlot.getter heq)
  have hkind : slot.kind = (host.type f.type).kind := congrArg PropertySlot.kind heq
  exact Accessor.reads_iff hslot hgetter hkind

theorem derived_by_iff {m : Method E} (hlast : g.LastDeriving c.methods key m) :
    Generator.deriver? t.properties f.name = some m.name ↔ key = f.name := by
  have hp : host.property f.property ∈ c.properties := hproperties ▸ List.mem_map_of_mem hmem
  have hintercepted := (host.isIntercepted_property f.property).trans hpublic
  have hderiver : Generator.deriver? t.properties f.name = some m.name ↔ _ :=
    Generator.accepted_deriver_iff accepted hp hintercepted
  rw [hderiver]
  constructor
  · rintro ⟨-, other, hother, hname⟩
    have hkey := (Generator.derives_iff.1 hlast.derives).2.2
    have hfield := (Generator.derives_iff.1 hother.derives).2.2
    rw [hname, hkey] at hfield
    exact hfield
  · rintro rfl
    exact ⟨rfl, m, hlast, rfl⟩

end

end FieldDeclaration

theorem EntityModel.kept_accessor_iff {d : TypeDeclaration} {fields : List FieldDeclaration}
    (hmodel : d.model = .ok model) (hfields : d.body.fields? = .ok fields) (mode : AccessMode) :
    (∃ a ∈ model.accessors, a.name = mode.name ++ "_" ++ "value") ↔
      ∃ f ∈ fields, f.isSkipped = false ∧ f.property.allows mode = true ∧ f.name = "r#value" := by
  have hall := TypeDeclaration.model_properties hmodel hfields
  obtain ⟨hsupported, hregistered⟩ := FieldDeclaration.registerAll_ok_iff.1 hall
  constructor
  · rintro ⟨a, ha, hname⟩
    obtain ⟨p, hp, mode', hallows, rfl⟩ := mem_accessors_iff.1 ha
    obtain ⟨rfl, hbare⟩ := AccessMode.accessor_name_inj hname
    rw [hregistered] at hp
    obtain ⟨f, hkept, rfl⟩ := List.mem_map.1 hp
    obtain ⟨hf, hkept⟩ := List.mem_filter.1 hkept
    have hskipped : f.isSkipped = false := by simpa using hkept
    have hpublic : f.isPublic = true := FieldDeclaration.isPublic_of_allows hallows
    have hname := FieldDeclaration.name_eq_of_bareName (hsupported f hf) hskipped hpublic hbare
    exact ⟨f, hf, hskipped, hallows, hname⟩
  · rintro ⟨f, hf, hskipped, hallows, hname⟩
    have hmem := FieldDeclaration.property_mem hall hf hskipped
    have hbare : bareName f.name = "value" := hname ▸ bareName_raw "value"
    refine ⟨f.accessor mode, mem_accessors_iff.2 ⟨f.property, hmem, mode, hallows, rfl⟩, ?_⟩
    rw [FieldDeclaration.accessor, hbare]

/-- A public field is registered under its name as it is written, and its accessors address this property;
they are named for it exactly if the name is not a raw one. The accessors that handles hide are there
exactly if there is a raw field of the kept name. -/
theorem raw_names_registered {d : TypeDeclaration} {fields : List FieldDeclaration}
    (hmodel : d.model = .ok model) (hfields : d.body.fields? = .ok fields) :
    (∀ f ∈ fields, f.isSkipped = false → f.isPublic = true →
      f.property ∈ model.properties ∧
      (∀ mode, f.property.allows mode = true → f.accessor mode ∈ model.accessors) ∧
      (f.property.name = bareName f.name ↔ ¬ IsRaw f.name) ∧
      ∀ {E : Type} (host : Host E) (c : EntityClass E) (g : Generator) (t : Table E),
        c.properties = model.properties.map host.property → (g.generate c).1 = .ok t →
        ((f.accessor .get).Reads host t (bareName f.name) ↔ ¬ IsRaw f.name) ∧
        ∀ m, g.LastDeriving c.methods (bareName f.name) m →
          (Generator.deriver? t.properties f.name = some m.name ↔ ¬ IsRaw f.name)) ∧
    ∀ mode : AccessMode, (∃ a ∈ model.accessors, a.name = mode.name ++ "_" ++ "value") ↔
      ∃ f ∈ fields, f.isSkipped = false ∧ f.property.allows mode = true ∧ f.name = "r#value" := by
  have hall := TypeDeclaration.model_properties hmodel hfields
  refine ⟨fun f hf hskipped hpublic => ?_, EntityModel.kept_accessor_iff hmodel hfields⟩
  have hmem : f.property ∈ model.properties := FieldDeclaration.property_mem hall hf hskipped
  refine ⟨hmem, ?_, ?_, ?_⟩
  · intro mode hallows
    exact EntityModel.mem_accessors_iff.2 ⟨f.property, hmem, mode, hallows, rfl⟩
  · rw [← bareName_eq_self_iff]
    exact eq_comm
  · intro E host c g t hproperties accepted
    rw [← bareName_eq_self_iff]
    refine ⟨FieldDeclaration.getter_reads_iff hmem hpublic hproperties accepted, ?_⟩
    intro m hlast
    exact FieldDeclaration.derived_by_iff hmem hpublic hproperties accepted hlast

/-! ## A reading with raw names -/

/-- A reading has a unit, and a type and a value under raw names. -/
def readingFields : List FieldDeclaration :=
  [⟨"pub", "unit", "i32", []⟩, ⟨"pub", "r#type", "i32", []⟩, ⟨"pub", "r#value", "i32", []⟩]

def reading : TypeDeclaration := ⟨"pub", "Reading", [], [], .named readingFields⟩

def readingModel : EntityModel where
  target := "Reading"
  visibility := "pub"
  entity := "Reading"
  properties :=
    [⟨"unit", "i32", true, false⟩, ⟨"r#type", "i32", true, false⟩, ⟨"r#value", "i32", true, false⟩]
  constructor := .standard
  isSealed := false
  declaresNoMethods := true

def readingUnit : RegisteredMethod := ⟨"compute_unit", false, [], false⟩

def readingType : RegisteredMethod := ⟨"compute_type", false, [], false⟩

def readingClass : EntityClass (String → Int32) :=
  panelHost.toClass readingModel [readingUnit, readingType]

/-- A reading whose context has a type under the bare name. -/
def readingBinding : Binding Unit (String → Int32) where
  key := ()
  tableNumber := 0
  table := standardGenerator.plainTable readingClass
  base _ := 1
  handler := .ofContext (.ofList [("type", .integer 7)]) none

theorem reading_unit_derived :
    reading.model = .ok readingModel ∧
    (standardGenerator.generate readingClass).1 = .ok readingBinding.table ∧
    Generator.deriver? readingBinding.table.properties "unit" = some "compute_unit" ∧
    (∃ a ∈ readingModel.accessors, a.name = "get_value") := by
  have hmodel : reading.model = .ok readingModel := rfl
  have accepted : (standardGenerator.generate readingClass).1 = .ok readingBinding.table := rfl
  obtain ⟨hnamed, hkept⟩ := raw_names_registered hmodel rfl
  refine ⟨hmodel, accepted, ?_, ?_⟩
  · have hlast : standardGenerator.LastDeriving readingClass.methods "unit"
        (panelHost.method readingUnit) := by
      refine ⟨[], [panelHost.method readingType], rfl, Generator.derives_iff.2 ⟨rfl, rfl, by decide⟩, ?_⟩
      intro later hlater hderives
      obtain rfl := List.mem_singleton.1 hlater
      exact absurd (Generator.derives_iff.1 hderives).2.2 (by decide)
    obtain ⟨-, -, -, hserved⟩ := hnamed _ (.head _) rfl rfl
    exact ((hserved panelHost _ _ _ rfl accepted).2 _ hlast).2 (bareName_eq_self_iff.1 rfl)
  · exact (hkept .get).2 ⟨_, .tail _ (.tail _ (.head _)), rfl, rfl, rfl⟩

/-- The type is registered under its raw name. Its getter does not see the entry under the bare name, no method
is linked to it, and the reading has the accessors that handles hide. -/
theorem reading_type_missed :
    reading.model = .ok readingModel ∧
    (standardGenerator.generate readingClass).1 = .ok readingBinding.table ∧
    readingModel.properties.map RegisteredProperty.name = ["unit", "r#type", "r#value"] ∧
    readingModel.accessors.map Accessor.name =
      ["get_unit", "get_type", "get_value", "set_unit", "set_type", "set_value"] ∧
    readingBinding.store.value? "type" = some (.integer 7) ∧
    (readingBinding.get (.required .int32) "r#type").result = .ok (1 : Int32) ∧
    readingBinding.table.computes.contains "compute_type" = true ∧
    Generator.deriver? readingBinding.table.properties "r#type" = none :=
  ⟨rfl, rfl, by decide, by decide, rfl, rfl, rfl, rfl⟩

end BoundEntity
