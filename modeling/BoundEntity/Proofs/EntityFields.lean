import BoundEntity.Proofs.Admission
import BoundEntity.Proofs.TypedAccess

/-!
# Fields of the plain entity

The plain entity is built by one pass over all slots, a typed read asks for one of them. Both take a stored
value through the same two steps.
-/
namespace BoundEntity
variable {κ E : Type} {host : Host E} {model : EntityModel} {methods : List RegisteredMethod}
  {g : Generator} {t : Table E} {field : RegisteredProperty} {values : Context} {value : Value}

/-- Writing a field is seen by reading it, and by no read of a field of another name. -/
structure Host.Lawful (host : Host E) : Prop where
  read_write : ∀ p entity content, host.read p (host.write p entity content) = content
  read_write_of_ne : ∀ p q entity content, q.name ≠ p.name →
    host.read q (host.write p entity content) = host.read q entity

namespace FieldDeclaration

theorem register?_eq_some {f : FieldDeclaration} {p : RegisteredProperty}
    (hregister : f.register? = .ok (some p)) : p.name = f.name ∧ p.type = f.type := by
  unfold register? at hregister
  split at hregister
  · cases hregister
  · dsimp only at hregister
    split at hregister
    · cases hregister
    · split at hregister
      · cases hregister
      · obtain rfl := Option.some.inj (Except.ok.inj hregister)
        exact ⟨rfl, rfl⟩

theorem registerAll_cons {f : FieldDeclaration} {rest : List FieldDeclaration}
    {properties : List RegisteredProperty} (hall : registerAll (f :: rest) = .ok properties) :
    ∃ registered tail, f.register? = .ok registered ∧ registerAll rest = .ok tail ∧
      properties = registered.toList ++ tail := by
  simp only [registerAll, List.mapM_cons] at hall
  cases hfirst : f.register? with
  | error defect => simp [hfirst, bind, Except.bind, Except.map] at hall
  | ok registered =>
    cases hrest : rest.mapM register? with
    | error defect => simp [hfirst, hrest, bind, Except.bind, Except.map] at hall
    | ok tail =>
      simp only [hfirst, hrest, bind, Except.bind, pure, Except.pure, Except.map] at hall
      refine ⟨registered, tail.filterMap id, rfl, by simp only [registerAll, hrest, Except.map], ?_⟩
      rw [← Except.ok.inj hall]
      cases registered <;> rfl

theorem mem_registerAll {fields : List FieldDeclaration} {properties : List RegisteredProperty}
    (hall : registerAll fields = .ok properties) {p : RegisteredProperty} :
    p ∈ properties ↔ ∃ f ∈ fields, f.register? = .ok (some p) := by
  induction fields generalizing properties with
  | nil =>
    obtain rfl := Except.ok.inj hall
    simp
  | cons f rest ih =>
    obtain ⟨registered, tail, hfirst, hrest, rfl⟩ := registerAll_cons hall
    rw [List.mem_append, ih hrest, List.exists_mem_cons_iff]
    simp [hfirst, Option.mem_toList]

end FieldDeclaration

theorem TypeDeclaration.model_properties {d : TypeDeclaration} {fields : List FieldDeclaration}
    (hmodel : d.model = .ok model) (hfields : d.body.fields? = .ok fields) :
    FieldDeclaration.registerAll fields = .ok model.properties := by
  unfold TypeDeclaration.model at hmodel
  split at hmodel
  · cases hmodel
  · split at hmodel
    · cases hmodel
    · simp only [hfields] at hmodel
      split at hmodel
      · cases hmodel
      · next hproperties =>
        split at hmodel
        · cases hmodel
        · obtain rfl := Except.ok.inj hmodel
          exact hproperties

namespace Host

theorem setter_of_writable {setter : E → Value → Except Fault E}
    (hsetter : (host.property field).setter = some setter) (entity : E) (held : Value) :
    setter entity held = ((host.type field.type).ofValue held).map (host.write field entity) := by
  simp only [property] at hsetter
  split at hsetter
  · cases hsetter
  · obtain rfl := Option.some.inj hsetter
    dsimp only
    cases (host.type field.type).ofValue held <;> rfl

section
variable (accepted : (g.generate (host.toClass model methods)).1 = .ok t)
include accepted

end

end Host

/-- A panel shows a level, keeps a serial number to itself, has a peak that can only be read and a spare
field that is not registered. -/
def panelFields : List FieldDeclaration :=
  [⟨"pub", "level", "i32", []⟩, ⟨"", "serial", "i32", []⟩,
   ⟨"pub", "peak", "i32", [⟨"context", .arguments [⟨"read_only", .bare⟩]⟩]⟩,
   ⟨"pub", "spare", "i32", [⟨"context", .arguments [⟨"skip", .bare⟩]⟩]⟩]

def panel : TypeDeclaration := ⟨"pub", "Panel", [], [], .named panelFields⟩

def panelModel : EntityModel where
  target := "Panel"
  visibility := "pub"
  entity := "Panel"
  properties :=
    [⟨"level", "i32", true, false⟩, ⟨"serial", "i32", false, false⟩, ⟨"peak", "i32", true, true⟩]
  constructor := .standard
  isSealed := false
  declaresNoMethods := true

/-- Panels as numbers under the names of their fields, each of them 1 at first. -/
def panelHost : Host (String → Int32) where
  type _ := .required .int32
  read p entity := entity p.name
  write p entity content name := if name = p.name then content else entity name
  standard _ := 1
  construct _ := .ok fun _ => 1
  call _ _ _ := .ok .null

end BoundEntity
