import BoundEntity.Binding.Basic
import BoundEntity.Declaration.Host
import BoundEntity.Proofs.Accepted
import BoundEntity.Proofs.Coercion
import BoundEntity.Proofs.MapView
import BoundEntity.Proofs.Materialize

/-!
# Writes and plain entities

A write is checked against the declared kind only, a plain entity is built through the types of its
fields. Values between the two prevent the entity from being built.
-/
namespace BoundEntity
variable {κ E : Type} {host : Host E} {model : EntityModel} {methods : List RegisteredMethod}
  {g : Generator} {t : Table E} {field : RegisteredProperty} {values : Context} {value held : Value}

/-- Properties that are served by the context and that entities are built with. -/
def RegisteredProperty.isSettable (p : RegisteredProperty) : Bool := p.isPublic && !p.isReadOnly

namespace Host

/-- The value, brought into the kind of the field, is one of the field's type. -/
def Takes (host : Host E) (field : RegisteredProperty) (value : Value) : Prop :=
  ∃ held, (host.type field.type).kind.coerce value = .ok held ∧
    (host.type field.type).scalar.admits held = true

/-- The field takes what a context has for it, if it can be set at all. -/
def Fits (host : Host E) (field : RegisteredProperty) (values : Context) : Prop :=
  field.isSettable = true → ∀ value, values.get? field.name = some value → host.Takes field value

theorem takes_iff_of_coerce (hcoerce : (host.type field.type).kind.coerce value = .ok held) :
    host.Takes field value ↔ (host.type field.type).scalar.admits held = true := by
  simp [Takes, hcoerce]

theorem isSome_setter (host : Host E) (field : RegisteredProperty) :
    (host.property field).setter.isSome = !field.isReadOnly := by
  cases hreadOnly : field.isReadOnly <;> simp [property, hreadOnly]

theorem isIntercepted_property (host : Host E) (field : RegisteredProperty) :
    Generator.isIntercepted (host.property field) = field.isPublic := by
  cases hpublic : field.isPublic <;>
    simp [property, visibility, hpublic, Generator.isIntercepted, Property.isPublic]

private theorem isOk_setter {setter : E → Value → Except Fault E}
    (hsetter : (host.property field).setter = some setter)
    (hholds : (host.type field.type).kind.holds held = true) (entity : E) :
    (setter entity held).isOk = (host.type field.type).scalar.admits held := by
  simp only [property] at hsetter
  split at hsetter
  · cases hsetter
  · obtain rfl := Option.some.inj hsetter
    rw [← FieldType.isOk_ofValue hholds]
    dsimp only
    cases (host.type field.type).ofValue held <;> rfl

private theorem isOk_assign_iff {slot : PropertySlot E}
    (hslot : slot.unlinked = Generator.slot (host.property field)) (hpublic : field.isPublic = true)
    (t : Table E) (entity : E) :
    (t.assign values entity field.name slot).isOk = true ↔ host.Fits field values := by
  obtain ⟨kind, getter, setter, compute⟩ := slot
  obtain ⟨rfl, -, rfl, -⟩ := PropertySlot.mk.inj hslot
  have hwritable := isSome_setter host field
  unfold Table.assign
  cases hsetter : (host.property field).setter with
  | none =>
    rw [hsetter] at hwritable
    simp [Fits, RegisteredProperty.isSettable, ← hwritable, Except.isOk, Except.toBool]
  | some setter =>
    rw [hsetter] at hwritable
    have hsettable : field.isSettable = true := by
      simp [RegisteredProperty.isSettable, hpublic, ← hwritable]
    cases hvalue : values.get? field.name with
    | none => simp [Fits, hvalue, Except.isOk, Except.toBool]
    | some value =>
      simp only [Fits, hsettable, hvalue, Takes, true_implies, Option.some.injEq, forall_eq']
      change _ ↔ ∃ held, (host.property field).kind.coerce value = .ok held ∧ _
      cases hcoerce : (host.property field).kind.coerce value with
      | error fault => simp [Except.isOk, Except.toBool]
      | ok held =>
        have hok := isOk_setter hsetter (Kind.holds_of_coerce hcoerce) entity
        simp only [Except.ok.injEq, exists_eq_left', ← hok]
        cases setter entity held <;> rfl

variable (accepted : (g.generate (host.toClass model methods)).1 = .ok t)
include accepted

theorem accepted_field_ext {field field' : RegisteredProperty} (hfield : field ∈ model.properties)
    (hfield' : field' ∈ model.properties) (hname : field.name = field'.name) : field = field' := by
  have hnodup : (model.properties.map RegisteredProperty.name).Nodup := by
    have := Generator.accepted_properties_nodup accepted
    rwa [toClass, List.map_map] at this
  exact List.inj_on_of_nodup_map hnodup hfield hfield' hname

theorem accepted_field_iff {name : String} {slot : PropertySlot E} :
    (t.properties.get? name).map PropertySlot.unlinked = some slot ↔
      ∃ field ∈ model.properties, field.isPublic = true ∧ field.name = name ∧
        Generator.slot (host.property field) = slot := by
  rw [Generator.accepted_slot_iff accepted]
  simp only [toClass, List.mem_map, exists_exists_and_eq_and, isIntercepted_property]
  rfl

theorem exists_slot (hfield : field ∈ model.properties) (hsettable : field.isSettable = true) :
    ∃ slot, t.properties.get? field.name = some slot ∧
      slot.unlinked = Generator.slot (host.property field) := by
  have hpublic : field.isPublic = true := (Bool.and_eq_true_iff.1 hsettable).1
  exact Option.map_eq_some_iff.1
    ((accepted_field_iff accepted).2 ⟨field, hfield, hpublic, rfl, rfl⟩)

theorem isOk_materialize_iff : (t.materialize values).isOk = true ↔
    t.instantiate.isOk = true ∧ ∀ field ∈ model.properties, host.Fits field values := by
  have hassign : ∀ name slot, t.properties.get? name = some slot → ∀ entity,
      (t.assign values entity name slot).isOk = true ↔
        ∀ field ∈ model.properties, field.name = name → host.Fits field values := by
    intro name slot hslot entity
    obtain ⟨field, hfield, hpublic, rfl, heq⟩ := (accepted_field_iff accepted).1 (by rw [hslot]; rfl)
    rw [isOk_assign_iff heq.symm hpublic]
    refine ⟨fun hfits field' hfield' hname => ?_, fun hall => hall field hfield rfl⟩
    obtain rfl := accepted_field_ext accepted hfield hfield' hname.symm
    exact hfits
  rw [Table.isOk_materialize_iff hassign]
  refine and_congr_right fun _ => ⟨fun hall field hfield hsettable => ?_,
    fun hall name slot _ field hfield _ => hall field hfield⟩
  obtain ⟨slot, hslot, -⟩ := exists_slot accepted hfield hsettable
  exact hall field.name slot hslot field hfield rfl hsettable

theorem coerce_of_fit (hfield : field ∈ model.properties) (hsettable : field.isSettable = true)
    (hfit : t.fit field.name value = .ok held) :
    (host.type field.type).kind.coerce value = .ok held := by
  obtain ⟨slot, hslot, heq⟩ := exists_slot accepted hfield hsettable
  have hkind : slot.kind = (host.type field.type).kind := congrArg PropertySlot.kind heq
  simp only [Table.fit, hslot, hkind] at hfit
  split at hfit
  · cases hfit
  · next hcoerce => exact Except.ok.inj hfit ▸ hcoerce

/-- A write matters only to the field of its key; the others lose derived values at most. -/
theorem fits_insert_iff {s : Store} {key : String} (hfield : field ∈ model.properties)
    (hbefore : host.Fits field s.values) (hfit : t.fit key value = .ok held) :
    host.Fits field (s.supplied.insert key held) ↔
      (field.name = key → field.isSettable = true → host.Takes field value) := by
  by_cases hname : field.name = key
  · subst hname
    simp only [Fits, Keyed.get?_insert, if_true, Option.some.injEq, forall_eq', true_implies]
    refine forall_congr' fun hsettable => ?_
    have hcoerce := coerce_of_fit accepted hfield hsettable hfit
    rw [takes_iff_of_coerce hcoerce, takes_iff_of_coerce (Kind.coerce_coerce hcoerce)]
  · refine ⟨fun _ heq => absurd heq hname, fun _ hsettable value hvalue => ?_⟩
    rw [Keyed.get?_insert, if_neg (Ne.symm hname), Store.get?_supplied] at hvalue
    split at hvalue
    · cases hvalue
    · exact hbefore hsettable value hvalue

end Host

theorem Binding.write_puts {b : Binding κ E} {call : Call} {key : String}
    (hcall : call = .set key value ∨ call = .map (.insert key value))
    (hok : (b.intercept call).result.isOk = true) :
    ∃ fitted, b.table.fit key value = .ok fitted ∧
      (b.after (b.intercept call)).context = b.store.supplied.insert key fitted := by
  obtain ⟨fitted, hfit, hstore⟩ : ∃ fitted, b.table.fit key value = .ok fitted ∧
      (b.intercept call).store = b.store.put key fitted := by
    rcases hcall with rfl | rfl
    · exact Handler.set_puts ((Reply.isOk_map ..).symm.trans hok)
    · exact Handler.insert_puts hok
  refine ⟨fitted, hfit, ?_⟩
  change (b.intercept call).store.values = _
  rw [hstore, Store.put_eq]
  rfl

/-- After a write that succeeds, an entity that could be built before can still be built exactly if the key
is no settable field or the field takes the value. -/
theorem entity_after_write_iff {b : Binding κ E} {call : Call} {key : String}
    (accepted : (g.generate (host.toClass model methods)).1 = .ok b.table)
    (hentity : b.entity.isOk = true)
    (hcall : call = .set key value ∨ call = .map (.insert key value))
    (hok : (b.intercept call).result.isOk = true) :
    ((b.after (b.intercept call)).entity.isOk = true ↔ ∀ field ∈ model.properties,
      field.name = key → field.isSettable = true → host.Takes field value) ∧
    ((∀ field ∈ model.properties, field.name = key →
        (host.type field.type).scalar ∈ [.int64, .float, .boolean, .text, .json]) →
      (b.after (b.intercept call)).entity.isOk = true) := by
  obtain ⟨fitted, hfit, hcontext⟩ := Binding.write_puts hcall hok
  obtain ⟨hinstantiate, hbefore⟩ := (Host.isOk_materialize_iff accepted).1 hentity
  have hiff : (b.after (b.intercept call)).entity.isOk = true ↔ ∀ field ∈ model.properties,
      field.name = key → field.isSettable = true → host.Takes field value := by
    change (b.table.materialize (b.after (b.intercept call)).context).isOk = true ↔ _
    rw [hcontext, Host.isOk_materialize_iff accepted, and_iff_right hinstantiate]
    exact forall₂_congr fun field hfield =>
      Host.fits_insert_iff accepted hfield (hbefore field hfield) hfit
  refine ⟨hiff, fun hwide => hiff.2 fun field hfield hname hsettable => ?_⟩
  subst hname
  rw [Host.takes_iff_of_coerce (Host.coerce_of_fit accepted hfield hsettable hfit)]
  exact Scalar.admits_of_wide (hwide field hfield rfl) fitted

/-! ## A gauge with a small number -/

def gauge : EntityModel where
  target := "Gauge"
  visibility := "pub"
  entity := "Gauge"
  properties := [⟨"small", "i32", true, false⟩]
  constructor := .standard
  isSealed := false
  declaresNoMethods := true

def gaugeHost : Host Int32 where
  type _ := .required .int32
  read _ small := small
  write _ _ small := small
  standard := 0
  construct _ := .ok 0
  call _ _ _ := .ok .null

def gaugeBinding : Binding Unit Int32 where
  key := ()
  tableNumber := 0
  table := standardGenerator.plainTable (gaugeHost.toClass gauge [])
  base := 0
  handler := .ofContext .empty none

theorem gauge_small_built :
    (standardGenerator.generate (gaugeHost.toClass gauge [])).1 = .ok gaugeBinding.table ∧
    gaugeBinding.entity.isOk = true ∧
    (gaugeBinding.intercept (.set "small" (.text " 7 "))).result.isOk = true ∧
    (gaugeBinding.after
      (gaugeBinding.intercept (.set "small" (.text " 7 ")))).entity.isOk = true := by
  have accepted : (standardGenerator.generate (gaugeHost.toClass gauge [])).1 =
    .ok gaugeBinding.table := rfl
  refine ⟨accepted, rfl, rfl, (entity_after_write_iff accepted rfl (.inl rfl) rfl).1.2 ?_⟩
  intro field hfield _ _
  obtain rfl := List.mem_singleton.1 hfield
  exact ⟨.integer 7, rfl, rfl⟩

/-- A gauge takes a number beyond the range of its field, and cannot be built any more. -/
theorem gauge_beyond_range :
    (standardGenerator.generate (gaugeHost.toClass gauge [])).1 = .ok gaugeBinding.table ∧
    gaugeBinding.entity.isOk = true ∧
    (gaugeBinding.intercept (.set "small" (.integer 1099511627776))).result.isOk = true ∧
    (gaugeBinding.after
      (gaugeBinding.intercept (.set "small" (.integer 1099511627776)))).entity.isOk = false :=
  ⟨rfl, rfl, rfl, rfl⟩

end BoundEntity
