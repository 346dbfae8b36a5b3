import BoundEntity.Proofs.EntityFields

/-!
# Conversion of coerced values

Coercing a value first makes no difference to its conversion, except for doubles that are not finite and
only in optional documents.
-/
namespace BoundEntity
variable {value held : Value}

theorem Kind.toJson_coerced (hcoerce : Kind.json.coerce value = .ok held) :
    held.toJson = value.toJson := by
  rw [coerce_json] at hcoerce
  obtain rfl := Except.ok.inj hcoerce
  by_cases hnull : value = .null
  · simp [hnull]
  · simp [hnull, Value.toJson]

namespace Scalar

theorem kind_eq_json_iff {s : Scalar} : s.kind = .json ↔ s = json := by
  cases s <;> simp [kind]

theorem ofValue_coerced {s : Scalar} (hcoerce : s.kind.coerce value = .ok held) :
    s.ofValue held = s.ofValue value := by
  by_cases hjson : s = json
  · subst hjson
    exact congrArg Except.ok (Kind.toJson_coerced hcoerce)
  · apply ofValue_congr hjson
    rw [hcoerce, Kind.coerce_coerce hcoerce]

theorem ofValue_eq_bind (s : Scalar) (value : Value) :
    s.ofValue value = (s.kind.coerce value).bind s.ofValue := by
  cases hcoerce : s.kind.coerce value with
  | ok held => exact (ofValue_coerced hcoerce).symm
  | error fault =>
    have hother : s ≠ json := by
      intro hjson
      rw [kind_eq_json_iff.2 hjson, Kind.coerce_json] at hcoerce
      cases hcoerce
    exact ofValue_of_coerce_error hother hcoerce

end Scalar

namespace FieldType

/-- The type makes a content of the value as it is, and nothing of it once it is coerced. -/
def Erases (type : FieldType) (value : Value) : Prop :=
  type = .optional .json ∧ value.isUndocumented = true

private theorem isNull_coerced {s : Scalar} (hkept : ¬ (optional s).Erases value)
    (hcoerce : s.kind.coerce value = .ok held) : held.isNull = value.isNull := by
  have hiff : held.isNull = true ↔ value.isNull = true := by
    rw [Kind.isNull_coerce_iff hcoerce, Scalar.kind_eq_json_iff]
    refine or_iff_left fun ⟨hjson, hundocumented⟩ => ?_
    exact hkept ⟨congrArg optional hjson, hundocumented⟩
  rw [Bool.eq_iff_iff]
  exact hiff

theorem ofValue_eq_bind {type : FieldType} (hkept : ¬ type.Erases value) :
    type.ofValue value = (type.kind.coerce value).bind type.ofValue := by
  cases type with
  | required s => exact s.ofValue_eq_bind value
  | optional s =>
    change (optional s).ofValue value = (s.kind.coerce value).bind (optional s).ofValue
    cases hcoerce : s.kind.coerce value with
    | ok held =>
      have hnull : held.isNull = value.isNull := isNull_coerced hkept hcoerce
      have hscalar : s.ofValue held = s.ofValue value := Scalar.ofValue_coerced hcoerce
      change (optional s).ofValue value = (optional s).ofValue held
      simp only [ofValue, hnull, hscalar]
    | error fault =>
      have hnull : ¬ value.isNull = true := by
        intro hnull
        rw [Kind.coerce_of_isNull hnull] at hcoerce
        cases hcoerce
      have hscalar : s.ofValue value = .error fault := by
        rw [s.ofValue_eq_bind, hcoerce]
        rfl
      simp only [ofValue, hnull, hscalar]
      rfl

theorem ofValue_undocumented (h : value.isUndocumented = true) :
    (optional .json).ofValue value = .ok (some Json.null) ∧
      Kind.json.coerce value = .ok (.json .null) := by
  cases value with
  | float x =>
    have hinfinite : ¬ x.isFinite = true := by simpa [Value.isUndocumented] using h
    simp [ofValue, Scalar.ofValue, Value.isNull, Kind.coerce_json, Value.toJson, hinfinite]
  | null | integer n | text s | boolean b | json document => cases h

end FieldType

theorem Table.assign_eq_bind {E : Type} {values : Context} {name : String} {slot : PropertySlot E}
    {setter : E → Value → Except Fault E} (hsetter : slot.setter = some setter)
    (hvalue : values.get? name = some value) (t : Table E) (before after : E) :
    t.assign values before name slot = .ok after ↔
      (slot.kind.coerce value).bind (setter before) = .ok after := by
  simp only [assign, hsetter, hvalue]
  cases slot.kind.coerce value with
  | error fault => simp [Except.bind]
  | ok held =>
    simp only [Except.bind]
    cases setter before held <;> simp

theorem Host.setter_eq_bind {E : Type} {host : Host E} {field : RegisteredProperty}
    {setter : E → Value → Except Fault E} (hsetter : (host.property field).setter = some setter)
    (hkept : ¬ (host.type field.type).Erases value) (before : E) :
    setter before value =
      ((host.type field.type).kind.coerce value).bind (setter before) := by
  have hwrite := setter_of_writable hsetter before
  rw [hwrite, FieldType.ofValue_eq_bind hkept]
  cases (host.type field.type).kind.coerce value with
  | error fault => rfl
  | ok held => exact (hwrite held).symm

/-- Unless the type erases the value, conversion yields the same for the value and for what its kind makes
of it. A value that is erased becomes a null document as it is and nothing once it is coerced. -/
theorem conversion_after_coercion (type : FieldType) (value : Value) :
    (¬ type.Erases value →
      type.ofValue value = (type.kind.coerce value).bind type.ofValue ∧
      (∀ content, type.ofValue value = .ok content ↔
        ∃ held, type.kind.coerce value = .ok held ∧ type.ofValue held = .ok content) ∧
      ∀ {E : Type} (host : Host E) (field : RegisteredProperty) (t : Table E) (slot : PropertySlot E)
        (setter : E → Value → Except Fault E) (values : Context) (before after : E),
        host.type field.type = type → slot.unlinked = Generator.slot (host.property field) →
        slot.setter = some setter → values.get? field.name = some value →
        (t.assign values before field.name slot = .ok after ↔ setter before value = .ok after)) ∧
    (value.isUndocumented = true →
      (FieldType.optional .json).ofValue value = .ok (some Json.null) ∧
      ∃ held, (FieldType.optional .json).kind.coerce value = .ok held ∧
        (FieldType.optional .json).ofValue held = .ok none) := by
  refine ⟨fun hkept => ⟨FieldType.ofValue_eq_bind hkept, fun content => ?_, ?_⟩, fun h => ?_⟩
  · rw [FieldType.ofValue_eq_bind hkept]
    cases type.kind.coerce value <;> simp [Except.bind]
  · intro E host field t slot setter values before after htype hslot hsetter hvalue
    subst htype
    have hkind : slot.kind = (host.type field.type).kind := congrArg PropertySlot.kind hslot
    have hproperty : (host.property field).setter = some setter :=
      (congrArg PropertySlot.setter hslot).symm.trans hsetter
    rw [Table.assign_eq_bind hsetter hvalue, hkind, ← Host.setter_eq_bind hproperty hkept]
  · obtain ⟨hcontent, hcoerce⟩ := FieldType.ofValue_undocumented h
    exact ⟨hcontent, .json .null, hcoerce, rfl⟩

/-- The slot of the number of a gauge. -/
def gaugeSlot : PropertySlot Int32 := Generator.slot (gaugeHost.property ⟨"small", "i32", true, false⟩)

theorem gauge_small_after_coercion :
    gaugeBinding.table.properties.get? "small" = some gaugeSlot ∧
    (FieldType.required .int32).kind.coerce (.text " 7 ") = .ok (.integer 7) ∧
    (FieldType.required .int32).ofValue (.text " 7 ") = .ok (7 : Int32) ∧
    gaugeBinding.table.assign (.ofList [("small", .text " 7 ")]) 0 "small" gaugeSlot = .ok 7 ∧
    (FieldType.optional .json).ofValue (.float Binary64.nan) = .ok (some Json.null) := by
  have hkept : ¬ (FieldType.required .int32).Erases (.text " 7 ") := by
    intro herases
    cases herases.1
  have hcoerce : (FieldType.required .int32).kind.coerce (.text " 7 ") = .ok (.integer 7) := rfl
  obtain ⟨-, hcontent, hassign⟩ := (conversion_after_coercion (.required .int32) (.text " 7 ")).1 hkept
  have hseven : (FieldType.required .int32).ofValue (.text " 7 ") = .ok (7 : Int32) :=
    (hcontent (7 : Int32)).2 ⟨.integer 7, hcoerce, rfl⟩
  have hset : gaugeBinding.table.assign (.ofList [("small", .text " 7 ")]) 0 "small" gaugeSlot = .ok 7 :=
    (hassign gaugeHost ⟨"small", "i32", true, false⟩ gaugeBinding.table gaugeSlot _ _ 0 7 rfl rfl
      rfl rfl).2 rfl
  have hnull := ((conversion_after_coercion (.required .int32) (.float Binary64.nan)).2 rfl).1
  exact ⟨rfl, hcoerce, hseven, hset, hnull⟩

/-- An optional document is made of a double that is no number, but not once the double is coerced. -/
theorem undocumented_lost_by_coercion :
    ¬ ((FieldType.optional .json).ofValue (.float Binary64.nan) = .ok (some Json.null) ↔
      ∃ held, (FieldType.optional .json).kind.coerce (.float Binary64.nan) = .ok held ∧
        (FieldType.optional .json).ofValue held = .ok (some Json.null)) := by
  intro hiff
  obtain ⟨held, hcoerce, hcontent⟩ := hiff.1 rfl
  obtain rfl : Value.json .null = held := Except.ok.inj hcoerce
  cases hcontent

end BoundEntity
