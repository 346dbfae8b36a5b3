import BoundEntity.Proofs.Admission
import BoundEntity.Proofs.TypedAccess
import BoundEntity.Proofs.WrittenForms

/-!
# Typed values survive the context

A content of a field type becomes a value of the type's kind, which the kind keeps as it is, and converts
back to the content.
-/
namespace BoundEntity

namespace Scalar

/-- The year of a point in time has four digits. -/
def InForm : (s : Scalar) → s.Carrier → Prop
  | timestamp, t => 0 ≤ t.date.year ∧ t.date.year ≤ 9999
  | int64, _ | int32, _ | float, _ | boolean, _ | text, _ | json, _ | uuid, _ | date, _ => True

theorem holds_toValue (s : Scalar) (x : s.Carrier) : s.kind.holds (s.toValue x) = true := by
  cases s <;> rfl

private theorem ofValue_toValue_int32 (n : Int32) : int32.ofValue (int32.toValue n) = .ok n := by
  have hleast : -2147483648 ≤ n.toInt := n.le_toInt
  have hbelow : n.toInt < 2147483648 := n.toInt_lt
  have hwide : (Int64.ofInt n.toInt).toInt = n.toInt := Int64.toInt_ofInt_of_le (by omega) (by omega)
  change (if -2147483648 ≤ (Int64.ofInt n.toInt).toInt ∧ (Int64.ofInt n.toInt).toInt < 2147483648 then
    Except.ok (Int32.ofInt (Int64.ofInt n.toInt).toInt) else _) = _
  rw [hwide, if_pos ⟨hleast, hbelow⟩, Int32.ofInt_toInt]

private theorem endsMinute_of_ofValue {v : Value} {t : Timestamp} (h : timestamp.ofValue v = .ok t) :
    t.EndsMinute := by
  rcases timestamp_ofValue_eq_ok h with rfl | ⟨cs, hread⟩
  · intro hleap
    exact absurd hleap (by decide)
  · exact Timestamp.endsMinute_of_ofChars? hread

theorem ofValue_toValue {s : Scalar} {x : s.Carrier} (hproduced : ∃ v, s.ofValue v = .ok x)
    (hform : s.InForm x) : s.ofValue (s.toValue x) = .ok x := by
  cases s with
  | int64 | float | boolean | text | json => rfl
  | int32 => exact ofValue_toValue_int32 x
  | uuid =>
    apply ofValue_uuid
    rw [Uuid.render, String.toList_ofList, Uuid.ofChars?_chars]
  | timestamp =>
    apply ofValue_timestamp
    obtain ⟨v, hv⟩ := hproduced
    rw [Timestamp.render, String.toList_ofList,
      Timestamp.ofChars?_chars hform (endsMinute_of_ofValue hv)]
  | date =>
    apply ofValue_date
    rw [Date.render, String.toList_ofList, Date.ofChars?_chars]

end Scalar

namespace FieldType

/-- Nothing is always in form. -/
def InForm : (type : FieldType) → type.Carrier → Prop
  | required s, x => s.InForm x
  | optional _, none => True
  | optional s, some x => s.InForm x

/-- The content that is read back: for a null document in an optional field it is nothing. -/
def settled : (type : FieldType) → type.Carrier → type.Carrier
  | optional .json, some .null => none
  | _, x => x

theorem holds_toValue (type : FieldType) (content : type.Carrier) :
    type.kind.holds (type.toValue content) = true := by
  cases type with
  | required s => exact s.holds_toValue content
  | optional s =>
    cases content with
    | none => cases s <;> rfl
    | some x => exact s.holds_toValue x

private theorem exists_ofValue_of_some {s : Scalar} {x : s.Carrier}
    (hproduced : ∃ v, (optional s).ofValue v = .ok (some x)) : ∃ v, s.ofValue v = .ok x := by
  obtain ⟨v, hv⟩ := hproduced
  simp only [ofValue] at hv
  split at hv
  · cases hv
  · split at hv
    · cases hv
    · next hread =>
      obtain rfl := Option.some.inj (Except.ok.inj hv)
      exact ⟨v, hread⟩

private theorem ofValue_some {s : Scalar} {x : s.Carrier} (hproduced : ∃ v, s.ofValue v = .ok x)
    (hform : s.InForm x) (hnull : (s.toValue x).isNull = false) :
    (optional s).ofValue ((optional s).toValue (some x)) = .ok (some x) := by
  simp only [ofValue, toValue, hnull, Bool.false_eq_true, if_false,
    Scalar.ofValue_toValue hproduced hform]

theorem ofValue_toValue {type : FieldType} {content : type.Carrier}
    (hproduced : ∃ v, type.ofValue v = .ok content) (hform : type.InForm content) :
    type.ofValue (type.toValue content) = .ok (type.settled content) := by
  cases type with
  | required s => exact Scalar.ofValue_toValue hproduced hform
  | optional s =>
    cases content with
    | none => cases s <;> rfl
    | some x =>
      have hproduced : ∃ v, s.ofValue v = .ok x := exists_ofValue_of_some hproduced
      cases s with
      | json =>
        cases x with
        | null => rfl
        | bool value | number value | string value | array size item | object keys member =>
          exact ofValue_some hproduced hform rfl
      | int64 | int32 | float | boolean | text | uuid | timestamp | date =>
        exact ofValue_some hproduced hform rfl

end FieldType

/-- A content that comes out of some value, with a year of four digits if it is a point in time, converts to
a value and back to itself, also by way of a property; only a null document in an optional field becomes
nothing. -/
theorem typed_value_settles {type : FieldType} {content : type.Carrier}
    (hproduced : ∃ v, type.ofValue v = .ok content) (hform : type.InForm content) :
    type.ofValue (type.toValue content) = .ok (type.settled content) ∧
    ∀ {κ E : Type} (b : Binding κ E) (property : String) (slot : PropertySlot E),
      b.table.properties.get? property = some slot → slot.kind = type.kind →
      slot.setter.isSome = true → slot.getter.isSome = true →
        (b.set type property content).result = .ok () ∧
        ((b.after (b.set type property content)).get type property).result =
          .ok (type.settled content) := by
  have hread : type.ofValue (type.toValue content) = .ok (type.settled content) :=
    FieldType.ofValue_toValue hproduced hform
  have hholds : type.kind.holds (type.toValue content) = true := type.holds_toValue content
  refine ⟨hread, fun b property slot hslot hkind hsetter hgetter => ?_⟩
  obtain ⟨hset, hstored⟩ := Binding.set_stored hslot hsetter hkind hholds
  have hslot' : (b.after (b.set type property content)).table.properties.get? property = some slot := hslot
  have hcarries : type.Carries slot.kind (type.toValue content) (type.settled content) :=
    ⟨type.toValue content, hkind ▸ Kind.coerce_of_holds hholds, hread⟩
  exact ⟨hset, (Binding.get_stored_iff hslot' hgetter hstored type _).2 hcarries⟩

def visit : EntityModel where
  target := "Visit"
  visibility := "pub"
  entity := "Visit"
  properties := [⟨"at", "DateTime < Utc >", true, false⟩]
  constructor := .standard
  isSealed := false
  declaresNoMethods := true

def visitHost : Host Timestamp where
  type _ := .required .timestamp
  read _ moment := moment
  write _ _ moment := moment
  standard := .epoch
  construct _ := .ok .epoch
  call _ _ _ := .ok .null

def visitBinding : Binding Unit Timestamp where
  key := ()
  tableNumber := 0
  table := standardGenerator.plainTable (visitHost.toClass visit [])
  base := .epoch
  handler := .ofContext .empty none

/-- A leap second of the year 0 with a fraction of nine digits. -/
def leapMoment : Timestamp :=
  ⟨⟨0, 2, 29, by decide⟩, 1439, 59, 1123456789, by decide, by decide, by decide⟩

theorem leapMoment_settles :
    (FieldType.required .timestamp).ofValue (.text "0000-02-29 23:59:60.1234567899Z") = .ok leapMoment ∧
    (visitBinding.set (.required .timestamp) "at" leapMoment).result = .ok () ∧
    ((visitBinding.after (visitBinding.set (.required .timestamp) "at" leapMoment)).get
      (.required .timestamp) "at").result = .ok leapMoment := by
  have hread : Timestamp.ofChars? "0000-02-29 23:59:60.1234567899Z".toList = some leapMoment := by
    decide +kernel
  have hproduced : (FieldType.required .timestamp).ofValue (.text "0000-02-29 23:59:60.1234567899Z") =
      .ok leapMoment := Scalar.ofValue_timestamp hread
  have hform : (FieldType.required .timestamp).InForm leapMoment := ⟨by decide, by decide⟩
  exact ⟨hproduced, (typed_value_settles ⟨_, hproduced⟩ hform).2 visitBinding "at" _ rfl rfl rfl rfl⟩

/-- Just after the year 9999. -/
def farMoment : Timestamp :=
  ⟨⟨10000, 1, 1, by decide⟩, 59, 59, 0, by decide, by decide, Timestamp.epoch.nanosecond_lt⟩

/-- The last second of the year 9999 west of Greenwich is read and falls into the year 10000, for which
the text that is written cannot be read. A double without a document is null among documents, which is
nothing when it is read back. -/
theorem typed_values_lost :
    (FieldType.required .timestamp).ofValue (.text "9999-12-31T23:59:59-01:00") = .ok farMoment ∧
    (FieldType.required .timestamp).toValue farMoment = .text "+10000-01-01T00:59:59+00:00" ∧
    ((FieldType.required .timestamp).ofValue
      ((FieldType.required .timestamp).toValue farMoment)).isOk = false ∧
    (FieldType.optional .json).ofValue (.float Binary64.nan) = .ok (some Json.null) ∧
    (FieldType.optional .json).ofValue ((FieldType.optional .json).toValue (some Json.null)) = .ok none := by
  have hread : Timestamp.ofChars? "9999-12-31T23:59:59-01:00".toList = some farMoment := by
    decide +kernel
  refine ⟨Scalar.ofValue_timestamp hread, ?_, ?_, rfl, rfl⟩
  · decide +kernel
  · decide +kernel

end BoundEntity
