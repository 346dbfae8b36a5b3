import BoundEntity.Field.Conversion

/-!
# Two steps from a value to a field

A value is first coerced to the declared kind and then converted to the type of the field. The second step
can still fail, for types that do not have all values of their kind (`Scalar.admits`).
-/
namespace BoundEntity
variable {kind : Kind} {value held : Value}

namespace Kind

/-- Null and the values of the kind's own variant. -/
def holds : Kind → Value → Bool
  | _, .null => true
  | integer, .integer _ => true
  | float, .float _ => true
  | text, .text _ => true
  | boolean, .boolean _ => true
  | json, .json _ => true
  | _, _ => false

/-- The values of the kind's own variant. -/
def owns : Kind → Value → Bool
  | integer, .integer _ => true
  | float, .float _ => true
  | text, .text _ => true
  | boolean, .boolean _ => true
  | json, .json _ => true
  | _, _ => false

theorem holds_iff : kind.holds value = true ↔ value = .null ∨ kind.owns value = true := by
  cases kind <;> cases value <;> simp [holds, owns]

private theorem holds_adoptNull (kind : Kind) (value : Value) :
    kind.holds (kind.adoptNull value) = true := by
  cases kind <;> cases value <;> rfl

private theorem owns_adopt (hnull : ¬ value.isNull = true) (haccepts : kind.accepts value = true) :
    kind.owns (kind.adopt value) = true := by
  cases kind <;> cases value <;> simp_all [accepts, adopt, owns, Value.isNull]

private theorem owns_of_map {α : Type} {found : Option α} {variant : α → Value}
    (hvariant : ∀ x, kind.owns (variant x) = true) (hfound : found.map variant = some held) :
    kind.owns held = true := by
  obtain ⟨x, _, rfl⟩ := Option.map_eq_some_iff.1 hfound
  exact hvariant x

theorem owns_of_convert? (hconvert : kind.convert? value = some held) : kind.owns held = true := by
  have hsome : ∀ {v}, kind.owns v = true → some v = some held → kind.owns held = true :=
    fun hv heq => Option.some.inj heq ▸ hv
  unfold convert? at hconvert
  split at hconvert
  · exact owns_of_map (fun _ => rfl) hconvert
  · exact owns_of_map (fun _ => rfl) hconvert
  · exact owns_of_map (fun _ => rfl) hconvert
  · exact owns_of_map (fun _ => rfl) hconvert
  · exact hsome rfl hconvert
  · exact hsome rfl hconvert
  · exact hsome rfl hconvert
  · exact owns_of_map (fun _ => rfl) hconvert
  · dsimp only at hconvert
    split at hconvert
    · exact hsome rfl hconvert
    · split at hconvert
      · exact hsome rfl hconvert
      · cases hconvert
  · exact owns_of_map (fun _ => rfl) hconvert
  · exact hsome rfl hconvert

theorem coerce_of_isNull (hnull : value.isNull = true) :
    kind.coerce value = .ok (kind.adoptNull value) := by
  rw [coerce, if_pos hnull]

theorem owns_of_coerce (hnull : ¬ value.isNull = true) (hcoerce : kind.coerce value = .ok held) :
    kind.owns held = true := by
  unfold coerce at hcoerce
  rw [if_neg hnull] at hcoerce
  split at hcoerce
  · next haccepts =>
    obtain rfl := Except.ok.inj hcoerce
    exact owns_adopt hnull haccepts
  · split at hcoerce
    · next hconvert =>
      obtain rfl := Except.ok.inj hcoerce
      exact owns_of_convert? hconvert
    · cases hcoerce

theorem holds_of_coerce (hcoerce : kind.coerce value = .ok held) : kind.holds held = true := by
  by_cases hnull : value.isNull = true
  · rw [coerce_of_isNull hnull] at hcoerce
    obtain rfl := Except.ok.inj hcoerce
    exact holds_adoptNull kind value
  · exact holds_iff.2 (.inr (owns_of_coerce hnull hcoerce))

theorem coerce_of_holds (hholds : kind.holds value = true) : kind.coerce value = .ok value := by
  cases value with
  | null => cases kind <;> rfl
  | json document =>
    cases kind with
    | json => cases document <;> rfl
    | integer | float | text | boolean => cases hholds
  | integer n | float x | text s | boolean b =>
    cases kind <;> simp_all [holds, coerce, Value.isNull, accepts, adopt]

theorem coerce_coerce (hcoerce : kind.coerce value = .ok held) : kind.coerce held = .ok held :=
  coerce_of_holds (holds_of_coerce hcoerce)

theorem isOk_coerce_of_accepts (haccepts : kind.accepts value = true) :
    (kind.coerce value).isOk = true := by
  simp only [coerce, haccepts, if_true]
  split <;> rfl

theorem coerce_error {fault : Fault} (hfail : kind.coerce value = .error fault) :
    fault = (Mismatch.unconvertible value kind).fault := by
  unfold coerce at hfail
  split at hfail
  · cases hfail
  · split at hfail
    · cases hfail
    · split at hfail
      · cases hfail
      · exact (Except.error.inj hfail).symm

end Kind

/-! ## Null values -/

/-- A double that is not finite: no document stands for it but null. -/
def Value.isUndocumented : Value → Bool
  | float x => !x.isFinite
  | _ => false

theorem Value.toJson_eq_null_iff :
    value.toJson = .null ↔ value.isNull = true ∨ value.isUndocumented = true := by
  cases value with
  | null => simp [toJson, isNull]
  | integer n => simp [toJson, isNull, isUndocumented]
  | float x => by_cases hfinite : x.isFinite = true <;> simp [toJson, isNull, isUndocumented, hfinite]
  | text s => simp [toJson, isNull, isUndocumented]
  | boolean b => simp [toJson, isNull, isUndocumented]
  | json document => cases document <;> simp [toJson, isNull, isUndocumented]

namespace Kind

theorem coerce_json (value : Value) :
    json.coerce value = .ok (if value = .null then .null else .json value.toJson) := by
  cases value with
  | json document => cases document <;> rfl
  | null | integer n | float x | text s | boolean b => rfl

private theorem isNull_adoptNull (hnull : value.isNull = true) :
    (kind.adoptNull value).isNull = true := by
  cases kind <;> cases value <;> simp_all [adoptNull, Value.isNull]

private theorem not_isNull_of_owns (hkind : kind ≠ .json) (howns : kind.owns held = true) :
    ¬ held.isNull = true := by
  cases kind <;> cases held <;> simp_all [owns, Value.isNull]

/-- Only null values are coerced to null ones. Documents are the exception, where doubles that are not
finite become null too. -/
theorem isNull_coerce_iff (hcoerce : kind.coerce value = .ok held) :
    held.isNull = true ↔
      value.isNull = true ∨ (kind = .json ∧ value.isUndocumented = true) := by
  by_cases hnull : value.isNull = true
  · rw [coerce_of_isNull hnull] at hcoerce
    obtain rfl := Except.ok.inj hcoerce
    simp only [isNull_adoptNull hnull, hnull, true_or]
  · by_cases hkind : kind = .json
    · subst hkind
      have hne : value ≠ .null := fun heq => hnull (heq ▸ rfl)
      rw [coerce_json, if_neg hne] at hcoerce
      obtain rfl := Except.ok.inj hcoerce
      have hdocument : (Value.json value.toJson).isNull = true ↔ value.toJson = .null := by
        cases value.toJson <;> simp [Value.isNull]
      rw [hdocument, Value.toJson_eq_null_iff]
      simp only [true_and]
    · have hheld := not_isNull_of_owns hkind (owns_of_coerce hnull hcoerce)
      simp [hheld, hnull, hkind]

end Kind

theorem Scalar.isOk_ofValue {s : Scalar} (hholds : s.kind.holds value = true) :
    (s.ofValue value).isOk = s.admits value := by
  cases value with
  | null => cases s <;> rfl
  | integer n =>
    cases s with
    | int64 => rfl
    | int32 =>
      change (if -2147483648 ≤ n.toInt ∧ n.toInt < 2147483648 then Except.ok (Int32.ofInt n.toInt)
        else Except.error (Mismatch.beyondInt32 n).fault).isOk = decide _
      split <;> next hrange => simp [hrange, Except.isOk, Except.toBool]
    | float | boolean | text | json | uuid | timestamp | date => cases hholds
  | float x =>
    cases s with
    | float => rfl
    | int64 | int32 | boolean | text | json | uuid | timestamp | date => cases hholds
  | text content =>
    cases s with
    | text | uuid | timestamp | date => exact isOk_ofValue_text rfl content
    | int64 | int32 | float | boolean | json => cases hholds
  | boolean b =>
    cases s with
    | boolean => rfl
    | int64 | int32 | float | text | json | uuid | timestamp | date => cases hholds
  | json document =>
    cases s with
    | json => rfl
    | int64 | int32 | float | boolean | text | uuid | timestamp | date => cases hholds

theorem Scalar.admits_of_isNull {s : Scalar} (hnull : value.isNull = true) :
    s.admits value = true := by
  cases value with
  | null => cases s <;> rfl
  | json document => cases s <;> rfl
  | integer n | float x | text content | boolean b => cases hnull

theorem Scalar.admits_of_wide {s : Scalar} (hwide : s ∈ [int64, float, boolean, text, json])
    (value : Value) : s.admits value = true := by
  cases s with
  | int64 | float | boolean | text | json => cases value <;> rfl
  | int32 | uuid | timestamp | date => simp at hwide

theorem FieldType.isOk_ofValue {type : FieldType} (hholds : type.kind.holds value = true) :
    (type.ofValue value).isOk = type.scalar.admits value := by
  cases type with
  | required s => exact Scalar.isOk_ofValue hholds
  | optional s =>
    have hscalar : (s.ofValue value).isOk = s.admits value := Scalar.isOk_ofValue hholds
    simp only [ofValue, scalar]
    split
    · next hnull => exact (Scalar.admits_of_isNull hnull).symm
    · rw [← hscalar]
      cases s.ofValue value <;> rfl

end BoundEntity
