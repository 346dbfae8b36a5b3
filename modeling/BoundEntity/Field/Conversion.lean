import BoundEntity.Value.Coerce
import BoundEntity.Field.Uuid
import BoundEntity.Field.Timestamp

/-!
# Typed fields

A field type says what a field of an entity holds (`FieldType.Carrier`), how that becomes a context
value (`toValue`) and which values convert back (`ofValue`).
-/
namespace BoundEntity

/-- The types that a field can have. -/
inductive Scalar where
  | int64
  | int32
  | float
  | boolean
  | text
  | json
  | uuid
  | timestamp
  | date
deriving DecidableEq

inductive FieldType where
  | required (scalar : Scalar)
  | optional (scalar : Scalar)
deriving DecidableEq

namespace Scalar

abbrev Carrier : Scalar → Type
  | int64 => Int64
  | int32 => Int32
  | float => Binary64
  | boolean => Bool
  | text => String
  | json => Json
  | uuid => Uuid
  | timestamp => Timestamp
  | date => Date

instance : (s : Scalar) → DecidableEq s.Carrier
  | int64 => inferInstanceAs (DecidableEq Int64)
  | int32 => inferInstanceAs (DecidableEq Int32)
  | float => inferInstanceAs (DecidableEq Binary64)
  | boolean => inferInstanceAs (DecidableEq Bool)
  | text => inferInstanceAs (DecidableEq String)
  | json => inferInstanceAs (DecidableEq Json)
  | uuid => inferInstanceAs (DecidableEq Uuid)
  | timestamp => inferInstanceAs (DecidableEq Timestamp)
  | date => inferInstanceAs (DecidableEq Date)

/-- The declared kind of properties of this type. -/
def kind : Scalar → Kind
  | int64 | int32 => .integer
  | float => .float
  | boolean => .boolean
  | text | uuid | timestamp | date => .text
  | json => .json

def toValue : (s : Scalar) → s.Carrier → Value
  | int64, n => .integer n
  | int32, n => .integer (Int64.ofInt (Int32.toInt n))
  | float, x => .float x
  | boolean, b => .boolean b
  | text, s => .text s
  | json, j => .json j
  | uuid, u => .text u.render
  | timestamp, t => .text t.render
  | date, d => .text d.render

private def int64OfValue (v : Value) : Except Fault Int64 :=
  match Kind.integer.coerce v with
  | .error fault => .error fault
  | .ok (.integer n) => .ok n
  | .ok _ => .ok 0

private def textOfValue (v : Value) : Except Fault String :=
  match Kind.text.coerce v with
  | .error fault => .error fault
  | .ok (.text s) => .ok s
  | .ok _ => .ok ""

/-- A value through its text; an empty text is the zero value. -/
private def formOfValue {α : Type} (form : TextForm) (zero : α) (read : List Char → Option α)
    (v : Value) : Except Fault α :=
  match textOfValue v with
  | .error fault => .error fault
  | .ok s =>
    if s.isEmpty then .ok zero
    else
      match read s.toList with
      | some x => .ok x
      | none => .error (Mismatch.malformed form s).fault

def ofValue : (s : Scalar) → Value → Except Fault s.Carrier
  | int64, v => int64OfValue v
  | int32, v =>
    match int64OfValue v with
    | .error fault => .error fault
    | .ok n =>
      if -2147483648 ≤ n.toInt ∧ n.toInt < 2147483648 then .ok (Int32.ofInt n.toInt)
      else .error (Mismatch.beyondInt32 n).fault
  | float, v =>
    match Kind.float.coerce v with
    | .error fault => .error fault
    | .ok (.float x) => .ok x
    | .ok _ => .ok Binary64.zero
  | boolean, v =>
    match Kind.boolean.coerce v with
    | .error fault => .error fault
    | .ok (.boolean b) => .ok b
    | .ok _ => .ok false
  | text, v => textOfValue v
  | json, v => .ok v.toJson
  | uuid, v => formOfValue .uuid Uuid.zero Uuid.ofChars? v
  | timestamp, v => formOfValue .timestamp Timestamp.epoch Timestamp.ofChars? v
  | date, v => formOfValue .date Date.epoch Date.ofChars? v

private theorem int64OfValue_congr {v w : Value} (h : Kind.integer.coerce v = Kind.integer.coerce w) :
    int64OfValue v = int64OfValue w := by
  simp only [int64OfValue, h]

private theorem textOfValue_congr {v w : Value} (h : Kind.text.coerce v = Kind.text.coerce w) :
    textOfValue v = textOfValue w := by
  simp only [textOfValue, h]

/-- All but documents are converted from what the kind makes of the value. -/
theorem ofValue_congr {s : Scalar} (hother : s ≠ json) {v w : Value}
    (h : s.kind.coerce v = s.kind.coerce w) : s.ofValue v = s.ofValue w := by
  cases s with
  | int64 => exact int64OfValue_congr h
  | int32 => simp only [ofValue, int64OfValue_congr h]
  | float =>
    have h : Kind.float.coerce v = Kind.float.coerce w := h
    simp only [ofValue, h]
  | boolean =>
    have h : Kind.boolean.coerce v = Kind.boolean.coerce w := h
    simp only [ofValue, h]
  | text => exact textOfValue_congr h
  | uuid | timestamp | date => simp only [ofValue, formOfValue, textOfValue_congr h]
  | json => exact absurd rfl hother

theorem ofValue_of_coerce_error {s : Scalar} (hother : s ≠ json) {v : Value} {fault : Fault}
    (h : s.kind.coerce v = .error fault) : s.ofValue v = .error fault := by
  have hwide : Kind.integer.coerce v = .error fault → int64OfValue v = .error fault := by
    intro hfail
    simp only [int64OfValue, hfail]
  have htext : Kind.text.coerce v = .error fault → textOfValue v = .error fault := by
    intro hfail
    simp only [textOfValue, hfail]
  cases s with
  | int64 => exact hwide h
  | int32 => simp only [ofValue, hwide h]
  | float =>
    have h : Kind.float.coerce v = .error fault := h
    simp only [ofValue, h]
  | boolean =>
    have h : Kind.boolean.coerce v = .error fault := h
    simp only [ofValue, h]
  | text => exact htext h
  | uuid | timestamp | date => simp only [ofValue, formOfValue, htext h]
  | json => exact absurd rfl hother

/-- Whether a value that the kind of the type holds is also one of the type. -/
def admits : Scalar → Value → Bool
  | int32, .integer n => decide (-2147483648 ≤ n.toInt ∧ n.toInt < 2147483648)
  | uuid, .text s => s.isEmpty || (Uuid.ofChars? s.toList).isSome
  | timestamp, .text s => s.isEmpty || (Timestamp.ofChars? s.toList).isSome
  | date, .text s => s.isEmpty || (Date.ofChars? s.toList).isSome
  | _, _ => true

private theorem isOk_formOfValue_text {α : Type} (form : TextForm) (zero : α)
    (read : List Char → Option α) (s : String) :
    (formOfValue form zero read (.text s)).isOk = (s.isEmpty || (read s.toList).isSome) := by
  have htext : textOfValue (.text s) = .ok s := rfl
  simp only [formOfValue, htext]
  cases hempty : s.isEmpty with
  | true => rfl
  | false => cases read s.toList <;> rfl

theorem isOk_ofValue_text {s : Scalar} (hkind : s.kind = .text) (content : String) :
    (s.ofValue (.text content)).isOk = s.admits (.text content) := by
  cases s with
  | text => rfl
  | uuid => exact isOk_formOfValue_text ..
  | timestamp => exact isOk_formOfValue_text ..
  | date => exact isOk_formOfValue_text ..
  | int64 | int32 | float | boolean | json => cases hkind

private theorem formOfValue_text {α : Type} {form : TextForm} {zero : α}
    {read : List Char → Option α} {content : String} {x : α} (hempty : read [] = none)
    (hread : read content.toList = some x) : formOfValue form zero read (.text content) = .ok x := by
  have htext : textOfValue (.text content) = .ok content := rfl
  have hfull : content.isEmpty = false := by
    rw [Bool.eq_false_iff, Ne, String.isEmpty_iff]
    rintro rfl
    rw [String.toList_empty, hempty] at hread
    cases hread
  simp only [formOfValue, htext, hfull, Bool.false_eq_true, if_false, hread]

theorem ofValue_uuid {content : String} {u : Uuid} (h : Uuid.ofChars? content.toList = some u) :
    uuid.ofValue (.text content) = .ok u := formOfValue_text rfl h

theorem ofValue_timestamp {content : String} {t : Timestamp}
    (h : Timestamp.ofChars? content.toList = some t) : timestamp.ofValue (.text content) = .ok t :=
  formOfValue_text rfl h

private theorem formOfValue_eq_ok {α : Type} {form : TextForm} {zero : α}
    {read : List Char → Option α} {v : Value} {x : α} (h : formOfValue form zero read v = .ok x) :
    x = zero ∨ ∃ cs, read cs = some x := by
  unfold formOfValue at h
  split at h
  · cases h
  · next content _ =>
    split at h
    · exact .inl (Except.ok.inj h).symm
    · split at h
      · next hread => exact .inr ⟨content.toList, Except.ok.inj h ▸ hread⟩
      · cases h

theorem timestamp_ofValue_eq_ok {v : Value} {t : Timestamp} (h : timestamp.ofValue v = .ok t) :
    t = Timestamp.epoch ∨ ∃ cs, Timestamp.ofChars? cs = some t := formOfValue_eq_ok h

theorem ofValue_date {content : String} {d : Date} (h : Date.ofChars? content.toList = some d) :
    date.ofValue (.text content) = .ok d := formOfValue_text rfl h

def zero : (s : Scalar) → s.Carrier
  | int64 => (0 : Int64)
  | int32 => (0 : Int32)
  | float => Binary64.zero
  | boolean => false
  | text => ""
  | json => Json.null
  | uuid => Uuid.zero
  | timestamp => Timestamp.epoch
  | date => Date.epoch

end Scalar

namespace FieldType

def scalar : FieldType → Scalar
  | required s => s
  | optional s => s

abbrev Carrier : FieldType → Type
  | required s => s.Carrier
  | optional s => Option s.Carrier

instance : (t : FieldType) → DecidableEq t.Carrier
  | required s => inferInstanceAs (DecidableEq s.Carrier)
  | optional s => inferInstanceAs (DecidableEq (Option s.Carrier))

def kind (t : FieldType) : Kind := t.scalar.kind

def toValue : (t : FieldType) → t.Carrier → Value
  | required s, x => s.toValue x
  | optional _, none => .null
  | optional s, some x => s.toValue x

def ofValue : (t : FieldType) → Value → Except Fault t.Carrier
  | required s, v => s.ofValue v
  | optional s, v =>
    if v.isNull then .ok none
    else
      match s.ofValue v with
      | .error fault => .error fault
      | .ok x => .ok (some x)

/-- What a field holds before anything is set. -/
def zero : (t : FieldType) → t.Carrier
  | required s => s.zero
  | optional _ => none

/-- The value that is left of another one once a field of this type has held it. -/
def pass (t : FieldType) (v : Value) : Except Fault Value :=
  match t.ofValue v with
  | .error fault => .error fault
  | .ok x => .ok (t.toValue x)

end FieldType
end BoundEntity
