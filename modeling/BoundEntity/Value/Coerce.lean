import BoundEntity.Fault
import BoundEntity.Number.Numeral
import BoundEntity.Text.Blank

/-! # Coercion of values to declared kinds -/
namespace BoundEntity.Kind

/-- Whether the kind holds the value without a conversion that can fail. -/
def accepts : Kind → Value → Bool
  | _, .null => true
  | json, _ => true
  | integer, .integer _ => true
  | float, .float _ => true
  | float, .integer _ => true
  | text, .text _ => true
  | boolean, .boolean _ => true
  | _, _ => false

/-- The form that an accepted value takes. -/
def adopt : Kind → Value → Value
  | float, .integer n => .float (Binary64.ofInt n.toInt)
  | json, value => .json value.toJson
  | _, value => value

/-- The value of this kind that another value, neither null nor accepted, stands for. -/
def convert? : Kind → Value → Option Value
  | integer, .text s => (Numeral.int64? (Text.trimmed s.toList)).map .integer
  | integer, value => value.int64?.map .integer
  | float, .text s => (Numeral.binary64? (Text.trimmed s.toList)).map .float
  | float, value => value.binary64?.map .float
  | text, .integer n => some (.text (Value.integer n).display)
  | text, .float x => some (.text (Value.float x).display)
  | text, .boolean b => some (.text (Value.boolean b).display)
  | text, value => value.text?.map .text
  | boolean, .text s =>
    let word := Text.trim s
    if word = "true" then some (.boolean true)
    else if word = "false" then some (.boolean false)
    else none
  | boolean, value => value.bool?.map .boolean
  | json, value => some (.json value.toJson)

/-- A null stays null, and a JSON null a document under the kind of documents. -/
def adoptNull : Kind → Value → Value
  | json, .json j => .json j
  | _, _ => .null

/-- Converts a value to the kind. Every kind takes null. -/
def coerce (kind : Kind) (value : Value) : Except Fault Value :=
  if value.isNull then .ok (kind.adoptNull value)
  else if kind.accepts value then .ok (kind.adopt value)
  else
    match kind.convert? value with
    | some converted => .ok converted
    | none => .error (Mismatch.unconvertible value kind).fault

end BoundEntity.Kind
