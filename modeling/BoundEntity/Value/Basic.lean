import BoundEntity.Json.Printer

/-!
# Values

A context entry is null, an integer, a double, a text, a truth value or a JSON document. The views
(`int64?`, `binary64?`, `bool?`, `text?`) also look into documents that are scalars.
-/
namespace BoundEntity

/-- What a property is declared to hold. -/
inductive Kind where
  | integer
  | float
  | text
  | boolean
  | json
deriving DecidableEq

namespace Kind

/-- The name in declarations and metadata. -/
def name : Kind → String
  | integer => "Integer"
  | float => "Float"
  | text => "Text"
  | boolean => "Boolean"
  | json => "Json"

/-- The name in messages. -/
def label : Kind → String
  | integer => "INTEGER"
  | float => "FLOAT"
  | text => "TEXT"
  | boolean => "BOOLEAN"
  | json => "JSON"

def all : List Kind := [integer, float, text, boolean, json]

def ofName? (name : String) : Option Kind := all.find? fun kind => kind.name = name

end Kind

inductive Value where
  | null
  | integer (n : Int64)
  | float (x : Binary64)
  | text (s : String)
  | boolean (b : Bool)
  | json (document : Json)
deriving DecidableEq

/-- A context: named values. -/
abbrev Context := Keyed Value

namespace Value

instance : Inhabited Value := ⟨null⟩

/-- Doubles in messages have no exponent and no superfluous point. -/
def messageStyle : FloatStyle where
  pointZero := false
  leastPlain := none
  greatestPlain := none
  plus := false
  tie := .away
  nan := "NaN"
  infinity := "Infinity"

/-- Doubles under inspection keep a point, and take an exponent below `1e-4` and from `1e16` on. -/
def inspectStyle : FloatStyle where
  pointZero := true
  leastPlain := some (-4)
  greatestPlain := some 15
  plus := false
  tie := .away
  nan := "NaN"
  infinity := "inf"

/-- The name of the variant in messages. -/
def label : Value → String
  | null => "NULL"
  | integer _ => "INTEGER"
  | float _ => "FLOAT"
  | text _ => "TEXT"
  | boolean _ => "BOOLEAN"
  | json _ => "JSON"

def isNull : Value → Bool
  | null => true
  | json .null => true
  | _ => false

def bool? : Value → Option Bool
  | boolean b => some b
  | json (.bool b) => some b
  | _ => none

/-- The whole number of a double, if it is one of the signed 64-bit range. The limits of the range
are taken as doubles, so the upper one stands for the double nearest to it. -/
def int64OfFloat? (x : Binary64) : Option Int64 :=
  let least := Binary64.ofInt Int64.minValue.toInt
  let greatest := Binary64.ofInt Int64.maxValue.toInt
  if x.isFinite && x.isWhole && least.le x && x.lt greatest then some x.toInt64 else none

def int64? : Value → Option Int64
  | integer n => some n
  | float x => int64OfFloat? x
  | json (.number n) => n.toInt64?
  | _ => none

def binary64? : Value → Option Binary64
  | float x => some x
  | integer n => some (Binary64.ofInt n.toInt)
  | json (.number n) => some n.toBinary64
  | _ => none

def text? : Value → Option String
  | text s => some s
  | json (.string s) => some s
  | _ => none

def document? : Value → Option Json
  | json j => some j
  | _ => none

/-- The document that a value stands for; a double that is not finite has none but null. -/
def toJson : Value → Json
  | null => .null
  | integer n => .number (.ofInt64 n)
  | float x => if h : x.isFinite = true then .number (.float x h) else .null
  | text s => .string s
  | boolean b => .bool b
  | json j => j

/-- Scalars become the matching variant; arrays and objects stay documents. -/
def ofJson : Json → Value
  | .null => null
  | .bool b => boolean b
  | .number n =>
    match n.toInt64? with
    | some i => integer i
    | none => float n.toBinary64
  | .string s => text s
  | j => json j

/-- Equality of content. Doubles are equal when closer than `2 ^ -52`, an integer is compared with a
double through its nearest double, and two NaNs are equal. -/
def same : Value → Value → Bool
  | null, null => true
  | integer a, integer b => a == b
  | float x, float y => (x.isNaN && y.isNaN) || x.isNear y
  | text s, text t => s == t
  | boolean a, boolean b => a == b
  | json j, json k => j.same k
  | integer n, float x => (Binary64.ofInt n.toInt).isNear x
  | float x, integer n => (Binary64.ofInt n.toInt).isNear x
  | _, _ => false

/-- The text in messages. -/
def display : Value → String
  | null => "NULL"
  | integer n => toString n.toInt
  | float x => messageStyle.write x
  | text s => s
  | boolean b => Inspect.flag b
  | json j => j.print

def inspect : Value → String
  | null => "Null"
  | integer n => Inspect.call "Integer" [toString n.toInt]
  | float x => Inspect.call "Float" [inspectStyle.write x]
  | text s => Inspect.call "Text" [Inspect.quoted s]
  | boolean b => Inspect.call "Boolean" [Inspect.flag b]
  | json j => Inspect.call "Json" [j.inspect]

end Value

/-- The inspection text of a context. -/
def Context.inspect (c : Context) : String :=
  Inspect.pairs (c.entries.map fun (key, value) => (Inspect.quoted key, value.inspect))

end BoundEntity
