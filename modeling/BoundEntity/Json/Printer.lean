import BoundEntity.Json.Basic
import BoundEntity.Number.FloatStyle
import BoundEntity.Text.Inspect

/-! # Compact JSON text and the inspection text of documents -/
namespace BoundEntity.Json

/-- Doubles keep a decimal point, and take an exponent below `1e-5` and from `1e16` on. -/
def floatStyle : FloatStyle where
  pointZero := true
  leastPlain := some (-5)
  greatestPlain := some 15
  plus := true
  tie := .toEven
  nan := "null"
  infinity := "null"

private def hexPair (n : Nat) : List Char := [Nat.digitChar (n / 16), Nat.digitChar (n % 16)]

/-- A character inside a JSON string. -/
def escaped (c : Char) : List Char :=
  if c = '"' then ['\\', '"']
  else if c = '\\' then ['\\', '\\']
  else if c.toNat = 8 then ['\\', 'b']
  else if c.toNat = 12 then ['\\', 'f']
  else if c = '\n' then ['\\', 'n']
  else if c = '\r' then ['\\', 'r']
  else if c = '\t' then ['\\', 't']
  else if c.toNat < 32 then ['\\', 'u', '0', '0'] ++ hexPair c.toNat
  else [c]

def quoted (s : String) : String := String.ofList ('"' :: s.toList.flatMap escaped ++ ['"'])

def Number.print : Number → String
  | .integer value _ _ => toString value
  | .float value _ => floatStyle.write value

def print : Json → String
  | .null => "null"
  | .bool b => Inspect.flag b
  | .number n => n.print
  | .string s => quoted s
  | .array _ item => "[" ++ ",".intercalate (List.ofFn fun i => print (item i)) ++ "]"
  | .object keys member =>
    "\x7b" ++ ",".intercalate
      (List.ofFn fun i => quoted (keys.list.get i) ++ ":" ++ print (member i)) ++ "\x7d"

def inspect : Json → String
  | .null => "Null"
  | .bool b => Inspect.call "Bool" [Inspect.flag b]
  | .number n => Inspect.call "Number" [n.print]
  | .string s => Inspect.call "String" [Inspect.quoted s]
  | .array _ item => "Array " ++ Inspect.listed (List.ofFn fun i => inspect (item i))
  | .object keys member =>
    "Object " ++ Inspect.pairs
      (List.ofFn fun i => (Inspect.quoted (keys.list.get i), inspect (member i)))

end BoundEntity.Json
