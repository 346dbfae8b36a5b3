import BoundEntity.Text.Identifier.Table

/-! # Identifiers -/
namespace BoundEntity.Text.Identifier

/-- The underscore and the characters with the Unicode property `XID_Start`. -/
def isStart (c : Char) : Bool := c.isAlpha || c == '_' || isWithin startChanges c.toNat

/-- The characters with the Unicode property `XID_Continue`; the underscore is one of them. -/
def isPart (c : Char) : Bool := isStart c || c.isDigit || isWithin laterChanges c.toNat

/-- The longest identifier that a text begins with, and what follows it. -/
def split? : List Char → Option (List Char × List Char)
  | [] => none
  | c :: rest =>
    if isStart c then some (c :: rest.takeWhile isPart, rest.dropWhile isPart) else none

end BoundEntity.Text.Identifier
