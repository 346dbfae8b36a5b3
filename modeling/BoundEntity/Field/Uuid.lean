import BoundEntity.Text.Hex

/-! # Universally unique identifiers -/
namespace BoundEntity

/-- An identifier of 32 hexadecimal digits. -/
structure Uuid where
  digits : List (Fin 16)
  length_eq : digits.length = 32
deriving DecidableEq

namespace Uuid

def zero : Uuid := ⟨List.replicate 32 0, rfl⟩

def ofDigits? (digits : List (Fin 16)) : Option Uuid :=
  if h : digits.length = 32 then some ⟨digits, h⟩ else none

/-- All characters as hexadecimal digits. -/
def digits? : List Char → Option (List (Fin 16))
  | [] => some []
  | c :: rest =>
    match Text.hexDigit? c, digits? rest with
    | some d, some ds => some (d :: ds)
    | _, _ => none

/-- The digits of a group and what follows its hyphen. -/
def group? (size : Nat) (cs : List Char) : Option (List (Fin 16) × List Char) :=
  match digits? (cs.take size), cs.drop size with
  | some ds, '-' :: rest => some (ds, rest)
  | _, _ => none

/-- Groups of 8, 4, 4, 4 and 12 digits with hyphens between them. -/
def hyphenated? (cs : List Char) : Option Uuid :=
  match group? 8 cs with
  | none => none
  | some (a, rest) =>
    match group? 4 rest with
    | none => none
    | some (b, rest) =>
      match group? 4 rest with
      | none => none
      | some (c, rest) =>
        match group? 4 rest with
        | none => none
        | some (d, rest) =>
          match digits? rest with
          | none => none
          | some e => ofDigits? (a ++ b ++ c ++ d ++ e)

/-- The text between braces, if there are braces. -/
def unbraced? : List Char → Option (List Char)
  | '\x7b' :: rest => if rest.getLast? = some '\x7d' then some rest.dropLast else none
  | _ => none

def urnPrefix : List Char := ['u', 'r', 'n', ':', 'u', 'u', 'i', 'd', ':']

/-- The text after `urn:uuid:`, in letters of any case. -/
def unprefixed? (cs : List Char) : Option (List Char) :=
  if (cs.take 9).map Char.toLower = urnPrefix then some (cs.drop 9) else none

/-- Reads plain digits, or the hyphenated form by itself, in braces or as a URN. -/
def ofChars? (cs : List Char) : Option Uuid :=
  if cs.length = 32 then
    match digits? cs with
    | some ds => ofDigits? ds
    | none => none
  else if cs.length = 36 then hyphenated? cs
  else
    match unbraced? cs with
    | some inner => if inner.length = 36 then hyphenated? inner else none
    | none =>
      match unprefixed? cs with
      | some inner => if inner.length = 36 then hyphenated? inner else none
      | none => none

/-- The lower-case hyphenated form. -/
def chars (u : Uuid) : List Char :=
  let cs := u.digits.map fun d => Nat.digitChar d.val
  cs.take 8 ++ '-' :: (cs.drop 8).take 4 ++ '-' :: (cs.drop 12).take 4 ++ '-' :: (cs.drop 16).take 4 ++
    '-' :: cs.drop 20

def render (u : Uuid) : String := String.ofList u.chars

end Uuid
end BoundEntity
