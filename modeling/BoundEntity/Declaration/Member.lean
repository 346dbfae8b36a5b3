import BoundEntity.Declaration.Reader

/-!
# Members

A member of a value has a name, or a number as in a tuple. Two numbers with a point between them
look like one number with a fraction.
-/
namespace BoundEntity

namespace Literal

/-- Whether decimal digits before the text are those of a number with a fraction or an exponent. -/
def continuesFraction : List Char → Bool
  | '.' :: _ => true
  | c :: rest =>
    (c = 'e' || c = 'E') &&
      ((rest.dropWhile fun c => c = '_').head?.map fun c =>
        c.isDigit || c = '+' || c = '-').getD false
  | [] => false

/-- An integer in a base, and the name of a type behind it. -/
def integerIn (base : Nat) (cs : List Char) : Nat × List Char :=
  let isPart (c : Char) : Bool := isDigitOrLine c || (base = 16 && (Text.hexDigit? c).isSome)
  let digits := (cs.takeWhile isPart).filterMap Text.hexDigit?
  (digits.foldl (fun value digit => base * value + digit.val) 0, cs.dropWhile isPart)

/-- The integer that a literal is, and the name of a type behind it. -/
def integer? : List Char → Option (Nat × List Char)
  | '0' :: 'x' :: rest => some (integerIn 16 rest)
  | '0' :: 'o' :: rest => some (integerIn 8 rest)
  | '0' :: 'b' :: rest => some (integerIn 2 rest)
  | c :: rest =>
    if c.isDigit && !continuesFraction (rest.dropWhile isDigitOrLine) then
      some (integerIn 10 (c :: rest))
    else none
  | [] => none

/-- The parts of a text between its points; a point at the end counts for none. -/
def pointParts : List Char → List (List Char)
  | [] => [[]]
  | ['.'] => [[]]
  | '.' :: rest => [] :: pointParts rest
  | c :: rest =>
    match pointParts rest with
    | part :: parts => (c :: part) :: parts
    | [] => [[c]]

end Literal

namespace Reader
open Phrase

/-- A number as a member; it has 32 bits and no type behind it. -/
def index (cs : List Char) : Reader (List Token) :=
  match Literal.integer? cs with
  | some (value, []) =>
    if value < 4294967296 then return [.literal (toString value)] else throw .indexTooLarge
  | _ => refuse

/-- What is wrong with a number as a member that has a minus before it. -/
def negativeIndex (cs : List Char) : Reader (List Token) :=
  match Literal.integer? cs with
  | some (_, []) => throw .negativeIndex
  | _ => refuse

/-- A member, and whether it has a name. -/
def member : Reader (Bool × List Token) := do
  match ← next with
  | .literal s :: rest =>
    modify ({ · with tokens := rest })
    return (false, ← index s.toList)
  | .mark '-' _ :: .literal s :: _ => return (false, ← negativeIndex s.toList)
  | _ => return (true, ← expect name)

/-- Numbers with points between them. -/
def indices : List (List Char) → Reader (List Token)
  | [] => return []
  | [part] => index part
  | part :: parts => return (← index part) ++ [.mark '.' false] ++ (← indices parts)

/-- After a point: the members that a number with a fraction stands for, and whether that is all. A
number that ends in a point has another member after it. -/
def fractionMembers : Reader (Bool × List Token) := do
  match ← next with
  | .literal s :: rest =>
    let cs := s.toList
    if !(cs.head?.map Char.isDigit).getD false || (Literal.integer? cs).isSome then
      return (false, [])
    modify ({ · with tokens := rest })
    let numbers ← indices (Literal.pointParts cs)
    if cs.getLast? = some '.' then return (false, numbers ++ [.mark '.' false])
    return (true, numbers)
  | .mark '-' _ :: .literal s :: _ =>
    return (true, ← negativeIndex ((Literal.pointParts s.toList).headD []))
  | _ => return (false, [])

end Reader
end BoundEntity
