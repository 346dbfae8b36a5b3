import BoundEntity.Declaration.Phrase

/-! # Operators in expressions -/
namespace BoundEntity

/-- How strongly an operator binds, from the weakest on. -/
inductive Strength where
  | jump
  | assignment
  | range
  | disjunction
  | conjunction
  | binding
  | comparison
  | bitDisjunction
  | bitDifference
  | bitConjunction
  | shift
  | sum
  | product
  | conversion
deriving DecidableEq

namespace Strength

def level : Strength → Nat
  | jump => 0
  | assignment => 1
  | range => 2
  | disjunction => 3
  | conjunction => 4
  | binding => 5
  | comparison => 6
  | bitDisjunction => 7
  | bitDifference => 8
  | bitConjunction => 9
  | shift => 10
  | sum => 11
  | product => 12
  | conversion => 13

instance : LE Strength := ⟨fun a b => a.level ≤ b.level⟩

instance (a b : Strength) : Decidable (a ≤ b) := inferInstanceAs (Decidable (a.level ≤ b.level))

end Strength

namespace Operator

/-- The operators between two operands; one comes before those that its characters begin with. -/
def all : List (String × Strength) :=
  [("+=", .assignment), ("-=", .assignment), ("*=", .assignment), ("/=", .assignment),
   ("%=", .assignment), ("^=", .assignment), ("&=", .assignment), ("|=", .assignment),
   ("<<=", .assignment), (">>=", .assignment), ("&&", .conjunction), ("||", .disjunction),
   ("<<", .shift), (">>", .shift), ("==", .comparison), ("<=", .comparison), ("!=", .comparison),
   (">=", .comparison), ("+", .sum), ("-", .sum), ("*", .product), ("/", .product),
   ("%", .product), ("^", .bitDifference), ("&", .bitConjunction), ("|", .bitDisjunction),
   ("<", .comparison), (">", .comparison)]

/-- The operator that tokens begin with. -/
def first? (tokens : List Token) : Option (String × Strength) :=
  all.find? fun (symbol, _) => (Phrase.mark symbol).begins tokens

def isAssignment (tokens : List Token) : Bool :=
  (Phrase.mark "=").begins tokens && !(Phrase.mark "=>").begins tokens

/-- How strongly binds what goes on from an operand in front of the tokens. -/
def strength (tokens : List Token) : Strength :=
  match first? tokens with
  | some (_, strength) => strength
  | none =>
    if isAssignment tokens then .assignment
    else if (Phrase.mark "..").begins tokens then .range
    else if (Phrase.word "as").begins tokens then .conversion
    else .jump

end Operator
end BoundEntity
