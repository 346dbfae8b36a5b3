import BoundEntity.Declaration.Path
import BoundEntity.Declaration.Phrase

/-!
# Types

A type keeps the tokens with which it is written again.
-/
namespace BoundEntity

inductive TypeSyntax where
  | path (p : Path)
  | reference (tokens : List Token)
  /-- An object of a single trait, which is named without `dyn` and may stand in brackets. -/
  | object (isBracketed : Bool) (trait : List Token)
  | other (tokens : List Token)
deriving DecidableEq

def TypeSyntax.tokens : TypeSyntax → List Token
  | path p => p.tokens
  | reference tokens => tokens
  | object true trait => .opening .round :: trait ++ [.closing .round]
  | object false trait => trait
  | other tokens => tokens

/-- What a bound asks for. -/
inductive BoundForm where
  | lifetime
  /-- The names that a type may hold. -/
  | capture
  | trait
deriving DecidableEq

/-- Where a bound stands decides which kinds of bounds are allowed. -/
structure BoundPlace where
  allowsCapture : Bool
  allowsConst : Bool

namespace BoundPlace

/-- The bounds of an object. -/
def object : BoundPlace := ⟨false, false⟩

/-- The bounds of an argument or a parameter. -/
def argument : BoundPlace := ⟨false, true⟩

/-- The bounds of a type that is known by them alone. -/
def implemented : BoundPlace := ⟨true, true⟩

end BoundPlace

namespace Phrase

/-- Words that a function type may begin with. -/
def functionStart : Phrase := (word "fn").orElse ((word "unsafe").orElse (word "extern"))

/-- A step of a path that has no arguments. -/
def bareStep : Phrase := only fun t =>
  [.word "super", .word "self", .word "crate", .word "try"].contains t

/-- Whether another bound may come after a `+`. -/
def beginsBound (tokens : List Token) : Bool :=
  beginsAny [anyWord, mark "::", mark "?", lifetime, opening .round] tokens

/-- The name of an argument of a function type and its colon. -/
def beginsArgumentName (isFirst : Bool) (tokens : List Token) : Bool :=
  let named := (name.orElse (word "_")).orElse
    (if isFirst then word "self" else only fun _ => false)
  (named.andThen (mark ":")).begins tokens && !(named.andThen (mark "::")).begins tokens

end Phrase

end BoundEntity
