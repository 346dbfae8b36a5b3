import BoundEntity.Declaration.Token

/-!
# Paths

A path keeps the tokens with which it is written again: of the arguments in angle brackets, the
lifetimes come first.
-/
namespace BoundEntity

/-- What an argument in angle brackets is. -/
inductive GenericForm where
  | lifetime
  | constant
  /-- The value or the bounds of an associated item. -/
  | associated
  | type
deriving DecidableEq

/-- An argument or a parameter in angle brackets. -/
structure Generic where
  form : GenericForm
  tokens : List Token
deriving DecidableEq

/-- Arguments or parameters as they are written, each with the comma behind it: the lifetimes, and
then the others. -/
def Generic.written (generics : List (Generic × List Token)) : List Token :=
  let (lifetimes, others) := generics.partition fun (g, _) => g.form = .lifetime
  let isOpen := !others.isEmpty && lifetimes.getLast?.any fun (_, comma) => comma.isEmpty
  let inOrder (gs : List (Generic × List Token)) : List Token :=
    gs.flatMap fun (g, comma) => g.tokens ++ comma
  inOrder lifetimes ++ (if isOpen then [.mark ',' false] else []) ++ inOrder others

/-- A step of a path, and what its arguments in angle brackets are. -/
structure Segment where
  name : String
  arguments : Option (List GenericForm)
  tokens : List Token
deriving DecidableEq

/-- Steps joined by `::`, after a beginning that is empty, `::` or a type in angle brackets. -/
structure Path where
  start : List Token
  segments : List Segment
deriving DecidableEq

namespace Path

def separator : List Token := [.mark ':' true, .mark ':' false]

def tokens (p : Path) : List Token :=
  p.start ++ ((p.segments.map Segment.tokens).intersperse separator).flatten

/-- Whether the path begins with a type in angle brackets. -/
def isQualified (p : Path) : Bool :=
  match p.start with
  | .mark '<' _ :: _ => true
  | _ => false

/-- Whether the path is one step. -/
def isName (p : Path) : Bool := p.start.isEmpty && p.segments.length == 1

/-- The path without the arguments of its last step. -/
def withoutArguments (p : Path) : Path :=
  { p with segments := p.segments.dropLast ++
      (p.segments.getLast?.map fun step => ⟨step.name, none, [.word step.name]⟩).toList }

/-- Whether the last step has no arguments, or none between its brackets. -/
def takesArguments (p : Path) : Bool :=
  (p.segments.getLast?.map fun step => (step.arguments.getD []).isEmpty).getD false

/-- Whether the path is made of words only. -/
def isPlain (p : Path) : Bool :=
  !p.isQualified && p.segments.all fun step => step.arguments.isNone

end Path
end BoundEntity
