import BoundEntity.Declaration.Defect
import BoundEntity.Declaration.Phrase

/-!
# Reading phrases off tokens

A reader takes a phrase off the front of the tokens, or finds a defect. A group that is closed
before all of it is read is a defect too, but one that any later defect goes before.
-/
namespace BoundEntity

/-- What is left to read. -/
structure Remainder where
  tokens : List Token
  /-- Whether each group has been read to its end. -/
  isGapless : Bool := true
deriving DecidableEq

abbrev Reader := StateT Remainder (Except Defect)

namespace Reader
open Phrase

/-- There is no phrase of the wanted kind. -/
def refuse {α : Type} : Reader α := throw .notAPath

def next : Reader (List Token) := return (← get).tokens

def isNext (p : Phrase) : Reader Bool := return p.begins (← next)

/-- A phrase, if it comes next. -/
def option (p : Phrase) : Reader (List Token) := do
  match p (← next) with
  | some (tokens, rest) => modify ({ · with tokens := rest }); return tokens
  | none => return []

/-- A phrase that has to come next. -/
def expect (p : Phrase) : Reader (List Token) := do
  match p (← next) with
  | some (tokens, rest) => modify ({ · with tokens := rest }); return tokens
  | none => refuse

/-- The bracket that closes the innermost group, with what is left of the group passed over. -/
def close (b : Bracket) : Reader (List Token) := do
  let (left, rest) := splitGroup 0 (← next)
  modify fun r => ⟨rest, r.isGapless && left.isEmpty⟩
  expect (closing b)

/-- A group, of which a reader takes the inside. -/
def enclosed (b : Bracket) (inside : Reader (List Token)) : Reader (List Token) := do
  let left ← expect (opening b)
  let tokens ← inside
  return left ++ tokens ++ (← close b)

/-- The result of a reader, and the tokens that it takes as they stand. -/
def withTaken {α : Type} (r : Reader α) : Reader (α × List Token) := do
  let before ← next
  let a ← r
  return (a, before.take (before.length - (← next).length))

/-- At most so many phrases, up to where the tokens stop. -/
def upTo {α : Type} (stops : List Token → Bool) (r : Reader α) : Nat → Reader (List α)
  | 0 => refuse
  | n + 1 => do
    if stops (← next) then return []
    let first ← r
    return first :: (← upTo stops r n)

/-- Phrases one after another, up to where the tokens stop. -/
def repeated {α : Type} (stops : List Token → Bool) (r : Reader α) : Reader (List α) := do
  upTo stops r ((← next).length + 1)

/-- Phrases with separators between them and perhaps after the last one, up to where the tokens
stop. Each comes with the separator behind it. -/
def separated {α : Type} (stops : List Token → Bool) (separator : Phrase) (r : Reader α) :
    Reader (List (α × List Token)) :=
  repeated stops do
    let a ← r
    if stops (← next) then return (a, [])
    return (a, ← expect separator)

/-- At most so many phrases with separators, up to the first one without a separator behind it or to
where the tokens stop. -/
def joinedUpTo {α : Type} (stops : List Token → Bool) (separator : Phrase) (r : Reader α) :
    Nat → Reader (List (α × List Token))
  | 0 => refuse
  | n + 1 => do
    if stops (← next) then return []
    let a ← r
    let behind ← option separator
    if behind.isEmpty then return [(a, [])]
    return (a, behind) :: (← joinedUpTo stops separator r n)

/-- Phrases with separators, up to the first one without a separator behind it or to where the
tokens stop. -/
def joined {α : Type} (stops : List Token → Bool) (separator : Phrase) (r : Reader α) :
    Reader (List (α × List Token)) := do
  joinedUpTo stops separator r ((← next).length + 1)

/-- All tokens of phrases and their separators. -/
def inOrder (phrases : List (List Token × List Token)) : List Token :=
  phrases.flatMap fun (tokens, separator) => tokens ++ separator

/-- All phrases of a group, with commas. -/
def listed (r : Reader (List Token)) : Reader (List Token) :=
  return inOrder (← separated isEnd (mark ",") r)

/-- The result of reading all tokens as one phrase. -/
def readAll {α : Type} (r : Reader α) (tokens : List Token) : Except Defect α :=
  match r ⟨tokens, true⟩ with
  | .error defect => .error defect
  | .ok (a, ⟨[], true⟩) => .ok a
  | .ok _ => .error .notAPath

end Reader
end BoundEntity
