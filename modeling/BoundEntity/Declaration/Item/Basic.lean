import BoundEntity.Declaration.PartReaders

/-!
# Declarations inside blocks

What the kinds of declarations have in common: where they are visible, the conditions on their
parameters, and the beginnings of functions.
-/
namespace BoundEntity

/-- A declaration. One that is only allowed by a later language, or nowhere, is written as it
stands. -/
structure Item where
  isUnusual : Bool
  tokens : List Token
deriving DecidableEq

namespace Item

def usual (tokens : List Token) : Item := ⟨false, tokens⟩

def after (tokens : List Token) (i : Item) : Item := { i with tokens := tokens ++ i.tokens }

/-- The declaration as it is written again, where it has been written with some tokens. -/
def written (i : Item) (taken : List Token) : List Token := if i.isUnusual then taken else i.tokens

end Item

namespace Phrase

/-- The words of a function before its name. -/
def functionWords (allowsSafe : Bool) : Phrase :=
  let safety := (word "unsafe").orElse (if allowsSafe then word "safe" else only fun _ => false)
  (optional (word "const")).andThen <| (optional (word "async")).andThen <|
    (optional safety).andThen <|
      (optional ((word "extern").andThen (optional text))).andThen (word "fn")

/-- Whether the conditions on parameters end in front of the tokens. -/
def endsConditions (tokens : List Token) : Bool :=
  isEnd tokens || beginsAny [opening .curly, mark ",", mark ";", mark "="] tokens ||
    ((mark ":").begins tokens && !(mark "::").begins tokens)

/-- A call with `!` that is a declaration begins with one of these. -/
def callStart : Phrase :=
  (mark "::").orElse <| name.orElse <| only fun t =>
    [.word "self", .word "super", .word "crate"].contains t

end Phrase

namespace Reader
open Phrase

/-- A declaration as it is written again. -/
def writtenItem (r : Reader Item) : Reader (List Token) := do
  let (i, taken) ← withTaken r
  return i.written taken

/-- `pub`, perhaps with how far it reaches, if it comes next. -/
def visibility : Reader (List Token) := do
  let start ← option (word "pub")
  if start.isEmpty then return []
  let place := (word "crate").orElse ((word "self").orElse (word "super"))
  let scope := (opening .round).andThen (place.andThen (closing .round))
  if ← isNext ((opening .round).andThen (word "in")) then
    return start ++ (← enclosed .round do
      let start ← expect (word "in")
      return start ++ (← expect plainPath))
  return start ++ (← option scope)

/-- A path called with `!`; a semicolon follows all but braces. -/
def call (isNamed : Bool) : Reader Item := do
  let start := (← expect plainPath) ++ (← expect (mark "!"))
  let named ← if isNamed then option (name.orElse (word "try")) else pure []
  let isBraced ← isNext (opening .curly)
  let content ← expect group
  let semicolon ← if isBraced then pure [] else expect (mark ";")
  return .usual (start ++ named ++ content ++ semicolon)

variable (types : TypeReaders) (expressions : ExpressionReaders)

/-- Bounds with `+` between them, as long as there are more. -/
def boundsUpTo (stops : List Token → Bool) (place : BoundPlace) : Reader (List Token) :=
  return inOrder (← joined stops (mark "+") (types.bound place))

/-- A condition on a lifetime or on a type. -/
def condition : Reader (List Token) := do
  if ← isNext (lifetime.andThen (mark ":")) then
    let start ← expect (lifetime.andThen (mark ":"))
    let stops (tokens : List Token) : Bool := endsConditions tokens || (mark ":").begins tokens
    return start ++ inOrder (← joined stops (mark "+") (expect lifetime))
  let names ← types.binder
  let type ← types.typeTokens
  let colon ← expect (mark ":")
  return names ++ type ++ colon ++ (← boundsUpTo types endsConditions .argument)

/-- `where` and conditions, if it comes next; without conditions it is left out. -/
def conditions : Reader (List Token) := do
  let start ← option (word "where")
  if start.isEmpty then return []
  if beginsParameters (← next) then throw .quantifiedConditions
  let conditions ← joined endsConditions (mark ",") (condition types)
  return if conditions.isEmpty then [] else start ++ inOrder conditions

/-- The value that a function is called for, if it comes next. -/
def receiver : Phrase := fun tokens =>
  let reference := (mark "&").andThen (optional lifetime)
  match ((optional reference).andThen ((optional (word "mut")).andThen (word "self"))) tokens with
  | some (taken, rest) => if (mark "::").begins rest then none else some (taken, rest)
  | none => none

/-- An argument of a function and whether it is the last one, as `...` is. A type without a name is
an old form, in which a name of no meaning is written before it. -/
def argument (isFirst : Bool) : Reader (Bool × List Token) := do
  let attributes ← expressions.attributes
  if ← isNext (mark "...") then return (true, attributes ++ (← expect (mark "...")))
  let self ← option receiver
  if !self.isEmpty then
    let colon ← if (mark "&").begins self then pure [] else option (mark ":")
    let type ← if colon.isEmpty then pure [] else types.typeTokens
    if !isFirst then refuse
    return (false, attributes ++ self ++ colon ++ type)
  if ← isNext (name.andThen (mark "<")) then
    return (false, attributes ++ [.word "_", .mark ':' false] ++ (← types.typeTokens))
  let pattern ← expressions.pattern
  let start := attributes ++ pattern ++ (← expect (mark ":"))
  if ← isNext (mark "...") then return (true, start ++ (← expect (mark "...")))
  return (false, start ++ (← types.typeTokens))

/-- At most so many arguments of a function, with commas. -/
def argumentsUpTo : Nat → (isFirst : Bool) → Reader (List Token)
  | 0, _ => refuse
  | n + 1, isFirst => do
    if isEnd (← next) then return []
    let (isLast, first) ← argument types expressions isFirst
    if isEnd (← next) then return first
    let comma ← expect (mark ",")
    if isLast then return first ++ comma
    return first ++ comma ++ (← argumentsUpTo n false)

/-- A function up to its body. -/
def signature (allowsSafe : Bool) : Reader (List Token) := do
  let words ← expect (functionWords allowsSafe)
  let name ← expect name
  let parameters ← types.parameters
  let arguments ← enclosed .round do
    argumentsUpTo types expressions ((← next).length + 1) true
  let arrow ← option (mark "->")
  let type ← if arrow.isEmpty then pure [] else types.typeTokens
  return words ++ name ++ parameters ++ arguments ++ arrow ++ type ++ (← conditions types)

/-- The name, the type and the value of a constant, after its `const`. -/
def constantItem (needsValue : Bool) : Reader Item := do
  let name ← expect (name.orElse (word "_"))
  let isGeneric ← isNext (mark "<")
  let parameters ← types.parameters
  let colon ← expect (mark ":")
  let type ← types.typeTokens
  let equals ← option (mark "=")
  let value ← if equals.isEmpty then pure [] else expressions.expression
  let isConditional ← isNext (word "where")
  let conditions ← conditions types
  let semicolon ← expect (mark ";")
  return ⟨isGeneric || isConditional || (needsValue && equals.isEmpty),
    name ++ parameters ++ colon ++ type ++ equals ++ value ++ conditions ++ semicolon⟩

/-- A name with what follows a colon, and with a value; both may be missing. -/
structure Definition where
  hasColon : Bool
  hasValue : Bool
  tokens : List Token

/-- A type with parameters, bounds, conditions and a value, each of which may be missing. Conditions
may come before the value, after it, or in both places if not twice. -/
def typeItem (isConditionFirst isConditionLast : Bool) : Reader Definition := do
  let start := (← expect (word "type")) ++ (← expect name)
  let parameters ← types.parameters
  let colon ← option (mark ":")
  let stops : List Token → Bool := beginsAny [word "where", mark "=", mark ";"]
  let bounds ←
    if colon.isEmpty then pure []
    else pure (inOrder (← separated stops (mark "+") (types.bound .argument)))
  let isConditional := isConditionFirst && (← isNext (word "where"))
  let early ← if isConditionFirst then conditions types else pure []
  let equals ← option (mark "=")
  let value ← if equals.isEmpty then pure [] else types.typeTokens
  let late ← if isConditionLast && !isConditional then conditions types else pure []
  let semicolon ← expect (mark ";")
  return ⟨!colon.isEmpty, !equals.isEmpty,
    start ++ parameters ++ (if bounds.isEmpty then [] else colon) ++ bounds ++ early ++ equals ++
      value ++ late ++ semicolon⟩

end Reader
end BoundEntity
