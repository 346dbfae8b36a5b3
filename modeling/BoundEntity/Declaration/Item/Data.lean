import BoundEntity.Declaration.Item.Basic

/-! # Declarations of data inside blocks -/
namespace BoundEntity.Reader
open Phrase

variable (types : TypeReaders) (expressions : ExpressionReaders)

mutual

/-- Members with names, in braces. -/
def namedMembers : (depth : Nat) → Reader (List Token)
  | 0 => refuse
  | n + 1 => enclosed .curly (listed (namedMember n))

/-- A member with a name. One without a name may have members of its own in place of a type. -/
def namedMember : (depth : Nat) → Reader (List Token)
  | 0 => refuse
  | n + 1 => do
    let attributes ← expressions.attributes
    let visibility ← visibility
    let isUnnamed ← isNext (word "_")
    let start := attributes ++ visibility ++ (← expect (name.orElse (word "_")))
    let colon ← expect (mark ":")
    let inner := (word "struct").orElse (word "union")
    let isInner ← isNext ((word "struct").orElse ((word "union").andThen (opening .curly)))
    if isUnnamed && isInner then
      let (_, taken) ← withTaken do
        let _ ← expect inner
        namedMembers n
      return start ++ colon ++ taken
    return start ++ colon ++ (← types.typeTokens)

end

/-- Members without names, in round brackets. -/
def unnamedMembers : Reader (List Token) :=
  enclosed .round <| listed do
    let attributes ← expressions.attributes
    let visibility ← visibility
    return attributes ++ visibility ++ (← types.typeTokens)

/-- One of several forms of data; that it is visible is not written again. -/
def variant (depth : Nat) : Reader (List Token) := do
  let attributes ← expressions.attributes
  let _ ← visibility
  let name ← expect name
  let members ←
    if ← isNext (opening .curly) then namedMembers types expressions depth
    else if ← isNext (opening .round) then unnamedMembers types expressions
    else pure []
  let equals ← option (mark "=")
  let value ← if equals.isEmpty then pure [] else expressions.expression
  return attributes ++ name ++ members ++ equals ++ value

/-- Data of one form, from its name on. -/
def structItem (depth : Nat) : Reader (List Token) := do
  let name ← expect name
  let start := name ++ (← types.parameters)
  if ← isNext (opening .round) then
    let members ← unnamedMembers types expressions
    let conditions ← conditions types
    return start ++ members ++ conditions ++ (← expect (mark ";"))
  let start := start ++ (← conditions types)
  if ← isNext (opening .curly) then return start ++ (← namedMembers types expressions depth)
  return start ++ (← expect (mark ";"))

/-- Data of several forms, from its name on. -/
def enumItem (depth : Nat) : Reader (List Token) := do
  let name ← expect name
  let parameters ← types.parameters
  let conditions ← conditions types
  return name ++ parameters ++ conditions ++
    (← enclosed .curly (listed (variant types expressions depth)))

/-- Data whose members share their place, from its name on. -/
def unionItem (depth : Nat) : Reader (List Token) := do
  let name ← expect name
  let parameters ← types.parameters
  let conditions ← conditions types
  return name ++ parameters ++ conditions ++ (← namedMembers types expressions depth)

end BoundEntity.Reader
