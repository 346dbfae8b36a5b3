import BoundEntity.Declaration.Item.Basic

/-! # Functions, constants and types inside other declarations -/
namespace BoundEntity.Reader
open Phrase

variable (types : TypeReaders) (expressions : ExpressionReaders)

/-- A variable, from its `static` on. -/
def staticItem (allowsNoType : Bool) : Reader Definition := do
  let start := (← expect (word "static")) ++ (← option (word "mut")) ++ (← expect name)
  let isUntyped := allowsNoType && (← isNext (mark "="))
  let type ←
    if isUntyped then pure []
    else
      let colon ← expect (mark ":")
      pure (colon ++ (← types.typeTokens))
  let equals ← option (mark "=")
  let value ← if equals.isEmpty then pure [] else expressions.expression
  let semicolon ← expect (mark ";")
  return ⟨!isUntyped, !equals.isEmpty, start ++ type ++ equals ++ value ++ semicolon⟩

/-- A function, with its body or a semicolon; and whether it has a body. -/
def function (allowsSafe : Bool) : Reader (Bool × List Token) := do
  let start ← signature types expressions allowsSafe
  let semicolon ← option (mark ";")
  if !semicolon.isEmpty then return (false, start ++ semicolon)
  return (true, start ++ (← expressions.body))

/-- What a trait asks for. -/
def traitMember : Reader Item := do
  let attributes ← expressions.attributes
  let visibility ← visibility
  let default ← option (word "default")
  let isUnusual := !visibility.isEmpty || !default.isEmpty
  let tokens ← next
  if (functionWords false).begins tokens then
    let (_, function) ← function types expressions false
    return ⟨isUnusual, attributes ++ function⟩
  else if (word "const").begins tokens then
    let start ← expect (word "const")
    let constant ← constantItem types expressions false
    return ⟨isUnusual || constant.isUnusual, attributes ++ start ++ constant.tokens⟩
  else if (word "type").begins tokens then
    return ⟨isUnusual, attributes ++ (← typeItem types false true).tokens⟩
  else if !isUnusual && callStart.begins tokens then return (← call false).after attributes
  else refuse

/-- What a block of a type provides. -/
def blockMember : Reader Item := do
  let attributes ← expressions.attributes
  let visibility ← visibility
  let hasDefault := !(← isNext ((word "default").andThen (mark "!")))
  let default ← if hasDefault then option (word "default") else pure []
  let start := attributes ++ visibility ++ default
  let tokens ← next
  if (functionWords false).begins tokens then
    let (hasBody, function) ← function types expressions false
    return ⟨!hasBody, start ++ function⟩
  else if (word "const").begins tokens then
    let const ← expect (word "const")
    return (← constantItem types expressions true).after (start ++ const)
  else if (word "type").begins tokens then
    let type ← typeItem types false true
    return ⟨type.hasColon || !type.hasValue, start ++ type.tokens⟩
  else if visibility.isEmpty && default.isEmpty && callStart.begins tokens then
    return (← call false).after start
  else refuse

/-- What another program provides. -/
def foreignMember : Reader Item := do
  let attributes ← expressions.attributes
  let visibility ← visibility
  let start := attributes ++ visibility
  let tokens ← next
  let safety := (word "unsafe").orElse (word "safe")
  if (functionWords true).begins tokens then
    let isSafe := !(functionWords false).begins tokens
    let (hasBody, function) ← function types expressions true
    return ⟨isSafe || hasBody, start ++ function⟩
  else if ((optional safety).andThen (word "static")).begins tokens then
    let safety ← option safety
    let static ← staticItem types expressions false
    return ⟨!safety.isEmpty || static.hasValue, start ++ safety ++ static.tokens⟩
  else if (word "type").begins tokens then
    let type ← typeItem types true true
    return ⟨type.hasColon || type.hasValue, start ++ type.tokens⟩
  else if visibility.isEmpty && callStart.begins tokens then return (← call false).after start
  else refuse

end BoundEntity.Reader
