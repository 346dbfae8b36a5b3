import BoundEntity.Declaration.Expression.Basic
import BoundEntity.Declaration.Expression.Operator
import BoundEntity.Declaration.Expression.Start
import BoundEntity.Declaration.Item.Grammar
import BoundEntity.Declaration.Pattern

/-!
# The grammar of expressions

Expressions are lengths of arrays, constants in types and values of attributes.
-/
namespace BoundEntity

namespace Reader
open Phrase

/-- A type is taken by a conversion as far as it goes, so that nothing may follow it that goes on
from an operand. -/
def endConversion : Reader Unit := do
  let tokens ← next
  let method := (mark ".").andThen <| name.andThen <| (opening .round).orElse (mark "::")
  if beginsPoint tokens then
    throw <| .conversionFollowedBy <|
      if ((mark ".").andThen (word "await")).begins tokens then "`.await`"
      else if method.begins tokens then "a method call"
      else "a field access"
  if (mark "?").begins tokens then throw (.conversionFollowedBy "`?`")
  if (opening .square).begins tokens then throw (.conversionFollowedBy "indexing")
  if (opening .round).begins tokens then throw (.conversionFollowedBy "a function call")

/-- The points of a range, and whether an end has to follow them. -/
def limits : Reader (Bool × List Token) := do
  if ← isNext (mark "..=") then return (true, ← expect (mark "..="))
  if ← isNext (mark "...") then refuse
  return (false, ← expect (mark ".."))

variable (types : TypeReaders)

mutual

/-- The readers of expressions inside patterns and declarations. -/
def expressionReaders : (depth : Nat) → ExpressionReaders
  | 0 => ⟨refuse, refuse, refuse, refuse, refuse, refuse⟩
  | n + 1 =>
    ⟨expressionTokens n, constantBlock n, body n,
      return (← pattern types (expressionReaders n) n).tokens, attributes n, innerAttributes n⟩

/-- An expression. This reader and those below take the depth of the phrases; some take whether a
path may be followed by the members of a value in braces. -/
def expression : (depth : Nat) → (allowsStruct : Bool) → Reader Expression
  | 0, _ => refuse
  | n + 1, allowsStruct => do operations n allowsStruct .jump (← operand n allowsStruct)

/-- Operators of at least some strength and their operands, after a first operand. -/
def operations : (depth : Nat) → (allowsStruct : Bool) → Strength → Expression → Reader Expression
  | 0, _, _, _ => refuse
  | n + 1, allowsStruct, least, left => do
    if left.form = .range then return left
    let tokens ← next
    match Operator.first? tokens with
    | some (symbol, strength) =>
      if !(least ≤ strength) then return left
      if strength = .comparison && left.form = .comparison then throw .chainedComparison
      let operator ← expect (mark symbol)
      let right ← rightOperand n allowsStruct strength
      let form := if strength = .comparison then .comparison else .other
      operations n allowsStruct least
        { left with form, tokens := left.tokens ++ operator ++ right.tokens }
    | none =>
      if least ≤ .assignment && Operator.isAssignment tokens then
        let operator ← expect (mark "=")
        let right ← rightOperand n allowsStruct .assignment
        operations n allowsStruct least
          { left with form := .other, tokens := left.tokens ++ operator ++ right.tokens }
      else if least ≤ .range && (mark "..").begins tokens then
        return .range (left.tokens ++ (← rangeEnd n allowsStruct))
      else if least ≤ .conversion && (word "as").begins tokens then
        let operator ← expect (word "as")
        let type ← types.type false
        endConversion
        operations n allowsStruct least
          { left with form := .other, tokens := left.tokens ++ operator ++ type.tokens }
      else return left

/-- The right operand of an operator: an operand with all that binds more strongly. -/
def rightOperand : (depth : Nat) → (allowsStruct : Bool) → Strength → Reader Expression
  | 0, _, _ => refuse
  | n + 1, allowsStruct, strength => do
    strongerOperations n allowsStruct strength (← operand n allowsStruct)

def strongerOperations :
    (depth : Nat) → (allowsStruct : Bool) → Strength → Expression → Reader Expression
  | 0, _, _, _ => refuse
  | n + 1, allowsStruct, strength, left => do
    let tokens ← next
    let nextStrength := Operator.strength tokens
    if nextStrength ≤ strength && !(nextStrength = .assignment && strength = .assignment) then
      return left
    let right ← operations n allowsStruct nextStrength left
    if (← next).length = tokens.length then return right
    strongerOperations n allowsStruct strength right

/-- The points of a range and its end. -/
def rangeEnd : (depth : Nat) → (allowsStruct : Bool) → Reader (List Token)
  | 0, _ => refuse
  | n + 1, allowsStruct => do
    let (isClosed, points) ← limits
    if !isClosed && endsRange allowsStruct (← next) then return points
    return points ++ (← rightOperand n allowsStruct .range).tokens

/-- An operand with the signs before it. -/
def operand : (depth : Nat) → (allowsStruct : Bool) → Reader Expression
  | 0, _ => refuse
  | n + 1, allowsStruct => do
    let attributes ← attributes n
    let tokens ← next
    if (mark "&").begins tokens then
      let sign ← expect (mark "&")
      let address := (word "raw").andThen ((word "mut").orElse (word "const"))
      let mutability ← if ← isNext address then expect address else option (word "mut")
      let referent ← operand n allowsStruct
      return .other (attributes ++ sign ++ mutability ++ referent.tokens)
    let sign ← option ((mark "*").orElse ((mark "!").orElse (mark "-")))
    if !sign.isEmpty then
      return .other (attributes ++ sign ++ (← operand n allowsStruct).tokens)
    let e ← trailers n (← atom n allowsStruct)
    if e.form = .range && !attributes.isEmpty then throw .attributeOfOpenRange
    return e.after attributes

/-- Calls, members, indices and `?` after an expression. -/
def trailers : (depth : Nat) → Expression → Reader Expression
  | 0, _ => refuse
  | n + 1, e => do
    let tokens ← next
    if (opening .round).begins tokens then
      trailers n (.other (e.tokens ++ (← enclosed .round (expressions n))))
    else if (opening .square).begins tokens then
      trailers n (.other (e.tokens ++ (← enclosed .square (expressionTokens n))))
    else if e.form = .range then return e
    else if beginsPoint tokens then
      let point ← expect (mark ".")
      trailers n (.other (e.tokens ++ point ++ (← memberAccess n)))
    else if (mark "?").begins tokens then
      trailers n (.other (e.tokens ++ (← expect (mark "?"))))
    else return e

/-- A member, a call of a method or `await`, after the point. -/
def memberAccess : (depth : Nat) → Reader (List Token)
  | 0 => refuse
  | n + 1 => do
    let (isComplete, numbers) ← fractionMembers
    if isComplete then return numbers
    if ← isNext (word "await") then return numbers ++ (← expect (word "await"))
    let (isNamed, member) ← member
    if !isNamed then return numbers ++ member
    let colons ← option (mark "::")
    let arguments ← if colons.isEmpty then pure [] else types.arguments
    if !colons.isEmpty || (← isNext (opening .round)) then
      return numbers ++ member ++ colons ++ arguments ++ (← enclosed .round (expressions n))
    return numbers ++ member

def expressionTokens : (depth : Nat) → Reader (List Token)
  | 0 => refuse
  | n + 1 => return (← expression n true).tokens

/-- All expressions of a group, with commas. -/
def expressions : (depth : Nat) → Reader (List Token)
  | 0 => refuse
  | n + 1 => listed (expressionTokens n)

/-- The elements of an array, or one of them and how often it stands there. -/
def elements : (depth : Nat) → Reader (List Token)
  | 0 => refuse
  | n + 1 => do
    if isEnd (← next) then return []
    let first ← expressionTokens n
    let semicolon ← option (mark ";")
    if !semicolon.isEmpty then return first ++ semicolon ++ (← expressionTokens n)
    if isEnd (← next) then return first
    let comma ← expect (mark ",")
    return first ++ comma ++ (← expressions n)

/-- An expression that no operator and no trailer splits. -/
def atom : (depth : Nat) → (allowsStruct : Bool) → Reader Expression
  | 0, _ => refuse
  | n + 1, allowsStruct => do
    let tokens ← next
    let future := (word "async").andThen (opening .curly)
    let movingFuture := (word "async").andThen ((word "move").andThen (opening .curly))
    let tryPath := (word "try").andThen ((mark "!").orElse (mark "::"))
    let intrinsic := (word "builtin").andThen (mark "#")
    if constant.begins tokens then return .other (← expect constant)
    else if beginsAny [future, movingFuture] tokens then
      let start := (← expect (word "async")) ++ (← option (word "move"))
      return .other (start ++ (← block n))
    else if beginsClosure tokens then closure n allowsStruct
    else if intrinsic.begins tokens then
      let start := (← expect intrinsic) ++ (← expect name)
      if !(← isNext (opening .round)) then refuse
      return { Expression.other (start ++ (← expect group)) with keepsAttributes := false }
    else if beginsBlock tokens then blockExpression n
    else if beginsAny [pathStart, tryPath] tokens then pathExpression n allowsStruct
    else if (opening .round).begins tokens then return .other (← enclosed .round (expressions n))
    else if (opening .square).begins tokens then return .other (← enclosed .square (elements n))
    else if (word "break").begins tokens then breakExpression n allowsStruct
    else if (word "continue").begins tokens then
      return .other ((← expect (word "continue")) ++ (← option lifetime))
    else if (word "become").begins tokens then
      let (_, taken) ← withTaken do
        let _ ← expect (word "become")
        expression n true
      return { Expression.other taken with keepsAttributes := false }
    else if beginsAny [word "return", word "yield"] tokens then
      let jump ← expect anyWord
      if !beginsValue (← next) then return .other jump
      return .other (jump ++ (← expressionTokens n))
    else if (word "let").begins tokens then
      let start ← expect (word "let")
      let pattern ← alternatives types (expressionReaders n) n
      let equals ← expect (mark "=")
      let value ← operations n allowsStruct .comparison (← operand n allowsStruct)
      return .other (start ++ pattern.tokens ++ equals ++ value.tokens)
    else if (mark "..").begins tokens then return .range (← rangeEnd n allowsStruct)
    else return .other (← expect (word "_"))

/-- A path, which may be called with `!` or followed by members in braces. -/
def pathExpression : (depth : Nat) → (allowsStruct : Bool) → Reader Expression
  | 0, _ => refuse
  | n + 1, allowsStruct => do
    let path ← types.path
    let tokens ← next
    if path.isPlain && beginsCall tokens then
      let bang ← expect (mark "!")
      let form := if ← isNext (opening .curly) then .expansion else .other
      return { form, tokens := path.tokens ++ bang ++ (← expect group) }
    if allowsStruct && (opening .curly).begins tokens then
      return .other (path.tokens ++ (← enclosed .curly (memberValues n)))
    return .other path.tokens

/-- The values of members, with commas, and perhaps `..` and another value at the end. -/
def memberValues : (depth : Nat) → Reader (List Token)
  | 0 => refuse
  | n + 1 => do
    if isEnd (← next) then return []
    let points ← option (mark "..")
    if !points.isEmpty then
      if isEnd (← next) then return points
      return points ++ (← expressionTokens n)
    let attributes ← attributes n
    let (isNamed, member) ← member
    let tokens ← next
    let value ←
      if isNamed && (!(mark ":").begins tokens || (mark "::").begins tokens) then pure []
      else
        let colon ← expect (mark ":")
        pure (colon ++ (← expressionTokens n))
    let first := attributes ++ member ++ value
    if isEnd (← next) then return first
    let comma ← expect (mark ",")
    return first ++ comma ++ (← memberValues n)

def breakExpression : (depth : Nat) → (allowsStruct : Bool) → Reader Expression
  | 0, _ => refuse
  | n + 1, allowsStruct => do
    let start ← expect (word "break")
    if ← isNext (lifetime.andThen (mark ":")) then
      let _ ← expression n true
      throw .labelledBreakValue
    let label ← option lifetime
    let tokens ← next
    if beginsValue tokens && (allowsStruct || !(opening .curly).begins tokens) then
      return .other (start ++ label ++ (← expressionTokens n))
    return .other (start ++ label)

def closure : (depth : Nat) → (allowsStruct : Bool) → Reader Expression
  | 0, _ => refuse
  | n + 1, allowsStruct => do
    let names ← types.binder
    let first := (← option (word "const")) ++ (← option (word "static"))
    let second := (← option (word "async")) ++ (← option (word "move"))
    let left ← expect (mark "|")
    let parameters ← separated (mark "|").begins (mark ",") (parameter n)
    let parameters := inOrder parameters
    let start := names ++ first ++ second ++ left ++ parameters ++ (← expect (mark "|"))
    let arrow ← option (mark "->")
    if arrow.isEmpty then return .other (start ++ (← expression n allowsStruct).tokens)
    let type ← types.typeTokens
    return .other (start ++ arrow ++ type ++ (← block n))

/-- A pattern that may have a type. -/
def parameter : (depth : Nat) → Reader (List Token)
  | 0 => refuse
  | n + 1 => do
    let attributes ← attributes n
    let pattern ← pattern types (expressionReaders n) n
    let colon ← option (mark ":")
    let type ← if colon.isEmpty then pure [] else types.typeTokens
    return attributes ++ pattern.tokens ++ colon ++ type

/-- A block, a condition, a choice or a loop. -/
def blockExpression : (depth : Nat) → Reader Expression
  | 0 => refuse
  | n + 1 => do
    let label ← option lifetime
    let colon ← if label.isEmpty then pure [] else expect (mark ":")
    let tokens ← next
    if !label.isEmpty &&
        !beginsAny [word "while", word "for", word "loop", opening .curly] tokens then refuse
    let start := label ++ colon
    if (word "if").begins tokens then return .block (← ifExpression n)
    else if (word "while").begins tokens then
      let start := start ++ (← expect (word "while"))
      let test ← expression n false
      return .block (start ++ test.tokens ++ (← body n))
    else if (word "for").begins tokens then
      let start := start ++ (← expect (word "for"))
      let pattern ← alternatives types (expressionReaders n) n
      let source ← expect (word "in")
      let range ← expression n false
      return .block (start ++ pattern.tokens ++ source ++ range.tokens ++ (← body n))
    else if (word "match").begins tokens then
      let start ← expect (word "match")
      let value ← expression n false
      return .block (start ++ value.tokens ++ (← enclosed .curly (choices n)))
    else if (word "try").begins tokens then
      let start ← expect (word "try")
      return .block (start ++ (← block n))
    else
      let start := start ++
        (← option ((word "loop").orElse ((word "unsafe").orElse (word "const"))))
      return .block (start ++ (← body n))

def ifExpression : (depth : Nat) → Reader (List Token)
  | 0 => refuse
  | n + 1 => do
    let start ← expect (word "if")
    let test ← expression n false
    let first := start ++ test.tokens ++ (← block n)
    let otherwise ← option (word "else")
    if otherwise.isEmpty then return first
    let second ← if ← isNext (word "if") then ifExpression n else block n
    return first ++ otherwise ++ second

/-- The choices of a `match`, after its attributes. -/
def choices : (depth : Nat) → Reader (List Token)
  | 0 => refuse
  | n + 1 => return (← innerAttributes n) ++ (← repeated isEnd (choice n)).flatten

def choice : (depth : Nat) → Reader (List Token)
  | 0 => refuse
  | n + 1 => do
    let attributes ← attributes n
    let pattern ← alternatives types (expressionReaders n) n
    let question ← option (word "if")
    let guard ← if question.isEmpty then pure [] else expressionTokens n
    let arrow ← expect (mark "=>")
    let value ← statementExpression n
    let comma ←
      if value.form = .block || isEnd (← next) then option (mark ",") else expect (mark ",")
    return attributes ++ pattern.tokens ++ question ++ guard ++ arrow ++ value.tokens ++ comma

/-- A block in braces. -/
def block : (depth : Nat) → Reader (List Token)
  | 0 => refuse
  | n + 1 => enclosed .curly (statements n)

/-- A block in braces that may begin with attributes of its own. -/
def body : (depth : Nat) → Reader (List Token)
  | 0 => refuse
  | n + 1 => enclosed .curly do return (← innerAttributes n) ++ (← statements n)

def constantBlock : (depth : Nat) → Reader (List Token)
  | 0 => refuse
  | n + 1 => return (← expect (word "const")) ++ (← body n)

/-- All statements of a block. -/
def statements : (depth : Nat) → Reader (List Token)
  | 0 => refuse
  | n + 1 => do
    let all ← repeated isEnd do
      let semicolon ← option (mark ";")
      if !semicolon.isEmpty then return semicolon
      let ((needsSemicolon, i), taken) ← withTaken (statement n)
      if needsSemicolon && !isEnd (← next) then refuse
      return i.written taken
    return all.flatten

/-- A statement, and whether it lacks a semicolon that has to follow before another statement. -/
def statement : (depth : Nat) → Reader (Bool × Item)
  | 0 => refuse
  | n + 1 => do
    let attributes ← attributes n
    let tokens ← next
    let called := plainPath.andThen (mark "!")
    let expansion := called.andThen (opening .curly)
    let hasTrailer :=
      match (called.andThen group) tokens with
      | some (_, rest) => beginsPoint rest || (mark "?").begins rest
      | none => false
    if expansion.begins tokens && !hasTrailer then
      let call := (← expect called) ++ (← expect group)
      return (false, .usual (attributes ++ call ++ (← option (mark ";"))))
    else if (word "let").begins tokens then
      return (false, .usual (attributes ++ (← binding n)))
    else if beginsItem tokens || (called.andThen (name.orElse (word "try"))).begins tokens then
      return (false, (← item types (expressionReaders n) n).after attributes)
    else
      let e ← statementExpression n
      let semicolon ← option (mark ";")
      let attributes := if e.keepsAttributes then attributes else []
      return (semicolon.isEmpty && e.needsSemicolon, .usual (attributes ++ e.tokens ++ semicolon))

/-- An expression that ends with its braces if it begins with a block. -/
def statementExpression : (depth : Nat) → Reader Expression
  | 0 => refuse
  | n + 1 => do
    let attributes ← attributes n
    let e ← if beginsBlock (← next) then blockExpression n else operand n true
    if e.form ≠ .block then return ← operations n true .jump (e.after attributes)
    let tokens ← next
    if beginsPoint tokens || (mark "?").begins tokens then
      return ← operations n true .jump ((← trailers n e).after attributes)
    return e.after attributes

/-- A `let` with its semicolon. -/
def binding : (depth : Nat) → Reader (List Token)
  | 0 => refuse
  | n + 1 => do
    let start ← expect (word "let")
    let pattern ← pattern types (expressionReaders n) n
    let colon ← option (mark ":")
    let type ← if colon.isEmpty then pure [] else types.typeTokens
    let first := start ++ pattern.tokens ++ colon ++ type
    let equals ← option (mark "=")
    if equals.isEmpty then return first ++ (← expect (mark ";"))
    let value ← expression n true
    let otherwise ← if value.endsInBrace then pure [] else option (word "else")
    let alternative ← if otherwise.isEmpty then pure [] else block n
    return first ++ equals ++ value.tokens ++ otherwise ++ alternative ++ (← expect (mark ";"))

/-- Attributes of what follows them. -/
def attributes : (depth : Nat) → Reader (List Token)
  | 0 => refuse
  | n + 1 => do
    let all ← repeated (!(mark "#").begins ·) do
      return (← expect (mark "#")) ++ (← enclosed .square (attributeContent n))
    return all.flatten

/-- Attributes of the group that they begin. -/
def innerAttributes : (depth : Nat) → Reader (List Token)
  | 0 => refuse
  | n + 1 => do
    let sign := (mark "#").andThen (mark "!")
    let all ← repeated (!sign.begins ·) do
      return (← expect sign) ++ (← enclosed .square (attributeContent n))
    return all.flatten

/-- The inside of an attribute: a path, perhaps with a group or a value. -/
def attributeContent : (depth : Nat) → Reader (List Token)
  | 0 => refuse
  | n + 1 => do
    let path ← expect ((word "unsafe").orElse plainPath)
    let tokens ← next
    if group.begins tokens then return path ++ (← expect group)
    if !Operator.isAssignment tokens || (mark "==").begins tokens then return path
    let equals ← expect (mark "=")
    if ← isNext ((mark "#").andThen (opening .square)) then refuse
    return path ++ equals ++ (← expressionTokens n)

end

end Reader
end BoundEntity
