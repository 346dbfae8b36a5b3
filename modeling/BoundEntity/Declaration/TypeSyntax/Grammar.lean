import BoundEntity.Declaration.Expression.Grammar
import BoundEntity.Declaration.TypeSyntax.Basic

/-! # The grammar of types and paths -/
namespace BoundEntity

namespace Reader
open Phrase

mutual

/-- The readers of types inside expressions. This and the readers below take the depth of the
phrases. -/
def typeReaders : (depth : Nat) → TypeReaders
  | 0 => ⟨fun _ => refuse, refuse, refuse, refuse, refuse, fun _ => refuse⟩
  | n + 1 =>
    ⟨type n, qualifiedPath n true, return (← angleArguments n).2, binder n, parameters n,
      fun place => return (← bound n place).2⟩

/-- A step of a path; in an expression, `::` comes before its arguments. -/
def segment : (depth : Nat) → (inExpression : Bool) → Reader Segment
  | 0, _ => refuse
  | n + 1, inExpression => do
    let bare ← option bareStep
    if !bare.isEmpty then return ⟨Token.render bare, none, bare⟩
    let step ← expect (name.orElse (word "Self"))
    let tokens ← next
    let isAngle := (mark "<").begins tokens && !beginsAny [mark "<=", mark "<<="] tokens
    if ((mark "::").andThen (mark "<")).begins tokens || (!inExpression && isAngle) then
      let colons ← option (mark "::")
      let (forms, args) ← angleArguments n
      return ⟨Token.render step, some forms, step ++ colons ++ args⟩
    return ⟨Token.render step, none, step⟩

/-- The steps after the first one of a path; a `::` before a round bracket is not part of it. -/
def laterSegments : (depth : Nat) → (inExpression : Bool) → Reader (List Segment)
  | 0, _ => refuse
  | n + 1, inExpression =>
    let isLast (tokens : List Token) : Bool :=
      !(mark "::").begins tokens || ((mark "::").andThen (opening .round)).begins tokens
    repeated isLast do
      let _ ← expect (mark "::")
      segment n inExpression

def path : (depth : Nat) → (inExpression : Bool) → Reader Path
  | 0, _ => refuse
  | n + 1, inExpression => do
    let start ← option (mark "::")
    let first ← segment n inExpression
    return ⟨start, first :: (← laterSegments n inExpression)⟩

/-- A path that may begin with a type in angle brackets. -/
def qualifiedPath : (depth : Nat) → (inExpression : Bool) → Reader Path
  | 0, _ => refuse
  | n + 1, inExpression => do
    let left ← option (mark "<")
    if left.isEmpty then return ← path n inExpression
    let type ← type n true
    let as ← option (word "as")
    let trait ← if as.isEmpty then pure [] else pure (← path n false).tokens
    let right := (← expect (mark ">")) ++ (← expect (mark "::"))
    let first ← segment n inExpression
    return ⟨left ++ type.tokens ++ as ++ trait ++ right, first :: (← laterSegments n inExpression)⟩

/-- A path as a trait, which may have arguments in round brackets instead of angle ones. -/
def traitPath : (depth : Nat) → Reader (List Token)
  | 0 => refuse
  | n + 1 => do
    let p ← path n false
    let start := optional (mark "::")
    if !p.takesArguments || !(← isNext (start.andThen (opening .round))) then return p.tokens
    let _ ← expect start
    let args ← enclosed .round (types n)
    return p.withoutArguments.tokens ++ args ++ (← result n)

/-- `->` and a type, if it comes next. -/
def result : (depth : Nat) → Reader (List Token)
  | 0 => refuse
  | n + 1 => do
    let arrow ← option (mark "->")
    if arrow.isEmpty then return []
    return arrow ++ (← type n false).tokens

/-- All types of a group, with commas. -/
def types : (depth : Nat) → Reader (List Token)
  | 0 => refuse
  | n + 1 => listed do return (← type n true).tokens

/-- Arguments with their angle brackets, and what they are. -/
def angleArguments : (depth : Nat) → Reader (List GenericForm × List Token)
  | 0 => refuse
  | n + 1 => do
    let left ← expect (mark "<")
    let args ← separated (mark ">").begins (mark ",") (genericArgument n)
    let right ← expect (mark ">")
    return (args.map fun (a, _) => a.form, left ++ Generic.written args ++ right)

def genericArgument : (depth : Nat) → Reader Generic
  | 0 => refuse
  | n + 1 => do
    let tokens ← next
    if lifetime.begins tokens && !(lifetime.andThen (mark "+")).begins tokens then
      return { form := .lifetime, tokens := ← expect lifetime }
    let value ← constantArgument n
    if !value.isEmpty then return { form := .constant, tokens := value }
    let type ← type n true
    match type with
    | .path p =>
      if !p.isName then return { form := .type, tokens := type.tokens }
      let equals ← option (mark "=")
      if !equals.isEmpty then
        let constant ← constantArgument n
        let value ← if constant.isEmpty then pure (← Reader.type n true).tokens else pure constant
        return { form := .associated, tokens := type.tokens ++ equals ++ value }
      let colon ← option (mark ":")
      if !colon.isEmpty then
        return { form := .associated, tokens := type.tokens ++ colon ++ (← argumentBounds n) }
      return { form := .type, tokens := type.tokens }
    | _ => return { form := .type, tokens := type.tokens }

/-- A constant or a block, if it comes next. -/
def constantArgument : (depth : Nat) → Reader (List Token)
  | 0 => refuse
  | n + 1 => do
    if ← isNext (opening .curly) then body (typeReaders n) n else option constant

/-- Bounds up to the end of an argument or a parameter in angle brackets, perhaps none. -/
def argumentBounds : (depth : Nat) → Reader (List Token)
  | 0 => refuse
  | n + 1 =>
    let stops : List Token → Bool := beginsAny [mark ",", mark ">", mark "="]
    return inOrder (← joined stops (mark "+") do return (← bound n .argument).2)

/-- `for` and parameters in angle brackets, if it comes next. -/
def binder : (depth : Nat) → Reader (List Token)
  | 0 => refuse
  | n + 1 => do
    let start ← option (word "for")
    if start.isEmpty then return []
    let left ← expect (mark "<")
    let names ← separated (mark ">").begins (mark ",") (genericParameter n)
    let names := inOrder (names.map fun (g, comma) => (g.tokens, comma))
    return start ++ left ++ names ++ (← expect (mark ">"))

/-- Parameters with their angle brackets, if they come next; without parameters the brackets are
left out. -/
def parameters : (depth : Nat) → Reader (List Token)
  | 0 => refuse
  | n + 1 => do
    let left ← option (mark "<")
    if left.isEmpty then return []
    let unnamed : Reader Generic := return ⟨.type, ← expect (word "_")⟩
    let names ← separated (mark ">").begins (mark ",") do
      let attributes ← attributes (typeReaders n) n
      let g ← if ← isNext (word "_") then unnamed else genericParameter n
      return { g with tokens := attributes ++ g.tokens }
    let right ← expect (mark ">")
    return if names.isEmpty then [] else left ++ Generic.written names ++ right

/-- A lifetime, a type or a constant as a parameter; a colon without bounds is left out. -/
def genericParameter : (depth : Nat) → Reader Generic
  | 0 => refuse
  | n + 1 => do
    let attributes ← attributes (typeReaders n) n
    let tokens ← next
    if (word "const").begins tokens then
      let start := (← expect (word "const")) ++ (← expect name) ++ (← expect (mark ":"))
      let type := (← type n true).tokens
      let equals ← option (mark "=")
      let value ←
        if equals.isEmpty then pure []
        else
          let value ← constantArgument n
          if value.isEmpty then expect name else pure value
      return ⟨.constant, attributes ++ start ++ type ++ equals ++ value⟩
    if lifetime.begins tokens then
      let start ← expect lifetime
      let colon ← option (mark ":")
      let stops (tokens : List Token) : Bool :=
        isEnd tokens || beginsAny [mark ",", mark ">"] tokens
      let bounds ← if colon.isEmpty then pure [] else joined stops (mark "+") (expect lifetime)
      let limits := if bounds.isEmpty then [] else colon ++ inOrder bounds
      return ⟨.lifetime, attributes ++ start ++ limits⟩
    let start ← expect name
    let colon ← option (mark ":")
    let bounds ← if colon.isEmpty then pure [] else argumentBounds n
    let limits := if bounds.isEmpty then [] else colon ++ bounds
    let equals ← option (mark "=")
    let value ← if equals.isEmpty then pure [] else pure (← type n true).tokens
    return ⟨.type, attributes ++ start ++ limits ++ equals ++ value⟩

/-- A lifetime, a trait or the names that a type may hold. -/
def bound : (depth : Nat) → BoundPlace → Reader (BoundForm × List Token)
  | 0, _ => refuse
  | n + 1, place => do
    let tokens ← next
    if lifetime.begins tokens then return (.lifetime, ← expect lifetime)
    if (word "use").begins tokens then
      let start := (← expect (word "use")) ++ (← expect (mark "<"))
      let captured := lifetime.orElse (name.orElse (word "Self"))
      let names ← separated (mark ">").begins (mark ",") (expect captured)
      let right ← expect (mark ">")
      if !place.allowsCapture then throw .misplacedCapture
      return (.capture, start ++ inOrder names ++ right)
    if (opening .round).begins tokens then
      return (.trait, ← enclosed .round (traitBound n place))
    return (.trait, ← traitBound n place)

/-- A trait; one that has to be constant is written as it stands. -/
def traitBound : (depth : Nat) → BoundPlace → Reader (List Token)
  | 0, _ => refuse
  | n + 1, place => do
    let ((isConst, tokens), taken) ← withTaken do
      let outer ← binder n
      let isConditional ← isNext (opening .square)
      let constness ←
        if isConditional then enclosed .square (expect (word "const")) else option (word "const")
      if !constness.isEmpty && !place.allowsConst then throw (.misplacedConst isConditional)
      let question ← option (mark "?")
      let inner ← if outer.isEmpty && !question.isEmpty then binder n else pure []
      let trait ← traitPath n
      if !question.isEmpty && !(outer ++ inner).isEmpty then throw .quantifiedOptionalTrait
      return (!constness.isEmpty, outer ++ question ++ trait)
    return if isConst then taken else tokens

/-- Bounds with `+` between them, of which only one is read where no sum is allowed; and whether
there is a trait among them. -/
def bounds : (depth : Nat) → (allowsSum : Bool) → BoundPlace → Reader (Bool × List Token)
  | 0, _, _ => refuse
  | n + 1, allowsSum, place => do
    let (form, first) ← bound n place
    let plus ← if allowsSum then option (mark "+") else pure []
    let stops (tokens : List Token) : Bool :=
      !(beginsBound tokens || (opening .square).begins tokens)
    let others ← if plus.isEmpty then pure [] else joined stops (mark "+") (bound n place)
    return (form = .trait || others.any fun ((form, _), _) => form = .trait,
      first ++ plus ++ inOrder (others.map fun ((_, tokens), plus) => (tokens, plus)))

/-- The bounds that go on from a trait. -/
def laterBounds : (depth : Nat) → Reader (List Token)
  | 0 => refuse
  | n + 1 => do
    let plus ← option (mark "+")
    if plus.isEmpty then return []
    let others ← joined (!beginsBound ·) (mark "+") do return (← bound n .object).2
    return plus ++ inOrder others

/-- The bounds that go on from a trait in brackets; none of the `+` may come last. -/
def strictBounds : (depth : Nat) → Reader (List Token)
  | 0 => refuse
  | n + 1 => do
    let others ← repeated (!(mark "+").begins ·) do
      return (← expect (mark "+")) ++ (← bound n .object).2
    return others.flatten

/-- The bounds of an object, among which a trait has to be. -/
def objectBounds : (depth : Nat) → (allowsSum : Bool) → Reader (List Token)
  | 0, _ => refuse
  | n + 1, allowsSum => do
    let (hasTrait, tokens) ← bounds n allowsSum .object
    if hasTrait then return tokens else throw .noObjectTrait

/-- A type; where no sum is allowed, a `+` ends it. -/
def type : (depth : Nat) → (allowsSum : Bool) → Reader TypeSyntax
  | 0, _ => refuse
  | n + 1, allowsSum => do
    let names ← binder n
    let tokens ← next
    if !names.isEmpty && !beginsAny [functionStart, pathWord] tokens then refuse
    if (opening .round).begins tokens then roundType n allowsSum
    else if functionStart.begins tokens then return .other (names ++ (← functionType n))
    else if pathStart.begins tokens then namedType n allowsSum names
    else if (word "dyn").begins tokens then
      let ((isStarred, tokens), taken) ← withTaken do
        let start ← expect (word "dyn")
        let star ← option (mark "*")
        return (!star.isEmpty, start ++ star ++ (← objectBounds n allowsSum))
      return .other (if isStarred then taken else tokens)
    else if (opening .square).begins tokens then
      return .other (← enclosed .square (elementType n))
    else if (mark "*").begins tokens then
      let start := (← expect (mark "*")) ++ (← expect ((word "const").orElse (word "mut")))
      return .other (start ++ (← type n false).tokens)
    else if (mark "&").begins tokens then
      let start := (← expect (mark "&")) ++ (← option lifetime) ++ (← option (word "mut"))
      return .reference (start ++ (← type n false).tokens)
    else if (word "impl").begins tokens then
      let start ← expect (word "impl")
      let (hasTrait, bounds) ← bounds n allowsSum .implemented
      if hasTrait then return .other (start ++ bounds) else throw .noImplementedTrait
    else if lifetime.begins tokens then return .other (← objectBounds n true)
    else return .other (← expect ((mark "!").orElse (word "_")))

/-- The type of the elements of an array, and its length if it has one. -/
def elementType : (depth : Nat) → Reader (List Token)
  | 0 => refuse
  | n + 1 => do
    let element := (← type n true).tokens
    let semicolon ← option (mark ";")
    if semicolon.isEmpty then return element
    return element ++ semicolon ++ (← expressionTokens (typeReaders n) n)

/-- A path as a type, a path called with `!`, or the sum of a path and bounds. -/
def namedType : (depth : Nat) → (allowsSum : Bool) → (names : List Token) → Reader TypeSyntax
  | 0, _, _ => refuse
  | n + 1, allowsSum, names => do
    let p ← qualifiedPath n false
    let tokens ← next
    if p.isQualified then return .path p
    if p.isPlain && beginsCall tokens then
      let bang ← expect (mark "!")
      return .other (p.tokens ++ bang ++ (← expect group))
    let others ← if allowsSum then laterBounds n else pure []
    if !others.isEmpty then return .other (names ++ p.tokens ++ others)
    return if names.isEmpty then .path p else .object false (names ++ p.tokens)

/-- A tuple, a type in brackets, or a sum that begins with a trait in brackets. -/
def roundType : (depth : Nat) → (allowsSum : Bool) → Reader TypeSyntax
  | 0, _ => refuse
  | n + 1, allowsSum => do
    let left ← expect (opening .round)
    let tokens ← next
    if isEnd tokens then return .other (left ++ (← close .round))
    if lifetime.begins tokens then
      let bounds ← objectBounds n true
      return .other (left ++ bounds ++ (← close .round))
    if (mark "?").begins tokens then
      let trait ← traitBound n .object
      let right ← close .round
      let others ← strictBounds n
      if others.isEmpty then return .object true trait
      return .other (left ++ trait ++ right ++ others)
    let first ← type n true
    let comma ← option (mark ",")
    if !comma.isEmpty then
      let others ← types n
      return .other (left ++ first.tokens ++ comma ++ others ++ (← close .round))
    let right ← close .round
    let bracketed (trait : List Token) : Reader TypeSyntax := do
      let others ← if allowsSum then strictBounds n else pure []
      return .other (left ++ (if others.isEmpty then first.tokens else trait) ++ right ++ others)
    match first with
    | .path p =>
      if p.isQualified then return .other (left ++ p.tokens ++ right) else bracketed p.tokens
    | .object _ trait => bracketed trait
    | _ => return .other (left ++ first.tokens ++ right)

/-- The type of a function, after its `for`. -/
def functionType : (depth : Nat) → Reader (List Token)
  | 0 => refuse
  | n + 1 => do
    let safety ← option (word "unsafe")
    let linkage ← option (word "extern")
    let language ← if linkage.isEmpty then pure [] else option text
    let start := safety ++ linkage ++ language ++ (← expect (word "fn"))
    let args ← enclosed .round (functionArguments n true)
    return start ++ args ++ (← result n)

/-- All arguments of a function type, which may have names and end with `...`. -/
def functionArguments : (depth : Nat) → (isFirst : Bool) → Reader (List Token)
  | 0, _ => refuse
  | n + 1, isFirst => do
    if isEnd (← next) then return []
    let attributes ← attributes (typeReaders n) n
    let named := (name.orElse (word "_")).andThen (mark ":")
    let others := (optional named).andThen (mark "...")
    if ← isNext others then
      let start ← expect others
      return attributes ++ start ++ (← option (mark ","))
    let first ← functionArgument n isFirst
    if isEnd (← next) then return attributes ++ first
    let comma ← expect (mark ",")
    return attributes ++ first ++ comma ++ (← functionArguments n false)

/-- An argument of a function type; the first one may be `self`. -/
def functionArgument : (depth : Nat) → (isFirst : Bool) → Reader (List Token)
  | 0, _ => refuse
  | n + 1, isFirst => do
    let mutableSelf := (word "mut").andThen (word "self")
    let isMutable := isFirst && mutableSelf.begins (← next)
    let mutability ← if isMutable then expect (word "mut") else pure []
    let tokens ← next
    let isSelf := (word "self").begins tokens
    let named ←
      if beginsArgumentName isFirst tokens then expect (anyWord.andThen (mark ":")) else pure []
    let start := mutability ++ named
    if isFirst && (!isSelf || named.isEmpty) && mutableSelf.begins (← next) then
      return start ++ (← expect mutableSelf)
    if isMutable && named.isEmpty then return start ++ (← expect (word "self"))
    return start ++ (← type n true).tokens

end

/-- A depth that no phrase of the tokens exceeds. -/
def depth (tokens : List Token) : Nat := 20 * (tokens.length + 1)

end Reader

/-- The path that a text consists of. -/
def Path.ofString? (s : String) : Except Defect Path :=
  match Token.ofString? s with
  | none => .error .unreadableText
  | some tokens => Reader.readAll (Reader.path (Reader.depth tokens) false) tokens

/-- The type that tokens make up. -/
def TypeSyntax.ofTokens? (tokens : List Token) : Except Defect TypeSyntax :=
  Reader.readAll (Reader.type (Reader.depth tokens) true) tokens

end BoundEntity
