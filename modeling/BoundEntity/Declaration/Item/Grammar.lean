import BoundEntity.Declaration.Item.Data
import BoundEntity.Declaration.Item.Member

/-! # The grammar of declarations inside blocks -/
namespace BoundEntity.Reader
open Phrase

/-- The names that a `use` brings in. A `::` may begin the names of a group that is no part of a
longer path. -/
def useTree : (depth : Nat) → (isRoot : Bool) → Reader (List Token)
  | 0, _ => refuse
  | n + 1, isRoot => do
    let step := name.orElse <| only fun t =>
      [.word "self", .word "super", .word "crate", .word "try"].contains t
    if ← isNext step then
      let start ← expect step
      let colons ← option (mark "::")
      if !colons.isEmpty then return start ++ colons ++ (← useTree n false)
      let as ← option (word "as")
      if as.isEmpty then return start
      return start ++ as ++ (← expect (name.orElse (word "_")))
    if ← isNext (opening .curly) then
      return ← enclosed .curly <| listed do
        let colons ← if isRoot then option (mark "::") else pure []
        return colons ++ (← useTree n (isRoot && colons.isEmpty))
    expect (mark "*")

variable (types : TypeReaders) (expressions : ExpressionReaders)

/-- A `use`, from its word on. -/
def useItem : Reader (List Token) := do
  let start := (← expect (word "use")) ++ (← option (mark "::"))
  let isRoot := start.length = 1
  let tree ← useTree ((← next).length + 1) isRoot
  return start ++ tree ++ (← expect (mark ";"))

/-- Another package that is named, from `extern` on. -/
def packageItem : Reader (List Token) := do
  let start ← expect ((word "extern").andThen (word "crate"))
  let name ← expect (name.orElse (word "self"))
  let as ← option (word "as")
  let second ← if as.isEmpty then pure [] else expect (Phrase.name.orElse (word "_"))
  return start ++ name ++ as ++ second ++ (← expect (mark ";"))

/-- The members of a declaration in braces, after its attributes. -/
def members (member : Reader Item) : Reader (List Token) :=
  enclosed .curly do
    let attributes ← expressions.innerAttributes
    return attributes ++ (← repeated isEnd (writtenItem member)).flatten

/-- What another program provides, from `extern` on. -/
def foreignItem : Reader (List Token) := do
  let start := (← expect (word "extern")) ++ (← option text)
  return start ++ (← members expressions (foreignMember types expressions))

/-- A trait, from its word on; an alias of one is only allowed without other words before it. -/
def traitItem (allowsAlias : Bool) : Reader (List Token) := do
  let start := (← expect (word "trait")) ++ (← expect name)
  let start := start ++ (← types.parameters)
  let equals ← if allowsAlias then option (mark "=") else pure []
  if !equals.isEmpty then
    let stops : List Token → Bool := beginsAny [word "where", mark ";"]
    let bounds ← separated stops (mark "+") (types.bound .object)
    let conditions ← conditions types
    return start ++ equals ++ inOrder bounds ++ conditions ++ (← expect (mark ";"))
  let colon ← option (mark ":")
  let stops : List Token → Bool := beginsAny [word "where", opening .curly]
  let bounds ←
    if colon.isEmpty then pure [] else separated stops (mark "+") (types.bound .argument)
  let conditions ← conditions types
  return start ++ (if bounds.isEmpty then [] else colon) ++ inOrder bounds ++ conditions ++
    (← members expressions (traitMember types expressions))

/-- A block of a type or of a trait for it, from `impl` on. -/
def blockItem : Reader Item := do
  let start ← expect (word "impl")
  let parameters ← if beginsParameters (← next) then types.parameters else pure []
  let const ← option ((optional (mark "?")).andThen (word "const"))
  let isNegative := !(← isNext ((mark "!").andThen (opening .curly))) && (← isNext (mark "!"))
  let bang ← if isNegative then expect (mark "!") else pure []
  let first ← types.type true
  let link ← option (word "for")
  let second ← if link.isEmpty then pure [] else types.typeTokens
  if link.isEmpty && isNegative then throw .negativeInherentBlock
  let conditions ← conditions types
  let members ← members expressions (blockMember types expressions)
  let isTrait :=
    match first with
    | .path p => !p.isQualified
    | _ => false
  return ⟨!const.isEmpty || (!link.isEmpty && !isTrait),
    start ++ parameters ++ const ++ bang ++ first.tokens ++ link ++ second ++ conditions ++ members⟩

/-- A declaration that defines what calls with `!` stand for, from its word on. -/
def expansionItem : Reader Item := do
  let start := (← expect (word "macro")) ++ (← expect name)
  let pattern ← if ← isNext (opening .round) then expect group else pure []
  if !(← isNext (opening .curly)) then refuse
  return ⟨true, start ++ pattern ++ (← expect group)⟩

mutual

/-- A declaration after its attributes. -/
def item : (depth : Nat) → Reader Item
  | 0 => refuse
  | n + 1 => do
    let visibility ← visibility
    let tokens ← next
    let usual (r : Reader (List Token)) : Reader Item := return .usual (visibility ++ (← r))
    let foreign := (optional (word "unsafe")).andThen <| (word "extern").andThen <|
      (optional text).andThen (opening .curly)
    let trait := (optional (word "unsafe")).andThen <|
      (optional (word "auto")).andThen (word "trait")
    let isDefault :=
      (word "default").begins tokens && !((word "default").andThen (mark "!")).begins tokens
    if (functionWords false).begins tokens then
      let (hasBody, function) ← function types expressions false
      return ⟨!hasBody, visibility ++ function⟩
    else if ((word "extern").andThen (word "crate")).begins tokens then usual packageItem
    else if foreign.begins tokens then
      if !visibility.isEmpty then refuse
      let safety ← option (word "unsafe")
      return .usual (safety ++ (← foreignItem types expressions))
    else if (word "use").begins tokens then usual useItem
    else if (word "static").begins tokens then
      let static ← staticItem types expressions true
      return ⟨!static.hasColon || !static.hasValue, visibility ++ static.tokens⟩
    else if (word "const").begins tokens then
      let const ← expect (word "const")
      return (← constantItem types expressions true).after (visibility ++ const)
    else if trait.begins tokens then
      let words := (← option (word "unsafe")) ++ (← option (word "auto"))
      usual do return words ++ (← traitItem types expressions words.isEmpty)
    else if ((optional (word "unsafe")).andThen (word "mod")).begins tokens then
      usual (moduleItem n)
    else if (word "type").begins tokens then
      let type ← typeItem types true false
      return ⟨type.hasColon || !type.hasValue, visibility ++ type.tokens⟩
    else if (word "struct").begins tokens then
      usual do return (← expect (word "struct")) ++ (← structItem types expressions n)
    else if (word "enum").begins tokens then
      usual do return (← expect (word "enum")) ++ (← enumItem types expressions n)
    else if ((word "union").andThen name).begins tokens then
      usual do return (← expect (word "union")) ++ (← unionItem types expressions n)
    else if ((optional (word "unsafe")).andThen (word "impl")).begins tokens || isDefault then
      let words := (← option (word "default")) ++ (← option (word "unsafe"))
      let block ← blockItem types expressions
      return ⟨block.isUnusual || !visibility.isEmpty, words ++ block.tokens⟩
    else if (word "macro").begins tokens then expansionItem
    else if visibility.isEmpty && callStart.begins tokens then call true
    else refuse

/-- A module, with its declarations or without them. -/
def moduleItem : (depth : Nat) → Reader (List Token)
  | 0 => refuse
  | n + 1 => do
    let start := (← option (word "unsafe")) ++ (← expect (word "mod")) ++
      (← expect (name.orElse (word "try")))
    let semicolon ← option (mark ";")
    if !semicolon.isEmpty then return start ++ semicolon
    let member : Reader Item := do
      let attributes ← expressions.attributes
      return (← item n).after attributes
    return start ++ (← members expressions member)

end

end BoundEntity.Reader
