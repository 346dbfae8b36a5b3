import BoundEntity.Declaration.Member
import BoundEntity.Declaration.PartReaders

/-!
# Patterns

The grammar of the patterns that take a value apart.
-/
namespace BoundEntity

/-- A pattern; whether it is a range that lacks an end matters inside square brackets. -/
structure Pattern where
  isUnbounded : Bool
  tokens : List Token
deriving DecidableEq

namespace Reader
open Phrase

/-- Whether a pattern begins with a path. -/
def beginsPathPattern (tokens : List Token) : Bool :=
  let isPathName : Phrase := name.andThen <|
    (mark "::").orElse <| (mark "!").orElse <| (opening .curly).orElse <| (opening .round).orElse <|
      mark ".."
  [isPathName, (word "self").andThen (mark "::"), mark "::", mark "<", word "Self", word "super",
    word "crate"].any fun p => p.begins tokens

/-- Whether a range has no end in front of the tokens. -/
def endsPatternRange (tokens : List Token) : Bool :=
  isEnd tokens || ((mark ":").begins tokens && !(mark "::").begins tokens) ||
    [mark "|", mark "=", mark ",", mark ";", word "if"].any fun p => p.begins tokens

/-- The points of a range, and whether an end has to follow them; three points stand for two and an
equals sign. -/
def patternLimits : Reader (Bool × List Token) := do
  if ← isNext (mark "..=") then return (true, ← expect (mark "..="))
  if ← isNext (mark "...") then
    let _ ← expect (mark "...")
    return (true, [.mark '.' true, .mark '.' true, .mark '=' false])
  return (false, ← expect (mark ".."))

variable (types : TypeReaders) (expressions : ExpressionReaders)

/-- An end of a range, if there is one. -/
def patternBound : Reader (List Token) := do
  let tokens ← next
  if endsPatternRange tokens then return []
  if constant.begins tokens then return ← expect constant
  if (word "const").begins tokens then return ← expressions.constantBlock
  if pathStart.begins tokens then return (← types.path).tokens
  refuse

/-- The points and the end of a range that has begun. -/
def patternRange (start : List Token) : Reader Pattern := do
  let (isClosed, limits) ← patternLimits
  let stop ← patternBound types expressions
  if isClosed && stop.isEmpty then refuse
  return ⟨stop.isEmpty, start ++ limits ++ stop⟩

mutual

/-- A pattern without alternatives. This reader and those below take the depth of the phrases. -/
def pattern : (depth : Nat) → Reader Pattern
  | 0 => refuse
  | n + 1 => do
    let tokens ← next
    if beginsPathPattern tokens then pathPattern n
    else if (word "_").begins tokens then return ⟨false, ← expect (word "_")⟩
    else if (word "box").begins tokens then
      let (_, taken) ← withTaken do
        let _ ← expect (word "box")
        pattern n
      return ⟨false, taken⟩
    else if [mark "-", constant, word "const"].any fun p => p.begins tokens then
      let start ← patternBound types expressions
      if ← isNext (mark "..") then patternRange types expressions start
      else return ⟨false, start⟩
    else if [word "ref", word "mut", word "self", name].any fun p => p.begins tokens then
      let modifiers := (← option (word "ref")) ++ (← option (word "mut"))
      let named ← expect ((word "self").orElse name)
      match ← option (mark "@") with
      | [] => return ⟨false, modifiers ++ named⟩
      | sign => return ⟨false, modifiers ++ named ++ sign ++ (← pattern n).tokens⟩
    else if (mark "&").begins tokens then
      let start := (← expect (mark "&")) ++ (← option (word "mut"))
      return ⟨false, start ++ (← pattern n).tokens⟩
    else if (opening .round).begins tokens then
      return ⟨false, ← enclosed .round (patterns n false)⟩
    else if (opening .square).begins tokens then
      return ⟨false, ← enclosed .square (patterns n true)⟩
    else if (mark "..").begins tokens && !(mark "...").begins tokens then
      let range ← patternRange types expressions []
      return ⟨!range.isUnbounded, range.tokens⟩
    else refuse

def pathPattern : (depth : Nat) → Reader Pattern
  | 0 => refuse
  | n + 1 => do
    let path ← types.path
    let tokens ← next
    if path.isPlain && beginsCall tokens then
      let bang ← expect (mark "!")
      return ⟨false, path.tokens ++ bang ++ (← expect group)⟩
    if (opening .curly).begins tokens then
      return ⟨false, path.tokens ++ (← enclosed .curly (memberPatterns n))⟩
    if (opening .round).begins tokens then
      return ⟨false, path.tokens ++ (← enclosed .round (patterns n false))⟩
    if (mark "..").begins tokens then return ← patternRange types expressions path.tokens
    return ⟨false, path.tokens⟩

/-- A pattern or alternatives with `|` between them and perhaps before them. -/
def alternatives : (depth : Nat) → Reader Pattern
  | 0 => refuse
  | n + 1 => do
    let bar ← option (mark "|")
    let first ← pattern n
    let isLast (tokens : List Token) : Bool :=
      !(mark "|").begins tokens || beginsAny [mark "||", mark "|="] tokens
    let others ← repeated isLast do
      let bar ← expect (mark "|")
      return bar ++ (← pattern n).tokens
    return ⟨bar.isEmpty && others.isEmpty && first.isUnbounded,
      bar ++ first.tokens ++ others.flatten⟩

/-- All patterns of a group, with commas. -/
def patterns : (depth : Nat) → (isSlice : Bool) → Reader (List Token)
  | 0, _ => refuse
  | n + 1, isSlice => listed do
    let p ← alternatives n
    if isSlice && p.isUnbounded then throw .unboundedRangeInSlice
    return p.tokens

/-- The patterns of members, with commas, and perhaps `..` at the end. -/
def memberPatterns : (depth : Nat) → Reader (List Token)
  | 0 => refuse
  | n + 1 => do
    if isEnd (← next) then return []
    let attributes ← expressions.attributes
    if ← isNext (mark "..") then return attributes ++ (← expect (mark ".."))
    let first ← memberPattern n
    if isEnd (← next) then return attributes ++ first
    let comma ← expect (mark ",")
    return attributes ++ first ++ comma ++ (← memberPatterns n)

def memberPattern : (depth : Nat) → Reader (List Token)
  | 0 => refuse
  | n + 1 => do
    let modifiers := (← option (word "box")) ++ (← option (word "ref")) ++ (← option (word "mut"))
    if !modifiers.isEmpty then return modifiers ++ (← expect name)
    let (isNamed, member) ← member
    if isNamed && !(← isNext (mark ":")) then return member
    let colon ← expect (mark ":")
    return member ++ colon ++ (← alternatives n).tokens

end

end Reader
end BoundEntity
