import BoundEntity.Declaration.Token

/-!
# Phrases at the front of tokens

A phrase splits what it describes off the front of tokens, if they begin with it.
-/
namespace BoundEntity

/-- The tokens of a phrase and what follows them, if there is such a phrase. -/
abbrev Phrase := List Token → Option (List Token × List Token)

namespace Phrase

def begins (p : Phrase) (tokens : List Token) : Bool := (p tokens).isSome

/-- Whether tokens begin with one of the phrases. -/
def beginsAny (phrases : List Phrase) (tokens : List Token) : Bool :=
  phrases.any fun p => p.begins tokens

/-- A phrase and another one after it. -/
def andThen (p q : Phrase) : Phrase := fun tokens =>
  match p tokens with
  | none => none
  | some (first, rest) => (q rest).map fun (second, rest) => (first ++ second, rest)

def orElse (p q : Phrase) : Phrase := fun tokens => (p tokens).or (q tokens)

/-- One token with a property. -/
def only (isWanted : Token → Bool) : Phrase
  | [] => none
  | t :: rest => if isWanted t then some ([t], rest) else none

/-- Characters of marks that stand side by side. -/
def sideBySide : List Char → Phrase
  | [], rest => some ([], rest)
  | c :: cs, .mark d isJoint :: rest =>
    if c = d && (cs.isEmpty || isJoint) then
      (sideBySide cs rest).map fun (taken, rest) => (.mark d isJoint :: taken, rest)
    else none
  | _, _ => none

def mark (s : String) : Phrase := sideBySide s.toList

/-- A phrase or nothing. -/
def optional (p : Phrase) : Phrase := p.orElse (sideBySide [])

def word (w : String) : Phrase := only fun t => t = .word w

def anyWord : Phrase := only fun
  | .word _ => true
  | _ => false

/-- Words that are no names. -/
def keywords : List String :=
  ["_", "abstract", "as", "async", "await", "become", "box", "break", "const", "continue", "crate",
   "do", "dyn", "else", "enum", "extern", "false", "final", "fn", "for", "if", "impl", "in", "let",
   "loop", "macro", "match", "mod", "move", "mut", "override", "priv", "pub", "ref", "return",
   "Self", "self", "static", "struct", "super", "trait", "true", "try", "type", "typeof", "unsafe",
   "unsized", "use", "virtual", "where", "while", "yield"]

def name : Phrase := only fun
  | .word w => !keywords.contains w
  | _ => false

def opening (b : Bracket) : Phrase := only fun t => t = .opening b

def closing (b : Bracket) : Phrase := only fun t => t = .closing b

/-- An apostrophe and a word. -/
def lifetime : Phrase := (mark (String.singleton Literal.apostrophe)).andThen anyWord

/-- A literal that is a text of characters. -/
def text : Phrase := only fun
  | .literal s => s.startsWith "\"" || s.startsWith "r"
  | _ => false

/-- A literal, a truth value or a number with a minus before it. -/
def constant : Phrase
  | .literal s :: rest => some ([.literal s], rest)
  | .word w :: rest => if w = "true" || w = "false" then some ([.word w], rest) else none
  | .mark '-' isJoint :: .literal s :: rest =>
    if (s.toList.head?.map Char.isDigit).getD false then
      some ([.mark '-' isJoint, .literal s], rest)
    else none
  | _ => none

/-- Whether parameters in angle brackets come next, and no type in them. -/
def beginsParameters (tokens : List Token) : Bool :=
  let start := mark "<"
  let named := start.andThen (lifetime.orElse name)
  beginsAny [start.andThen (mark ">"), start.andThen (mark "#"), start.andThen (word "const"),
      named.andThen (mark ">"), named.andThen (mark ","), named.andThen (mark "=")] tokens ||
    ((named.andThen (mark ":")).begins tokens && !(named.andThen (mark "::")).begins tokens)

/-- Whether the `!` of a call follows a path, and not the operator `!=`. -/
def beginsCall (tokens : List Token) : Bool :=
  (mark "!").begins tokens && !(mark "!=").begins tokens

/-- What comes before the end of the innermost of so many open brackets, and what comes after. -/
def splitGroup : Nat → List Token → List Token × List Token
  | _, [] => ([], [])
  | depth, .opening b :: rest =>
    let (inner, outer) := splitGroup (depth + 1) rest
    (.opening b :: inner, outer)
  | 0, .closing b :: rest => ([], .closing b :: rest)
  | depth + 1, .closing b :: rest =>
    let (inner, outer) := splitGroup depth rest
    (.closing b :: inner, outer)
  | depth, t :: rest =>
    let (inner, outer) := splitGroup depth rest
    (t :: inner, outer)

/-- A bracketed group with anything inside. -/
def group : Phrase
  | .opening b :: rest =>
    match splitGroup 0 rest with
    | (inner, t :: rest) => some (.opening b :: inner ++ [t], rest)
    | _ => none
  | _ => none

/-- Whether nothing more comes inside the innermost open bracket. -/
def isEnd : List Token → Bool
  | [] => true
  | .closing _ :: _ => true
  | _ => false

/-- A word that is a step of a path. -/
def pathWord : Phrase := name.orElse <| only fun t =>
  [.word "super", .word "self", .word "Self", .word "crate"].contains t

/-- What a path begins with, which may be a type in angle brackets. -/
def pathStart : Phrase := pathWord.orElse <| (mark "::").orElse (mark "<")

/-- At most so many words with `::` between them. -/
def pathWords : Nat → Phrase
  | 0, _ => none
  | n + 1, tokens =>
    match pathWord tokens with
    | none => none
    | some (first, rest) =>
      match mark "::" rest with
      | none => some (first, rest)
      | some (colons, rest) =>
        (pathWords n rest).map fun (others, rest) => (first ++ colons ++ others, rest)

/-- A path without arguments. -/
def plainPath : Phrase := fun tokens =>
  let words := pathWords tokens.length
  (((mark "::").andThen words) tokens).or (words tokens)

end Phrase
end BoundEntity
