import BoundEntity.Declaration.Comment
import BoundEntity.Declaration.Literal
import BoundEntity.Text.Inspect

/-!
# Tokens of declaration texts

Types and paths inside a declaration are texts. They are read as tokens, with blanks and comments
left out, and `Token.render` writes tokens as a text again.
-/
namespace BoundEntity

inductive Bracket where
  | round
  | square
  | curly
deriving DecidableEq

inductive Token where
  /-- A name or a keyword; a raw name begins with `r#`. -/
  | word (s : String)
  /-- A literal as it is written. -/
  | literal (text : String)
  /-- A character of a punctuation mark, and whether another one stands right behind it. -/
  | mark (c : Char) (isJoint : Bool)
  | opening (b : Bracket)
  | closing (b : Bracket)
deriving DecidableEq

namespace Token

def text : Token → String
  | word s => s
  | literal text => text
  | mark c _ => String.singleton c
  | opening .round => "("
  | opening .square => "["
  | opening .curly => "\x7b"
  | closing .round => ")"
  | closing .square => "]"
  | closing .curly => "\x7d"

def isWordLike : Token → Bool
  | word _ => true
  | literal _ => true
  | _ => false

/-- Whether two tokens would be read as others without a blank between them. -/
def runsInto : Token → Token → Bool
  | mark _ isJoint, mark _ _ => !isJoint
  | t, u => t.isWordLike && u.isWordLike

/-- The text of tokens, with blanks only where they are needed. -/
def render : List Token → String
  | [] => ""
  | [t] => t.text
  | t :: u :: rest => t.text ++ (if t.runsInto u then " " else "") ++ render (u :: rest)

/-- White space and the two marks that set the direction of writing. -/
def isSkipped (c : Char) : Bool := Text.isBlank c || c.toNat = 0x200E || c.toNat = 0x200F

def bracket? (c : Char) : Option Token :=
  if c = '(' then some (opening .round)
  else if c = ')' then some (closing .round)
  else if c = '[' then some (opening .square)
  else if c = ']' then some (closing .square)
  else if c = '\x7b' then some (opening .curly)
  else if c = '\x7d' then some (closing .curly)
  else none

/-- Names that cannot be raw. -/
def neverRaw : List String := ["_", "super", "self", "Self", "crate"]

/-- The name that a text begins with, and what follows it. -/
def name? : List Char → Option (String × List Char)
  | 'r' :: '#' :: rest =>
    match Text.Identifier.split? rest with
    | some (name, rest) =>
      if neverRaw.contains (String.ofList name) then none
      else some (String.ofList ('r' :: '#' :: name), rest)
    | none => none
  | cs => (Text.Identifier.split? cs).map fun (name, rest) => (String.ofList name, rest)

/-- Beginnings that only literals may have, apart from raw names. -/
def reserved : List (List Char) :=
  ["r\"", "r#\"", "r##", "b\"", "b\x27", "br\"", "br#", "c\"", "cr\"", "cr#"].map String.toList

def word? (cs : List Char) : Option (Token × List Char) :=
  if reserved.any (·.isPrefixOf cs) then none
  else (name? cs).map fun (name, rest) => (word name, rest)

/-- Whether an apostrophe before the text marks a lifetime. -/
def isLifetimeName (cs : List Char) : Bool :=
  match name? cs with
  | none => false
  | some (name, rest) =>
    rest.head? != some Literal.apostrophe &&
      (rest.head? != some '#' || name.startsWith "r#")

def marks : List Char := "~!@#$%^&*-=+|;:,<.>/?".toList

/-- Whether a text begins with a character of a mark. -/
def beginsMark : List Char → Bool
  | [] => false
  | c :: rest => (marks.contains c || c = Literal.apostrophe) && !Comment.begins (c :: rest)

def mark? : List Char → Option (Token × List Char)
  | [] => none
  | c :: rest =>
    if c = Literal.apostrophe then
      if isLifetimeName rest then some (mark c true, rest) else none
    else if beginsMark (c :: rest) then some (mark c (beginsMark rest), rest)
    else none

/-- A literal, else a mark, else a word. -/
def leaf? (cs : List Char) : Option (Token × List Char) :=
  match Literal.after? cs with
  | some rest => some (literal (String.ofList (cs.take (cs.length - rest.length))), rest)
  | none => mark? cs <|> word? cs

/-- Documentation stands for an attribute that has it as a text. -/
def ofComment : Comment → List Token
  | .plain => []
  | .documentation isInner text =>
    mark '#' false :: (if isInner then [mark '!' false] else []) ++
      [opening .square, word "doc", mark '=' false,
        literal (Inspect.quoted (String.ofList text)), closing .square]

/-- The tokens that the first part of a text stands for, and what follows it. -/
def first? : List Char → Option (List Token × List Char)
  | [] => none
  | c :: rest =>
    if isSkipped c then some ([], rest)
    else
      match Comment.split? (c :: rest) with
      | some (comment, rest) => some (ofComment comment, rest)
      | none =>
        match bracket? c with
        | some t => some ([t], rest)
        | none => (leaf? (c :: rest)).map fun (t, rest) => ([t], rest)

/-- The tokens of a text of which so many characters have been read already. -/
def ofChars? : (read : Nat) → List Char → Option (List Token)
  | _, [] => some []
  | read + 1, _ :: rest => ofChars? read rest
  | 0, c :: rest =>
    match first? (c :: rest) with
    | none => none
    | some (tokens, after) => (ofChars? (rest.length - after.length) rest).map (tokens ++ ·)

/-- Whether all brackets match, with the given ones still open. -/
def balanced : List Bracket → List Token → Bool
  | inner, [] => inner.isEmpty
  | inner, opening b :: rest => balanced (b :: inner) rest
  | inner, closing b :: rest => inner.head? = some b && balanced inner.tail rest
  | inner, _ :: rest => balanced inner rest

/-- The tokens of a text whose brackets match; a byte order mark may come first. -/
def ofString? (s : String) : Option (List Token) :=
  let cs := s.toList
  let cs := if cs.head?.map Char.toNat = some 0xFEFF then cs.tail else cs
  match ofChars? 0 cs with
  | some tokens => if balanced [] tokens then some tokens else none
  | none => none

end Token
end BoundEntity
