import BoundEntity.Declaration.Phrase

/-!
# What expressions begin and end with

Some tokens ahead decide which kind of phrase comes next inside an expression or a block.
-/
namespace BoundEntity

namespace Phrase

/-- A point that is not the first one of a range. -/
def beginsPoint (tokens : List Token) : Bool :=
  (mark ".").begins tokens && !(mark "..").begins tokens

/-- Whether the tokens begin with `for` and parameters in angle brackets. -/
def beginsBinder (tokens : List Token) : Bool :=
  (word "for").begins tokens && beginsParameters tokens.tail

def beginsClosure (tokens : List Token) : Bool :=
  beginsAny [mark "|", word "move", word "static", (word "async").andThen (mark "|"),
      (word "async").andThen (word "move")] tokens ||
    beginsBinder tokens ||
    ((word "const").begins tokens && !((word "const").andThen (opening .curly)).begins tokens)

/-- Whether the tokens begin with an expression that is a statement without a semicolon. -/
def beginsBlock (tokens : List Token) : Bool :=
  beginsAny [word "if", word "while", word "loop", word "match", word "unsafe", opening .curly,
      lifetime, (word "try").andThen (opening .curly), (word "const").andThen (opening .curly)]
    tokens ||
    ((word "for").begins tokens && !beginsBinder tokens)

/-- Whether a value follows a jump. -/
def beginsValue (tokens : List Token) : Bool :=
  let signs := [("!", ["!="]), ("-", ["-=", "->"]), ("*", ["*="]), ("|", ["|="]), ("&", ["&="]),
    ("<", ["<=", "<<="])]
  (anyWord.begins tokens && !(word "as").begins tokens) ||
    beginsAny [opening .round, opening .square, opening .curly, constant, mark "..", mark "::",
      lifetime, mark "#"] tokens ||
    signs.any fun (sign, others) =>
      (mark sign).begins tokens && !beginsAny (others.map mark) tokens

/-- Whether a range with two points has no end in front of the tokens. -/
def endsRange (allowsStruct : Bool) (tokens : List Token) : Bool :=
  isEnd tokens || beginsPoint tokens || (!allowsStruct && (opening .curly).begins tokens) ||
    (word "as").begins tokens ||
    beginsAny ([",", ";", "?", "=>", "=", "+", "/", "%", "^", ">", "<=", "!=", "-=", "*=", "&=",
      "|=", "<<="].map mark) tokens

/-- Whether the tokens begin with a declaration. -/
def beginsItem (tokens : List Token) : Bool :=
  let pair (v w : String) : Phrase := (word v).andThen (word w)
  let function := (word "unsafe").orElse ((word "extern").orElse (word "fn"))
  let asyncConstant := (pair "const" "async").begins tokens &&
    !((pair "const" "async").andThen function).begins tokens
  beginsAny [word "pub", word "extern", word "use", pair "static" "mut",
      (word "static").andThen name, (word "async").andThen function, word "fn", word "mod",
      word "type", word "struct", word "enum", (word "union").andThen name, pair "auto" "trait",
      word "trait", pair "default" "unsafe", pair "default" "impl", word "impl",
      word "macro"] tokens ||
    ((word "crate").begins tokens && !((word "crate").andThen (mark "::")).begins tokens) ||
    ((word "const").begins tokens && !asyncConstant &&
      !beginsAny [(word "const").andThen (opening .curly), pair "const" "static",
        pair "const" "move", (word "const").andThen (mark "|")] tokens) ||
    ((word "unsafe").begins tokens && !((word "unsafe").andThen (opening .curly)).begins tokens)

end Phrase

end BoundEntity
