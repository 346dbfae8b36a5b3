import BoundEntity.Declaration.TypeSyntax.Grammar

/-!
# What declarations ask of a text

Whether a type is a reference or a path to a result type, whether a receiver is shared, and how a
text is written without its comments.
-/
namespace BoundEntity.TypeText

def tokens (s : String) : List Token := (Token.ofString? s).getD []

/-- Whether there is anything but blanks and comments. -/
def isEmpty (s : String) : Bool := (tokens s).isEmpty

def type? (s : String) : Option TypeSyntax := (TypeSyntax.ofTokens? (tokens s)).toOption

/-- The text without comments and with blanks only where they are needed. -/
def written (s : String) : String := Token.render ((type? s).elim (tokens s) TypeSyntax.tokens)

/-- Whether a path ends in `Result` with a type among its arguments. -/
def isResult (s : String) : Bool :=
  match type? s with
  | some (.path p) =>
    match p.segments.getLast? with
    | some ⟨"Result", some forms, _⟩ => forms.contains .type
    | _ => false
  | _ => false

/-- Whether the type itself is a reference. -/
def isReference (s : String) : Bool :=
  match type? s with
  | some (.reference _) => true
  | _ => false

/-- Whether a receiver is written as a shared reference to the value itself. -/
def isSharedReceiver (s : String) : Bool :=
  let reference := (Phrase.mark "&").andThen (Phrase.optional Phrase.lifetime)
  match (reference.andThen (Phrase.word "self")) (tokens s) with
  | some (_, []) => true
  | _ => false

/-- Whether a visibility has no restriction. -/
def isPublic (s : String) : Bool := tokens s = [.word "pub"]

end BoundEntity.TypeText
