import BoundEntity.Declaration.Token

/-! # Expressions -/
namespace BoundEntity

/-- What about an expression decides how reading goes on after it. -/
inductive ExpressionForm where
  | range
  | comparison
  /-- A block, a condition, a choice or a loop. -/
  | block
  /-- A call with `!` and braces. -/
  | expansion
  | other
deriving DecidableEq

structure Expression where
  form : ExpressionForm
  tokens : List Token
  /-- Whether attributes before it are written again. -/
  keepsAttributes : Bool := true
deriving DecidableEq

namespace Expression

def other (tokens : List Token) : Expression := ⟨.other, tokens, true⟩

def range (tokens : List Token) : Expression := ⟨.range, tokens, true⟩

def block (tokens : List Token) : Expression := ⟨.block, tokens, true⟩

def after (tokens : List Token) (e : Expression) : Expression :=
  { e with tokens := tokens ++ e.tokens }

/-- Whether the last token closes a group in braces. -/
def endsInBrace (e : Expression) : Bool := e.tokens.getLast? = some (.closing .curly)

/-- Whether a semicolon has to follow where another statement does. -/
def needsSemicolon (e : Expression) : Bool := e.form ≠ .block && e.form ≠ .expansion

end Expression

end BoundEntity
