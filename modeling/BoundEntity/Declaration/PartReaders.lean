import BoundEntity.Declaration.Reader
import BoundEntity.Declaration.TypeSyntax.Basic

/-!
# Readers of parts

Types, expressions, patterns and declarations hold parts of each other. The grammar of one kind is
given the readers of the other kinds.
-/
namespace BoundEntity

/-- Readers of types and of what is in them. -/
structure TypeReaders where
  /-- A type; where no sum is allowed, a `+` ends it. -/
  type : (allowsSum : Bool) → Reader TypeSyntax
  /-- A path with `::` before the arguments of a step. -/
  path : Reader Path
  /-- Arguments with their angle brackets. -/
  arguments : Reader (List Token)
  /-- `for` and parameters in angle brackets, if it comes next. -/
  binder : Reader (List Token)
  /-- Parameters with their angle brackets, if they come next. -/
  parameters : Reader (List Token)
  bound : BoundPlace → Reader (List Token)

def TypeReaders.typeTokens (types : TypeReaders) : Reader (List Token) :=
  return (← types.type true).tokens

/-- Readers of expressions and of what is in them. -/
structure ExpressionReaders where
  expression : Reader (List Token)
  /-- A block after `const`, and `const` itself. -/
  constantBlock : Reader (List Token)
  /-- A block in braces that may begin with attributes of its own. -/
  body : Reader (List Token)
  pattern : Reader (List Token)
  /-- Attributes of what follows them. -/
  attributes : Reader (List Token)
  /-- Attributes of the group that they begin. -/
  innerAttributes : Reader (List Token)

end BoundEntity
