/-! # Defects of declarations -/
namespace BoundEntity

/-- Why a declaration is rejected. -/
inductive Defect where
  | missingArguments (path : String)
  | missingText (option : String)
  | overlongText
  | overlongFlag
  | notAName
  /-- A text that is no list of tokens. -/
  | unreadableText
  /-- Tokens that are no path. -/
  | notAPath
  /-- A type that asks for an object of no trait. -/
  | noObjectTrait
  /-- A type that asks for some type of no trait. -/
  | noImplementedTrait
  /-- The names that a type may hold, where they cannot be given. -/
  | misplacedCapture
  /-- A bound on constant evaluation where there can be none. -/
  | misplacedConst (isConditional : Bool)
  /-- A trait that need not hold, for all names of a binder. -/
  | quantifiedOptionalTrait
  | quantifiedConditions
  | negativeInherentBlock
  | chainedComparison
  /-- Something behind a conversion that would belong to its type. -/
  | conversionFollowedBy (what : String)
  | attributeOfOpenRange
  | labelledBreakValue
  | unboundedRangeInSlice
  | indexTooLarge
  | negativeIndex
  | unsupportedModelOption
  | unsupportedMemberOption
  | genericType
  | notAStruct
  | unnamedFields
  | shadowedAccessors (field : String)
  | constructorWithoutDefault
  | traitBlock
  | genericBlock
  | borrowedArgument
deriving DecidableEq

namespace Defect

def message : Defect → String
  | missingArguments path => "expected attribute arguments in parentheses: " ++ path ++ "(...)"
  | missingText option => "expected a text after " ++ option
  | overlongText => "expected a comma after a text"
  | overlongFlag => "expected a comma after a flag"
  | notAName => "expected the name of an option"
  | unreadableText => "cannot parse string into token stream"
  | notAPath => "expected a path"
  | noObjectTrait => "at least one trait is required for an object type"
  | noImplementedTrait => "at least one trait must be specified"
  | misplacedCapture => "`use<...>` precise capturing syntax is not allowed here"
  | misplacedConst true => "`[const]` is not allowed here"
  | misplacedConst false => "`const` is not allowed here"
  | quantifiedOptionalTrait => "`for<...>` binder not allowed with `?` trait polarity modifier"
  | quantifiedConditions =>
    "generic parameters on `where` clauses are reserved for future use"
  | negativeInherentBlock => "inherent impls cannot be negative"
  | chainedComparison => "comparison operators cannot be chained"
  | conversionFollowedBy what => "casts cannot be followed by " ++ what
  | attributeOfOpenRange =>
    "attributes are not allowed on range expressions starting with `..`"
  | labelledBreakValue => "parentheses required"
  | unboundedRangeInSlice =>
    "range pattern is not allowed unparenthesized inside slice pattern"
  | indexTooLarge => "number too large to fit in target type"
  | negativeIndex => "invalid digit found in string"
  | unsupportedModelOption =>
    "Unsupported context_model attribute. Supported: name = \"...\", constructor = \"path\", " ++
      "sealed, no_default, methods"
  | unsupportedMemberOption => "Unsupported #[context(...)] option. Supported: skip, read_only"
  | genericType => "ContextModel does not support generic structs"
  | notAStruct => "ContextModel can only be derived for structs"
  | unnamedFields => "ContextModel requires named fields"
  | shadowedAccessors field =>
    "field `" ++ field ++ "` would generate get_" ++ field ++ "/set_" ++ field ++
      " accessors hidden by ContextProxy::get_" ++ field ++ "/set_" ++ field ++
      "; rename it or mark it #[context(skip)]"
  | constructorWithoutDefault =>
    "#[context_model(constructor = ...)] cannot be combined with no_default"
  | traitBlock => "#[context_methods] can only be used on inherent impl blocks"
  | genericBlock => "#[context_methods] does not support generic impl blocks"
  | borrowedArgument =>
    "context methods take owned arguments; use #[context(skip)] to leave this method out"

end Defect

end BoundEntity
