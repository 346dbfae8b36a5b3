import BoundEntity.Declaration.Model

/-!
# Methods from blocks of functions

A function of a block is registered as a method if it can be called through a context.
-/
namespace BoundEntity

structure FunctionDeclaration where
  visibility : String
  name : String
  qualifier : String
  generics : List String
  receiver : Option String
  args : List String
  returns : Option String
  attributes : List Attribute

inductive BlockItem where
  | function (f : FunctionDeclaration)
  | other (text : String)

structure MethodBlock where
  target : String
  /-- The trait that the block implements, if any. -/
  trait : Option String
  generics : List String
  items : List BlockItem

/-- A method as it is registered, with the types of its arguments. -/
structure RegisteredMethod where
  name : String
  isPublic : Bool
  types : List String
  /-- Whether the function returns a result whose error is passed on. -/
  isFallible : Bool
deriving DecidableEq

def RegisteredMethod.arity (m : RegisteredMethod) : Nat := m.types.length

namespace FunctionDeclaration

/-- Whether a function can be called through a context, and then its return type. -/
def callable? (f : FunctionDeclaration) : Option String :=
  if (f.receiver.map TypeText.isSharedReceiver).getD false && f.generics.all TypeText.isEmpty &&
      !(TypeText.tokens f.qualifier).contains (.word "async") then
    f.returns
  else none

/-- The method of a function that is neither skipped nor out of reach. -/
def register? (f : FunctionDeclaration) : Except Defect (Option RegisteredMethod) :=
  match MemberOptions.ofAttributes f.attributes with
  | .error defect => .error defect
  | .ok options =>
    if options.isSkipped then .ok none
    else
      match f.callable? with
      | none => .ok none
      | some returns =>
        if f.args.any TypeText.isReference then .error .borrowedArgument
        else
          .ok (some ⟨f.name, TypeText.isPublic f.visibility, f.args, TypeText.isResult returns⟩)

/-- The function without the attributes that give options. -/
def stripped (f : FunctionDeclaration) : FunctionDeclaration :=
  { f with attributes := f.attributes.filter fun a => !a.isNamed MemberOptions.attributeName }

end FunctionDeclaration

namespace BlockItem

def function? : BlockItem → Option FunctionDeclaration
  | function f => some f
  | other _ => none

def stripped : BlockItem → BlockItem
  | function f => function f.stripped
  | other text => other text

end BlockItem

namespace MethodBlock

/-- What a block registers, and what is left of the block itself. -/
structure Registration where
  block : MethodBlock
  methods : List RegisteredMethod

def functions (b : MethodBlock) : List FunctionDeclaration := b.items.filterMap BlockItem.function?

/-- The methods of a block's functions in order; the first defect fails. -/
def methods (b : MethodBlock) : Except Defect (List RegisteredMethod) :=
  (b.functions.mapM FunctionDeclaration.register?).map (List.filterMap id)

/-- The registered methods of a block and the block that is left, or the first defect. -/
def register (b : MethodBlock) : Except Defect Registration :=
  if b.trait.isSome then .error .traitBlock
  else if !b.generics.all TypeText.isEmpty then .error .genericBlock
  else
    match b.methods with
    | .error defect => .error defect
    | .ok methods => .ok ⟨{ b with items := b.items.map BlockItem.stripped }, methods⟩

end MethodBlock
end BoundEntity
