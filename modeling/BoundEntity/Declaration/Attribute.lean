import BoundEntity.Declaration.TypeText

/-!
# Attributes and the options they give

Attributes named `context_model` give options to an entity type, those named `context` to a field or
a function. Their arguments are read in order, and the first fault is reported.
-/
namespace BoundEntity

/-- What follows the name of an argument. -/
inductive ArgumentForm where
  | bare
  | text (s : String)
  /-- A text with more tokens behind it. -/
  | overlong (s : String)
  | number (n : Int)
  | group
  /-- Any other tokens: another value, or tokens that give none. -/
  | other
deriving DecidableEq

structure Argument where
  name : String
  form : ArgumentForm
deriving DecidableEq

/-- What follows the path of an attribute. -/
inductive AttributeForm where
  | bare
  | text (s : String)
  /-- Any value but a text. -/
  | other
  | arguments (args : List Argument)
deriving DecidableEq

structure Attribute where
  path : String
  form : AttributeForm
deriving DecidableEq

namespace Argument

/-- The word that an argument is named by; one that is named by a longer path has none. -/
def key? (a : Argument) : Except Defect (Option String) :=
  match TypeText.tokens a.name with
  | [.word w] => .ok (some w)
  | tokens =>
    let colons := Phrase.mark "::"
    let longer := ((Phrase.optional Phrase.anyWord).andThen colons).andThen Phrase.anyWord
    if longer.begins tokens then .ok none else .error .notAName

/-- The text given to an option. -/
def text? (a : Argument) : Except Defect String :=
  match a.form with
  | .text s => .ok s
  | .overlong _ => .error .overlongText
  | _ => .error (.missingText a.name)

/-- The path given to an option. It is read before the tokens behind it. -/
def path? (a : Argument) : Except Defect Path :=
  match a.form with
  | .text s => Path.ofString? s
  | .overlong s =>
    match Path.ofString? s with
    | .error defect => .error defect
    | .ok _ => .error .overlongText
  | _ => .error (.missingText a.name)

/-- A flag has nothing but its name. -/
def flag? (a : Argument) : Except Defect Unit :=
  match a.form with
  | .bare => .ok ()
  | _ => .error .overlongFlag

end Argument

namespace Attribute

/-- Whether the path of an attribute is one word. -/
def isNamed (a : Attribute) (name : String) : Bool := TypeText.tokens a.path = [.word name]

/-- Reads the arguments of all attributes with the name, each changing the options so far. -/
def readAll {α : Type} (name : String) (read : α → Argument → Except Defect α) :
    α → List Attribute → Except Defect α
  | options, [] => .ok options
  | options, a :: rest =>
    if a.isNamed name then
      match a.form with
      | .arguments args =>
        match args.foldlM read options with
        | .error defect => .error defect
        | .ok options => readAll name read options rest
      | _ => .error (.missingArguments name)
    else readAll name read options rest

end Attribute

/-- Options of an entity type. -/
structure ModelOptions where
  name : Option String := none
  isSealed : Bool := false
  hasNoDefault : Bool := false
  constructor : Option Path := none
  /-- Whether the methods are declared elsewhere. -/
  hasMethods : Bool := false

namespace ModelOptions

def read (o : ModelOptions) (a : Argument) : Except Defect ModelOptions :=
  match a.key? with
  | .error defect => .error defect
  | .ok key =>
    if key = some "name" then a.text?.map fun s => { o with name := some s }
    else if key = some "constructor" then a.path?.map fun p => { o with constructor := some p }
    else if key = some "sealed" then a.flag?.map fun () => { o with isSealed := true }
    else if key = some "no_default" then a.flag?.map fun () => { o with hasNoDefault := true }
    else if key = some "methods" then a.flag?.map fun () => { o with hasMethods := true }
    else .error .unsupportedModelOption

def ofAttributes (attributes : List Attribute) : Except Defect ModelOptions :=
  Attribute.readAll "context_model" read {} attributes

end ModelOptions

/-- Options of a field or a function. -/
structure MemberOptions where
  isSkipped : Bool := false
  isReadOnly : Bool := false

namespace MemberOptions

/-- The name of the attributes that give these options. -/
def attributeName : String := "context"

def read (o : MemberOptions) (a : Argument) : Except Defect MemberOptions :=
  match a.key? with
  | .error defect => .error defect
  | .ok key =>
    if key = some "skip" then a.flag?.map fun () => { o with isSkipped := true }
    else if key = some "read_only" then a.flag?.map fun () => { o with isReadOnly := true }
    else .error .unsupportedMemberOption

def ofAttributes (attributes : List Attribute) : Except Defect MemberOptions :=
  Attribute.readAll attributeName read {} attributes

end MemberOptions
end BoundEntity
