import BoundEntity.Text.Blank

/-!
# Comments in declaration texts

A comment counts as a blank, unless it is documentation. Comments between `/*` and `*/` nest.
-/
namespace BoundEntity

inductive Comment where
  | plain
  /-- The documentation of what follows, or of what it stands in. -/
  | documentation (isInner : Bool) (text : List Char)
deriving DecidableEq

namespace Comment

/-- What follows the end of a comment between `/*` and `*/` that has so many others open inside. -/
def afterBlock? : Nat → List Char → Option (List Char)
  | _, [] => none
  | depth, '/' :: '*' :: rest => afterBlock? (depth + 1) rest
  | 0, '*' :: '/' :: rest => some rest
  | depth + 1, '*' :: '/' :: rest => afterBlock? depth rest
  | depth, _ :: rest => afterBlock? depth rest

/-- A line without the characters that end it, and the rest from the line feed on. -/
def splitLine : List Char → List Char × List Char
  | [] => ([], [])
  | '\n' :: rest => ([], '\n' :: rest)
  | '\r' :: '\n' :: rest => ([], '\n' :: rest)
  | c :: rest =>
    let (text, rest) := splitLine rest
    (c :: text, rest)

/-- Whether a carriage return stands without a line feed after it. -/
def hasLoneReturn : List Char → Bool
  | [] => false
  | '\r' :: '\n' :: rest => hasLoneReturn rest
  | '\r' :: _ => true
  | _ :: rest => hasLoneReturn rest

/-- Documentation, which has no carriage return but at the end of a line. -/
def documentation? (isInner : Bool) (text rest : List Char) : Option (Comment × List Char) :=
  if hasLoneReturn text then none else some (documentation isInner text, rest)

/-- A comment to the end of the line, after `//`. -/
def line? (cs : List Char) : Option (Comment × List Char) :=
  let (text, rest) := splitLine cs
  match text with
  | '!' :: text => documentation? true text rest
  | '/' :: '/' :: _ => some (plain, rest)
  | '/' :: text => documentation? false text rest
  | _ => some (plain, rest)

/-- A comment up to `*/`, after `/*`. -/
def block? (cs : List Char) : Option (Comment × List Char) :=
  match afterBlock? 0 cs with
  | none => none
  | some rest =>
    let text := (cs.take (cs.length - rest.length - 2)).tail
    match cs with
    | '!' :: _ => documentation? true text rest
    | '*' :: '*' :: _ => some (plain, rest)
    | '*' :: '/' :: _ => some (plain, rest)
    | '*' :: _ => documentation? false text rest
    | _ => some (plain, rest)

/-- Whether a text begins with the mark of a comment. -/
def begins : List Char → Bool
  | '/' :: '/' :: _ => true
  | '/' :: '*' :: _ => true
  | _ => false

/-- The comment that a text begins with, and what follows it. -/
def split? : List Char → Option (Comment × List Char)
  | '/' :: '/' :: rest => line? rest
  | '/' :: '*' :: rest => block? rest
  | _ => none

end Comment
end BoundEntity
