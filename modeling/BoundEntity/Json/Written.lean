import BoundEntity.Json.NumberText

/-!
# JSON documents as written

What a text spells out before it is given a meaning. `Written.value?` is the document that a written one
stands for.
-/
namespace BoundEntity.Json

/-- A character of a string, or the code unit of a `\u` escape. -/
inductive Piece where
  | char (c : Char)
  | unit (code : Nat)

namespace Piece

def isHigh (code : Nat) : Bool := 0xD800 ≤ code && code < 0xDC00
def isLow (code : Nat) : Bool := 0xDC00 ≤ code && code < 0xE000

/-- Code units of surrogates count in pairs only. -/
def decode : List Piece → Option (List Char)
  | [] => some []
  | .char c :: rest => (decode rest).map (c :: ·)
  | .unit code :: rest =>
    if isHigh code then
      match rest with
      | .unit low :: rest' =>
        if isLow low then
          (decode rest').map (Char.ofNat (0x10000 + (code - 0xD800) * 0x400 + (low - 0xDC00)) :: ·)
        else none
      | _ => none
    else if isLow code then none
    else (decode rest).map (Char.ofNat code :: ·)

end Piece

inductive Written where
  | null
  | bool (value : Bool)
  | number (text : NumberText)
  | string (pieces : List Piece)
  | array (size : Nat) (item : Fin size → Written)
  | object (size : Nat) (key : Fin size → List Piece) (member : Fin size → Written)

/-- The results, if there is one in every place. -/
def sequence? {α : Type} : List (Option α) → Option (List α)
  | [] => some []
  | none :: _ => none
  | some x :: rest => (sequence? rest).map (x :: ·)

def text? (pieces : List Piece) : Option String := (Piece.decode pieces).map String.ofList

namespace Written

def ofList (items : List Written) : Written := .array items.length items.get

def ofMembers (members : List (List Piece × Written)) : Written :=
  .object members.length (fun i => (members.get i).1) fun i => (members.get i).2

/-- Arrays and objects may nest to this depth. -/
def nestingLimit : Nat := 127

/-- The document, if its numbers and strings are in range and it nests no deeper than the limit. Of
members with one key the last one counts. -/
def valueWithin? : Written → Nat → Option Json
  | .null, _ => some .null
  | .bool b, _ => some (.bool b)
  | .number t, _ => t.value?.map .number
  | .string pieces, _ => (text? pieces).map .string
  | .array _ item, limit =>
    match limit with
    | 0 => none
    | limit + 1 => (sequence? (List.ofFn fun i => (item i).valueWithin? limit)).map Json.ofList
  | .object _ key member, limit =>
    match limit with
    | 0 => none
    | limit + 1 =>
      (sequence? (List.ofFn fun i =>
        match text? (key i), (member i).valueWithin? limit with
        | some k, some j => some (k, j)
        | _, _ => none)).map fun members => Json.ofKeyed (Keyed.ofList members)

def value? (w : Written) : Option Json := w.valueWithin? nestingLimit

end Written
end BoundEntity.Json
