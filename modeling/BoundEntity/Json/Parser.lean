import BoundEntity.Json.Written
import BoundEntity.Text.Hex

/-!
# Reading JSON text

`Written.parse?` reads the grammar and `Json.parse?` a document. Space, tab, line feed and carriage
return are the only blanks, and nothing may follow the value.
-/
namespace BoundEntity.Json

namespace Scan

def isBlank (c : Char) : Bool := c = ' ' || c = '\t' || c = '\n' || c = '\r'

def skipBlank (cs : List Char) : List Char := cs.dropWhile isBlank

/-- The code unit of four hexadecimal digits. -/
def unit? (a b c d : Char) : Option Nat :=
  match Text.hexDigit? a, Text.hexDigit? b, Text.hexDigit? c, Text.hexDigit? d with
  | some a, some b, some c, some d => some (((a.val * 16 + b.val) * 16 + c.val) * 16 + d.val)
  | _, _, _, _ => none

/-- The character of a one-letter escape. -/
def escape? (c : Char) : Option Char :=
  if c = '"' ∨ c = '\\' ∨ c = '/' then some c
  else if c = 'b' then some '\x08'
  else if c = 'f' then some '\x0c'
  else if c = 'n' then some '\n'
  else if c = 'r' then some '\r'
  else if c = 't' then some '\t'
  else none

/-- The rest of a string after its opening quote. -/
def string? : List Char → Option (List Piece × List Char)
  | [] => none
  | c :: rest =>
    if c = '"' then some ([], rest)
    else if c = '\\' then
      match rest with
      | [] => none
      | e :: rest =>
        if e = 'u' then
          match rest with
          | h1 :: h2 :: h3 :: h4 :: rest =>
            match unit? h1 h2 h3 h4 with
            | none => none
            | some code => (string? rest).map fun (pieces, rest) => (.unit code :: pieces, rest)
          | _ => none
        else
          match escape? e with
          | none => none
          | some c => (string? rest).map fun (pieces, rest) => (.char c :: pieces, rest)
    else if c.toNat < 32 then none
    else (string? rest).map fun (pieces, rest) => (.char c :: pieces, rest)

/-- One digit at least, and all that follow. -/
def digits? (cs : List Char) : Option (List Char × List Char) :=
  let digits := cs.takeWhile Char.isDigit
  if digits.isEmpty then none else some (digits, cs.dropWhile Char.isDigit)

/-- A whole part has no superfluous leading zero. -/
def whole? (cs : List Char) : Option (List Char × List Char) :=
  match digits? cs with
  | some ('0' :: _ :: _, _) => none
  | result => result

def fraction? : List Char → Option (Option (List Char) × List Char)
  | '.' :: rest => (digits? rest).map fun (digits, rest) => (some digits, rest)
  | cs => some (none, cs)

private def exponentDigits? (negative : Bool) (cs : List Char) : Option (Option Int × List Char) :=
  (digits? cs).map fun (digits, rest) =>
    let n : Int := Nat.ofDigitChars 10 digits 0
    (some (if negative then -n else n), rest)

def exponent? : List Char → Option (Option Int × List Char)
  | [] => some (none, [])
  | c :: rest =>
    if c = 'e' ∨ c = 'E' then
      match rest with
      | '-' :: rest => exponentDigits? true rest
      | '+' :: rest => exponentDigits? false rest
      | rest => exponentDigits? false rest
    else some (none, c :: rest)

def unsigned? (negative : Bool) (cs : List Char) : Option (NumberText × List Char) :=
  match whole? cs with
  | none => none
  | some (whole, rest) =>
    match fraction? rest with
    | none => none
    | some (fraction, rest) =>
      (exponent? rest).map fun (exponent, rest) => (⟨negative, whole, fraction, exponent⟩, rest)

def number? : List Char → Option (NumberText × List Char)
  | '-' :: rest => unsigned? true rest
  | cs => unsigned? false cs

/-- One or more elements up to the closing character, with commas between them. -/
def elements? {α : Type} (element? : List Char → Option (α × List Char)) (close : Char) :
    Nat → List Char → Option (List α × List Char)
  | 0, _ => none
  | fuel + 1, cs =>
    match element? (skipBlank cs) with
    | none => none
    | some (x, rest) =>
      match skipBlank rest with
      | [] => none
      | c :: rest =>
        if c = close then some ([x], rest)
        else if c = ',' then
          (elements? element? close fuel rest).map fun (xs, rest) => (x :: xs, rest)
        else none

/-- The elements after an opening bracket. Each takes a character, so the length bounds them. -/
def bracketed? {α : Type} (element? : List Char → Option (α × List Char)) (close : Char)
    (cs : List Char) : Option (List α × List Char) :=
  match skipBlank cs with
  | [] => none
  | c :: rest => if c = close then some ([], rest) else elements? element? close cs.length cs

/-- A key, a colon and a value. -/
def member? (value? : List Char → Option (Written × List Char)) :
    List Char → Option ((List Piece × Written) × List Char)
  | '"' :: cs =>
    match string? cs with
    | none => none
    | some (key, rest) =>
      match skipBlank rest with
      | ':' :: rest => (value? (skipBlank rest)).map fun (w, rest) => ((key, w), rest)
      | _ => none
  | _ => none

/-- A value that starts at the first character and nests less deep than the fuel. -/
def value? : Nat → List Char → Option (Written × List Char)
  | 0, _ => none
  | fuel + 1, cs =>
    match cs with
    | 'n' :: 'u' :: 'l' :: 'l' :: rest => some (.null, rest)
    | 't' :: 'r' :: 'u' :: 'e' :: rest => some (.bool true, rest)
    | 'f' :: 'a' :: 'l' :: 's' :: 'e' :: rest => some (.bool false, rest)
    | '"' :: rest => (string? rest).map fun (pieces, rest) => (.string pieces, rest)
    | '[' :: rest =>
      (bracketed? (value? fuel) ']' rest).map fun (items, rest) => (.ofList items, rest)
    | '\x7b' :: rest =>
      (bracketed? (member? (value? fuel)) '\x7d' rest).map fun (members, rest) =>
        (.ofMembers members, rest)
    | cs => (number? cs).map fun (text, rest) => (.number text, rest)

end Scan

/-- The written document that is the whole text; its length bounds the nesting. -/
def Written.parse? (s : String) : Option Written :=
  let cs := s.toList
  match Scan.value? (cs.length + 1) (Scan.skipBlank cs) with
  | none => none
  | some (w, rest) => if (Scan.skipBlank rest).isEmpty then some w else none

/-- The document that is the whole text. -/
def parse? (s : String) : Option Json :=
  match Written.parse? s with
  | none => none
  | some w => w.value?

end BoundEntity.Json
