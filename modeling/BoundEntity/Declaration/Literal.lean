import BoundEntity.Text.Hex
import BoundEntity.Text.Identifier

/-!
# Literals in declaration texts

Only where a literal ends matters here. Each function tells what follows a part of a literal, unless
the text does not begin with such a part.
-/
namespace BoundEntity.Literal

/-- What a quoted text holds; it decides the characters and the escapes in it. -/
inductive Content where
  | characters
  | bytes
  /-- Characters that a null character ends. -/
  | terminated
deriving DecidableEq

namespace Content

/-- Whether a character may stand for itself. -/
def allows (content : Content) (c : Char) : Bool :=
  match content with
  | characters => true
  | bytes => c.toNat < 128
  | terminated => c.toNat ≠ 0

/-- Whether two hexadecimal digits may stand for a number. -/
def allowsPair (content : Content) (n : Nat) : Bool :=
  match content with
  | characters => n < 128
  | bytes => true
  | terminated => n ≠ 0

/-- Whether the hexadecimal digits in braces may stand for a number. -/
def allowsCode (content : Content) (n : Nat) : Bool :=
  match content with
  | characters => decide n.isValidChar
  | bytes => false
  | terminated => decide n.isValidChar && n ≠ 0

end Content

def apostrophe : Char := Char.ofNat 39

/-- After the brace of a code with so many digits of such a value: one to six digits, between which
and after which underscores may stand. -/
def afterCode? (content : Content) (digits value : Nat) : List Char → Option (List Char)
  | [] => none
  | c :: rest =>
    match Text.hexDigit? c with
    | some digit =>
      if digits = 6 then none else afterCode? content (digits + 1) (16 * value + digit.val) rest
    | none =>
      if digits = 0 then none
      else if c = '_' then afterCode? content digits value rest
      else if c = '\x7d' && content.allowsCode value then some rest
      else none

/-- After the backslash of an escape. -/
def afterEscape? (content : Content) : List Char → Option (List Char)
  | 'x' :: high :: low :: rest =>
    match Text.hexDigit? high, Text.hexDigit? low with
    | some a, some b => if content.allowsPair (16 * a.val + b.val) then some rest else none
    | _, _ => none
  | 'u' :: '\x7b' :: rest => afterCode? content 0 0 rest
  | c :: rest =>
    if ['n', 'r', 't', '\\', '"', apostrophe].contains c || (c = '0' && content != .terminated) then
      some rest
    else none
  | [] => none

/-- After the backslash at the end of a line: what follows the blanks. -/
def afterContinuation? : List Char → Option (List Char)
  | '\r' :: '\n' :: rest => afterContinuation? rest
  | '\r' :: _ => none
  | c :: rest =>
    if c = ' ' || c = '\t' || c = '\n' then afterContinuation? rest else some (c :: rest)
  | [] => none

def afterBackslash? (content : Content) : List Char → Option (List Char)
  | '\n' :: rest => afterContinuation? ('\n' :: rest)
  | '\r' :: rest => afterContinuation? ('\r' :: rest)
  | rest => afterEscape? content rest

/-- After the first quote; so many characters belong to an escape that has been read. -/
def afterQuote? (content : Content) : (escaped : Nat) → List Char → Option (List Char)
  | _, [] => none
  | escaped + 1, _ :: rest => afterQuote? content escaped rest
  | 0, c :: rest =>
    if c = '"' then some rest
    else if c = '\\' then
      match afterBackslash? content rest with
      | none => none
      | some after => afterQuote? content (rest.length - after.length) rest
    else if c = '\r' && rest.head? != some '\n' then none
    else if content.allows c then afterQuote? content 0 rest
    else none

/-- After the first quote of a text without escapes, which ends at a quote and so many marks. -/
def afterRawQuote? (content : Content) (marks : Nat) : List Char → Option (List Char)
  | [] => none
  | c :: rest =>
    if c = '"' && rest.take marks = List.replicate marks '#' then some (rest.drop marks)
    else if c = '\r' && rest.head? != some '\n' then none
    else if content.allows c then afterRawQuote? content marks rest
    else none

/-- After the letter of a text without escapes. -/
def afterRaw? (content : Content) (cs : List Char) : Option (List Char) :=
  let marks := (cs.takeWhile fun c => c = '#').length
  match cs.drop marks with
  | '"' :: rest => if marks ≤ 255 then afterRawQuote? content marks rest else none
  | _ => none

/-- After the first apostrophe: one character or escape and another apostrophe. -/
def afterApostrophe? (content : Content) (cs : List Char) : Option (List Char) :=
  let after? :=
    match cs with
    | '\\' :: rest => afterEscape? content rest
    | c :: rest => if content.allows c then some rest else none
    | [] => none
  match after? with
  | some (c :: rest) => if c = apostrophe then some rest else none
  | _ => none

/-- After a literal in quotes or apostrophes. -/
def afterQuoted? : List Char → Option (List Char)
  | '"' :: rest => afterQuote? .characters 0 rest
  | 'r' :: rest => afterRaw? .characters rest
  | 'b' :: '"' :: rest => afterQuote? .bytes 0 rest
  | 'b' :: 'r' :: rest => afterRaw? .bytes rest
  | 'c' :: '"' :: rest => afterQuote? .terminated 0 rest
  | 'c' :: 'r' :: rest => afterRaw? .terminated rest
  | 'b' :: c :: rest => if c = apostrophe then afterApostrophe? .bytes rest else none
  | c :: rest => if c = apostrophe then afterApostrophe? .characters rest else none
  | [] => none

/-- After the name of a type that may stand right behind a literal. -/
def afterSuffix (cs : List Char) : List Char :=
  match Text.Identifier.split? cs with
  | some (_, rest) => rest
  | none => cs

def isDigitOrLine (c : Char) : Bool := c.isDigit || c = '_'

/-- After the mark of an exponent: underscores, a sign, and digits with underscores. -/
def afterExponent? (cs : List Char) : Option (List Char) :=
  let unsigned :=
    match cs.dropWhile fun c => c = '_' with
    | '+' :: rest => rest
    | '-' :: rest => rest
    | rest => rest
  match unsigned.dropWhile fun c => c = '_' with
  | c :: rest => if c.isDigit then some (rest.dropWhile isDigitOrLine) else none
  | [] => none

/-- After the digits of a number with a point or an exponent. A point that another one or a name
follows is not part of it, and an exponent without digits is none. -/
def afterFraction? (cs : List Char) : Option (List Char) :=
  let exponent? : List Char → Option (List Char)
    | 'e' :: rest => afterExponent? rest
    | 'E' :: rest => afterExponent? rest
    | _ => none
  match cs.dropWhile isDigitOrLine with
  | '.' :: rest =>
    if (rest.head?.map fun c => c = '.' || Text.Identifier.isStart c).getD false then none
    else
      let after := rest.dropWhile isDigitOrLine
      some ((exponent? after).getD after)
  | rest => exponent? rest

/-- After the digits of an integer in a base, with underscores; a decimal digit beyond the base is
refused. -/
def afterDigits? (base : Nat) (cs : List Char) : Option (List Char) :=
  let isPart (c : Char) : Bool :=
    c = '_' || c.isDigit || (base = 16 && (Text.hexDigit? c).isSome)
  let digits := (cs.takeWhile isPart).filter fun c => c != '_'
  if digits.isEmpty || digits.any fun c => (Text.hexDigit? c).any fun digit => base ≤ digit.val then
    none
  else some (cs.dropWhile isPart)

def afterInteger? : List Char → Option (List Char)
  | '0' :: 'x' :: rest => afterDigits? 16 rest
  | '0' :: 'o' :: rest => afterDigits? 8 rest
  | '0' :: 'b' :: rest => afterDigits? 2 rest
  | cs => afterDigits? 10 cs

/-- After a number; no character of an identifier may follow it. -/
def afterNumber? (cs : List Char) : Option (List Char) :=
  if (cs.head?.map Char.isDigit).getD false then
    let complete (rest : List Char) : Option (List Char) :=
      let after := afterSuffix rest
      if (after.head?.map Text.Identifier.isPart).getD false then none else some after
    (afterFraction? cs >>= complete) <|> (afterInteger? cs >>= complete)
  else none

/-- After the literal that a text begins with. -/
def after? (cs : List Char) : Option (List Char) :=
  match afterQuoted? cs with
  | some rest => some (afterSuffix rest)
  | none => afterNumber? cs

end BoundEntity.Literal
