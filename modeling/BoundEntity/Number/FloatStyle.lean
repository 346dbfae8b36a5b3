import BoundEntity.Number.Decimal

/-! # Written forms of doubles -/
namespace BoundEntity

/-- How a format writes doubles; the digits are always the shortest that read back. -/
structure FloatStyle where
  /-- Whole numbers written without an exponent end in `.0`. -/
  pointZero : Bool
  /-- Least and greatest decimal exponent of numbers written without an exponent. -/
  leastPlain : Option Int
  greatestPlain : Option Int
  /-- Exponents that are not negative carry a sign. -/
  plus : Bool
  tie : Tie
  nan : String
  infinity : String

namespace FloatStyle

def zeros (n : Nat) : List Char := List.replicate n '0'

/-- Digits with the point put where the exponent says. -/
def plain (style : FloatStyle) (d : Decimal) : List Char :=
  let digits := Nat.toDigits 10 d.digits
  if 0 ≤ d.exponent then
    digits ++ zeros d.exponent.toNat ++ (if style.pointZero then ['.', '0'] else [])
  else
    let places := (-d.exponent).toNat
    if places < digits.length then
      digits.take (digits.length - places) ++ '.' :: digits.drop (digits.length - places)
    else '0' :: '.' :: zeros (places - digits.length) ++ digits

/-- One digit, the point, the other digits, and the power of ten. -/
def scientific (style : FloatStyle) (d : Decimal) (exponent : Int) : List Char :=
  let mantissa := match Nat.toDigits 10 d.digits with
    | [] => []
    | [c] => [c]
    | c :: rest => c :: '.' :: rest
  let sign := if exponent < 0 then ['-'] else if style.plus then ['+'] else []
  mantissa ++ 'e' :: sign ++ Nat.toDigits 10 exponent.natAbs

def isPlain (style : FloatStyle) (exponent : Int) : Bool :=
  (style.leastPlain.all (· ≤ exponent)) && (style.greatestPlain.all (exponent ≤ ·))

/-- The form of an absolute value. -/
def unsigned (style : FloatStyle) (d : Decimal) : List Char :=
  let exponent := d.exponent + (Nat.toDigits 10 d.digits).length - 1
  if style.isPlain exponent then style.plain d else style.scientific d exponent

def chars (style : FloatStyle) (x : Binary64) : List Char :=
  if x.isNaN then style.nan.toList
  else
    (if x.isNegative then ['-'] else []) ++
      (if x.isInfinite then style.infinity.toList else style.unsigned (x.shortest style.tie))

def write (style : FloatStyle) (x : Binary64) : String := String.ofList (style.chars x)

end FloatStyle
end BoundEntity
