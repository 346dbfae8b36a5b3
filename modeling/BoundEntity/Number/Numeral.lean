import BoundEntity.Number.Decimal

/-!
# Numerals in text

Readers for whole numbers and doubles. All of them read the whole text or nothing.
-/
namespace BoundEntity.Numeral

/-- One or more decimal digits. -/
def natural? (cs : List Char) : Option Nat :=
  if cs.isEmpty then none
  else if cs.all Char.isDigit then some (Nat.ofDigitChars 10 cs 0) else none

/-- An optional sign, then digits. -/
def integer? : List Char → Option Int
  | '-' :: cs => (natural? cs).map fun n => -(n : Int)
  | '+' :: cs => (natural? cs).map fun n => (n : Int)
  | cs => (natural? cs).map fun n => (n : Int)

/-- A whole number of the signed 64-bit range. -/
def int64? (cs : List Char) : Option Int64 :=
  match integer? cs with
  | none => none
  | some i =>
    if -9223372036854775808 ≤ i ∧ i < 9223372036854775808 then some (Int64.ofInt i) else none

/-- A count of the unsigned 64-bit range; it may carry a plus sign. -/
def count? (cs : List Char) : Option Nat :=
  let digits := match cs with
    | '+' :: rest => rest
    | _ => cs
  match natural? digits with
  | none => none
  | some n => if n < 18446744073709551616 then some n else none

/-- The exponent of a decimal: nothing, or `e` and a whole number. -/
def exponent? : List Char → Option Int
  | [] => some 0
  | c :: cs => if c = 'e' ∨ c = 'E' then integer? cs else none

/-- Digits with an optional point and an optional exponent; one digit at least. -/
def decimal? (cs : List Char) : Option Decimal :=
  let whole := cs.takeWhile Char.isDigit
  let rest := cs.dropWhile Char.isDigit
  let fraction := match rest with
    | '.' :: tail => tail.takeWhile Char.isDigit
    | _ => []
  let rest := match rest with
    | '.' :: tail => tail.dropWhile Char.isDigit
    | _ => rest
  if (whole ++ fraction).isEmpty then none
  else
    (exponent? rest).map fun exponent =>
      ⟨Nat.ofDigitChars 10 (whole ++ fraction) 0, exponent - fraction.length⟩

/-- A double without its sign: infinity or not-a-number by name, in letters of any case, or the
double nearest to a decimal. -/
def magnitude? (negative : Bool) (cs : List Char) : Option Binary64 :=
  let name := cs.map Char.toLower
  if name = ['i', 'n', 'f'] ∨ name = ['i', 'n', 'f', 'i', 'n', 'i', 't', 'y'] then
    some (Binary64.ofMagnitudeBits negative Binary64.infinityBits)
  else if name = ['n', 'a', 'n'] then
    some (Binary64.ofMagnitudeBits negative Binary64.nan.magnitudeBits)
  else (decimal? cs).map fun d => d.toBinary64 negative

/-- An optional sign, then a magnitude. -/
def binary64? : List Char → Option Binary64
  | '-' :: cs => magnitude? true cs
  | '+' :: cs => magnitude? false cs
  | cs => magnitude? false cs

end BoundEntity.Numeral
