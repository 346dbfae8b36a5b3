import BoundEntity.Json.Basic
import BoundEntity.Number.Decimal

/-!
# Numbers in JSON text

A number without point and exponent is a whole number if that fits in 64 bits. Any other number is a double
that is scaled by a power of ten; each step rounds, so the result can be one unit off the nearest double.
-/
namespace BoundEntity.Json

/-- The parts of a number as written. -/
structure NumberText where
  negative : Bool
  whole : List Char
  fraction : Option (List Char)
  exponent : Option Int

namespace NumberText

def significandLimit : Nat := 18446744073709551616

/-- Gathers digits while the significand stays below the limit; also tells how many it took. -/
def gather : Nat → List Char → Nat × Nat
  | significand, [] => (significand, 0)
  | significand, c :: rest =>
    let next := significand * 10 + (c.toNat - 48)
    if next < significandLimit then
      let (result, taken) := gather next rest
      (result, taken + 1)
    else (significand, 0)

def powerOfTen (n : Nat) : Binary64 := Decimal.toBinary64 false ⟨1, n⟩

/-- `x * 10 ^ exponent`, by powers of ten up to `10 ^ 308`; fails beyond the largest double. -/
def scale? (x : Binary64) (exponent : Int) : Option Binary64 :=
  if x.isZero then some x
  else if 0 ≤ exponent then
    if 308 < exponent then none
    else
      let product := x.mul (powerOfTen exponent.toNat)
      if product.isFinite then some product else none
  else
    let places := (-exponent).toNat
    if places ≤ 308 then some (x.div (powerOfTen places))
    else if places ≤ 616 then some ((x.div (powerOfTen 308)).div (powerOfTen (places - 308)))
    else some Binary64.zero

def finite? (x : Binary64) : Option Number :=
  if h : x.isFinite = true then some (.float x h) else none

def float? (negative : Bool) (significand : Nat) (exponent : Int) : Option Number :=
  match scale? (Binary64.ofInt significand) exponent with
  | none => none
  | some x => finite? (Binary64.ofMagnitudeBits negative x.magnitudeBits)

/-- A whole number; minus zero and numbers below `-2 ^ 63` are doubles. -/
def integer? (negative : Bool) (n : Nat) : Option Number :=
  if negative then
    if h : n ≠ 0 ∧ n ≤ 9223372036854775808 then
      some (.integer (-(n : Int)) (by omega) (by omega))
    else float? true n 0
  else if h : n < 18446744073709551616 then some (.integer n (by omega) (by omega))
  else none

/-- The number that a text stands for. -/
def value? (t : NumberText) : Option Number :=
  let (whole, taken) := gather 0 t.whole
  let dropped := t.whole.length - taken
  match t.fraction, t.exponent with
  | none, none => if dropped = 0 then integer? t.negative whole else float? t.negative whole dropped
  | fraction, exponent =>
    let (significand, places) := gather whole (fraction.getD [])
    float? t.negative significand ((dropped : Int) - places + exponent.getD 0)

end NumberText
end BoundEntity.Json
