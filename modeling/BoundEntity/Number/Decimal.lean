import BoundEntity.Number.Binary64

/-!
# Decimal numerals and doubles

`Decimal.toBinary64` rounds a decimal to the nearest double. `Binary64.shortest` goes back: the
fewest digits that round to the given double, and of those the nearest to it.
-/
namespace BoundEntity

/-- The number `digits * 10 ^ exponent`. -/
structure Decimal where
  digits : Nat
  exponent : Int
deriving DecidableEq

namespace Decimal

/-- The nearest double. Numbers from `10 ^ 310` up are beyond the largest double, and those with
`digits < 2 ^ (k + 1)` and `k + 1077 < -3 * exponent` below half of the smallest one, so the powers
of ten that are computed stay small. -/
def toBinary64 (negative : Bool) (d : Decimal) : Binary64 :=
  if d.digits = 0 then Binary64.ofMagnitudeBits negative 0
  else if 0 ≤ d.exponent then
    if 310 ≤ d.exponent then Binary64.ofMagnitudeBits negative Binary64.infinityBits
    else Binary64.ofRatio negative (d.digits * Nat.pow 10 d.exponent.toNat) 1
  else
    let places := (-d.exponent).toNat
    if d.digits.log2 + 1077 < 3 * places then Binary64.ofMagnitudeBits negative 0
    else Binary64.ofRatio negative d.digits (Nat.pow 10 places)

/-- Moves up to `fuel` trailing zeros of the digits into the exponent. -/
def strip : Nat → Decimal → Decimal
  | 0, d => d
  | fuel + 1, d =>
    if d.digits % 10 = 0 ∧ d.digits ≠ 0 then strip fuel ⟨d.digits / 10, d.exponent + 1⟩ else d

end Decimal

/-- Which of two equally near decimals is taken. -/
inductive Tie where
  | toEven
  | away
deriving DecidableEq

namespace Binary64

/-- Whether `num / den < 10 ^ k`. -/
def belowPowerOfTen (num den : Nat) (k : Int) : Bool :=
  if 0 ≤ k then num < den * Nat.pow 10 k.toNat else num * Nat.pow 10 (-k).toNat < den

/-- The least `k` with `|x| < 10 ^ k`, found next to an estimate from the binary exponent. -/
def pointPosition (x : Binary64) : Int :=
  let estimate : Int := ((x.magnitude.log2 : Int) - 1074) * 30103 / 100000
  if belowPowerOfTen x.magnitude unitsPerOne estimate then estimate
  else if belowPowerOfTen x.magnitude unitsPerOne (estimate + 1) then estimate + 1
  else estimate + 2

/-- Whether the decimal rounds to the absolute value of `x`. -/
def readsBack (x : Binary64) (d : Decimal) : Bool :=
  (d.toBinary64 false).magnitudeBits == x.magnitudeBits

/-- The two neighbours of `|x|` on the grid of multiples of `10 ^ step`, the nearer one first. -/
def neighbours (tie : Tie) (x : Binary64) (step : Int) : Decimal × Decimal :=
  let num := if 0 ≤ step then x.magnitude else x.magnitude * Nat.pow 10 (-step).toNat
  let den := if 0 ≤ step then unitsPerOne * Nat.pow 10 step.toNat else unitsPerOne
  let lower := num / den
  let rest := num % den
  let below := Decimal.strip 20 ⟨lower, step⟩
  let above := Decimal.strip 20 ⟨lower + 1, step⟩
  if 2 * rest < den ∨ (2 * rest = den ∧ tie = .toEven ∧ lower % 2 = 0) then (below, above)
  else (above, below)

/-- A decimal with the given number of digits that reads back, if there is one. -/
def withDigits? (tie : Tie) (x : Binary64) (count : Nat) : Option Decimal :=
  let (nearer, farther) := x.neighbours tie (x.pointPosition - count)
  if x.readsBack nearer then some nearer
  else if x.readsBack farther then some farther
  else none

/-- All digits of the absolute value of a finite double. -/
def exactDecimal (x : Binary64) : Decimal := ⟨x.magnitude * Nat.pow 5 1074, -1074⟩

/-- The fewest digits that read back as the absolute value of a finite double. -/
def shortest (tie : Tie) (x : Binary64) : Decimal :=
  if x.isZero then ⟨0, 0⟩
  else
    match (List.range 17).findSome? fun i => x.withDigits? tie (i + 1) with
    | some d => d
    | none => x.exactDecimal

end Binary64
end BoundEntity
