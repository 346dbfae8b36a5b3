/-!
# Double-precision numbers

A double is its 64-bit interchange word. Every finite double is a whole number of units of
`2 ^ -1074`, so arithmetic is exact arithmetic on those numbers followed by one rounding.
-/
namespace BoundEntity

/-- A double in its interchange format: sign, 11-bit exponent, 52-bit fraction. -/
structure Binary64 where
  bits : UInt64
deriving DecidableEq

namespace Binary64

/-- The word without its sign bit. -/
def magnitudeBits (x : Binary64) : Nat := x.bits.toNat % Nat.pow 2 63

def isNegative (x : Binary64) : Bool := Nat.pow 2 63 ≤ x.bits.toNat

/-- Magnitude bits of infinity; below are the finite doubles, above the NaNs. -/
def infinityBits : Nat := 2047 * Nat.pow 2 52

def isFinite (x : Binary64) : Bool := x.magnitudeBits < infinityBits

def isInfinite (x : Binary64) : Bool := x.magnitudeBits == infinityBits

def isNaN (x : Binary64) : Bool := infinityBits < x.magnitudeBits

/-- How many units of `2 ^ -1074` make one. -/
def unitsPerOne : Nat := Nat.pow 2 1074

/-- The absolute value of a finite double in units of `2 ^ -1074`. -/
def magnitude (x : Binary64) : Nat :=
  let exponent := x.magnitudeBits / Nat.pow 2 52
  let fraction := x.magnitudeBits % Nat.pow 2 52
  if exponent = 0 then fraction else (fraction + Nat.pow 2 52) * Nat.pow 2 (exponent - 1)

/-- The value of a finite double in units of `2 ^ -1074`. -/
def units (x : Binary64) : Int := if x.isNegative then -(x.magnitude : Int) else x.magnitude

def isZero (x : Binary64) : Bool := x.magnitudeBits == 0

/-- The double with the given sign and magnitude bits. -/
def ofMagnitudeBits (negative : Bool) (m : Nat) : Binary64 :=
  ⟨UInt64.ofNat (if negative then m + Nat.pow 2 63 else m)⟩

def zero : Binary64 := ⟨0⟩
def infinity : Binary64 := ofMagnitudeBits false infinityBits
def nan : Binary64 := ofMagnitudeBits false (infinityBits + Nat.pow 2 51)

/-- The whole number nearest to `num / den`; a half goes to the even neighbour. -/
def nearestEven (num den : Nat) : Nat :=
  let quotient := num / den
  let rest := num % den
  if 2 * rest < den then quotient
  else if den < 2 * rest then quotient + 1
  else quotient + quotient % 2

/-- Magnitude bits of the double nearest to `num / den` units of `2 ^ -1074`.

The significand keeps 53 bits, so all but that many binary digits are rounded away; a significand
rounded up to `2 ^ 53` carries into the exponent field by itself. -/
def roundUnits (num den : Nat) : Nat :=
  let shift := Nat.log2 (num / den) - 52
  min (shift * Nat.pow 2 52 + nearestEven num (den * Nat.pow 2 shift)) infinityBits

/-- The double nearest to `± num / den`. -/
def ofRatio (negative : Bool) (num den : Nat) : Binary64 :=
  ofMagnitudeBits negative (roundUnits (num * unitsPerOne) den)

def ofInt (i : Int) : Binary64 := ofRatio (i < 0) i.natAbs 1

/-- Whether a finite double has no fraction. -/
def isWhole (x : Binary64) : Bool := x.magnitude % unitsPerOne == 0

/-- A finite double without its fraction. -/
def truncate (x : Binary64) : Int :=
  let n : Int := (x.magnitude / unitsPerOne : Nat)
  if x.isNegative then -n else n

/-- A double without its fraction as a signed 64-bit integer. One beyond the range, infinities
included, becomes the nearest limit, and a NaN becomes zero. -/
def toInt64 (x : Binary64) : Int64 :=
  if x.isNaN then 0
  else Int64.ofInt (max Int64.minValue.toInt (min Int64.maxValue.toInt x.truncate))

/-- The place among the numbers, which the two zeros share. -/
def rank (x : Binary64) : Int := if x.isNegative then -(x.magnitudeBits : Int) else x.magnitudeBits

/-- The order of numbers; a NaN is not below, above or beside anything. -/
def le (x y : Binary64) : Bool := !x.isNaN && !y.isNaN && x.rank ≤ y.rank

def lt (x y : Binary64) : Bool := !x.isNaN && !y.isNaN && x.rank < y.rank

/-- The rounded product of two finite doubles. -/
def mul (x y : Binary64) : Binary64 :=
  ofMagnitudeBits (x.isNegative != y.isNegative) (roundUnits (x.magnitude * y.magnitude) unitsPerOne)

/-- The rounded quotient of two finite doubles, the second one not zero. -/
def div (x y : Binary64) : Binary64 :=
  ofMagnitudeBits (x.isNegative != y.isNegative) (roundUnits (x.magnitude * unitsPerOne) y.magnitude)

/-- The rounded distance `|x - y|`; it is not a number for a NaN and between equal infinities. -/
def distance (x y : Binary64) : Binary64 :=
  if x.isNaN || y.isNaN then nan
  else if x.isInfinite || y.isInfinite then (if x = y then nan else infinity)
  else ofMagnitudeBits false (roundUnits (x.units - y.units).natAbs 1)

/-- Magnitude bits of `2 ^ -52`. -/
def epsilonBits : Nat := 971 * Nat.pow 2 52

/-- Closer than `2 ^ -52`; never so when the distance is not a number. -/
def isNear (x y : Binary64) : Bool := (x.distance y).magnitudeBits < epsilonBits

/-- Equality of numbers: the two zeros are equal, a NaN equals nothing. -/
def sameNumber (x y : Binary64) : Bool :=
  !x.isNaN && (x == y || (x.isZero && y.isZero))

/-! ## Whole numbers of 64 bits are finite -/

theorem magnitudeBits_ofMagnitudeBits (negative : Bool) {m : Nat} (h : m < Nat.pow 2 63) :
    (ofMagnitudeBits negative m).magnitudeBits = m := by
  rw [Nat.pow_eq] at h
  have hword : (if negative then m + 2 ^ 63 else m) < 2 ^ 64 := by split <;> omega
  simp only [ofMagnitudeBits, magnitudeBits, Nat.pow_eq, UInt64.toNat_ofNat', Nat.mod_eq_of_lt hword]
  split <;> omega

theorem nearestEven_le (num den : Nat) : nearestEven num den ≤ num / den + 1 := by
  unfold nearestEven
  dsimp only
  split
  · omega
  · split <;> omega

theorem le_nearestEven (num den : Nat) : num / den ≤ nearestEven num den := by
  unfold nearestEven
  dsimp only
  split
  · omega
  · split <;> omega

/-- Rounding keeps 53 binary digits. -/
theorem roundUnits_le {num den k : Nat} (h : num / den < Nat.pow 2 k) :
    roundUnits num den ≤ (k - 53) * Nat.pow 2 52 + Nat.pow 2 53 := by
  simp only [roundUnits, Nat.pow_eq] at h ⊢
  generalize hshift : Nat.log2 (num / den) - 52 = shift
  have hle : shift ≤ k - 53 := by
    by_cases hzero : num / den = 0
    · simp [hzero] at hshift
      omega
    · have := (Nat.log2_lt hzero).2 h
      omega
  have hquotient : num / (den * 2 ^ shift) < 2 ^ 53 := by
    rw [← Nat.div_div_eq_div_mul]
    apply Nat.div_lt_of_lt_mul
    rw [← Nat.pow_add]
    calc num / den < 2 ^ (Nat.log2 (num / den) + 1) := Nat.lt_log2_self
      _ ≤ 2 ^ (shift + 53) := Nat.pow_le_pow_right (by decide) (by omega)
  have hnearest : nearestEven num (den * 2 ^ shift) ≤ 2 ^ 53 :=
    Nat.le_trans (nearestEven_le num (den * 2 ^ shift)) hquotient
  exact Nat.le_trans (Nat.min_le_left _ _) (Nat.add_le_add (Nat.mul_le_mul_right _ hle) hnearest)

theorem isFinite_ofInt {i : Int} (h : i.natAbs < 18446744073709551616) : (ofInt i).isFinite = true := by
  -- the exponent stays a variable, so that the power is not computed
  obtain ⟨e, he, hunit⟩ : ∃ e, e = 1074 ∧ unitsPerOne = Nat.pow 2 e := by
    unfold unitsPerOne
    exact ⟨1074, rfl, rfl⟩
  have hunits : i.natAbs * unitsPerOne / 1 < Nat.pow 2 (64 + e) := by
    rw [Nat.div_one, hunit, Nat.pow_eq, Nat.pow_eq, Nat.pow_add]
    exact Nat.mul_lt_mul_of_pos_right (by omega) (Nat.two_pow_pos e)
  have hbits : roundUnits (i.natAbs * unitsPerOne) 1 < infinityBits :=
    Nat.lt_of_le_of_lt (roundUnits_le hunits) (by subst he; decide)
  have hmagnitude : (ofInt i).magnitudeBits = roundUnits (i.natAbs * unitsPerOne) 1 :=
    magnitudeBits_ofMagnitudeBits _ (Nat.lt_trans hbits (by decide))
  exact decide_eq_true (hmagnitude ▸ hbits)

end Binary64
end BoundEntity
