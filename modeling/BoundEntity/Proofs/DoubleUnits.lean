import BoundEntity.Number.Binary64
import Mathlib.Order.Monotone.Basic
import Mathlib.Tactic.Ring

/-!
# Doubles as numbers of units

The order of doubles is that of their units, and a number of units that is a double is rounded to itself.
-/
namespace BoundEntity.Binary64
variable {x y : Binary64}

/-- The units of the doubles with these magnitude bits. -/
def unitsOfBits (m : Nat) : Nat :=
  if m / 2 ^ 52 = 0 then m % 2 ^ 52 else (m % 2 ^ 52 + 2 ^ 52) * 2 ^ (m / 2 ^ 52 - 1)

theorem magnitude_eq (x : Binary64) : x.magnitude = unitsOfBits x.magnitudeBits := rfl

theorem magnitudeBits_lt (x : Binary64) : x.magnitudeBits < 2 ^ 63 := Nat.mod_lt _ (by decide)

theorem isFinite_iff : x.isFinite = true ↔ x.magnitudeBits < 2047 * 2 ^ 52 :=
  decide_eq_true_iff

theorem unitsPerOne_eq_mul {m n : Nat} (h : 1074 = m + n) : unitsPerOne = 2 ^ m * 2 ^ n := by
  unfold unitsPerOne
  rw [h]
  exact Nat.pow_add 2 m n

theorem unitsPerOne_pos : 0 < unitsPerOne := by
  -- the exponent stays a variable, so that the power is not computed
  obtain ⟨e, he⟩ : ∃ e, 1074 = 0 + e := ⟨1074, rfl⟩
  rw [unitsPerOne_eq_mul he]
  exact Nat.mul_pos (Nat.two_pow_pos 0) (Nat.two_pow_pos e)

/-! ## The order of units -/

theorem unitsOfBits_lt_succ (m : Nat) : unitsOfBits m < unitsOfBits (m + 1) := by
  unfold unitsOfBits
  by_cases hcarry : m % 2 ^ 52 + 1 = 2 ^ 52
  · have hexponent : (m + 1) / 2 ^ 52 = m / 2 ^ 52 + 1 := by omega
    have hfraction : (m + 1) % 2 ^ 52 = 0 := by omega
    rw [hexponent, hfraction]
    cases hm : m / 2 ^ 52 with
    | zero =>
      simp only [if_true, Nat.add_one_ne_zero, if_false, Nat.add_sub_cancel, Nat.pow_zero]
      omega
    | succ e =>
      have hless : m % 2 ^ 52 + 2 ^ 52 < 2 ^ 52 * 2 := by omega
      simp only [Nat.add_one_ne_zero, if_false, Nat.add_sub_cancel, Nat.zero_add]
      rw [show 2 ^ (e + 1) = 2 * 2 ^ e from Nat.pow_succ', ← Nat.mul_assoc]
      exact Nat.mul_lt_mul_of_pos_right hless (Nat.two_pow_pos e)
  · have hexponent : (m + 1) / 2 ^ 52 = m / 2 ^ 52 := by omega
    have hfraction : (m + 1) % 2 ^ 52 = m % 2 ^ 52 + 1 := by omega
    rw [hexponent, hfraction]
    split
    · exact Nat.lt_succ_self _
    · exact Nat.mul_lt_mul_of_pos_right (by omega) (Nat.two_pow_pos _)

theorem unitsOfBits_strictMono : StrictMono unitsOfBits := strictMono_nat_of_lt_succ unitsOfBits_lt_succ

theorem magnitude_lt_iff : x.magnitude < y.magnitude ↔ x.magnitudeBits < y.magnitudeBits :=
  unitsOfBits_strictMono.lt_iff_lt

theorem magnitude_eq_zero_iff : x.magnitude = 0 ↔ x.magnitudeBits = 0 := by
  rw [magnitude_eq]
  exact unitsOfBits_strictMono.injective.eq_iff' rfl

theorem rank_lt_iff : x.rank < y.rank ↔ x.units < y.units := by
  have hxy : x.magnitude < y.magnitude ↔ x.magnitudeBits < y.magnitudeBits := magnitude_lt_iff
  have hyx : y.magnitude < x.magnitude ↔ y.magnitudeBits < x.magnitudeBits := magnitude_lt_iff
  have hx : x.magnitude = 0 ↔ x.magnitudeBits = 0 := magnitude_eq_zero_iff
  have hy : y.magnitude = 0 ↔ y.magnitudeBits = 0 := magnitude_eq_zero_iff
  unfold rank units
  split <;> split <;> omega

theorem rank_le_iff : x.rank ≤ y.rank ↔ x.units ≤ y.units := by
  have hlt : y.rank < x.rank ↔ y.units < x.units := rank_lt_iff
  omega

theorem isFinite_or (x : Binary64) : x.isFinite = true ∨ x.isInfinite = true ∨ x.isNaN = true := by
  rcases Nat.lt_trichotomy x.magnitudeBits infinityBits with hless | hequal | hmore
  · exact .inl (decide_eq_true hless)
  · exact .inr (.inl (beq_iff_eq.2 hequal))
  · exact .inr (.inr (decide_eq_true hmore))

theorem isNaN_of_isFinite (hfinite : x.isFinite = true) : x.isNaN = false := by
  have hbits : x.magnitudeBits < infinityBits := isFinite_iff.1 hfinite
  exact decide_eq_false (Nat.lt_asymm hbits)

theorem isInfinite_of_isFinite (hfinite : x.isFinite = true) : x.isInfinite = false := by
  have hbits : x.magnitudeBits < infinityBits := isFinite_iff.1 hfinite
  exact beq_false_of_ne (Nat.ne_of_lt hbits)

theorem le_iff (hx : x.isFinite = true) (hy : y.isFinite = true) : x.le y = true ↔ x.units ≤ y.units := by
  simp [le, isNaN_of_isFinite hx, isNaN_of_isFinite hy, rank_le_iff]

theorem lt_iff (hx : x.isFinite = true) (hy : y.isFinite = true) : x.lt y = true ↔ x.units < y.units := by
  simp [lt, isNaN_of_isFinite hx, isNaN_of_isFinite hy, rank_lt_iff]

/-- Doubles lie on a grid, but for those too small for it. -/
theorem dvd_magnitude_or_lt (x : Binary64) (p : Nat) :
    2 ^ p ∣ x.magnitude ∨ x.magnitude < 2 ^ 52 * 2 ^ p := by
  rw [magnitude_eq]
  unfold unitsOfBits
  generalize hexponent : x.magnitudeBits / 2 ^ 52 = exponent
  have hfraction : x.magnitudeBits % 2 ^ 52 < 2 ^ 52 := Nat.mod_lt _ (by decide)
  have hp : 0 < 2 ^ p := Nat.two_pow_pos p
  cases exponent with
  | zero =>
    right
    rw [if_pos rfl]
    exact Nat.lt_of_lt_of_le hfraction (Nat.le_mul_of_pos_right _ hp)
  | succ e =>
    rw [if_neg (Nat.succ_ne_zero e), Nat.add_sub_cancel]
    by_cases hcoarse : p ≤ e
    · left
      exact Nat.dvd_mul_left_of_dvd (Nat.pow_dvd_pow 2 hcoarse) _
    · right
      calc (x.magnitudeBits % 2 ^ 52 + 2 ^ 52) * 2 ^ e
          < (2 ^ 52 * 2) * 2 ^ e := Nat.mul_lt_mul_of_pos_right (by omega) (Nat.two_pow_pos e)
        _ = 2 ^ 52 * 2 ^ (e + 1) := by rw [Nat.mul_assoc, show 2 ^ (e + 1) = 2 * 2 ^ e from Nat.pow_succ']
        _ ≤ 2 ^ 52 * 2 ^ p := Nat.mul_le_mul_left _ (Nat.pow_le_pow_right (by decide) (by omega))

/-! ## Doubles from their sign and magnitude bits -/

theorem isNegative_ofMagnitudeBits (negative : Bool) {m : Nat} (h : m < 2 ^ 63) :
    (ofMagnitudeBits negative m).isNegative = negative := by
  have hword : (if negative then m + 2 ^ 63 else m) < 2 ^ 64 := by split <;> omega
  simp only [ofMagnitudeBits, isNegative, Nat.pow_eq, UInt64.toNat_ofNat', Nat.mod_eq_of_lt hword]
  cases negative
  · simpa using h
  · simp

theorem ofMagnitudeBits_self (x : Binary64) : ofMagnitudeBits x.isNegative x.magnitudeBits = x := by
  obtain ⟨bits⟩ := x
  have hbits : bits.toNat < 2 ^ 64 := bits.toNat_lt
  apply congrArg Binary64.mk
  apply UInt64.toNat.inj
  rw [UInt64.toNat_ofNat']
  simp only [isNegative, magnitudeBits, Nat.pow_eq, decide_eq_true_eq]
  split <;> omega

/-! ## Exact rounding -/

theorem nearestEven_scale {num den factor : Nat} (hfactor : 0 < factor) :
    nearestEven (num * factor) (den * factor) = nearestEven num den := by
  have hless : 2 * (num % den * factor) < den * factor ↔ 2 * (num % den) < den := by
    rw [← Nat.mul_assoc, Nat.mul_lt_mul_right hfactor]
  have hmore : den * factor < 2 * (num % den * factor) ↔ den < 2 * (num % den) := by
    rw [← Nat.mul_assoc, Nat.mul_lt_mul_right hfactor]
  simp only [nearestEven, Nat.mul_div_mul_right _ _ hfactor, Nat.mul_mod_mul_right, hless, hmore]

theorem roundUnits_scale {num den factor : Nat} (hfactor : 0 < factor) :
    roundUnits (num * factor) (den * factor) = roundUnits num den := by
  have hgroup : ∀ power, den * factor * power = den * power * factor := fun power =>
    Nat.mul_right_comm den factor power
  simp only [roundUnits, Nat.mul_div_mul_right _ _ hfactor, hgroup, nearestEven_scale hfactor]

theorem nearestEven_of_mul (quotient : Nat) {den : Nat} (hden : 0 < den) :
    nearestEven (quotient * den) den = quotient := by
  simp [nearestEven, Nat.mul_div_cancel _ hden, hden]

theorem roundUnits_of_mul {shift quotient : Nat} (hleast : shift = 0 ∨ 2 ^ 52 ≤ quotient)
    (hmost : quotient < 2 ^ 53) :
    roundUnits (quotient * 2 ^ shift) 1 = min (shift * 2 ^ 52 + quotient) (2047 * 2 ^ 52) := by
  have hshift : Nat.log2 (quotient * 2 ^ shift) - 52 = shift := by
    by_cases hzero : quotient = 0
    · rcases hleast with rfl | hleast
      · rw [hzero]
        rfl
      · omega
    · have hpositive : quotient * 2 ^ shift ≠ 0 := Nat.mul_ne_zero hzero (Nat.two_pow_pos shift).ne'
      have hbelow : Nat.log2 (quotient * 2 ^ shift) < 53 + shift := by
        rw [Nat.log2_lt hpositive, Nat.pow_add]
        exact Nat.mul_lt_mul_of_pos_right hmost (Nat.two_pow_pos shift)
      rcases hleast with rfl | hleast
      · omega
      · have habove : 52 + shift ≤ Nat.log2 (quotient * 2 ^ shift) := by
          rw [Nat.le_log2 hpositive, Nat.pow_add]
          exact Nat.mul_le_mul_right _ hleast
        omega
  simp only [roundUnits, Nat.div_one, Nat.one_mul, Nat.pow_eq, hshift, infinityBits,
    nearestEven_of_mul quotient (Nat.two_pow_pos shift)]

theorem roundUnits_unitsOfBits {m : Nat} (h : m < 2047 * 2 ^ 52) : roundUnits (unitsOfBits m) 1 = m := by
  unfold unitsOfBits
  split
  · next hsubnormal =>
    have hround : roundUnits (m % 2 ^ 52 * 2 ^ 0) 1 = _ := roundUnits_of_mul (.inl rfl) (by omega)
    rw [Nat.pow_zero, Nat.mul_one] at hround
    rw [hround]
    omega
  · next hnormal =>
    rw [roundUnits_of_mul (.inr (by omega)) (by omega)]
    have hsplit : (m / 2 ^ 52 - 1) * 2 ^ 52 + (m % 2 ^ 52 + 2 ^ 52) = m := by omega
    rw [hsplit]
    omega

theorem roundUnits_magnitude (hfinite : x.isFinite = true) {den : Nat} (hden : 0 < den) :
    roundUnits (x.magnitude * den) den = x.magnitudeBits := by
  have hscale : roundUnits (x.magnitude * den) (1 * den) = roundUnits x.magnitude 1 := roundUnits_scale hden
  rw [Nat.one_mul] at hscale
  rw [hscale, magnitude_eq, roundUnits_unitsOfBits (isFinite_iff.1 hfinite)]

/-- Multiples of a power of two are doubles as long as 53 digits hold the factor. -/
theorem unitsOfBits_roundUnits {factor p : Nat} (hfactor : factor ≤ 2 ^ 53) (hp : p + 2 < 2047) :
    unitsOfBits (roundUnits (factor * 2 ^ p) 1) = factor * 2 ^ p ∧
      roundUnits (factor * 2 ^ p) 1 < 2047 * 2 ^ 52 := by
  -- the factor is scaled until it has 53 digits or the power is used up
  obtain ⟨shift, quotient, hsame, hleast, hmost, hshift⟩ : ∃ shift quotient,
      factor * 2 ^ p = quotient * 2 ^ shift ∧ (shift = 0 ∨ 2 ^ 52 ≤ quotient) ∧ quotient < 2 ^ 53 ∧
      shift ≤ p + 1 := by
    induction p generalizing factor with
    | zero =>
      by_cases hlast : factor = 2 ^ 53
      · exact ⟨1, 2 ^ 52, by omega, .inr (Nat.le_refl _), by decide, by decide⟩
      · exact ⟨0, factor, rfl, .inl rfl, by omega, by decide⟩
    | succ p ih =>
      by_cases hlarge : 2 ^ 52 < factor
      · by_cases hlast : factor = 2 ^ 53
        · refine ⟨p + 2, 2 ^ 52, ?_, .inr (Nat.le_refl _), by decide, by omega⟩
          have hcarry : 2 ^ 53 = 2 ^ 52 * 2 := rfl
          rw [hlast, hcarry, Nat.mul_assoc, ← Nat.pow_succ']
        · exact ⟨p + 1, factor, rfl, .inr (by omega), by omega, by omega⟩
      · have hdouble : factor * 2 ≤ 2 ^ 53 := by omega
        obtain ⟨shift, quotient, hsame, hleast, hmost, hshift⟩ := ih hdouble (by omega)
        refine ⟨shift, quotient, ?_, hleast, hmost, by omega⟩
        rw [← hsame, Nat.pow_succ', Nat.mul_assoc]
  have hround : roundUnits (factor * 2 ^ p) 1 = shift * 2 ^ 52 + quotient := by
    rw [hsame, roundUnits_of_mul hleast hmost]
    omega
  rw [hround, hsame]
  refine ⟨?_, by omega⟩
  unfold unitsOfBits
  rcases hleast with rfl | hleast
  · by_cases hcarry : quotient < 2 ^ 52
    · rw [if_pos (by omega)]
      omega
    · have hexponent : (0 * 2 ^ 52 + quotient) / 2 ^ 52 = 1 := by omega
      rw [hexponent, if_neg (by decide)]
      omega
  · have hexponent : (shift * 2 ^ 52 + quotient) / 2 ^ 52 = shift + 1 := by omega
    have hfraction : (shift * 2 ^ 52 + quotient) % 2 ^ 52 + 2 ^ 52 = quotient := by omega
    rw [hexponent, hfraction, if_neg (Nat.succ_ne_zero shift), Nat.add_sub_cancel]

/-! ## Bounds of rounding -/

theorem roundUnits_lt_two_pow (num den : Nat) : roundUnits num den < 2 ^ 63 :=
  Nat.lt_of_le_of_lt (Nat.min_le_right _ _) (by decide)

variable {num shift : Nat}

theorem roundUnits_lt (hshift : 0 < shift) (hnum : num / 2 ^ shift + 1 < 2 ^ 53) :
    roundUnits num 1 < (shift + 2) * 2 ^ 52 := by
  have hpower : 0 < 2 ^ shift := Nat.two_pow_pos shift
  have hbelow : num < 2 ^ (shift + 53) := by
    rw [Nat.add_comm, Nat.pow_add, ← Nat.div_lt_iff_lt_mul hpower]
    omega
  by_cases hsmall : num < 2 ^ (shift + 52)
  · have hround : roundUnits num 1 ≤ (shift + 52 - 53) * 2 ^ 52 + 2 ^ 53 :=
      roundUnits_le (by rwa [Nat.div_one, Nat.pow_eq])
    omega
  · have hpositive : num ≠ 0 := by
      have := Nat.two_pow_pos (shift + 52)
      omega
    have hlog : Nat.log2 num - 52 = shift := by
      have hleast : shift + 52 ≤ Nat.log2 num := (Nat.le_log2 hpositive).2 (Nat.le_of_not_lt hsmall)
      have hmost : Nat.log2 num < shift + 53 := (Nat.log2_lt hpositive).2 hbelow
      omega
    have hnearest : nearestEven num (2 ^ shift) ≤ num / 2 ^ shift + 1 := nearestEven_le num (2 ^ shift)
    simp only [roundUnits, Nat.div_one, Nat.one_mul, Nat.pow_eq, hlog]
    omega

theorem le_roundUnits (hnum : 2 ^ (shift + 53) ≤ num) (hshift : shift + 2 ≤ 2047) :
    (shift + 2) * 2 ^ 52 ≤ roundUnits num 1 := by
  have hpositive : num ≠ 0 := by
    have := Nat.two_pow_pos (shift + 53)
    omega
  have hlog : shift + 53 ≤ Nat.log2 num := (Nat.le_log2 hpositive).2 hnum
  have hquotient : 2 ^ 52 ≤ num / 2 ^ (Nat.log2 num - 52) := by
    rw [Nat.le_div_iff_mul_le (Nat.two_pow_pos _), ← Nat.pow_add, Nat.add_sub_cancel' (by omega)]
    exact Nat.log2_self_le hpositive
  have hnearest := le_nearestEven num (2 ^ (Nat.log2 num - 52))
  simp only [roundUnits, Nat.div_one, Nat.one_mul, Nat.pow_eq, infinityBits]
  generalize nearestEven num (2 ^ (Nat.log2 num - 52)) = nearest at hnearest ⊢
  omega

end BoundEntity.Binary64
