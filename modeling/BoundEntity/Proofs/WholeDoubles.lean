import BoundEntity.Proofs.Coercion
import BoundEntity.Proofs.DoubleUnits
import Mathlib.Data.Rat.Cast.Order
import Mathlib.Tactic.FieldSimp
import Mathlib.Tactic.Positivity

/-!
# Doubles that are integers

The upper limit of the signed range is no double and stands for `2 ^ 63`, which is why nothing equal to it is
taken.
-/
namespace BoundEntity
variable {x : Binary64} {n : Int64}

namespace Binary64

/-- The number that a word stands for: the sign, and the fraction scaled by the exponent. A one leads the
fraction unless the exponent is the least. -/
def toRat (x : Binary64) : ℚ :=
  let sign : ℚ := if x.bits.toNat / 2 ^ 63 = 0 then 1 else -1
  let exponent : ℕ := x.bits.toNat / 2 ^ 52 % 2 ^ 11
  let fraction : ℚ := (x.bits.toNat % 2 ^ 52 : ℕ) / 2 ^ 52
  if exponent = 0 then sign * fraction * 2 ^ (-1022 : ℤ)
  else sign * (1 + fraction) * 2 ^ ((exponent : ℤ) - 1023)

theorem unitsPerOne_cast : (unitsPerOne : ℚ) = 2 ^ 52 * 2 ^ 1022 := by
  obtain ⟨e, he⟩ : ∃ e, 1022 = e := ⟨1022, rfl⟩
  rw [unitsPerOne_eq_mul (show 1074 = 52 + e from he ▸ rfl), he, Nat.cast_mul, Nat.cast_pow, Nat.cast_pow,
    Nat.cast_ofNat]

theorem toRat_eq (x : Binary64) : x.toRat = x.units / unitsPerOne := by
  have hword : x.bits.toNat < 2 ^ 64 := x.bits.toNat_lt
  have hsign : x.isNegative = decide (x.bits.toNat / 2 ^ 63 ≠ 0) := by
    simp only [isNegative, Nat.pow_eq, decide_eq_decide]
    omega
  have hexponent : x.magnitudeBits / 2 ^ 52 = x.bits.toNat / 2 ^ 52 % 2 ^ 11 := by
    simp only [magnitudeBits, Nat.pow_eq]
    omega
  have hfraction : x.magnitudeBits % 2 ^ 52 = x.bits.toNat % 2 ^ 52 := by
    simp only [magnitudeBits, Nat.pow_eq]
    omega
  have hunits : (x.units : ℚ) =
      (if x.bits.toNat / 2 ^ 63 = 0 then 1 else -1) * (x.magnitude : ℚ) := by
    unfold units
    rw [hsign]
    by_cases hzero : x.bits.toNat / 2 ^ 63 = 0
    · rw [if_pos hzero, one_mul, if_neg (by simpa using hzero), Int.cast_natCast]
    · rw [if_neg hzero, neg_one_mul, if_pos (by simpa using hzero), Int.cast_neg, Int.cast_natCast]
  have hleast : (2 : ℚ) ^ (-1022 : ℤ) = 2 ^ 52 / unitsPerOne := by
    rw [unitsPerOne_cast, zpow_neg, div_mul_cancel_left₀ (by positivity)]
    norm_cast
  have hone : (unitsPerOne : ℚ) ≠ 0 := by exact_mod_cast unitsPerOne_pos.ne'
  rw [hunits, magnitude_eq, unitsOfBits, hexponent, hfraction, toRat]
  generalize x.bits.toNat / 2 ^ 52 % 2 ^ 11 = exponent
  generalize (unitsPerOne : ℚ) = one at hleast hone ⊢
  cases exponent with
  | zero =>
    simp only [if_true, hleast]
    field_simp
  | succ e =>
    have hscale : (2 : ℚ) ^ (((e + 1 : ℕ) : ℤ) - 1023) = 2 ^ e * (2 ^ 52 / one) := by
      rw [← hleast, ← zpow_natCast, ← zpow_add₀ two_ne_zero]
      congr 1
      push_cast
      ring
    simp only [Nat.add_one_ne_zero, if_false, Nat.add_sub_cancel, hscale]
    push_cast
    field_simp
    ring

theorem toRat_eq_intCast_iff {i : ℤ} : x.toRat = i ↔ x.units = i * unitsPerOne := by
  have hone : (unitsPerOne : ℚ) ≠ 0 := by exact_mod_cast unitsPerOne_pos.ne'
  rw [toRat_eq, div_eq_iff hone]
  exact_mod_cast Iff.rfl

/-! ## The limits of the range -/

theorem units_least : (ofInt Int64.minValue.toInt).units = -2 ^ 63 * unitsPerOne := by decide +kernel

/-- The greatest integer is no double, and the nearest one is beyond it. -/
theorem units_greatest : (ofInt Int64.maxValue.toInt).units = 2 ^ 63 * unitsPerOne := by decide +kernel

theorem isFinite_int64 (n : Int64) : (ofInt n.toInt).isFinite = true := by
  have hleast : -2 ^ 63 ≤ n.toInt := n.le_toInt
  have hmost : n.toInt < 2 ^ 63 := n.toInt_lt
  exact isFinite_ofInt (by omega)

/-! ## Whole numbers -/

theorem isWhole_iff : x.isWhole = true ↔ x.units = x.truncate * unitsPerOne := by
  have hwhole : x.isWhole = true ↔ x.magnitude / unitsPerOne * unitsPerOne = x.magnitude := by
    rw [isWhole, beq_iff_eq, ← Nat.dvd_iff_mod_eq_zero, Nat.dvd_iff_div_mul_eq]
  rw [hwhole, units, truncate]
  cases x.isNegative with
  | false =>
    simp only [Bool.false_eq_true, if_false]
    rw [eq_comm]
    norm_cast
  | true =>
    simp only [if_true, Int.neg_mul, neg_inj]
    rw [eq_comm]
    norm_cast

theorem truncate_eq {i : ℤ} (hunits : x.units = i * unitsPerOne) : x.truncate = i := by
  have hone : (0 : ℤ) < unitsPerOne := by exact_mod_cast unitsPerOne_pos
  have hmagnitude : x.magnitude = i.natAbs * unitsPerOne := by
    have hnatAbs : x.units.natAbs = x.magnitude := by
      unfold units
      split <;> omega
    rw [← hnatAbs, hunits, Int.natAbs_mul, Int.natAbs_natCast]
  have hwhole : x.isWhole = true := by
    rw [isWhole, beq_iff_eq, hmagnitude, Nat.mul_mod_left]
  exact mul_right_cancel₀ hone.ne' ((isWhole_iff.1 hwhole).symm.trans hunits)

theorem toInt64_eq (hfinite : x.isFinite = true) (hleast : -2 ^ 63 ≤ x.truncate)
    (hmost : x.truncate < 2 ^ 63) : x.toInt64.toInt = x.truncate := by
  have hlow : Int64.minValue.toInt = -2 ^ 63 := rfl
  have hhigh : Int64.maxValue.toInt = 2 ^ 63 - 1 := rfl
  have hclamp : max Int64.minValue.toInt (min Int64.maxValue.toInt x.truncate) = x.truncate := by omega
  rw [toInt64, isNaN_of_isFinite hfinite, hclamp]
  exact Int64.toInt_ofInt_of_le hleast hmost

end Binary64

namespace Value
open Binary64

theorem int64OfFloat?_eq_some_iff :
    int64OfFloat? x = some n ↔ x.isFinite = true ∧ x.units = n.toInt * unitsPerOne := by
  have hone : (0 : ℤ) < unitsPerOne := by exact_mod_cast unitsPerOne_pos
  have hrange : x.isFinite = true → x.isWhole = true →
      ((ofInt Int64.minValue.toInt).le x = true ↔ -2 ^ 63 ≤ x.truncate) ∧
      (x.lt (ofInt Int64.maxValue.toInt) = true ↔ x.truncate < 2 ^ 63) := by
    intro hfinite hwhole
    rw [le_iff (isFinite_int64 _) hfinite, lt_iff hfinite (isFinite_int64 _), units_least, units_greatest,
      isWhole_iff.1 hwhole, mul_le_mul_iff_left₀ hone, mul_lt_mul_iff_left₀ hone]
    exact ⟨Iff.rfl, Iff.rfl⟩
  simp only [int64OfFloat?, Bool.and_eq_true]
  constructor
  · intro hsome
    obtain ⟨⟨⟨⟨hfinite, hwhole⟩, hleast⟩, hmost⟩, hn⟩ := Option.ite_none_right_eq_some.1 hsome
    have hlow := (hrange hfinite hwhole).1.1 hleast
    have hhigh := (hrange hfinite hwhole).2.1 hmost
    obtain rfl := Option.some.inj hn
    rw [toInt64_eq hfinite hlow hhigh]
    exact ⟨hfinite, isWhole_iff.1 hwhole⟩
  · rintro ⟨hfinite, hunits⟩
    have htruncate : x.truncate = n.toInt := truncate_eq hunits
    have hwhole : x.isWhole = true := isWhole_iff.2 (htruncate.symm ▸ hunits)
    have hlow : -2 ^ 63 ≤ x.truncate := htruncate ▸ n.le_toInt
    have hhigh : x.truncate < 2 ^ 63 := htruncate ▸ n.toInt_lt
    have hleast := (hrange hfinite hwhole).1.2 hlow
    have hmost := (hrange hfinite hwhole).2.2 hhigh
    rw [if_pos ⟨⟨⟨hfinite, hwhole⟩, hleast⟩, hmost⟩]
    exact congrArg some (Int64.toInt_inj.1 ((toInt64_eq hfinite hlow hhigh).trans htruncate))

theorem coerce_integer_float_iff {held : Value} :
    Kind.integer.coerce (float x) = .ok held ↔ ∃ n, held = integer n ∧ (float x).int64? = some n := by
  simp only [Kind.coerce, isNull, Kind.accepts, Bool.false_eq_true, if_false, Kind.convert?]
  cases (float x).int64? with
  | none => simp
  | some n => simp [eq_comm]

/-- A finite double is one of the integers that a signed word holds exactly if it is whole and in the range. -/
theorem exists_int64_iff :
    (∃ n : Int64, x.toRat = n.toInt) ↔ (∃ i : ℤ, x.toRat = i) ∧ -2 ^ 63 ≤ x.toRat ∧ x.toRat < 2 ^ 63 := by
  constructor
  · rintro ⟨n, hn⟩
    have hleast : -2 ^ 63 ≤ n.toInt := n.le_toInt
    have hmost : n.toInt < 2 ^ 63 := n.toInt_lt
    rw [hn]
    exact ⟨⟨_, rfl⟩, by exact_mod_cast hleast, by exact_mod_cast hmost⟩
  · rintro ⟨⟨i, hi⟩, hleast, hmost⟩
    rw [hi] at hleast hmost
    refine ⟨Int64.ofInt i, ?_⟩
    rw [hi, Int64.toInt_ofInt_of_le (by exact_mod_cast hleast) (by exact_mod_cast hmost)]

end Value

/-- A double reads as an integer, and is coerced to it, exactly if it is finite and its number is whole and in
the range. The integer is this number. -/
theorem float_to_integer_exact (x : Binary64) :
    ((∃ n, (Value.float x).int64? = some n) ↔
      x.isFinite = true ∧ (∃ i : ℤ, x.toRat = i) ∧ -2 ^ 63 ≤ x.toRat ∧ x.toRat < 2 ^ 63) ∧
    (∀ n : Int64, (Value.float x).int64? = some n ↔ x.isFinite = true ∧ x.toRat = n.toInt) ∧
    ∀ held, Kind.integer.coerce (.float x) = .ok held ↔
      ∃ n : Int64, held = .integer n ∧ x.isFinite = true ∧ x.toRat = n.toInt := by
  have hread (n : Int64) : (Value.float x).int64? = some n ↔ x.isFinite = true ∧ x.toRat = n.toInt := by
    rw [Binary64.toRat_eq_intCast_iff]
    exact Value.int64OfFloat?_eq_some_iff
  refine ⟨?_, hread, fun held => ?_⟩
  · rw [← Value.exists_int64_iff, ← exists_and_left]
    exact exists_congr hread
  · rw [Value.coerce_integer_float_iff]
    refine exists_congr fun n => and_congr_right fun _ => hread n

end BoundEntity
