import BoundEntity.Proofs.WholeDoubles
import Mathlib.Tactic.Linarith

/-!
# Doubles that are near each other

Doubles are near when less than `2 ^ -52` lies between them. From one on, the only neighbour within this
distance is the one just below one.
-/
namespace BoundEntity.Binary64
variable {x y z : Binary64}

theorem distance_comm (x y : Binary64) : x.distance y = y.distance x := by
  have hunits : (x.units - y.units).natAbs = (y.units - x.units).natAbs := by omega
  simp only [distance, Bool.or_comm x.isNaN, Bool.or_comm x.isInfinite, eq_comm (a := x), hunits]

theorem isNear_comm (x y : Binary64) : x.isNear y = y.isNear x := by
  rw [isNear, isNear, distance_comm]

theorem not_isNear_of_isNaN (hnan : x.isNaN = true) (y : Binary64) : x.isNear y = false := by
  rw [isNear, distance, hnan, Bool.true_or, if_pos rfl]
  rfl

theorem not_isNear_of_isInfinite (hinfinite : x.isInfinite = true) (y : Binary64) :
    x.isNear y = false := by
  simp only [isNear, distance, hinfinite, Bool.true_or, if_true]
  split
  · rfl
  · split <;> rfl

theorem isFinite_of_isNear (hnear : x.isNear y = true) : x.isFinite = true := by
  rcases x.isFinite_or with hfinite | hinfinite | hnan
  · exact hfinite
  · rw [not_isNear_of_isInfinite hinfinite] at hnear
    cases hnear
  · rw [not_isNear_of_isNaN hnan] at hnear
    cases hnear

/-! ## Nearness in units -/

theorem isNear_iff (hx : x.isFinite = true) (hy : y.isFinite = true) :
    x.isNear y = true ↔ roundUnits (x.units - y.units).natAbs 1 < 971 * 2 ^ 52 := by
  simp only [isNear, distance, isNaN_of_isFinite hx, isNaN_of_isFinite hy, isInfinite_of_isFinite hx,
    isInfinite_of_isFinite hy, Bool.or_self, Bool.false_eq_true, if_false]
  rw [magnitudeBits_ofMagnitudeBits false (roundUnits_lt_two_pow _ _)]
  exact decide_eq_true_iff

theorem natAbs_lt_of_isNear (hnear : x.isNear y = true) :
    (x.units - y.units).natAbs * 2 ^ 52 < unitsPerOne := by
  have hx : x.isFinite = true := isFinite_of_isNear hnear
  have hy : y.isFinite = true := isFinite_of_isNear ((isNear_comm y x).trans hnear)
  have hbits := (isNear_iff hx hy).1 hnear
  rw [unitsPerOne_eq_mul (show 1074 = 52 + (969 + 53) from rfl), Nat.mul_comm]
  apply Nat.mul_lt_mul_of_pos_left _ (by decide)
  by_contra hfar
  have hround := le_roundUnits (Nat.le_of_not_lt hfar) (by decide)
  omega

theorem isNear_of_natAbs_le (hx : x.isFinite = true) (hy : y.isFinite = true)
    (hclose : (x.units - y.units).natAbs * 2 ^ 54 ≤ 3 * unitsPerOne) : x.isNear y = true := by
  obtain ⟨shift, hshift⟩ : ∃ shift, shift = 969 := ⟨969, rfl⟩
  have hpower : 0 < 2 ^ shift := Nat.two_pow_pos shift
  rw [unitsPerOne_eq_mul (show 1074 = 105 + shift by omega)] at hclose
  have hquotient : (x.units - y.units).natAbs / 2 ^ shift < 3 * 2 ^ 51 + 1 := by
    rw [Nat.div_lt_iff_lt_mul hpower]
    generalize 2 ^ shift = power at hclose hpower ⊢
    omega
  have hround := roundUnits_lt (by omega) (show (x.units - y.units).natAbs / 2 ^ shift + 1 < 2 ^ 53 by omega)
  apply (isNear_iff hx hy).2
  rwa [hshift] at hround

theorem isNear_self (hfinite : x.isFinite = true) : x.isNear x = true := by
  apply isNear_of_natAbs_le hfinite hfinite
  rw [Int.sub_self]
  exact Nat.zero_le _

/-! ## From one on -/

theorem natAbs_units (x : Binary64) : x.units.natAbs = x.magnitude := by
  unfold units
  split <;> omega

theorem exists_half_distance : ∃ p, p + 2 < 2047 ∧ unitsPerOne = 2 ^ 53 * 2 ^ p := by
  obtain ⟨p, hp⟩ : ∃ p, p = 1021 := ⟨1021, rfl⟩
  exact ⟨p, by omega, unitsPerOne_eq_mul (by omega)⟩

variable {p : Nat}

theorem dvd_units_iff {d : Nat} : (d : ℤ) ∣ x.units ↔ d ∣ x.magnitude := by
  rw [← natAbs_units, Int.natCast_dvd]

/-- A double that is not too small for the grid lies on it, and beyond 53 digits on each second place only. -/
theorem exists_units_eq (hlarge : 2 ^ 52 * 2 ^ p ≤ x.magnitude) :
    ∃ k : ℤ, x.units = k * (2 ^ p : ℕ) ∧ (k % 2 = 0 ∨ k.natAbs < 2 ^ 53) := by
  have hdvd : 2 ^ p ∣ x.magnitude := (x.dvd_magnitude_or_lt p).resolve_right (Nat.not_lt.2 hlarge)
  obtain ⟨k, hk⟩ := dvd_units_iff.2 hdvd
  have hpositive : 0 < 2 ^ p := Nat.two_pow_pos p
  refine ⟨k, hk.trans (Int.mul_comm _ _), ?_⟩
  rcases x.dvd_magnitude_or_lt (p + 1) with heven | hsmall
  · left
    have hunits : ((2 ^ (p + 1) : ℕ) : ℤ) ∣ x.units := dvd_units_iff.2 heven
    rw [hk, Nat.pow_succ, Nat.cast_mul] at hunits
    exact Int.emod_eq_zero_of_dvd (Int.dvd_of_mul_dvd_mul_left (by positivity) hunits)
  · right
    have hmagnitude : x.magnitude = 2 ^ p * k.natAbs := by
      rw [← natAbs_units, hk, Int.natAbs_mul, Int.natAbs_natCast]
    apply Nat.lt_of_mul_lt_mul_left (a := 2 ^ p)
    calc 2 ^ p * k.natAbs = x.magnitude := hmagnitude.symm
      _ < 2 ^ 52 * 2 ^ (p + 1) := hsmall
      _ = 2 ^ p * 2 ^ 53 := by ring

/-- Two doubles that are near a third from one on are near each other: the grid is as wide as the distance
there, and half as wide just below one. -/
theorem isNear_trans (hone : unitsPerOne ≤ y.magnitude) (hx : y.isNear x = true)
    (hz : y.isNear z = true) : x.isNear z = true := by
  obtain ⟨p, -, hunit⟩ := exists_half_distance
  have hpositive : 0 < 2 ^ p := Nat.two_pow_pos p
  rw [hunit] at hone
  obtain ⟨m, hm, hmiddle⟩ := exists_units_eq (Nat.le_trans (Nat.mul_le_mul_right _ (by decide)) hone)
  have hleast : 2 ^ 53 ≤ m.natAbs := by
    rw [← natAbs_units, hm, Int.natAbs_mul, Int.natAbs_natCast] at hone
    exact Nat.le_of_mul_le_mul_right hone hpositive
  have hneighbour : ∀ w : Binary64, y.isNear w = true →
      ∃ k : ℤ, w.units = k * (2 ^ p : ℕ) ∧ (k % 2 = 0 ∨ k.natAbs < 2 ^ 53) ∧ (m - k).natAbs < 2 := by
    intro w hw
    have hdistance := natAbs_lt_of_isNear hw
    rw [hunit] at hdistance
    have hlarge : 2 ^ 52 * 2 ^ p ≤ w.magnitude := by
      rw [← natAbs_units] at hone ⊢
      generalize 2 ^ p = half at hone hdistance ⊢
      omega
    obtain ⟨k, hk, hgrid⟩ := exists_units_eq hlarge
    refine ⟨k, hk, hgrid, ?_⟩
    rw [hm, hk, ← Int.sub_mul, Int.natAbs_mul, Int.natAbs_natCast] at hdistance
    apply Nat.lt_of_mul_lt_mul_right (a := 2 ^ p)
    generalize (m - k).natAbs * 2 ^ p = apart at hdistance ⊢
    omega
  obtain ⟨i, hi, higrid, hiclose⟩ := hneighbour x hx
  obtain ⟨j, hj, hjgrid, hjclose⟩ := hneighbour z hz
  have hclose : (i - j).natAbs ≤ 1 := by omega
  have hxfinite : x.isFinite = true := isFinite_of_isNear ((isNear_comm x y).trans hx)
  have hzfinite : z.isFinite = true := isFinite_of_isNear ((isNear_comm z y).trans hz)
  apply isNear_of_natAbs_le hxfinite hzfinite
  rw [hi, hj, ← Int.sub_mul, Int.natAbs_mul, Int.natAbs_natCast, hunit]
  have hapart : (i - j).natAbs * 2 ^ p ≤ 1 * 2 ^ p := Nat.mul_le_mul_right _ hclose
  omega

/-! ## Below one -/

theorem exists_double (hp : p + 2 < 2047) {k : ℤ} (hk : k.natAbs ≤ 2 ^ 53) :
    ∃ w : Binary64, w.isFinite = true ∧ w.units = k * (2 ^ p : ℕ) := by
  obtain ⟨hunits, hfinite⟩ := unitsOfBits_roundUnits hk hp
  have hbits : roundUnits (k.natAbs * 2 ^ p) 1 < 2 ^ 63 := roundUnits_lt_two_pow _ _
  refine ⟨ofMagnitudeBits (k < 0) (roundUnits (k.natAbs * 2 ^ p) 1), ?_, ?_⟩
  · rw [isFinite_iff, magnitudeBits_ofMagnitudeBits _ hbits]
    exact hfinite
  · rw [units, isNegative_ofMagnitudeBits _ hbits, magnitude_eq, magnitudeBits_ofMagnitudeBits _ hbits,
      hunits, Nat.cast_mul]
    by_cases hnegative : k < 0
    · rw [decide_eq_true hnegative, if_pos rfl, ← Int.neg_mul]
      congr 1
      omega
    · rw [decide_eq_false hnegative, if_neg Bool.false_ne_true]
      congr 1
      omega

/-- Around a double below one, two others on the grid of the half distance are three quarters of the distance
away at most, and the whole distance from each other. -/
theorem exists_apart (hfinite : x.isFinite = true) (hsmall : x.magnitude < unitsPerOne) :
    ∃ w z : Binary64, w.isFinite = true ∧ z.isFinite = true ∧
      x.isNear w = true ∧ x.isNear z = true ∧ w.isNear z = false := by
  obtain ⟨p, hp, hunit⟩ := exists_half_distance
  have hpositive : 0 < 2 ^ p := Nat.two_pow_pos p
  have hinside : x.magnitude + 2 ^ p ≤ unitsPerOne := by
    rw [hunit] at hsmall ⊢
    rcases x.dvd_magnitude_or_lt p with ⟨k, hk⟩ | hless
    · rw [hk, Nat.mul_comm] at hsmall
      have hk' : k + 1 ≤ 2 ^ 53 := Nat.lt_of_mul_lt_mul_right hsmall
      calc x.magnitude + 2 ^ p = (k + 1) * 2 ^ p := by rw [hk]; ring
        _ ≤ 2 ^ 53 * 2 ^ p := Nat.mul_le_mul_right _ hk'
    · omega
  obtain ⟨half, hhalf⟩ : ∃ half : ℤ, half = (2 ^ p : ℕ) := ⟨_, rfl⟩
  have hhalf_pos : 0 < half := hhalf ▸ Int.natCast_pos.2 hpositive
  have hunits : (x.units.natAbs : ℤ) + half ≤ 2 ^ 53 * half := by
    rw [natAbs_units, hhalf]
    exact_mod_cast hunit ▸ hinside
  obtain ⟨k, hlow, hhigh⟩ : ∃ k : ℤ, 2 * (k * half) ≤ 2 * x.units + half ∧
      2 * x.units < 2 * (k * half) + half := by
    have hfloor := Int.ediv_mul_le (2 * x.units + half) (show 2 * half ≠ 0 by omega)
    have hceil := Int.lt_ediv_add_one_mul_self (2 * x.units + half) (show 0 < 2 * half by omega)
    refine ⟨(2 * x.units + half) / (2 * half), ?_, ?_⟩ <;> linarith
  have hmost : k < 2 ^ 53 := by
    apply lt_of_mul_lt_mul_right _ hhalf_pos.le
    omega
  have hleast : -2 ^ 53 < k := by
    apply lt_of_mul_lt_mul_right _ hhalf_pos.le
    omega
  obtain ⟨w, hwfinite, hw⟩ := exists_double hp (show (k + 1).natAbs ≤ 2 ^ 53 by omega)
  obtain ⟨z, hzfinite, hz⟩ := exists_double hp (show (k - 1).natAbs ≤ 2 ^ 53 by omega)
  rw [← hhalf, Int.add_mul, Int.one_mul] at hw
  rw [← hhalf, Int.sub_mul, Int.one_mul] at hz
  have hone : (unitsPerOne : ℤ) = 2 ^ 53 * half := by
    rw [hunit, hhalf]
    push_cast
    rfl
  refine ⟨w, z, hwfinite, hzfinite, ?_, ?_, ?_⟩
  · apply isNear_of_natAbs_le hfinite hwfinite
    omega
  · apply isNear_of_natAbs_le hfinite hzfinite
    omega
  · rw [Bool.eq_false_iff]
    intro hnear
    have hdistance := natAbs_lt_of_isNear hnear
    omega

end BoundEntity.Binary64
