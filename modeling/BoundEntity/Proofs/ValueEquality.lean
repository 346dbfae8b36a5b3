import BoundEntity.Proofs.NearDoubles
import BoundEntity.Value.Basic

/-!
# Equality of values

Documents are equal by content, which is an equivalence. Numbers are compared with a tolerance and through the
nearest double.
-/
namespace BoundEntity

/-! ## Documents -/

namespace Json
variable {j k l : Json}

theorem Number.same_float_iff {x y : Binary64} {hx : x.isFinite = true} {hy : y.isFinite = true} :
    (float x hx).same (float y hy) = true ↔ x = y ∨ (x.isZero = true ∧ y.isZero = true) := by
  have hsame : (float x hx).same (float y hy) = (!x.isNaN && (x == y || (x.isZero && y.isZero))) := rfl
  rw [hsame, Binary64.isNaN_of_isFinite hx]
  simp

theorem Number.same_self (a : Number) : a.same a = true := by
  cases a with
  | integer i _ _ => exact beq_self_eq_true i
  | float x hx => exact same_float_iff.2 (.inl rfl)

theorem Number.same_symm {a b : Number} (h : a.same b = true) : b.same a = true := by
  cases a with
  | integer i _ _ =>
    cases b with
    | integer _ _ _ => exact BEq.symm h
    | float _ _ => cases h
  | float x hx =>
    cases b with
    | integer _ _ _ => cases h
    | float y hy =>
      rcases same_float_iff.1 h with rfl | ⟨hxzero, hyzero⟩
      · exact h
      · exact same_float_iff.2 (.inr ⟨hyzero, hxzero⟩)

theorem Number.same_trans {a b c : Number} (hab : a.same b = true) (hbc : b.same c = true) :
    a.same c = true := by
  cases b with
  | integer i _ _ =>
    cases a with
    | integer _ _ _ =>
      obtain rfl := eq_of_beq hab
      exact hbc
    | float _ _ => cases hab
  | float y hy =>
    cases a with
    | integer _ _ _ => cases hab
    | float x hx =>
      cases c with
      | integer _ _ _ => cases hbc
      | float z hz =>
        rcases same_float_iff.1 hab with rfl | ⟨hxzero, hyzero⟩
        · exact hbc
        · rcases same_float_iff.1 hbc with rfl | ⟨-, hzzero⟩
          · exact hab
          · exact same_float_iff.2 (.inr ⟨hxzero, hzzero⟩)

/-- Documents of one form with equal numbers at the same places. -/
inductive Alike : Json → Json → Prop
  | null : Alike null null
  | bool (b : Bool) : Alike (bool b) (bool b)
  | number {a b : Number} : a.same b = true → Alike (number a) (number b)
  | string (s : String) : Alike (string s) (string s)
  | array {n : Nat} {item other : Fin n → Json} : (∀ i, Alike (item i) (other i)) →
      Alike (array n item) (array n other)
  | object {keys : KeySet} {member other : Fin keys.size → Json} : (∀ i, Alike (member i) (other i)) →
      Alike (object keys member) (object keys other)

theorem alike_of_same (h : j.same k = true) : Alike j k := by
  fun_induction same j k with
  | case1 => exact .null
  | case2 a b =>
    obtain rfl := eq_of_beq h
    exact .bool a
  | case3 a b => exact .number h
  | case4 a b =>
    obtain rfl := eq_of_beq h
    exact .string a
  | case5 n other item ih =>
    have hitems : ∀ i, (item i).same (other i) = true := by
      simpa [List.all_eq_true, List.mem_ofFn] using h
    exact .array fun i => ih i (hitems i)
  | case7 keys other member ih =>
    have hmembers : ∀ i, (member i).same (other i) = true := by
      simpa [List.all_eq_true, List.mem_ofFn] using h
    exact .object fun i => ih i (hmembers i)
  | case6 => cases h
  | case8 => cases h
  | case9 => cases h

namespace Alike

theorem same (h : Alike j k) : j.same k = true := by
  induction h with
  | null => rfl
  | bool b => exact beq_self_eq_true b
  | number hnumber => exact hnumber
  | string s => exact beq_self_eq_true s
  | array _ ih => simpa [Json.same, List.all_eq_true, List.mem_ofFn] using ih
  | object _ ih => simpa [Json.same, List.all_eq_true, List.mem_ofFn] using ih

theorem refl (j : Json) : Alike j j := by
  induction j with
  | null => exact .null
  | bool b => exact .bool b
  | number a => exact .number a.same_self
  | string s => exact .string s
  | array n item ih => exact .array ih
  | object keys member ih => exact .object ih

theorem symm (h : Alike j k) : Alike k j := by
  induction h with
  | null => exact .null
  | bool b => exact .bool b
  | number hnumber => exact .number (Number.same_symm hnumber)
  | string s => exact .string s
  | array _ ih => exact .array ih
  | object _ ih => exact .object ih

theorem trans (hjk : Alike j k) (hkl : Alike k l) : Alike j l := by
  induction hjk generalizing l with
  | null => exact hkl
  | bool b => exact hkl
  | number hfirst =>
    cases hkl with
    | number hsecond => exact .number (Number.same_trans hfirst hsecond)
  | string s => exact hkl
  | array _ ih =>
    cases hkl with
    | array hsecond => exact .array fun i => ih i (hsecond i)
  | object _ ih =>
    cases hkl with
    | object hsecond => exact .object fun i => ih i (hsecond i)

end Alike

theorem same_self (j : Json) : j.same j = true := (Alike.refl j).same

theorem same_symm (h : j.same k = true) : k.same j = true := (alike_of_same h).symm.same

theorem same_trans (hjk : j.same k = true) (hkl : k.same l = true) : j.same l = true :=
  ((alike_of_same hjk).trans (alike_of_same hkl)).same

end Json

/-! ## Values -/

namespace Binary64
variable {x : Binary64}

theorem abs_toRat_lt_one_iff : |x.toRat| < 1 ↔ x.magnitude < unitsPerOne := by
  have hone : (0 : ℚ) < unitsPerOne := by exact_mod_cast unitsPerOne_pos
  have hunits : |(x.units : ℚ)| = x.magnitude := by
    rw [← natAbs_units, Nat.cast_natAbs, Int.cast_abs]
  rw [toRat_eq, abs_div, abs_of_pos hone, div_lt_one hone, hunits]
  exact Nat.cast_lt

theorem one_le_magnitude_ofInt {i : ℤ} (hi : i ≠ 0) : unitsPerOne ≤ (ofInt i).magnitude := by
  have hround : 1023 * 2 ^ 52 ≤ roundUnits (i.natAbs * unitsPerOne) 1 := by
    obtain ⟨shift, hshift⟩ : ∃ shift, shift = 1021 := ⟨1021, rfl⟩
    have hunit : unitsPerOne = 2 ^ shift * 2 ^ 53 := unitsPerOne_eq_mul (by omega)
    have hnum : 2 ^ (shift + 53) ≤ i.natAbs * unitsPerOne := by
      rw [Nat.pow_add, ← hunit]
      exact Nat.le_mul_of_pos_left _ (Int.natAbs_pos.2 hi)
    have hleast := le_roundUnits hnum (hshift ▸ by decide)
    rwa [hshift] at hleast
  have hone : unitsOfBits (1023 * 2 ^ 52) = unitsPerOne := by decide +kernel
  have hbits : roundUnits (i.natAbs * unitsPerOne) 1 < 2 ^ 63 := roundUnits_lt_two_pow _ _
  have hmagnitude : (ofInt i).magnitudeBits = roundUnits (i.natAbs * unitsPerOne) 1 :=
    magnitudeBits_ofMagnitudeBits _ hbits
  have hunits : unitsOfBits (1023 * 2 ^ 52) ≤ unitsOfBits (roundUnits (i.natAbs * unitsPerOne) 1) :=
    unitsOfBits_strictMono.monotone hround
  rw [magnitude_eq, hmagnitude]
  rwa [hone] at hunits

end Binary64

namespace Value
variable {a b c : Value} {x y z : Binary64} {n : Int64}

/-- Numbers strictly between minus one and one. -/
def IsFraction : Value → Prop
  | integer n => n = 0
  | float x => x.isFinite = true ∧ |x.toRat| < 1
  | _ => False

theorem same_float (x y : Binary64) :
    (float x).same (.float y) = ((x.isNaN && y.isNaN) || x.isNear y) := rfl

theorem same_self (hinfinite : ∀ x, a = .float x → x.isInfinite = false) : a.same a = true := by
  cases a with
  | null => rfl
  | integer n => exact beq_self_eq_true n
  | float x =>
    rw [same_float]
    rcases x.isFinite_or with hfinite | hx | hnan
    · rw [Binary64.isNear_self hfinite, Bool.or_true]
    · rw [hinfinite x rfl] at hx
      cases hx
    · rw [hnan]
      rfl
  | text s => exact beq_self_eq_true s
  | boolean b => exact beq_self_eq_true b
  | json j => exact j.same_self

theorem same_symm (h : a.same b = true) : b.same a = true := by
  cases a with
  | null =>
    cases b with
    | null => rfl
    | integer _ | float _ | text _ | boolean _ | json _ => cases h
  | integer n =>
    cases b with
    | integer _ => exact BEq.symm h
    | float _ => exact h
    | null | text _ | boolean _ | json _ => cases h
  | float x =>
    cases b with
    | integer _ => exact h
    | float y =>
      rw [same_float] at h ⊢
      rwa [Bool.and_comm, Binary64.isNear_comm]
    | null | text _ | boolean _ | json _ => cases h
  | text s =>
    cases b with
    | text _ => exact BEq.symm h
    | null | integer _ | float _ | boolean _ | json _ => cases h
  | boolean x =>
    cases b with
    | boolean _ => exact BEq.symm h
    | null | integer _ | float _ | text _ | json _ => cases h
  | json j =>
    cases b with
    | json k => exact Json.same_symm h
    | null | integer _ | float _ | text _ | boolean _ => cases h

/-! ## Three values -/

theorem isNear_of_same_float (hfinite : x.isFinite = true) (h : (float x).same (.float y) = true) :
    x.isNear y = true := by
  rwa [same_float, Binary64.isNaN_of_isFinite hfinite, Bool.false_and, Bool.false_or] at h

theorem same_float_trans (hone : y.isFinite = true → Binary64.unitsPerOne ≤ y.magnitude)
    (hxy : (float x).same (.float y) = true) (hyz : (float y).same (.float z) = true) :
    (float x).same (.float z) = true := by
  simp only [same_float, Bool.or_eq_true, Bool.and_eq_true] at hxy hyz ⊢
  rcases hxy with ⟨hx, hy⟩ | hxy
  · rcases hyz with ⟨-, hz⟩ | hyz
    · exact .inl ⟨hx, hz⟩
    · rw [Binary64.not_isNear_of_isNaN hy] at hyz
      cases hyz
  · rw [Binary64.isNear_comm] at hxy
    have hfinite : y.isFinite = true := Binary64.isFinite_of_isNear hxy
    rcases hyz with ⟨hy, -⟩ | hyz
    · rw [Binary64.isNaN_of_isFinite hfinite] at hy
      cases hy
    · exact .inr (Binary64.isNear_trans (hone hfinite) hxy hyz)

theorem same_trans (hfraction : ¬ b.IsFraction) (hinteger : ∀ m n, a = .integer m → c = .integer n → m = n)
    (hab : a.same b = true) (hbc : b.same c = true) : a.same c = true := by
  cases b with
  | null =>
    cases a with
    | null => exact hbc
    | integer _ | float _ | text _ | boolean _ | json _ => cases hab
  | text s =>
    cases a with
    | text _ =>
      obtain rfl := eq_of_beq hab
      exact hbc
    | null | integer _ | float _ | boolean _ | json _ => cases hab
  | boolean v =>
    cases a with
    | boolean _ =>
      obtain rfl := eq_of_beq hab
      exact hbc
    | null | integer _ | float _ | text _ | json _ => cases hab
  | json k =>
    cases a with
    | json j =>
      cases c with
      | json l => exact Json.same_trans hab hbc
      | null | integer _ | float _ | text _ | boolean _ => cases hbc
    | null | integer _ | float _ | text _ | boolean _ => cases hab
  | integer n =>
    have hone : Binary64.unitsPerOne ≤ (Binary64.ofInt n.toInt).magnitude := by
      apply Binary64.one_le_magnitude_ofInt
      intro hzero
      exact hfraction (Int64.toInt_inj.1 hzero)
    cases a with
    | integer m =>
      obtain rfl := eq_of_beq hab
      exact hbc
    | float x =>
      cases c with
      | integer k =>
        obtain rfl := eq_of_beq hbc
        exact hab
      | float z => exact Bool.or_eq_true_iff.2 (.inr (Binary64.isNear_trans hone hab hbc))
      | null | text _ | boolean _ | json _ => cases hbc
    | null | text _ | boolean _ | json _ => cases hab
  | float y =>
    have hone : y.isFinite = true → Binary64.unitsPerOne ≤ y.magnitude := by
      intro hfinite
      by_contra hsmall
      exact hfraction ⟨hfinite, Binary64.abs_toRat_lt_one_iff.2 (Nat.lt_of_not_le hsmall)⟩
    cases a with
    | integer m =>
      have hym : y.isNear (.ofInt m.toInt) = true := (Binary64.isNear_comm _ _).trans hab
      have hfinite : y.isFinite = true := Binary64.isFinite_of_isNear hym
      cases c with
      | integer k =>
        obtain rfl := hinteger m k rfl rfl
        exact beq_self_eq_true m
      | float z => exact Binary64.isNear_trans (hone hfinite) hym (isNear_of_same_float hfinite hbc)
      | null | text _ | boolean _ | json _ => cases hbc
    | float x =>
      cases c with
      | integer k =>
        have hyk : y.isNear (.ofInt k.toInt) = true := (Binary64.isNear_comm _ _).trans hbc
        have hfinite : y.isFinite = true := Binary64.isFinite_of_isNear hyk
        exact Binary64.isNear_trans (hone hfinite) hyk (isNear_of_same_float hfinite (same_symm hab))
      | float z => exact same_float_trans hone hab hbc
      | null | text _ | boolean _ | json _ => cases hbc
    | null | text _ | boolean _ | json _ => cases hab

/-- Through a fraction two doubles are equal that are not equal to each other. -/
theorem exists_same_of_isFraction (hfraction : b.IsFraction) :
    ∃ x z, (float x).same b = true ∧ b.same (.float z) = true ∧ (float x).same (.float z) = false := by
  obtain ⟨y, hfinite, hsmall, hvia⟩ : ∃ y : Binary64, y.isFinite = true ∧
      y.magnitude < Binary64.unitsPerOne ∧ ∀ w : Binary64, y.isNear w = true → b.same (.float w) = true := by
    cases b with
    | integer n =>
      obtain rfl : n = 0 := hfraction
      refine ⟨.ofInt (0 : Int64).toInt, Binary64.isFinite_int64 0, by decide +kernel, ?_⟩
      intro w hw
      exact hw
    | float y =>
      obtain ⟨hfinite, hless⟩ := hfraction
      exact ⟨y, hfinite, Binary64.abs_toRat_lt_one_iff.1 hless, fun w hw => Bool.or_eq_true_iff.2 (.inr hw)⟩
    | null | text _ | boolean _ | json _ => exact hfraction.elim
  obtain ⟨x, z, hx, -, hyx, hyz, hxz⟩ := Binary64.exists_apart hfinite hsmall
  refine ⟨x, z, same_symm (hvia x hyx), hvia z hyz, ?_⟩
  rw [same_float, Binary64.isNaN_of_isFinite hx, hxz]
  rfl

end Value

/-- Equality of values is symmetric, and reflexive where no double is infinite. It is transitive through a
value, different integers apart, exactly if that value is no number strictly between minus one and one. -/
theorem same_transitive_beyond_fractions :
    (∀ a : Value, (∀ x, a = .float x → x.isInfinite = false) → a.same a = true) ∧
    (∀ a b : Value, a.same b = true → b.same a = true) ∧
    ∀ b : Value, ¬ b.IsFraction ↔
      ∀ a c : Value, (∀ m n, a = .integer m → c = .integer n → m = n) →
        a.same b = true → b.same c = true → a.same c = true := by
  refine ⟨fun a => Value.same_self, fun a b => Value.same_symm, fun b => ⟨?_, ?_⟩⟩
  · intro hfraction a c
    exact Value.same_trans hfraction
  · intro htrans hfraction
    obtain ⟨x, z, hxb, hbz, hxz⟩ := Value.exists_same_of_isFraction hfraction
    have hsame := htrans (.float x) (.float z) (by intro m n hm; cases hm) hxb hbz
    rw [hxz] at hsame
    cases hsame

theorem same_just_below_one :
    (Value.float ⟨0x3FEFFFFFFFFFFFFF⟩).same (.integer 1) = true ∧
    (Value.integer 1).same (.float ⟨0x3FF0000000000000⟩) = true ∧
    (Value.float ⟨0x3FEFFFFFFFFFFFFF⟩).same (.float ⟨0x3FF0000000000000⟩) = true := by
  have hfirst : (Value.float ⟨0x3FEFFFFFFFFFFFFF⟩).same (.integer 1) = true := by decide +kernel
  have hsecond : (Value.integer 1).same (.float ⟨0x3FF0000000000000⟩) = true := by decide +kernel
  have hfraction : ¬ (Value.integer 1).IsFraction := by
    intro hzero
    have hone : (1 : Int64) ≠ 0 := by decide
    exact hone hzero
  refine ⟨hfirst, hsecond, ?_⟩
  exact (same_transitive_beyond_fractions.2.2 (.integer 1)).1 hfraction _ _ (by intro m n hm; cases hm)
    hfirst hsecond

/-- Zero equals `2 ^ -53` and this equals `2 ^ -52`, but zero does not. The nearest double of `2 ^ 53 + 1` is
`2 ^ 53`, which also is an integer. An infinity has no distance to itself. -/
theorem same_not_transitive :
    ((Value.float ⟨0⟩).same (.float ⟨0x3CA0000000000000⟩) = true ∧
      (Value.float ⟨0x3CA0000000000000⟩).same (.float ⟨0x3CB0000000000000⟩) = true ∧
      (Value.float ⟨0⟩).same (.float ⟨0x3CB0000000000000⟩) = false) ∧
    ((Value.integer 9007199254740992).same (.float ⟨0x4340000000000000⟩) = true ∧
      (Value.float ⟨0x4340000000000000⟩).same (.integer 9007199254740993) = true ∧
      (Value.integer 9007199254740992).same (.integer 9007199254740993) = false) ∧
    (Value.float .infinity).same (.float .infinity) = false := by
  refine ⟨⟨?_, ?_, ?_⟩, ⟨?_, ?_, ?_⟩, ?_⟩ <;> decide +kernel

end BoundEntity
