import Mathlib
import PolishNotation.Rational.Power

namespace PolishNotation.Rational

theorem bitSize_le_iff (number bits : Nat) : bitSize number ≤ bits ↔ number < 2 ^ bits := by
  unfold bitSize
  split
  · rename_i zero
    simp [zero]
  · rename_i nonzero
    rw [Nat.succ_le_iff, Nat.log2_lt nonzero]

theorem lt_bitSize_iff (number bits : Nat) : bits < bitSize number ↔ 2 ^ bits ≤ number := by
  rw [← Nat.not_le, bitSize_le_iff, Nat.not_lt]

theorem width_le_iff (value : Rat) (bits : Nat) :
    width value ≤ bits ↔ value.num.natAbs < 2 ^ bits ∧ value.den < 2 ^ bits := by
  rw [width, max_le_iff, bitSize_le_iff, bitSize_le_iff]

theorem natAbs_num_lt (value : Rat) : value.num.natAbs < 2 ^ width value :=
  ((width_le_iff value _).mp (Nat.le_refl _)).1

theorem den_lt (value : Rat) : value.den < 2 ^ width value :=
  ((width_le_iff value _).mp (Nat.le_refl _)).2

theorem mul_lt_two_pow {first second firstBits secondBits : Nat} (firstFits : first < 2 ^ firstBits)
    (secondFits : second < 2 ^ secondBits) : first * second < 2 ^ (firstBits + secondBits) := by
  rw [Nat.pow_add]
  exact Nat.mul_lt_mul'' firstFits secondFits

/-- A quotient is no wider in lowest terms than in any other. -/
theorem width_divInt_le {numerator denominator : Int} {bits : Nat} (nonzero : denominator ≠ 0)
    (numeratorFits : numerator.natAbs < 2 ^ bits)
    (denominatorFits : denominator.natAbs < 2 ^ bits) :
    width (Rat.divInt numerator denominator) ≤ bits := by
  rw [width_le_iff]
  constructor
  · by_cases zero : numerator = 0
    · simp [zero]
    · have divides := Int.natAbs_dvd_natAbs.mpr (Rat.num_dvd numerator nonzero)
      exact (Nat.le_of_dvd (Int.natAbs_pos.mpr zero) divides).trans_lt numeratorFits
  · have divides := Int.natAbs_dvd_natAbs.mpr (Rat.den_dvd numerator denominator)
    exact (Nat.le_of_dvd (Int.natAbs_pos.mpr nonzero) divides).trans_lt denominatorFits

theorem den_ne_zero (value : Rat) : (value.den : Int) ≠ 0 :=
  Int.natCast_ne_zero.mpr value.den_nz

theorem width_mul_le (first second : Rat) :
    width (first * second) ≤ width first + width second := by
  rw [← Rat.num_divInt_den first, ← Rat.num_divInt_den second, Rat.divInt_mul_divInt,
    Rat.num_divInt_den, Rat.num_divInt_den]
  apply width_divInt_le (mul_ne_zero (den_ne_zero first) (den_ne_zero second))
  · rw [Int.natAbs_mul]
    exact mul_lt_two_pow (natAbs_num_lt first) (natAbs_num_lt second)
  · rw [Int.natAbs_mul]
    exact mul_lt_two_pow (den_lt first) (den_lt second)

/-- The sum of the two cross products may carry into one further bit. -/
theorem width_add_le (first second : Rat) :
    width (first + second) ≤ width first + width second + 1 := by
  rw [Rat.add_num_den]
  apply width_divInt_le (mul_ne_zero (den_ne_zero first) (den_ne_zero second))
  · have left := mul_lt_two_pow (natAbs_num_lt first) (den_lt second)
    have right := mul_lt_two_pow (den_lt first) (natAbs_num_lt second)
    have sum := Int.natAbs_add_le (first.num * second.den) (first.den * second.num)
    rw [Int.natAbs_mul, Int.natAbs_mul, Int.natAbs_natCast, Int.natAbs_natCast] at sum
    rw [Nat.pow_succ]
    omega
  · have product := mul_lt_two_pow (den_lt first) (den_lt second)
    rw [Int.natAbs_mul, Int.natAbs_natCast, Int.natAbs_natCast, Nat.pow_succ]
    omega

theorem width_neg (value : Rat) : width (-value) = width value := by
  simp [width]

theorem width_sub_le (first second : Rat) :
    width (first - second) ≤ width first + width second + 1 := by
  rw [sub_eq_add_neg, ← width_neg second]
  exact width_add_le first (-second)

/-- The larger one of the numerator and the denominator, without the sign. -/
def largerPart (value : Rat) : Nat := max value.num.natAbs value.den

theorem largerPart_pos (value : Rat) : 0 < largerPart value :=
  lt_max_of_lt_right value.den_pos

theorem width_eq_bitSize_largerPart (value : Rat) : width value = bitSize (largerPart value) := by
  apply eq_of_forall_ge_iff
  intro bits
  rw [width_le_iff, bitSize_le_iff, largerPart, max_lt_iff]

/-- The numerator and the denominator change places. -/
theorem largerPart_inv (value : Rat) : largerPart value⁻¹ = largerPart value := by
  by_cases zero : value = 0
  · rw [zero, inv_zero]
  · have numerator : value.num ≠ 0 := Rat.num_ne_zero.mpr zero
    have sign : value.num.sign.natAbs = 1 := Int.natAbs_sign_of_ne_zero numerator
    rw [largerPart, largerPart, Rat.num_inv, Rat.den_inv_of_ne_zero zero, Int.natAbs_mul, sign,
      Nat.one_mul, Int.natAbs_natCast, max_comm]

theorem width_inv (value : Rat) : width value⁻¹ = width value := by
  rw [width_eq_bitSize_largerPart, largerPart_inv, ← width_eq_bitSize_largerPart]

theorem width_div_le (first second : Rat) :
    width (first / second) ≤ width first + width second := by
  rw [Rat.div_def, ← width_inv second]
  exact width_mul_le first second⁻¹

theorem width_pow_le (base : Rat) {exponent : Nat} (positive : 0 < exponent) :
    width (base ^ exponent) ≤ exponent * width base := by
  rw [width_le_iff, Rat.num_pow, Rat.den_pow, Int.natAbs_pow, Nat.mul_comm, Nat.pow_mul]
  exact ⟨Nat.pow_lt_pow_left (natAbs_num_lt base) positive.ne',
    Nat.pow_lt_pow_left (den_lt base) positive.ne'⟩

theorem zpow_eq_pow_or_inv (base : Rat) (exponent : Int) :
    base ^ exponent = base ^ exponent.natAbs ∨ base ^ exponent = (base ^ exponent.natAbs)⁻¹ := by
  rcases Int.natAbs_eq exponent with positive | negative
  · left
    conv_lhs => rw [positive, Rat.zpow_natCast]
  · right
    conv_lhs => rw [negative, Rat.zpow_neg, Rat.zpow_natCast]

theorem largerPart_pow (base : Rat) (exponent : Nat) :
    largerPart (base ^ exponent) = largerPart base ^ exponent := by
  have monotone : Monotone fun part : Nat => part ^ exponent := pow_left_mono exponent
  rw [largerPart, Rat.num_pow, Rat.den_pow, Int.natAbs_pow]
  exact monotone.map_max.symm

/-- The larger part of a power depends on the exponent without its sign. -/
theorem largerPart_zpow (base : Rat) (exponent : Int) :
    largerPart (base ^ exponent) = largerPart base ^ exponent.natAbs := by
  rcases zpow_eq_pow_or_inv base exponent with same | inverse
  · rw [same, largerPart_pow]
  · rw [inverse, largerPart_inv, largerPart_pow]

theorem width_zpow (base : Rat) (exponent : Int) :
    width (base ^ exponent) = width (base ^ exponent.natAbs) := by
  rw [width_eq_bitSize_largerPart, width_eq_bitSize_largerPart, largerPart_zpow, largerPart_pow]

theorem width_one : width 1 = 1 := by decide

/-- The powers of a base that never grows are zero, one and minus one. -/
theorem width_pow_of_isSteady {base : Rat} (steady : isSteady base = true) (exponent : Nat) :
    width (base ^ exponent) ≤ 1 := by
  rw [isSteady, Bool.and_eq_true, decide_eq_true_eq, beq_iff_eq] at steady
  rw [width_le_iff, Rat.num_pow, Rat.den_pow, Int.natAbs_pow, steady.2, one_pow]
  have bound : base.num.natAbs ^ exponent ≤ 1 := pow_le_one₀ (Nat.zero_le _) steady.1
  omega

end PolishNotation.Rational
