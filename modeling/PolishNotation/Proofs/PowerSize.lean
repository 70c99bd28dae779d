/-
This file compares the size of a power with the product that decides about it.
-/

import PolishNotation.Proofs.RationalPower

namespace PolishNotation.Rational

theorem bitSize_two_pow (exponent : Nat) : bitSize (2 ^ exponent) = exponent + 1 := by
  apply Nat.le_antisymm
  · rw [bitSize_le_iff]
    exact Nat.pow_lt_pow_right Nat.one_lt_two (Nat.lt_succ_self exponent)
  · exact (lt_bitSize_iff _ _).mpr (Nat.le_refl _)

/-- All bits of the base but the leading one count once for each factor. -/
theorem lt_bitSize_pow {base : Nat} (positive : 0 < base) (exponent : Nat) :
    exponent * (bitSize base - 1) < bitSize (base ^ exponent) := by
  have nonzero : 0 < bitSize base := (lt_bitSize_iff base 0).mpr positive
  have leading : 2 ^ (bitSize base - 1) ≤ base := by
    rw [← lt_bitSize_iff]
    omega
  rw [lt_bitSize_iff, Nat.mul_comm, Nat.pow_mul]
  exact Nat.pow_le_pow_left leading exponent

theorem lt_width_zpow (base : Rat) (exponent : Int) :
    exponent.natAbs * (width base - 1) < width (base ^ exponent) := by
  rw [width_eq_bitSize_largerPart, width_eq_bitSize_largerPart, largerPart_zpow]
  exact lt_bitSize_pow (largerPart_pos base) exponent.natAbs

theorem width_zpow_le (base : Rat) {exponent : Int} (nonzero : exponent ≠ 0) :
    width (base ^ exponent) ≤ exponent.natAbs * width base := by
  rw [width_zpow]
  exact width_pow_le base (Int.natAbs_pos.mpr nonzero)

theorem width_two_zpow (exponent : Int) :
    width ((2 : Rat) ^ exponent) = exponent.natAbs + 1 := by
  have part : largerPart 2 = 2 := by decide +kernel
  rw [width_eq_bitSize_largerPart, largerPart_zpow, part, bitSize_two_pow]

/-- The powers of all bases but zero, one and minus one grow. -/
def Grows (base : Rat) : Prop := base ≠ 0 ∧ base ≠ 1 ∧ base ≠ -1

instance (base : Rat) : Decidable (Grows base) :=
  inferInstanceAs (Decidable (_ ∧ _ ∧ _))

theorem isSteady_iff (base : Rat) : isSteady base = true ↔ base = 0 ∨ base = 1 ∨ base = -1 := by
  constructor
  · intro steady
    rw [isSteady, Bool.and_eq_true, decide_eq_true_eq, beq_iff_eq] at steady
    obtain ⟨whole, rfl⟩ := (den_eq_one_iff_exists_intCast base).mp steady.2
    have small : whole.natAbs ≤ 1 := steady.1
    obtain rfl | rfl | rfl : whole = 0 ∨ whole = 1 ∨ whole = -1 := by omega
    · exact .inl rfl
    · exact .inr (.inl rfl)
    · exact .inr (.inr rfl)
  · rintro (rfl | rfl | rfl) <;> decide

theorem isSteady_eq_false_iff (base : Rat) : isSteady base = false ↔ Grows base := by
  rw [Grows, ← Bool.not_eq_true, isSteady_iff, not_or, not_or]

theorem Grows.two_le_width {base : Rat} (grows : Grows base) : 2 ≤ width base := by
  have unsteady := (isSteady_eq_false_iff base).mpr grows
  have large : 2 ^ 1 ≤ largerPart base := by
    -- Both parts would be at most one, which holds of the steady bases only.
    by_contra small
    rw [largerPart, pow_one, Nat.not_le, max_lt_iff] at small
    have integral : base.den = 1 := by
      have positive := base.den_pos
      omega
    have steady : isSteady base = true := by
      rw [isSteady, integral, Bool.and_eq_true, decide_eq_true_eq]
      exact ⟨by omega, rfl⟩
    rw [steady] at unsteady
    cases unsteady
  rw [width_eq_bitSize_largerPart]
  exact (lt_bitSize_iff _ 1).mpr large

/-- The product of exponent and width is less than twice the size. -/
theorem Grows.mul_width_lt {base : Rat} (grows : Grows base) (exponent : Int) :
    exponent.natAbs * width base < 2 * width (base ^ exponent) := by
  have lower := lt_width_zpow base exponent
  have doubled : exponent.natAbs * width base ≤ exponent.natAbs * (2 * (width base - 1)) := by
    -- With two bits or more the leading bit is at most half of the width.
    have atLeastTwo := grows.two_le_width
    exact Nat.mul_le_mul_left _ (by omega)
  calc exponent.natAbs * width base ≤ exponent.natAbs * (2 * (width base - 1)) := doubled
    _ = 2 * (exponent.natAbs * (width base - 1)) := Nat.mul_left_comm _ _ _
    _ < 2 * width (base ^ exponent) := by omega

/-- The exponents that a computation of powers takes. -/
def InRange (exponent : Int) : Prop := leastExponent ≤ exponent ∧ exponent ≤ greatestExponent

instance (exponent : Int) : Decidable (InRange exponent) :=
  inferInstanceAs (Decidable (_ ∧ _))

/-- Where the base grows, the limit leaves no exponent out of range. -/
theorem Grows.isTooLarge_iff {base : Rat} (grows : Grows base) (exponent : Int) :
    isTooLarge base exponent = true ↔ bitLimit < exponent.natAbs * width base := by
  have unsteady := (isSteady_eq_false_iff base).mpr grows
  have inRange : exponent.natAbs * width base ≤ bitLimit → InRange exponent := by
    intro within
    have halved : exponent.natAbs * 2 ≤ bitLimit :=
      (Nat.mul_le_mul_left _ grows.two_le_width).trans within
    have limit : bitLimit = 1048576 := rfl
    have least : leastExponent = -2147483648 := rfl
    have greatest : greatestExponent = 2147483647 := rfl
    rw [InRange]
    omega
  rw [isTooLarge, unsteady]
  simp only [Bool.not_false, Bool.true_and, Bool.or_eq_true, decide_eq_true_eq]
  rw [InRange] at inRange
  omega

/-- Where the base does not grow, only the exponent can be too large. -/
theorem isTooLarge_iff_of_isSteady {base : Rat} (steady : isSteady base = true)
    (exponent : Int) : isTooLarge base exponent = true ↔ ¬InRange exponent := by
  rw [isTooLarge, steady, InRange]
  simp only [Bool.not_true, Bool.false_and, Bool.false_or, Bool.or_eq_true, decide_eq_true_eq]
  omega

end PolishNotation.Rational
