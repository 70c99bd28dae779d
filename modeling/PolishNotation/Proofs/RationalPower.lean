import PolishNotation.Proofs.RationalWidth

namespace PolishNotation.Rational

/-- A power needs an integral exponent, an invertible base and a permitted size. -/
theorem power_eq_ok_iff (base exponent result : Rat) :
    power base exponent = .ok result ↔
      exponent.den = 1 ∧ ¬(base = 0 ∧ exponent.num < 0) ∧
        isTooLarge base exponent.num = false ∧ base ^ exponent.num = result := by
  unfold power
  split
  · rename_i fractional
    simp [fractional]
  · rename_i integral
    rw [not_not] at integral
    split
    · rename_i inverse
      constructor
      · intro computed
        cases computed
      · intro facts
        exact absurd inverse facts.2.1
    · rename_i defined
      split
      · rename_i large
        simp [large]
      · rename_i small
        rw [Bool.not_eq_true] at small
        simp only [integral, defined, small, Except.ok.injEq, not_false_eq_true, true_and]

theorem den_eq_one_iff_exists_intCast (value : Rat) :
    value.den = 1 ↔ ∃ whole : Int, value = whole := by
  constructor
  · intro integral
    exact ⟨value.num, (Rat.den_eq_one_iff value).mp integral |>.symm⟩
  · rintro ⟨whole, rfl⟩
    exact Rat.den_intCast whole

/-- Only an exponent that is no integer is refused as such. -/
theorem power_eq_fractionalExponent_iff (base exponent : Rat) :
    power base exponent = .error .fractionalExponent ↔ ¬∃ whole : Int, exponent = whole := by
  rw [← den_eq_one_iff_exists_intCast, power]
  split
  · rename_i fractional
    simp [fractional]
  · rename_i integral
    rw [not_not] at integral
    split
    · simp [integral]
    · split <;> simp [integral]

/-- With an integral exponent only a zero and the size are obstacles. -/
theorem power_intCast (base : Rat) (exponent : Int) :
    power base exponent =
      if base = 0 ∧ exponent < 0 then .error .divisionByZero
      else if isTooLarge base exponent then .error .exponentTooLarge
      else .ok (base ^ exponent) := by
  have integral : ¬(exponent : Rat).den ≠ 1 := by simp
  rw [power, if_neg integral, Rat.num_intCast]

/-- With a natural exponent the size is the only obstacle. -/
theorem power_natCast (base : Rat) (exponent : Nat) :
    power base exponent =
      if isTooLarge base exponent then .error .exponentTooLarge else .ok (base ^ exponent) := by
  have defined : ¬(base = 0 ∧ (exponent : Int) < 0) := by omega
  rw [← Int.cast_natCast, power_intCast, if_neg defined, Rat.zpow_natCast]

/-- Powers of a growing base are known to be within the limit beforehand. -/
theorem mul_width_le_of_isTooLarge_eq_false {base : Rat} {exponent : Int}
    (growing : isSteady base = false) (small : isTooLarge base exponent = false) :
    exponent.natAbs * width base ≤ bitLimit := by
  simp only [isTooLarge, growing, Bool.or_eq_false_iff, Bool.and_eq_false_iff, Bool.not_false,
    decide_eq_false_iff_not, not_lt, Bool.true_eq_false, false_or] at small
  exact small.1.1

/-- A power that is computed fits in the limit. -/
theorem width_le_bitLimit_of_power {base exponent result : Rat}
    (computed : power base exponent = .ok result) : width result ≤ bitLimit := by
  obtain ⟨-, -, small, rfl⟩ := (power_eq_ok_iff base exponent result).mp computed
  have atLeastOne : 1 ≤ bitLimit := by decide
  rw [width_zpow]
  cases steady : isSteady base with
  | true => exact (width_pow_of_isSteady steady _).trans atLeastOne
  | false =>
      rcases Nat.eq_zero_or_pos exponent.num.natAbs with zero | positive
      · rw [zero, pow_zero, width_one]
        exact atLeastOne
      · calc width (base ^ exponent.num.natAbs) ≤ exponent.num.natAbs * width base :=
              width_pow_le base positive
          _ ≤ bitLimit := mul_width_le_of_isTooLarge_eq_false steady small

end PolishNotation.Rational
