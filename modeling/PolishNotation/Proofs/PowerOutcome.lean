import PolishNotation.Conversion
import PolishNotation.Proofs.PowerSize
import PolishNotation.StackMachine

namespace PolishNotation

namespace Rational

/-- A power in lowest terms, inverted if the exponent is negative. -/
structure IsPower (base : Rat) (exponent : Int) (result : Rat) : Prop where
  value : result = base ^ exponent
  positive : 0 < result.den
  reduced : result.num.natAbs.Coprime result.den
  raised : 0 ≤ exponent →
    result.num = base.num ^ exponent.natAbs ∧ result.den = base.den ^ exponent.natAbs
  inverted : exponent < 0 →
    result.num = (base.num.sign * base.den) ^ exponent.natAbs ∧
      result.den = base.num.natAbs ^ exponent.natAbs

theorem isPower_zpow {base : Rat} {exponent : Int} (defined : ¬(base = 0 ∧ exponent < 0)) :
    IsPower base exponent (base ^ exponent) where
  value := rfl
  positive := (base ^ exponent).den_pos
  reduced := (base ^ exponent).reduced
  raised natural := by
    have spelled : base ^ exponent = base ^ exponent.natAbs := by
      conv_lhs => rw [← Int.natAbs_of_nonneg natural, Rat.zpow_natCast]
    rw [spelled, Rat.num_pow, Rat.den_pow]
    exact ⟨rfl, rfl⟩
  inverted negative := by
    have nonzero : base ≠ 0 := fun zero => defined ⟨zero, negative⟩
    -- The base is inverted before it is raised, so its sign is settled first.
    have spelled : base ^ exponent = base⁻¹ ^ exponent.natAbs := by
      conv_lhs => rw [← Int.neg_neg exponent, ← Int.ofNat_natAbs_of_nonpos negative.le]
      rw [Rat.zpow_neg, Rat.zpow_natCast, inv_pow]
    rw [spelled, Rat.num_pow, Rat.den_pow, Rat.num_inv, Rat.den_inv_of_ne_zero nonzero]
    exact ⟨rfl, rfl⟩

theorem power_eq_divisionByZero_iff (base : Rat) (exponent : Int) :
    power base exponent = .error .divisionByZero ↔ base = 0 ∧ exponent < 0 := by
  rw [power_intCast]
  split
  · rename_i inverse
    simp [inverse]
  · rename_i defined
    split <;> simp [defined]

/-- A base that grows has its power unless the product exceeds the limit. -/
theorem Grows.power_intCast {base : Rat} (grows : Grows base) (exponent : Int) :
    power base exponent =
      if bitLimit < exponent.natAbs * width base then .error .exponentTooLarge
      else .ok (base ^ exponent) := by
  have defined : ¬(base = 0 ∧ exponent < 0) := fun inverse => grows.1 inverse.1
  rw [Rational.power_intCast, if_neg defined]
  simp only [grows.isTooLarge_iff]

/-- A steady base has its power unless the exponent is out of range. -/
theorem power_intCast_of_isSteady {base : Rat} (steady : isSteady base = true)
    {exponent : Int} (defined : ¬(base = 0 ∧ exponent < 0)) :
    power base exponent =
      if InRange exponent then .ok (base ^ exponent) else .error .exponentTooLarge := by
  rw [power_intCast, if_neg defined]
  simp only [isTooLarge_iff_of_isSteady steady, ite_not]

/-- A power whose size is within half of the limit is computed. -/
theorem Grows.power_eq_zpow {base : Rat} (grows : Grows base) {exponent : Int}
    (small : width (base ^ exponent) ≤ bitLimit / 2) :
    power base exponent = .ok (base ^ exponent) := by
  have product := grows.mul_width_lt exponent
  rw [grows.power_intCast, if_neg]
  omega

theorem Grows.power_eq_exponentTooLarge_iff {base : Rat} (grows : Grows base) (exponent : Int) :
    power base exponent = .error .exponentTooLarge ↔
      bitLimit < exponent.natAbs * width base := by
  rw [grows.power_intCast]
  split
  · rename_i large
    simp [large]
  · rename_i small
    simp [small]

/-- The product is over the limit whenever the power is. -/
theorem lt_mul_width_of_lt_width_zpow {base : Rat} {exponent : Int}
    (large : bitLimit < width (base ^ exponent)) : bitLimit < exponent.natAbs * width base := by
  have nonzero : exponent ≠ 0 := by
    rintro rfl
    rw [zpow_zero, width_one] at large
    exact absurd large (by decide)
  exact large.trans_le (width_zpow_le base nonzero)

theorem bitLimit_lt_width_zpow_iff (base : Rat) (exponent : Int) :
    bitLimit < width (base ^ exponent) ↔
      2 ^ bitLimit ≤ largerPart base ^ exponent.natAbs := by
  rw [width_eq_bitSize_largerPart, largerPart_zpow, lt_bitSize_iff]

end Rational

/-- Every power is exact, refused for its operands or too large. -/
theorem powers_are_exact_within_limit (base exponent : Rat) :
    (Domain.exact.apply .power base exponent = .error .fractionalExponent ↔
        ¬∃ whole : Int, exponent = whole) ∧
      ∀ whole : Int, exponent = whole →
        (Domain.exact.apply .power base exponent = .error .divisionByZero ↔
            base = 0 ∧ whole < 0) ∧
          (∀ result, Domain.exact.apply .power base exponent = .ok result →
            Rational.IsPower base whole result ∧
              (Rational.Grows base → Rational.width result ≤ Rational.bitLimit)) ∧
          (Rational.Grows base → Rational.width (base ^ whole) ≤ Rational.bitLimit / 2 →
            Domain.exact.apply .power base exponent = .ok (base ^ whole)) := by
  refine ⟨Rational.power_eq_fractionalExponent_iff base exponent, ?_⟩
  rintro whole rfl
  refine ⟨Rational.power_eq_divisionByZero_iff base whole, ?_, ?_⟩
  · intro result (computed : Rational.power base whole = .ok result)
    have fits := Rational.width_le_bitLimit_of_power computed
    obtain ⟨-, defined, -, rfl⟩ := (Rational.power_eq_ok_iff base whole result).mp computed
    rw [Rat.num_intCast] at defined fits ⊢
    exact ⟨Rational.isPower_zpow defined, fun _ => fits⟩
  · intro grows small
    exact grows.power_eq_zpow small

/-- A power of two that fills half of the limit is computed. -/
theorem powers_are_exact_within_limit_of_fraction_and_two :
    Domain.exact.apply .power (-2 / 3) (-3 : Int) = .ok (-27 / 8) ∧
      Rational.IsPower (-2 / 3) (-3) (-27 / 8) ∧
      Rational.width (-27 / 8) ≤ Rational.bitLimit ∧
      Rational.width ((2 : Rat) ^ (524287 : Int)) = Rational.bitLimit / 2 ∧
      Domain.exact.apply .power 2 (524287 : Int) = .ok ((2 : Rat) ^ (524287 : Int)) := by
  have computed : Domain.exact.apply .power (-2 / 3) (-3 : Int) = .ok (-27 / 8) := by
    decide +kernel
  obtain ⟨-, ofFraction⟩ := powers_are_exact_within_limit (-2 / 3) (-3 : Int)
  obtain ⟨isPower, fits⟩ := (ofFraction (-3) rfl).2.1 _ computed
  have half : Rational.width ((2 : Rat) ^ (524287 : Int)) = Rational.bitLimit / 2 := by
    rw [Rational.width_two_zpow]
    rfl
  obtain ⟨-, ofTwo⟩ := powers_are_exact_within_limit 2 (524287 : Int)
  have filled := (ofTwo 524287 rfl).2.2 (by decide +kernel) half.le
  exact ⟨computed, isPower, fits (by decide +kernel), half, filled⟩

/-- The powers of one, minus one and zero need exponents in range. -/
theorem steady_powers_need_exponents_in_range (exponent : Int) :
    Domain.exact.apply .power 1 exponent =
        (if Rational.InRange exponent then .ok 1 else .error .exponentTooLarge) ∧
      Domain.exact.apply .power (-1) exponent =
        (if Rational.InRange exponent then .ok (if Even exponent then 1 else -1)
          else .error .exponentTooLarge) ∧
      (0 ≤ exponent → Domain.exact.apply .power 0 exponent =
        if Rational.InRange exponent then .ok (if exponent = 0 then 1 else 0)
          else .error .exponentTooLarge) := by
  have steady {base : Rat} (listed : base = 0 ∨ base = 1 ∨ base = -1)
      (defined : ¬(base = 0 ∧ exponent < 0)) :
      Domain.exact.apply .power base exponent =
        if Rational.InRange exponent then .ok (base ^ exponent)
          else .error .exponentTooLarge :=
    Rational.power_intCast_of_isSteady ((Rational.isSteady_iff base).mpr listed) defined
  refine ⟨?_, ?_, fun natural => ?_⟩
  · rw [steady (.inr (.inl rfl)) (by norm_num), one_zpow]
  · rw [steady (.inr (.inr rfl)) (by norm_num), neg_one_zpow_eq_ite]
  · rw [steady (.inl rfl) (by omega), zero_zpow_eq]

/-- Both ends belong to the range. -/
theorem steady_powers_need_exponents_in_range_at_both_ends :
    Domain.exact.apply .power (-1) (-2147483648 : Int) = .ok 1 ∧
      Domain.exact.apply .power (-1) (2147483647 : Int) = .ok (-1) := by
  obtain ⟨-, least, -⟩ := steady_powers_need_exponents_in_range (-2147483648)
  obtain ⟨-, greatest, -⟩ := steady_powers_need_exponents_in_range 2147483647
  rw [if_pos (by decide), if_pos (by decide)] at least
  rw [if_pos (by decide), if_neg (by decide)] at greatest
  exact ⟨least, greatest⟩

/-- The exponent after the last one in range is refused. -/
theorem steady_powers_are_refused_beyond_range :
    Domain.exact.apply .power 1 2147483648 = .error .exponentTooLarge ∧
      Domain.exact.apply .power (-1) 2147483648 = .error .exponentTooLarge ∧
      Domain.exact.apply .power 0 2147483648 = .error .exponentTooLarge ∧
      Domain.exact.evaluatePostfix (toPostfix ⟨true⟩ "1^9^9^2") =
        .error (.arithmetic .exponentTooLarge) := by
  have tower : Domain.exact.evaluatePostfix (toPostfix ⟨true⟩ "1^9^9^2") =
      .error (.arithmetic .exponentTooLarge) := by decide +kernel
  exact ⟨by decide +kernel, by decide +kernel, by decide +kernel, tower⟩

/-- The product of exponent and width decides, not the size of the power. -/
theorem refusals_overestimate_sizes {base : Rat} (grows : Rational.Grows base)
    (exponent : Int) :
    ((Domain.exact.apply .power base exponent = .error .exponentTooLarge →
          Rational.bitLimit < Rational.width (base ^ exponent)) ↔
        exponent.natAbs * Rational.width base ≤ Rational.bitLimit ∨
          2 ^ Rational.bitLimit ≤ Rational.largerPart base ^ exponent.natAbs) ∧
      (Rational.bitLimit ≤ exponent.natAbs * (Rational.width base - 1) →
        Rational.bitLimit < Rational.width (base ^ exponent)) ∧
      (Rational.bitLimit < Rational.width (base ^ exponent) →
        Domain.exact.apply .power base exponent = .error .exponentTooLarge) ∧
      (Domain.exact.apply .power base exponent = .error .exponentTooLarge →
        Rational.bitLimit / 2 < Rational.width (base ^ exponent)) := by
  have refused : Domain.exact.apply .power base exponent = .error .exponentTooLarge ↔
      Rational.bitLimit < exponent.natAbs * Rational.width base :=
    grows.power_eq_exponentTooLarge_iff exponent
  rw [refused]
  refine ⟨?_, ?_, Rational.lt_mul_width_of_lt_width_zpow, ?_⟩
  · rw [← Rational.bitLimit_lt_width_zpow_iff, imp_iff_not_or, Nat.not_lt]
  · intro beyond
    exact beyond.trans_lt (Rational.lt_width_zpow base exponent)
  · intro large
    have product := grows.mul_width_lt exponent
    omega

/-- This power of nine exceeds the limit more than a thousand times. -/
theorem refusals_overestimate_sizes_of_tower :
    Rational.Grows 9 ∧
      Domain.exact.apply .power 9 (387420489 : Int) = .error .exponentTooLarge ∧
      Rational.bitLimit < Rational.width ((9 : Rat) ^ (387420489 : Int)) := by
  have grows : Rational.Grows 9 := by decide +kernel
  obtain ⟨-, beyond, refused, -⟩ := refusals_overestimate_sizes grows 387420489
  have large := beyond (by decide +kernel)
  exact ⟨grows, refused large, large⟩

/-- This power of two has about half of the bits that the limit allows. -/
theorem power_within_limit_is_refused :
    Rational.Grows 2 ∧
      Domain.exact.apply .power 2 (524289 : Int) = .error .exponentTooLarge ∧
      Rational.width ((2 : Rat) ^ (524289 : Int)) = 524290 ∧
      524290 ≤ Rational.bitLimit := by
  have size : Rational.width ((2 : Rat) ^ (524289 : Int)) = 524290 := by
    rw [Rational.width_two_zpow]
    rfl
  exact ⟨by decide +kernel, by decide +kernel, size, by decide⟩

end PolishNotation
