import PolishNotation.Proofs.BalancedInfix
import PolishNotation.Proofs.Lockstep

namespace PolishNotation

/-- The numbers of operands and operators of an expression fit its outcome. -/
structure FitsCounts {Value : Type} (operandCount operatorCount : Nat)
    (outcome : Except Fault Value) : Prop where
  empty : outcome = .error .emptyInput ↔ operandCount = 0 ∧ operatorCount = 0
  short : 0 < operatorCount → operandCount ≤ operatorCount →
    ∃ token position, outcome = .error (.missingOperands token position)
  value : (∃ value, outcome = .ok value) → operandCount = operatorCount + 1
  leftover : ∀ count, outcome = .error (.leftover count) →
    operandCount = operatorCount + count ∧ 2 ≤ count
  numeric : ∀ token position, outcome ≠ .error (.notNumeric token position)

namespace FitsCounts

variable {First Second : Type} {operandCount operatorCount : Nat}

/-- The counts decide about nothing but the verdict. -/
theorem of_verdict_eq {first : Except Fault First} {second : Except Fault Second}
    (same : verdict first = verdict second)
    (fits : FitsCounts operandCount operatorCount second) :
    FitsCounts operandCount operatorCount first where
  empty := (error_iff_of_verdict_eq same .emptyInput).trans fits.empty
  short someOperator few := by
    obtain ⟨token, position, failed⟩ := fits.short someOperator few
    exact ⟨token, position, (error_iff_of_verdict_eq same _).mpr failed⟩
  value found := fits.value ((ok_iff_of_verdict_eq same).mp found)
  leftover count failed := fits.leftover count ((error_iff_of_verdict_eq same _).mp failed)
  numeric token position failed :=
    fits.numeric token position ((error_iff_of_verdict_eq same _).mp failed)

/-- A complete scan leaves a value for each operand that exceeds the operators. -/
theorem conclude {stack : List First} (height : operandCount = operatorCount + stack.length)
    (exceeds : 0 < operatorCount → operatorCount < operandCount) :
    FitsCounts operandCount operatorCount (Domain.conclude stack) where
  empty := by
    rw [(Domain.conclude_by_length stack).1]
    omega
  short someOperator few := absurd few (Nat.not_le.mpr (exceeds someOperator))
  value found := by
    rw [(Domain.conclude_by_length stack).2.2] at found
    omega
  leftover count failed := by
    obtain ⟨rfl, several⟩ := ((Domain.conclude_by_length stack).2.1 count).mp failed
    exact ⟨height, several⟩
  numeric token position failed := by
    unfold Domain.conclude at failed
    split at failed <;> cases failed

/-- An operator that comes short fits any counts with an operator. -/
theorem missingOperands (someOperator : 0 < operatorCount) (token : String) (position : Nat) :
    FitsCounts operandCount operatorCount
      (.error (.missingOperands token position) : Except Fault First) where
  empty := by
    refine iff_of_false (by simp) ?_
    omega
  short _ _ := ⟨token, position, rfl⟩
  value := by simp
  leftover := by simp
  numeric := by simp

end FitsCounts

/-- Among digits and operators only an operator can stop a scan. -/
theorem exists_sign_of_stops {order : List Symbol} (digits : OnlyDigits order) {symbol : Symbol}
    (member : symbol ∈ order) {met : List String} (stops : Stops met symbol.token) :
    ∃ sign ∈ signs order, symbol = .operator sign := by
  cases symbol with
  | operand operand =>
      rw [stops_operand_iff, digits operand (mem_operands.mpr member)] at stops
      cases stops
  | operator sign => exact ⟨sign, mem_signs.mpr member, rfl⟩

/-- An order of digits and operators is evaluated as their numbers allow. -/
theorem Domain.evaluatePostfix_fitsCounts {Value : Type} {domain : Domain Value}
    (reads : domain.ReadsLiterals) (total : domain.IsTotal) {order : List Symbol}
    (digits : OnlyDigits order) :
    FitsCounts (operands order).length (signs order).length
      (domain.evaluatePostfix (TokenSequence.ofList (order.map Symbol.token))) := by
  rw [evaluatePostfix, TokenSequence.toList_ofList]
  rcases sound_or_first_stop (order.map Symbol.token).zipIdx with sound | stopped
  · have runs : Runs order := sound
    obtain ⟨stack, scanned, height, -⟩ := scan_of_sound .forward reads total sound
    rw [List.zipIdx_map_fst, surplus_map_token digits] at height
    rw [run, scanned]
    exact .conclude (by omega) runs.length_signs_lt
  · obtain ⟨before, token, position, after, split, sound, stops⟩ := stopped
    have present : token ∈ order.map Symbol.token := by
      have placed : token ∈ (order.map Symbol.token).zipIdx.map Prod.fst := by
        rw [split]
        simp
      rwa [List.zipIdx_map_fst] at placed
    obtain ⟨symbol, member, rfl⟩ := List.mem_map.mp present
    obtain ⟨sign, inOrder, rfl⟩ := exists_sign_of_stops digits member stops
    have known : ¬IsStrange (Symbol.operator sign).token := by
      simp [IsStrange, ofToken?_operator]
    rw [split, run, scan_of_first_stop reads total sound stops, if_neg known]
    exact .missingOperands (List.length_pos_of_mem inOrder) _ _

/-- A derivation has the verdict of its first evaluation. -/
theorem verdict_derive (options : Options) (text : String) :
    verdict (derive options text) =
      verdict (Domain.floating.evaluatePostfix (toPostfix options.rules text)) := by
  cases evaluated : Domain.floating.evaluatePostfix (toPostfix options.rules text) with
  | error fault =>
      rw [← toPostfix_trim] at evaluated
      rw [derive_of_fault options evaluated]
      rfl
  | ok value =>
      obtain ⟨derivation, derived⟩ := (exists_derive_iff options text).mpr ⟨value, evaluated⟩
      rw [derived]
      rfl

/-- The numbers of digits and operators restrict the outcome in any arrangement. -/
theorem outcomes_fit_counts (options : Options) (text : String)
    (digits : ∀ operand ∈ text.toList.filter isOperand, operand.isDigit = true) :
    FitsCounts (text.toList.filter isOperand).length (operators text).length
      (derive options text) := by
  rw [← map_character_operands_symbols] at digits ⊢
  have ordered : OnlyDigits (postfixOrder options.rules (symbols text)) := by
    intro operand member
    rw [operands_postfixOrder] at member
    exact digits _ (List.mem_map_of_mem member)
  have fits := Domain.evaluatePostfix_fitsCounts
    (Domain.readsLiterals_total Decimal.Literal.toFloat Domain.applyFloat)
    (Domain.isTotal_total Decimal.Literal.toFloat Domain.applyFloat) ordered
  rw [operands_postfixOrder, length_signs_postfixOrder, signs_symbols] at fits
  rw [List.length_map]
  exact fits.of_verdict_eq (verdict_derive options text)

/-- Two operands are too few for two operators in any arrangement. -/
theorem outcomes_fit_counts_of_two_operands :
    (∃ token position, derive ⟨.standard, true⟩ "(1 + * 2)" =
      .error (.missingOperands token position)) ∧
      derive ⟨⟨true⟩, false⟩ "(½)" = .error .emptyInput ∧
      ∀ count, derive ⟨.standard, false⟩ "12 + 34" = .error (.leftover count) → count = 3 := by
  have two : "(1 + * 2)".toList.filter isOperand = ['1', '2'] := by decide +kernel
  have none : "(½)".toList.filter isOperand = [] := by decide +kernel
  have four : "12 + 34".toList.filter isOperand = ['1', '2', '3', '4'] := by decide +kernel
  refine ⟨?_, ?_, fun count failed => ?_⟩
  · have fits := outcomes_fit_counts ⟨.standard, true⟩ "(1 + * 2)" (by rw [two]; simp)
    exact fits.short (by decide +kernel) (by rw [two]; decide +kernel)
  · have fits := outcomes_fit_counts ⟨⟨true⟩, false⟩ "(½)" (by rw [none]; simp)
    exact fits.empty.mpr ⟨by rw [none]; rfl, by decide +kernel⟩
  · have fits := outcomes_fit_counts ⟨.standard, false⟩ "12 + 34" (by rw [four]; simp)
    have counts := (fits.leftover count failed).1
    have one : (operators "12 + 34").length = 1 := by decide +kernel
    rw [four, one] at counts
    exact (Nat.add_left_cancel counts).symm

end PolishNotation
