import PolishNotation.Proofs.Lockstep

namespace PolishNotation

/-- A structural fault arises from the tokens, whatever values they stand for. -/
def Fault.IsStructural : Fault → Prop
  | .arithmetic _ => False
  | _ => True

instance : DecidablePred Fault.IsStructural
  | .arithmetic _ => .isFalse id
  | .missingOperands _ _ | .notNumeric _ _ | .leftover _ | .emptyInput => .isTrue trivial

/-- The leading outcome fails like the following one, apart from its arithmetic. -/
structure FailsLike {First Second : Type} (leading : Except Fault First)
    (following : Except Fault Second) : Prop where
  value : (∃ value, leading = .ok value) → ∃ value, following = .ok value
  structural : ∀ fault, fault.IsStructural → leading = .error fault → following = .error fault
  cause : ∀ fault, following = .error fault →
    leading = .error fault ∨ ∃ arithmetic, leading = .error (.arithmetic arithmetic)

namespace FailsLike

variable {First Second : Type} {leading : Except Fault First} {following : Except Fault Second}

theorem of_verdict_eq (same : verdict leading = verdict following) :
    FailsLike leading following where
  value := (ok_iff_of_verdict_eq same).mp
  structural fault _ := (error_iff_of_verdict_eq same fault).mp
  cause fault failed := .inl ((error_iff_of_verdict_eq same fault).mpr failed)

/-- An evaluation that its arithmetic stops says nothing about the other one. -/
theorem of_stopped {arithmetic : ArithmeticFault}
    (stopped : leading = .error (.arithmetic arithmetic)) : FailsLike leading following where
  value := by
    rintro ⟨value, found⟩
    rw [stopped] at found
    cases found
  structural fault isStructural failed := by
    rw [stopped] at failed
    cases failed
    exact isStructural.elim
  cause _ _ := .inr ⟨arithmetic, stopped⟩

end FailsLike

namespace Domain

variable {First Second : Type} {first : Domain First} {second : Domain Second}

theorem failsLike_run (direction : Direction) (total : second.IsTotal)
    {placed : List (String × Nat)}
    (alike : ∀ token ∈ placed.map Prod.fst, first.ReadsLike second token) :
    FailsLike (first.run direction placed) (second.run direction placed) := by
  rcases verdict_run direction total alike with ⟨arithmetic, stopped⟩ | same
  · exact .of_stopped stopped
  · exact .of_verdict_eq same

/-- Two domains that read the digits alone agree on the tokens of one character. -/
theorem ReadsOnlyDigits.readsLike (firstReads : first.ReadsOnlyDigits)
    (secondReads : second.ReadsOnlyDigits) {token : String} (single : token.length = 1) :
    first.ReadsLike second token := by
  obtain ⟨character, rfl⟩ := exists_singleton_of_length single
  exact (firstReads character).trans (secondReads character).symm

/-- A longer token can be a literal without being an integer. -/
example : (exact.read? "1.5").isSome = false ∧ (floating.read? "1.5").isSome = true := by
  decide +kernel

end Domain

/-- The splitting leaves tokens of one character. -/
theorem TokenSequence.length_eq_one_of_mem_split {sequence : TokenSequence} {token : String}
    (member : token ∈ sequence.split) : token.length = 1 := by
  rw [split_eq] at member
  obtain ⟨character, -, rfl⟩ := List.mem_map.mp member
  exact String.length_singleton

/-- Exact arithmetic shares the structural faults of doubles. -/
theorem exact_evaluations_fail_like_floating (sequence : TokenSequence) :
    ((∀ token ∈ sequence.toList, token.length = 1) →
      FailsLike (Domain.exact.evaluatePostfix sequence)
        (Domain.floating.evaluatePostfix sequence)) ∧
      FailsLike (Domain.exact.evaluatePrefix sequence)
        (Domain.floating.evaluatePrefix sequence) := by
  have total := Domain.isTotal_total Decimal.Literal.toFloat Domain.applyFloat
  have alike {token : String} (single : token.length = 1) :
      Domain.exact.ReadsLike Domain.floating token :=
    Domain.readsOnlyDigits_exact.readsLike
      (Domain.readsLiterals_total Decimal.Literal.toFloat Domain.applyFloat).readsOnlyDigits single
  constructor
  · intro single
    apply Domain.failsLike_run .forward total
    rw [List.zipIdx_map_fst]
    exact fun token member => alike (single token member)
  · apply Domain.failsLike_run .backward total
    rw [List.map_reverse, List.zipIdx_map_fst]
    exact fun token member =>
      alike (TokenSequence.length_eq_one_of_mem_split (List.mem_reverse.mp member))

/-- A division by zero hides the operator that comes short after it. -/
theorem exact_evaluations_fail_like_floating_of_quotient_and_letter :
    (∃ value, Domain.floating.evaluatePostfix (.ofList ["9", "2", "/"]) = .ok value) ∧
      Domain.floating.evaluatePrefix (.ofList ["*1", "x2"]) = .error (.notNumeric "x" 2) ∧
      Domain.floating.evaluatePostfix (.ofList ["9", "0", "/", "+"]) =
        .error (.missingOperands "+" 3) ∧
      Domain.exact.evaluatePostfix (.ofList ["9", "0", "/", "+"]) =
        .error (.arithmetic .divisionByZero) := by
  have quotient := (exact_evaluations_fail_like_floating (.ofList ["9", "2", "/"])).1 (by decide)
  have letter := (exact_evaluations_fail_like_floating (.ofList ["*1", "x2"])).2
  refine ⟨quotient.value ⟨9 / 2, by decide +kernel⟩,
    letter.structural _ (by decide) (by decide +kernel), ?_, by decide +kernel⟩
  rfl

end PolishNotation
