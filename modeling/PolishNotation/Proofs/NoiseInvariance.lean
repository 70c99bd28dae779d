import PolishNotation.Proofs.DerivationCoherence
import PolishNotation.Proofs.Noise

namespace PolishNotation

/-- The stages of a derivation start with the postfix form. -/
def deriveFrom (exact : Bool) (expression : String) (postfixForm : TokenSequence) :
    Except Fault Derivation := do
  let postfixValue ← Domain.floating.evaluatePostfix postfixForm
  let prefixForm ← toPrefix postfixForm
  let prefixValue ← Domain.floating.evaluatePrefix prefixForm
  let exactValues := if exact then some (evaluateExact postfixForm prefixForm) else none
  return { expression, postfixForm, postfixValue, prefixForm, prefixValue, exactValues }

/-- The early end at a blank text has the fault of the stages. -/
theorem derive_eq_deriveFrom (options : Options) (text : String) :
    derive options text =
      deriveFrom options.exact (Text.trim text) (toPostfix options.rules text) := by
  rw [← toPostfix_trim]
  by_cases blank : Text.trim text = ""
  · rw [derive_of_blank options blank, blank, deriveFrom, evaluatePostfix_toPostfix_empty]
    rfl
  · rw [derive_of_not_blank options blank, deriveFrom]

/-- The stages only repeat the expression. -/
theorem deriveFrom_eq_map (exact : Bool) (first second : String) (postfixForm : TokenSequence) :
    deriveFrom exact second postfixForm =
      (deriveFrom exact first postfixForm).map fun derivation =>
        { derivation with expression := second } := by
  have functorial (outcome : Except Fault Derivation) (change : Derivation → Derivation) :
      outcome.map change = change <$> outcome := rfl
  simp only [deriveFrom, functorial, map_bind, map_pure]

/-- A text is derived if its postfix form has a value in doubles. -/
theorem exists_derive_iff (options : Options) (text : String) :
    (∃ derivation, derive options text = .ok derivation) ↔
      ∃ value, Domain.floating.evaluatePostfix (toPostfix options.rules text) = .ok value := by
  cases evaluated : Domain.floating.evaluatePostfix (toPostfix options.rules text) with
  | error fault =>
      rw [← toPostfix_trim] at evaluated
      simp [derive_of_fault options evaluated]
  | ok value =>
      rw [← toPostfix_trim] at evaluated
      have written : Text.trim text ≠ "" := by
        intro blank
        rw [blank, evaluatePostfix_toPostfix_empty] at evaluated
        cases evaluated
      obtain ⟨spelled, tree, -, -, -, derived⟩ := derive_of_value options written evaluated
      simp [derived]

/-- A text whose postfix form spells a tree of literals is derived. -/
theorem exists_derive_of_tree (options : Options) {text : String} {tree : ExpressionTree String}
    (spelled : (toPostfix options.rules text).toList = tree.postfixTokens)
    (literals : ∀ token ∈ tree.leaves, (Decimal.Literal.read? token).isSome = true) :
    ∃ derivation, derive options text = .ok derivation := by
  rw [exists_derive_iff, Domain.floating_eq_total]
  apply Domain.exists_evaluatePostfix_of_tree (Domain.separatesOperators_total _ _)
    (Domain.isTotal_total _ _) spelled
  intro token member
  rw [Domain.readsLiterals_total]
  exact literals token member

/-- Texts that differ only in their noise are derived alike. -/
theorem derive_ignores_noise (options : Options) {first second : String}
    (same : withoutNoise first = withoutNoise second) :
    (∀ fault, derive options first = .error fault ↔ derive options second = .error fault) ∧
      ∀ derivation, derive options first = .ok derivation →
        derive options second = .ok { derivation with expression := Text.trim second } := by
  have alike : derive options second = (derive options first).map fun derivation =>
      { derivation with expression := Text.trim second } := by
    rw [derive_eq_deriveFrom, derive_eq_deriveFrom,
      toPostfix_congr options.rules (withoutNoise_eq_withoutNoise_iff.mp same)]
    exact deriveFrom_eq_map _ _ _ _
  rw [alike]
  refine ⟨fun fault => ?_, fun derivation derived => ?_⟩
  · cases derive options first <;> simp [Except.map]
  · rw [derived]
    rfl

/-- A text of nothing but noise is as empty as a blank one. -/
theorem derive_ignores_noise_around_product :
    (∃ derivation, derive ⟨.standard, true⟩ "3*2" = .ok derivation ∧
      derive ⟨.standard, true⟩ " 3²*(2)\n" =
        .ok { derivation with expression := "3²*(2)" }) ∧
      derive ⟨.standard, true⟩ " \t" = .error .emptyInput ∧
      derive ⟨.standard, true⟩ "(½)" = .error .emptyInput := by
  have product : withoutNoise "3*2" = withoutNoise " 3²*(2)\n" := by decide +kernel
  have trimmed : Text.trim " 3²*(2)\n" = "3²*(2)" := by decide +kernel
  have nothing : withoutNoise " \t" = withoutNoise "(½)" := by decide +kernel
  have blank : derive ⟨.standard, true⟩ " \t" = .error .emptyInput :=
    derive_of_blank _ (by decide +kernel)
  have spelled : (toPostfix .standard "3*2").toList =
      ExpressionTree.postfixTokens (.node .times (.leaf "3") (.leaf "2")) := by decide +kernel
  obtain ⟨derivation, derived⟩ := exists_derive_of_tree ⟨.standard, true⟩ spelled (by decide)
  refine ⟨⟨derivation, derived, ?_⟩, blank, ?_⟩
  · rw [← trimmed]
    exact (derive_ignores_noise ⟨.standard, true⟩ product).2 derivation derived
  · exact ((derive_ignores_noise ⟨.standard, true⟩ nothing).1 .emptyInput).mp blank

end PolishNotation
