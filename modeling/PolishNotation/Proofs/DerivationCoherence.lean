import PolishNotation.Derivation
import PolishNotation.Proofs.NotationAgreement

namespace PolishNotation

namespace Domain

variable {Value : Type} {domain : Domain Value} {direction : Direction}

theorem step_ne_arithmetic (total : domain.IsTotal) (stack : List Value)
    (placed : String × Nat) (fault : ArithmeticFault) :
    domain.step direction stack placed ≠ .error (.arithmetic fault) := by
  obtain ⟨token, position⟩ := placed
  intro failed
  simp only [step] at failed
  split at failed
  · cases failed
  · split at failed
    · cases failed
    · rename_i operator named
      split at failed
      · rename_i top below rest
        obtain ⟨value, succeeded⟩ := exists_combine total direction operator top below
        rw [succeeded] at failed
        cases failed
      · cases failed

theorem scan_ne_arithmetic (total : domain.IsTotal) (stack : List Value)
    (placed : List (String × Nat)) (fault : ArithmeticFault) :
    domain.scan direction stack placed ≠ .error (.arithmetic fault) := by
  induction placed generalizing stack with
  | nil => exact fun failed => by cases failed
  | cons first rest inductionHypothesis =>
      rw [scan]
      cases stepped : domain.step direction stack first with
      | ok next => exact inductionHypothesis next
      | error other =>
          intro failed
          rw [Except.error.inj failed] at stepped
          exact step_ne_arithmetic total stack first fault stepped

/-- Where every operation has a result no arithmetic fault occurs. -/
theorem evaluatePostfix_ne_arithmetic (total : domain.IsTotal) (sequence : TokenSequence)
    (fault : ArithmeticFault) :
    domain.evaluatePostfix sequence ≠ .error (.arithmetic fault) := by
  unfold evaluatePostfix Domain.run
  intro failed
  split at failed
  · unfold conclude at failed
    split at failed <;> cases failed
  · rename_i other scanned
    rw [Except.error.inj failed] at scanned
    exact scan_ne_arithmetic total _ _ fault scanned

end Domain

/-- Every token of a converted expression is one character. -/
theorem length_eq_one_of_mem_toPostfix {rules : Rules} {text token : String}
    (member : token ∈ (toPostfix rules text).toList) : token.length = 1 := by
  rw [toList_toPostfix] at member
  obtain ⟨symbol, -, rfl⟩ := List.mem_map.mp member
  exact String.length_singleton

/-- Where every operation has a result a tree of numbers has a value. -/
theorem Domain.exists_evaluatePostfix_of_tree {Value : Type} {domain : Domain Value}
    (separated : domain.SeparatesOperators) (total : domain.IsTotal)
    {tree : ExpressionTree String} {sequence : TokenSequence}
    (spelled : sequence.toList = tree.postfixTokens)
    (numbers : ∀ token ∈ tree.leaves, (domain.read? token).isSome = true) :
    ∃ value, domain.evaluatePostfix sequence = .ok value := by
  obtain ⟨read, readable⟩ := Option.isSome_iff_exists.mp
    (tree.isSome_read?_iff.mpr numbers)
  obtain ⟨value, evaluated⟩ := ExpressionTree.exists_value_of_isTotal total read
  have denotes : tree.Denotes domain value := ⟨read, readable, evaluated⟩
  exact ⟨value, Domain.evaluatePostfix_of_denotes separated denotes spelled⟩

/-- The rewriting succeeds wherever the evaluation in doubles does. -/
theorem exists_toPrefix_of_evaluatePostfix {sequence : TokenSequence} {value : Float}
    (evaluated : Domain.floating.evaluatePostfix sequence = .ok value) :
    ∃ prefixForm, toPrefix sequence = .ok prefixForm := by
  obtain ⟨tree, spelled, denotes⟩ := Domain.exists_tree_of_evaluatePostfix evaluated
  have numbers : ∀ token ∈ tree.leaves, (Domain.spelling.read? token).isSome = true := by
    intro token member
    have number := denotes.isSome_read? token member
    rw [Domain.isSome_read?_spelling]
    simpa only [Domain.floating, Option.isSome_map] using number
  obtain ⟨text, rewritten⟩ := Domain.exists_evaluatePostfix_of_tree
    Domain.separatesOperators_spelling Domain.isTotal_spelling spelled numbers
  refine ⟨TokenSequence.ofList [text], ?_⟩
  rw [toPrefix, rewritten]
  rfl

/-- A prefix form has a character for every token of its postfix form. -/
theorem SpellDigits.length_eq {tree : ExpressionTree String} {postfixForm : TokenSequence}
    {spelled : String}
    (spell : SpellDigits tree postfixForm (TokenSequence.ofList [spelled])) :
    spelled.length = postfixForm.size := by
  have characters := congrArg List.length spell.prefixTokens
  rw [TokenSequence.split, TokenSequence.toList_ofList, List.flatMap_singleton,
    List.length_map, String.length_toList,
    tree.prefixTokens_perm_postfixTokens.length_eq] at characters
  rw [characters, ← spell.postfixTokens, TokenSequence.length_toList]

/-- The exact values of two forms are equal unless the arithmetic fails. -/
theorem SpellDigits.evaluateExact_cases {tree : ExpressionTree String}
    {postfixForm prefixForm : TokenSequence} (spell : SpellDigits tree postfixForm prefixForm) :
    (∃ value, evaluateExact postfixForm prefixForm = .ok ⟨value, value⟩) ∨
      ∃ fault, evaluateExact postfixForm prefixForm = .error (.arithmetic fault) := by
  unfold evaluateExact
  rcases spell.common_value_or_faults Domain.separatesOperators_exact Domain.readsDigits_exact with
    ⟨value, onPostfix, onPrefix⟩ | ⟨first, second, onPostfix, onPrefix⟩
  · rw [onPostfix, onPrefix]
    exact .inl ⟨value, rfl⟩
  · rw [onPostfix]
    exact .inr ⟨first, rfl⟩

/-- A derivation holds what its stages make of the text, and their results agree. -/
structure Coherent (options : Options) (text : String) (derivation : Derivation) : Prop where
  trimmed : derivation.expression = Text.trim text
  converted : derivation.postfixForm = toPostfix options.rules (Text.trim text)
  evaluated : Domain.floating.evaluatePostfix derivation.postfixForm =
    .ok derivation.postfixValue
  rewritten : toPrefix derivation.postfixForm = .ok derivation.prefixForm
  evaluatedBack : Domain.floating.evaluatePrefix derivation.prefixForm =
    .ok derivation.prefixValue
  exactPart : derivation.exactValues =
    if options.exact then some (evaluateExact derivation.postfixForm derivation.prefixForm)
    else none
  sameTree : ∃ tree, SpellDigits tree derivation.postfixForm derivation.prefixForm
  oneToken : ∃ spelled, derivation.prefixForm.toList = [spelled] ∧
    spelled.length = derivation.postfixForm.size
  sameValue : derivation.prefixValue = derivation.postfixValue
  asked : derivation.exactValues = none ↔ options.exact = false
  sameExactValue : ∀ outcome, derivation.exactValues = some outcome →
    (∃ values, outcome = .ok values ∧ values.postfixValue = values.prefixValue) ∨
      ∃ fault, outcome = .error (.arithmetic fault)

theorem derive_of_blank (options : Options) {text : String} (blank : Text.trim text = "") :
    derive options text = .error .emptyInput := by
  unfold derive
  rw [blank]
  rfl

/-- A text that is not blank is converted and evaluated first. -/
theorem derive_of_not_blank (options : Options) {text : String} (written : Text.trim text ≠ "") :
    derive options text = (do
      let postfixForm := toPostfix options.rules (Text.trim text)
      let postfixValue ← Domain.floating.evaluatePostfix postfixForm
      let prefixForm ← toPrefix postfixForm
      let prefixValue ← Domain.floating.evaluatePrefix prefixForm
      return {
        expression := Text.trim text
        postfixForm, postfixValue, prefixForm, prefixValue
        exactValues :=
          if options.exact then some (evaluateExact postfixForm prefixForm) else none }) := by
  have filled : (Text.trim text).isEmpty = false := by
    rw [Bool.eq_false_iff, Ne, String.isEmpty_iff]
    exact written
  unfold derive
  rw [if_neg (by simp [filled])]

/-- The empty text has no postfix form with a value. -/
theorem evaluatePostfix_toPostfix_empty (rules : Rules) :
    Domain.floating.evaluatePostfix (toPostfix rules "") = .error .emptyInput := rfl

theorem derive_of_fault (options : Options) {text : String} {fault : Fault}
    (failed : Domain.floating.evaluatePostfix (toPostfix options.rules (Text.trim text)) =
      .error fault) : derive options text = .error fault := by
  by_cases blank : Text.trim text = ""
  · rw [blank, evaluatePostfix_toPostfix_empty] at failed
    rw [derive_of_blank options blank, Except.error.inj failed]
  · rw [derive_of_not_blank options blank]
    simp only [failed]
    rfl

/-- Once the first evaluation has a value, every further stage agrees with it. -/
theorem derive_of_value (options : Options) {text : String} {value : Float}
    (written : Text.trim text ≠ "")
    (evaluated : Domain.floating.evaluatePostfix
      (toPostfix options.rules (Text.trim text)) = .ok value) :
    ∃ spelled tree, SpellDigits tree (toPostfix options.rules (Text.trim text))
        (TokenSequence.ofList [spelled]) ∧
      toPrefix (toPostfix options.rules (Text.trim text)) =
        .ok (TokenSequence.ofList [spelled]) ∧
      Domain.floating.evaluatePrefix (TokenSequence.ofList [spelled]) = .ok value ∧
      derive options text = .ok {
        expression := Text.trim text
        postfixForm := toPostfix options.rules (Text.trim text)
        postfixValue := value
        prefixForm := TokenSequence.ofList [spelled]
        prefixValue := value
        exactValues :=
          if options.exact then
            some (evaluateExact (toPostfix options.rules (Text.trim text))
              (TokenSequence.ofList [spelled]))
          else none } := by
  obtain ⟨prefixForm, rewritten⟩ := exists_toPrefix_of_evaluatePostfix evaluated
  obtain ⟨spelled, tree, rfl, spell⟩ :=
    exists_spellDigits_of_toPrefix (fun token => length_eq_one_of_mem_toPostfix) rewritten
  have reads := Domain.readsDigits_total Decimal.Literal.toFloat Domain.applyFloat
  have separated := Domain.separatesOperators_total Decimal.Literal.toFloat Domain.applyFloat
  have total := Domain.isTotal_total Decimal.Literal.toFloat Domain.applyFloat
  rw [← Domain.floating_eq_total] at reads separated total
  obtain ⟨common, onPostfix, onPrefix⟩ := spell.exists_common_value separated reads total
  have same : common = value := by
    rw [evaluated] at onPostfix
    exact (Except.ok.inj onPostfix).symm
  rw [same] at onPrefix
  refine ⟨spelled, tree, spell, rewritten, onPrefix, ?_⟩
  rw [derive_of_not_blank options written]
  simp only [evaluated, rewritten, onPrefix, bind, Except.bind]
  rfl

theorem derive_error_iff (options : Options) (text : String) (fault : Fault) :
    derive options text = .error fault ↔
      (Text.trim text = "" ∧ fault = .emptyInput) ∨
        Domain.floating.evaluatePostfix (toPostfix options.rules (Text.trim text)) =
          .error fault := by
  constructor
  · intro failed
    by_cases blank : Text.trim text = ""
    · rw [derive_of_blank options blank] at failed
      exact .inl ⟨blank, (Except.error.inj failed).symm⟩
    · right
      cases evaluated : Domain.floating.evaluatePostfix
          (toPostfix options.rules (Text.trim text)) with
      | error other =>
          rw [derive_of_fault options evaluated] at failed
          exact congrArg Except.error (Except.error.inj failed)
      | ok value =>
          obtain ⟨spelled, tree, -, -, -, derived⟩ := derive_of_value options blank evaluated
          rw [derived] at failed
          cases failed
  · intro cause
    rcases cause with ⟨blank, rfl⟩ | failed
    · exact derive_of_blank options blank
    · exact derive_of_fault options failed

theorem coherent_of_derive {options : Options} {text : String} {derivation : Derivation}
    (derived : derive options text = .ok derivation) : Coherent options text derivation := by
  have written : Text.trim text ≠ "" := by
    intro blank
    rw [derive_of_blank options blank] at derived
    cases derived
  cases evaluated : Domain.floating.evaluatePostfix
      (toPostfix options.rules (Text.trim text)) with
  | error fault =>
      rw [derive_of_fault options evaluated] at derived
      cases derived
  | ok value =>
      obtain ⟨spelled, tree, spell, rewritten, onPrefix, known⟩ :=
        derive_of_value options written evaluated
      rw [known] at derived
      cases derived
      refine ⟨rfl, rfl, evaluated, rewritten, onPrefix, rfl, ⟨tree, spell⟩,
        ⟨spelled, rfl, spell.length_eq⟩, rfl, ?_, ?_⟩
      · cases options.exact <;> simp
      · intro outcome asked
        split at asked
        · obtain rfl := Option.some.inj asked
          rcases spell.evaluateExact_cases with ⟨exactValue, found⟩ | ⟨fault, found⟩
          · exact .inl ⟨⟨exactValue, exactValue⟩, found, rfl⟩
          · exact .inr ⟨fault, found⟩
        · cases asked

/-- A derivation without its exact values. -/
def Derivation.inexact (derivation : Derivation) : Derivation :=
  { derivation with exactValues := none }

/-- The exact values are computed apart from everything else. -/
theorem map_inexact_derive (options : Options) (exact : Bool) (text : String) :
    (derive { options with exact } text).map Derivation.inexact =
      (derive options text).map Derivation.inexact := by
  by_cases blank : Text.trim text = ""
  · rw [derive_of_blank _ blank, derive_of_blank _ blank]
  · rw [derive_of_not_blank _ blank, derive_of_not_blank _ blank]
    -- Both sides differ only in a field that is erased after the last stage.
    have functorial (outcome : Except Fault Derivation) :
        outcome.map Derivation.inexact = Derivation.inexact <$> outcome := rfl
    simp only [functorial, map_bind, map_pure, Derivation.inexact]

/-- A derivation fails only in its first evaluation, and its results agree. -/
theorem derive_is_coherent (options : Options) (text : String) :
    (∀ fault, derive options text = .error fault ↔
      (Text.trim text = "" ∧ fault = .emptyInput) ∨
        Domain.floating.evaluatePostfix (toPostfix options.rules (Text.trim text)) =
          .error fault) ∧
      (∀ fault, derive options text ≠ .error (.arithmetic fault)) ∧
      (∀ derivation, derive options text = .ok derivation →
        Coherent options text derivation) ∧
      ∀ exact, (derive { options with exact } text).map Derivation.inexact =
        (derive options text).map Derivation.inexact := by
  refine ⟨derive_error_iff options text, ?_, fun derivation => coherent_of_derive,
    fun exact => map_inexact_derive options exact text⟩
  intro fault failed
  rcases (derive_error_iff options text _).mp failed with ⟨-, impossible⟩ | first
  · cases impossible
  · exact Domain.evaluatePostfix_ne_arithmetic
      (Domain.isTotal_total Decimal.Literal.toFloat Domain.applyFloat) _ fault first

/-- A division by zero is a fault of the exact values only. -/
theorem derive_is_coherent_at_division_by_zero :
    ∃ derivation, derive ⟨.standard, true⟩ " (1/0) + 2" = .ok derivation ∧
      Coherent ⟨.standard, true⟩ " (1/0) + 2" derivation := by
  have written : Text.trim " (1/0) + 2" = "(1/0) + 2" := by cbv
  have spelled : (toPostfix .standard "(1/0) + 2").toList = ExpressionTree.postfixTokens
      (.node .plus (.node .divide (.leaf "1") (.leaf "0")) (.leaf "2")) := by cbv
  obtain ⟨value, evaluated⟩ := Domain.exists_evaluatePostfix_of_tree
    (Domain.separatesOperators_total Decimal.Literal.toFloat Domain.applyFloat)
    (Domain.isTotal_total Decimal.Literal.toFloat Domain.applyFloat) spelled (by decide)
  obtain ⟨failure, -, coherent, -⟩ := derive_is_coherent ⟨.standard, true⟩ " (1/0) + 2"
  cases derived : derive ⟨.standard, true⟩ " (1/0) + 2" with
  | ok derivation => exact ⟨derivation, rfl, coherent derivation derived⟩
  | error fault =>
      rcases (failure fault).mp derived with ⟨blank, -⟩ | failed
      · rw [written] at blank
        exact absurd blank (by decide)
      · rw [written, Domain.floating_eq_total, evaluated] at failed
        cases failed

end PolishNotation
