import PolishNotation.Proofs.TreeScan

namespace PolishNotation

/-- A token of one character is the text of this character. -/
theorem exists_singleton_of_length {token : String} (single : token.length = 1) :
    ∃ character, token = String.singleton character := by
  rw [← String.length_toList] at single
  obtain ⟨character, alone⟩ := List.length_eq_one_iff.mp single
  refine ⟨character, String.toList_inj.mp ?_⟩
  rw [alone, String.toList_singleton]

/-- Tokens of one character survive the splitting of their text into characters. -/
theorem map_singleton_flatMap_toList {tokens : List String}
    (single : ∀ token ∈ tokens, token.length = 1) :
    (tokens.flatMap String.toList).map String.singleton = tokens := by
  induction tokens with
  | nil => rfl
  | cons token rest inductionHypothesis =>
      obtain ⟨character, rfl⟩ := exists_singleton_of_length (single token (List.mem_cons_self ..))
      have others := inductionHypothesis fun other member =>
        single other (List.mem_cons_of_mem _ member)
      rw [List.flatMap_cons, String.toList_singleton, List.map_append, others]
      rfl

namespace ExpressionTree

variable {Leaf Value : Type} {domain : Domain Value} {direction : Direction}

def operators : ExpressionTree Leaf → List Operator
  | .leaf _ => []
  | .node operator left right => operator :: (left.operators ++ right.operators)

theorem mem_postfixTokens_of_mem_leaves {tree : ExpressionTree String} {token : String}
    (member : token ∈ tree.leaves) : token ∈ tree.postfixTokens := by
  induction tree with
  | leaf value => exact member
  | node operator left right leftHypothesis rightHypothesis =>
      rcases List.mem_append.mp member with inLeft | inRight
      · exact List.mem_append_left _ (leftHypothesis inLeft)
      · exact List.mem_append_right _ (List.mem_append_left _ (rightHypothesis inRight))

theorem token_mem_postfixTokens {tree : ExpressionTree String} {sign : Operator}
    (member : sign ∈ tree.operators) : sign.token ∈ tree.postfixTokens := by
  induction tree with
  | leaf value => cases member
  | node operator left right leftHypothesis rightHypothesis =>
      rcases List.mem_cons.mp member with rfl | member
      · exact List.mem_append_right _ (List.mem_append_right _ (List.mem_singleton_self _))
      · rcases List.mem_append.mp member with inLeft | inRight
        · exact List.mem_append_left _ (leftHypothesis inLeft)
        · exact List.mem_append_right _ (List.mem_append_left _ (rightHypothesis inRight))

/-- Both notations of a tree have the same tokens. -/
theorem prefixTokens_perm_postfixTokens (tree : ExpressionTree String) :
    tree.prefixTokens.Perm tree.postfixTokens := by
  induction tree with
  | leaf value => exact List.Perm.refl _
  | node operator left right leftHypothesis rightHypothesis =>
      have operands := leftHypothesis.append rightHypothesis
      have moved := (operands.cons operator.token).trans (List.perm_append_singleton _ _).symm
      rwa [List.append_assoc] at moved

theorem operators_of_read? {tree : ExpressionTree String} {numbers : ExpressionTree Value}
    (readable : tree.read? domain = some numbers) : numbers.operators = tree.operators := by
  induction tree generalizing numbers with
  | leaf token =>
      obtain ⟨value, -, rfl⟩ := Option.map_eq_some_iff.mp readable
      rfl
  | node operator left right leftHypothesis rightHypothesis =>
      obtain ⟨leftNumbers, rightNumbers, onLeft, onRight, rfl⟩ :=
        read?_node_eq_some_iff.mp readable
      rw [operators, operators, leftHypothesis onLeft, rightHypothesis onRight]

theorem exists_value_of_isTotal (total : domain.IsTotal) (tree : ExpressionTree Value) :
    ∃ result, tree.value domain = .ok result := by
  induction tree with
  | leaf number => exact ⟨number, rfl⟩
  | node operator left right leftHypothesis rightHypothesis =>
      obtain ⟨leftValue, onLeft⟩ := leftHypothesis
      obtain ⟨rightValue, onRight⟩ := rightHypothesis
      obtain ⟨result, applied⟩ := total operator leftValue rightValue
      exact ⟨result, operation_eq_ok_iff.mpr
        ⟨leftValue, rightValue, onLeft, onRight, applied⟩⟩

/-- If the operators of a tree have one fault, the tree has no other. -/
theorem valueMet_eq_fault {tree : ExpressionTree Value} {only fault : ArithmeticFault}
    (single : ∀ operator ∈ tree.operators, ∀ left right other,
      domain.apply operator left right = .error other → other = only)
    (failed : tree.valueMet domain direction = .error fault) : fault = only := by
  induction tree generalizing fault with
  | leaf number => cases failed
  | node operator left right leftHypothesis rightHypothesis =>
      have onLeft := @leftHypothesis fault fun other member =>
        single other (List.mem_cons_of_mem _ (List.mem_append_left _ member))
      have onRight := @rightHypothesis fault fun other member =>
        single other (List.mem_cons_of_mem _ (List.mem_append_right _ member))
      have here := single operator (List.mem_cons_self ..)
      cases direction with
      | forward =>
          rcases cases_of_operation_eq_error failed with first | second | ⟨_, _, -, -, applied⟩
          · exact onLeft first
          · exact onRight second
          · exact here _ _ _ applied
      | backward =>
          rcases cases_of_operation_eq_error failed with first | second | ⟨_, _, -, -, applied⟩
          · exact onRight first
          · exact onLeft second
          · exact here _ _ _ applied

/-- Where only one fault can occur, the order of evaluation is of no account. -/
theorem valueMet_backward_eq_value {tree : ExpressionTree Value} {only : ArithmeticFault}
    (single : ∀ operator ∈ tree.operators, ∀ left right fault,
      domain.apply operator left right = .error fault → fault = only) :
    tree.valueMet domain .backward = tree.value domain := by
  cases forward : tree.value domain with
  | ok result => exact (valueMet_eq_ok_iff tree result).mpr forward
  | error first =>
      cases backward : tree.valueMet domain .backward with
      | ok result =>
          rw [(valueMet_eq_ok_iff tree result).mp backward] at forward
          cases forward
      | error second =>
          rw [← valueMet_forward] at forward
          rw [valueMet_eq_fault single forward, valueMet_eq_fault single backward]

end ExpressionTree

namespace Domain

/-- Without powers the only fault of exact arithmetic is a division by zero. -/
theorem applyRational_eq_error {operator : Operator} {left right : Rat}
    {fault : ArithmeticFault} (tame : operator ≠ .power)
    (failed : applyRational operator left right = .error fault) : fault = .divisionByZero := by
  cases operator with
  | plus => cases failed
  | minus => cases failed
  | times => cases failed
  | divide =>
      simp only [applyRational] at failed
      split at failed
      · exact (Except.error.inj failed).symm
      · cases failed
  | power => exact absurd rfl tame

end Domain

/-- A postfix and a prefix form that spell one tree, whose leaves are digits. -/
structure SpellDigits (tree : ExpressionTree String) (postfixForm prefixForm : TokenSequence) :
    Prop where
  postfixTokens : postfixForm.toList = tree.postfixTokens
  prefixTokens : prefixForm.split = tree.prefixTokens
  digits : ∀ token ∈ tree.leaves, ∃ digit : Char, digit.isDigit = true ∧
    token = String.singleton digit

open ExpressionTree in
/-- The spelling of a tree consists of its prefix tokens. -/
theorem toList_of_denotes_spelling {tree : ExpressionTree String} {spelled : String}
    (denotes : tree.Denotes Domain.spelling spelled) :
    spelled.toList = tree.prefixTokens.flatMap String.toList := by
  obtain ⟨numbers, readable, evaluated⟩ := denotes
  induction tree generalizing numbers spelled with
  | leaf token =>
      obtain ⟨value, read, rfl⟩ := Option.map_eq_some_iff.mp readable
      cases evaluated
      have same : token = spelled := by
        simp only [Domain.spelling] at read
        split at read
        · exact Option.some.inj read
        · cases read
      simp [prefixTokens, preorder, same]
  | node operator left right leftHypothesis rightHypothesis =>
      obtain ⟨leftNumbers, rightNumbers, onLeft, onRight, rfl⟩ :=
        read?_node_eq_some_iff.mp readable
      obtain ⟨leftText, rightText, leftEvaluated, rightEvaluated, applied⟩ :=
        operation_eq_ok_iff.mp evaluated
      have leftSpelled := leftHypothesis leftNumbers onLeft leftEvaluated
      have rightSpelled := rightHypothesis rightNumbers onRight rightEvaluated
      cases applied
      simp only [prefixTokens, preorder, List.flatMap_cons, List.flatMap_append,
        Operator.token] at leftSpelled rightSpelled ⊢
      rw [String.toList_append, String.toList_append, leftSpelled, rightSpelled,
        List.append_assoc]

open ExpressionTree in
/-- The leaves of a tree with a value are numbers of the domain. -/
theorem ExpressionTree.Denotes.isSome_read? {Value : Type} {domain : Domain Value}
    {tree : ExpressionTree String} {result : Value} (denotes : tree.Denotes domain result) :
    ∀ token ∈ tree.leaves, (domain.read? token).isSome = true := by
  obtain ⟨numbers, readable, -⟩ := denotes
  rw [← isSome_read?_iff, readable, Option.isSome_some]

/-- The prefix form of tokens of one character spells the same tree of digits. -/
theorem exists_spellDigits_of_denotes {tree : ExpressionTree String}
    {postfixForm : TokenSequence} {spelled : String}
    (single : ∀ token ∈ postfixForm.toList, token.length = 1)
    (postfixTokens : postfixForm.toList = tree.postfixTokens)
    (denotes : tree.Denotes Domain.spelling spelled) :
    SpellDigits tree postfixForm (TokenSequence.ofList [spelled]) where
  postfixTokens := postfixTokens
  prefixTokens := by
    have prefixSingle : ∀ token ∈ tree.prefixTokens, token.length = 1 := by
      intro token member
      apply single
      rw [postfixTokens]
      exact tree.prefixTokens_perm_postfixTokens.subset member
    rw [TokenSequence.split, TokenSequence.toList_ofList, List.flatMap_singleton,
      toList_of_denotes_spelling denotes, map_singleton_flatMap_toList prefixSingle]
  digits := by
    intro token member
    have short : token.length = 1 := by
      apply single
      rw [postfixTokens]
      exact ExpressionTree.mem_postfixTokens_of_mem_leaves member
    obtain ⟨character, rfl⟩ := exists_singleton_of_length short
    have number := denotes.isSome_read? _ member
    rw [Domain.readsLiterals_spelling.readsOnlyDigits] at number
    exact ⟨character, number, rfl⟩

/-- The token of a rewriting is denoted by a tree of the postfix notation. -/
theorem exists_tree_of_toPrefix {postfixForm prefixForm : TokenSequence}
    (rewritten : toPrefix postfixForm = .ok prefixForm) :
    ∃ (spelled : String) (tree : ExpressionTree String),
      prefixForm = TokenSequence.ofList [spelled] ∧ postfixForm.toList = tree.postfixTokens ∧
        tree.Denotes Domain.spelling spelled := by
  unfold toPrefix at rewritten
  cases evaluated : Domain.spelling.evaluatePostfix postfixForm with
  | error fault =>
      rw [evaluated] at rewritten
      cases rewritten
  | ok spelled =>
      rw [evaluated] at rewritten
      cases rewritten
      obtain ⟨tree, postfixTokens, denotes⟩ := Domain.exists_tree_of_evaluatePostfix evaluated
      exact ⟨spelled, tree, rfl, postfixTokens, denotes⟩

/-- The token of a rewriting of single characters spells a tree of digits. -/
theorem exists_spellDigits_of_toPrefix {postfixForm prefixForm : TokenSequence}
    (single : ∀ token ∈ postfixForm.toList, token.length = 1)
    (rewritten : toPrefix postfixForm = .ok prefixForm) :
    ∃ spelled tree, prefixForm = TokenSequence.ofList [spelled] ∧
      SpellDigits tree postfixForm prefixForm := by
  obtain ⟨spelled, tree, rfl, postfixTokens, denotes⟩ := exists_tree_of_toPrefix rewritten
  exact ⟨spelled, tree, rfl, exists_spellDigits_of_denotes single postfixTokens denotes⟩

namespace SpellDigits

variable {Value : Type} {domain : Domain Value} {tree : ExpressionTree String}
  {postfixForm prefixForm : TokenSequence}

/-- A domain that reads digits reads the leaves of the tree. -/
theorem isSome_read? (spell : SpellDigits tree postfixForm prefixForm)
    (reads : domain.ReadsDigits) : (tree.read? domain).isSome = true := by
  rw [ExpressionTree.isSome_read?_iff]
  intro token member
  obtain ⟨digit, decimal, rfl⟩ := spell.digits token member
  exact reads digit decimal

/-- A domain that reads digits evaluates both forms from the same tree of numbers. -/
theorem exists_numbers (spell : SpellDigits tree postfixForm prefixForm)
    (separated : domain.SeparatesOperators) (reads : domain.ReadsDigits) :
    ∃ numbers : ExpressionTree Value, numbers.operators = tree.operators ∧
      domain.evaluatePostfix postfixForm = (numbers.value domain).mapError Fault.arithmetic ∧
      domain.evaluatePrefix prefixForm =
        (numbers.valueMet domain .backward).mapError Fault.arithmetic := by
  obtain ⟨numbers, read⟩ := Option.isSome_iff_exists.mp (spell.isSome_read? reads)
  exact ⟨numbers, ExpressionTree.operators_of_read? read,
    Domain.evaluatePostfix_of_tree separated read spell.postfixTokens,
    Domain.evaluatePrefix_of_tree separated read spell.prefixTokens⟩

/-- With total operations both forms have one value. -/
theorem exists_common_value (spell : SpellDigits tree postfixForm prefixForm)
    (separated : domain.SeparatesOperators) (reads : domain.ReadsDigits)
    (total : domain.IsTotal) :
    ∃ value, domain.evaluatePostfix postfixForm = .ok value ∧
      domain.evaluatePrefix prefixForm = .ok value := by
  obtain ⟨numbers, -, onPostfix, onPrefix⟩ := spell.exists_numbers separated reads
  obtain ⟨value, evaluated⟩ := ExpressionTree.exists_value_of_isTotal total numbers
  refine ⟨value, ?_, ?_⟩
  · rw [onPostfix, evaluated]
    rfl
  · rw [onPrefix, (ExpressionTree.valueMet_eq_ok_iff numbers value).mpr evaluated]
    rfl

/-- Both forms have one value, or each of them has an arithmetic fault. -/
theorem common_value_or_faults (spell : SpellDigits tree postfixForm prefixForm)
    (separated : domain.SeparatesOperators) (reads : domain.ReadsDigits) :
    (∃ value, domain.evaluatePostfix postfixForm = .ok value ∧
      domain.evaluatePrefix prefixForm = .ok value) ∨
    ∃ first second, domain.evaluatePostfix postfixForm = .error (.arithmetic first) ∧
      domain.evaluatePrefix prefixForm = .error (.arithmetic second) := by
  obtain ⟨numbers, -, onPostfix, onPrefix⟩ := spell.exists_numbers separated reads
  rw [onPostfix, onPrefix]
  have sameValue (value : Value) :
      numbers.valueMet domain .backward = .ok value ↔ numbers.value domain = .ok value :=
    ExpressionTree.valueMet_eq_ok_iff numbers value
  cases forward : numbers.value domain with
  | ok value =>
      rw [(sameValue value).mpr forward]
      exact .inl ⟨value, rfl, rfl⟩
  | error first =>
      cases backward : numbers.valueMet domain .backward with
      | ok value =>
          rw [(sameValue value).mp backward] at forward
          cases forward
      | error second => exact .inr ⟨first, second, rfl, rfl⟩

/-- Without powers both forms have one exact outcome, faults included. -/
theorem same_exact_outcome (spell : SpellDigits tree postfixForm prefixForm)
    (tame : ∀ token ∈ postfixForm.toList, token ≠ Operator.power.token) :
    Domain.exact.evaluatePostfix postfixForm = Domain.exact.evaluatePrefix prefixForm := by
  obtain ⟨numbers, sameOperators, onPostfix, onPrefix⟩ :=
    spell.exists_numbers Domain.separatesOperators_exact Domain.readsDigits_exact
  have single : ∀ operator ∈ numbers.operators, ∀ left right fault,
      Domain.exact.apply operator left right = .error fault → fault = .divisionByZero := by
    intro operator member left right fault failed
    have notPower : operator ≠ .power := by
      intro same
      rw [sameOperators, same] at member
      have present := ExpressionTree.token_mem_postfixTokens member
      rw [← spell.postfixTokens] at present
      exact tame _ present rfl
    exact Domain.applyRational_eq_error notPower failed
  rw [onPostfix, onPrefix, ExpressionTree.valueMet_backward_eq_value single]

end SpellDigits

/-- The prefix form has the value of its postfix form. -/
theorem toPrefix_keeps_value {postfixForm prefixForm : TokenSequence}
    (single : ∀ token ∈ postfixForm.toList, token.length = 1)
    (rewritten : toPrefix postfixForm = .ok prefixForm) :
    prefixForm.size = 1 ∧
      (∃ value, Domain.floating.evaluatePostfix postfixForm = .ok value ∧
        Domain.floating.evaluatePrefix prefixForm = .ok value) ∧
      (∀ (Value : Type) (number : Decimal.Literal → Value)
          (operation : Operator → Value → Value → Value),
        ∃ value, (Domain.total number operation).evaluatePostfix postfixForm = .ok value ∧
          (Domain.total number operation).evaluatePrefix prefixForm = .ok value) ∧
      (∀ value, Domain.exact.evaluatePostfix postfixForm = .ok value ↔
        Domain.exact.evaluatePrefix prefixForm = .ok value) ∧
      ((∀ value, Domain.exact.evaluatePostfix postfixForm ≠ .ok value) →
        ∃ first second,
          Domain.exact.evaluatePostfix postfixForm = .error (.arithmetic first) ∧
          Domain.exact.evaluatePrefix prefixForm = .error (.arithmetic second)) ∧
      ((∀ token ∈ postfixForm.toList, token ≠ "^") →
        Domain.exact.evaluatePostfix postfixForm = Domain.exact.evaluatePrefix prefixForm) := by
  obtain ⟨spelled, tree, oneToken, spell⟩ := exists_spellDigits_of_toPrefix single rewritten
  have total (Value : Type) (number : Decimal.Literal → Value)
      (operation : Operator → Value → Value → Value) :
      ∃ value, (Domain.total number operation).evaluatePostfix postfixForm = .ok value ∧
        (Domain.total number operation).evaluatePrefix prefixForm = .ok value :=
    spell.exists_common_value (Domain.separatesOperators_total number operation)
      (Domain.readsDigits_total number operation) (Domain.isTotal_total number operation)
  have outcomes := spell.common_value_or_faults Domain.separatesOperators_exact
    Domain.readsDigits_exact
  refine ⟨by rw [oneToken]; rfl, total Float Decimal.Literal.toFloat Domain.applyFloat,
    total, ?_, ?_, fun tame => spell.same_exact_outcome tame⟩
  · intro value
    rcases outcomes with ⟨common, onPostfix, onPrefix⟩ | ⟨first, second, onPostfix, onPrefix⟩
    · rw [onPostfix, onPrefix]
    · rw [onPostfix, onPrefix]
      constructor <;> intro impossible <;> cases impossible
  · intro noValue
    rcases outcomes with ⟨common, onPostfix, -⟩ | faults
    · exact absurd onPostfix (noValue common)
    · exact faults

/-- Here the exact evaluations meet different faults, and doubles still agree. -/
theorem toPrefix_keeps_value_of_two_faults :
    toPrefix (.ofList ["1", "0", "/", "2", "1", "2", "/", "^", "-"]) =
        .ok (.ofList ["-/10^2/12"]) ∧
      Domain.exact.evaluatePostfix
          (.ofList ["1", "0", "/", "2", "1", "2", "/", "^", "-"]) =
        .error (.arithmetic .divisionByZero) ∧
      Domain.exact.evaluatePrefix (.ofList ["-/10^2/12"]) =
        .error (.arithmetic .fractionalExponent) ∧
      ∃ value,
        Domain.floating.evaluatePostfix
            (.ofList ["1", "0", "/", "2", "1", "2", "/", "^", "-"]) = .ok value ∧
          Domain.floating.evaluatePrefix (.ofList ["-/10^2/12"]) = .ok value := by
  have rewritten : toPrefix (.ofList ["1", "0", "/", "2", "1", "2", "/", "^", "-"]) =
      .ok (.ofList ["-/10^2/12"]) := by cbv
  have agreement := toPrefix_keeps_value (by decide) rewritten
  exact ⟨rewritten, by cbv, by cbv, agreement.2.1⟩

end PolishNotation
