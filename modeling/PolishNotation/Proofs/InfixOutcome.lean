import PolishNotation.Proofs.DerivationCoherence
import PolishNotation.Proofs.DigitTree
import PolishNotation.Proofs.FaultPosition

namespace PolishNotation

/-- A zero takes the place of a letter. -/
def Operand.asDigit (operand : Operand) : Operand :=
  if operand.character.isDigit then operand else ⟨'0', by decide⟩

def Symbol.asDigit : Symbol → Symbol
  | .operand value => .operand value.asDigit
  | .operator sign => .operator sign

theorem Operand.isDigit_asDigit (operand : Operand) :
    operand.asDigit.character.isDigit = true := by
  unfold asDigit
  split
  · assumption
  · decide

/-- Symbols without letters stay as they are. -/
theorem map_asDigit {expression : List Symbol}
    (digits : ∀ operand ∈ operands expression, operand.character.isDigit = true) :
    expression.map Symbol.asDigit = expression := by
  induction expression with
  | nil => rfl
  | cons symbol rest inductionHypothesis =>
      cases symbol with
      | operand value =>
          have others := inductionHypothesis fun operand member =>
            digits operand (List.mem_cons_of_mem _ member)
          rw [List.map_cons, others, Symbol.asDigit, Operand.asDigit,
            if_pos (digits value (List.mem_cons_self ..))]
      | operator sign =>
          rw [List.map_cons, inductionHypothesis digits]
          rfl

section Token

variable (operand : Operand) (sign : Operator)

theorem ofToken?_operand : Operator.ofToken? (Symbol.operand operand).token = none := by
  rw [Symbol.token, Operator.ofToken?_singleton]
  exact ofChar?_eq_none_of_isOperand operand.admissible

theorem ofToken?_operator : Operator.ofToken? (Symbol.operator sign).token = some sign :=
  Operator.ofToken?_token sign

theorem isSome_read?_operand :
    (Decimal.Literal.read? (Symbol.operand operand).token).isSome = operand.character.isDigit := by
  rw [Symbol.token, Decimal.Literal.read?_singleton, Symbol.character]
  cases operand.character.isDigit <;> rfl

theorem isSome_read?_operator :
    (Decimal.Literal.read? (Symbol.operator sign).token).isSome = false := by
  apply isSome_read?_of_ofToken?
  rw [ofToken?_operator, Option.isSome_some]

/-- Every letter is strange and no digit is. -/
theorem isStrange_operand_iff :
    IsStrange (Symbol.operand operand).token ↔ operand.character.isDigit = false := by
  rw [IsStrange, isSome_read?_operand, ofToken?_operand]
  simp

/-- A scan stops at every letter and at no digit. -/
theorem stops_operand_iff (met : List String) :
    Stops met (Symbol.operand operand).token ↔ operand.character.isDigit = false := by
  rw [Stops, isStrange_operand_iff, IsShort, ofToken?_operand]
  simp

/-- A scan stops at an operator that comes short. -/
theorem stops_operator_iff (met : List String) :
    Stops met (Symbol.operator sign).token ↔ surplus met < 2 := by
  rw [Stops, IsStrange, IsShort, ofToken?_operator]
  simp

end Token

/-- The first part of an evaluation that succeeds is scanned without a fault. -/
theorem Domain.exists_scan_of_evaluatePostfix {Value : Type} {domain : Domain Value}
    {first second : List String} {value : Value}
    (evaluated : domain.evaluatePostfix (TokenSequence.ofList (first ++ second)) = .ok value) :
    ∃ stack, domain.scan .forward [] first.zipIdx = .ok stack := by
  have scanned := scan_of_run evaluated
  rw [TokenSequence.toList_ofList, List.zipIdx_append, scan_append_eq_ok_iff] at scanned
  obtain ⟨stack, reached, -⟩ := scanned
  exact ⟨stack, reached⟩

namespace ExpressionTree

theorem operands_postorder (tree : ExpressionTree Operand) :
    operands (tree.postorder .operand .operator) = tree.leaves := by
  induction tree with
  | leaf operand => rfl
  | node operator left right leftHypothesis rightHypothesis =>
      simp [postorder, leaves, leftHypothesis, rightHypothesis]

/-- The tokens of a tree of operands. -/
def tokens (tree : ExpressionTree Operand) : ExpressionTree String :=
  tree.map fun operand => String.singleton operand.character

theorem postfixTokens_tokens (tree : ExpressionTree Operand) :
    tree.tokens.postfixTokens = (tree.postorder .operand .operator).map Symbol.token := by
  rw [postfixTokens, tokens, postorder_map, map_postorder]
  rfl

/-- Where every operation has a result, a tree of digits is evaluated. -/
theorem exists_evaluatePostfix_of_digits {Value : Type} {domain : Domain Value}
    (separated : domain.SeparatesOperators) (reads : domain.ReadsDigits)
    (total : domain.IsTotal) {tree : ExpressionTree Operand}
    (digits : ∀ operand ∈ tree.leaves, operand.character.isDigit = true) :
    ∃ value, domain.evaluatePostfix (TokenSequence.ofList
      ((tree.postorder .operand .operator).map Symbol.token)) = .ok value := by
  apply Domain.exists_evaluatePostfix_of_tree separated total
  · rw [TokenSequence.toList_ofList, ← postfixTokens_tokens]
  · intro token member
    rw [tokens, leaves_map] at member
    obtain ⟨operand, leaf, rfl⟩ := List.mem_map.mp member
    exact reads operand.character (digits operand leaf)

/-- A tree with a letter fails at its first letter. -/
theorem evaluatePostfix_of_letter {Value : Type} {domain : Domain Value}
    (reads : domain.ReadsLiterals) (total : domain.IsTotal) {tree : ExpressionTree Operand}
    {front back : List Symbol} {first : Operand}
    (spelled : tree.postorder .operand .operator = front ++ .operand first :: back)
    (digits : ∀ operand ∈ operands front, operand.character.isDigit = true)
    (letter : first.character.isDigit = false) :
    domain.evaluatePostfix (TokenSequence.ofList
        ((tree.postorder .operand .operator).map Symbol.token)) =
      .error (.notNumeric (Symbol.operand first).token front.length) := by
  -- With zeros for its letters the tree is evaluated, so the scan gets as far as the letter.
  have replaced : (tree.map Operand.asDigit).postorder .operand .operator =
      front ++ .operand first.asDigit :: back.map Symbol.asDigit := by
    calc (tree.map Operand.asDigit).postorder Symbol.operand .operator
        = (tree.postorder .operand .operator).map Symbol.asDigit := by
          rw [postorder_map, map_postorder]
          rfl
      _ = front ++ .operand first.asDigit :: back.map Symbol.asDigit := by
          rw [spelled, List.map_append, map_asDigit digits, List.map_cons]
          rfl
  have allDigits : ∀ operand ∈ (tree.map Operand.asDigit).leaves,
      operand.character.isDigit = true := by
    intro operand member
    rw [leaves_map] at member
    obtain ⟨source, -, rfl⟩ := List.mem_map.mp member
    exact source.isDigit_asDigit
  obtain ⟨value, evaluated⟩ :=
    exists_evaluatePostfix_of_digits reads.separatesOperators reads.readsDigits total allDigits
  rw [replaced, List.map_append] at evaluated
  obtain ⟨stack, scanned⟩ := Domain.exists_scan_of_evaluatePostfix evaluated
  rw [spelled, Domain.evaluatePostfix, TokenSequence.toList_ofList, List.map_append,
    List.zipIdx_append, Domain.run, Domain.scan_append, scanned, List.map_cons,
    List.zipIdx_cons, List.length_map, Nat.zero_add]
  simp only [Domain.scan, Domain.step_of_strange reads _ ((isStrange_operand_iff first).mpr letter)]

end ExpressionTree

/-- Of two faults in exact arithmetic that of the postfix form shows. -/
theorem SpellDigits.evaluateExact_eq {tree : ExpressionTree String}
    {postfixForm prefixForm : TokenSequence} (spell : SpellDigits tree postfixForm prefixForm) :
    evaluateExact postfixForm prefixForm =
      (Domain.exact.evaluatePostfix postfixForm).map fun value => ⟨value, value⟩ := by
  unfold evaluateExact
  rcases spell.common_value_or_faults Domain.separatesOperators_exact Domain.readsDigits_exact with
    ⟨value, onPostfix, onPrefix⟩ | ⟨first, second, onPostfix, onPrefix⟩
  · rw [onPostfix, onPrefix]
    rfl
  · rw [onPostfix]
    rfl

/-- This is what a derivation holds of an exact value that both forms share. -/
def exactOutcome (value : Except ArithmeticFault Rat) : Except Fault ExactValues :=
  (value.mapError Fault.arithmetic).map fun value => ⟨value, value⟩

theorem exactOutcome_eq_error_iff {value : Except ArithmeticFault Rat} {fault : ArithmeticFault} :
    exactOutcome value = .error (.arithmetic fault) ↔ value = .error fault := by
  cases value <;> simp [exactOutcome, Except.mapError, Except.map]

theorem exists_exactOutcome_iff {value : Except ArithmeticFault Rat} :
    (∃ values, exactOutcome value = .ok values) ↔ ∃ result, value = .ok result := by
  cases value <;> simp [exactOutcome, Except.mapError, Except.map]

/-- Among the digits only the zero stands for zero. -/
theorem digitValue_eq_zero_iff {digit : Char} (decimal : digit.isDigit = true) :
    Decimal.digitValue digit = 0 ↔ digit = '0' := by
  have lower : '0'.toNat ≤ digit.toNat := by
    simp only [Char.isDigit, Bool.and_eq_true, decide_eq_true_eq] at decimal
    exact decimal.1
  rw [Decimal.digitValue, ← Char.toNat_inj]
  omega

section Chain

variable {text : String} {chain : Chain Operand}

/-- A well-formed text is converted to the postorder of its disciplined tree. -/
theorem toPostfix_eq_postorder (rules : Rules) (wellFormed : symbols text = chain.symbols) :
    toPostfix rules text = TokenSequence.ofList
      (((ExpressionTree.ofChain rules chain).postorder .operand .operator).map Symbol.token) := by
  rw [toPostfix, wellFormed, ← ExpressionTree.symbols_ofChain rules chain,
    (ExpressionTree.disciplined_ofChain rules chain).postfixOrder_symbols]

theorem leaves_ofChain (rules : Rules) (chain : Chain Operand) :
    (ExpressionTree.ofChain rules chain).leaves = chain.items := by
  rw [← ExpressionTree.items_chain, ExpressionTree.chain_ofChain]

theorem trim_ne_empty_of_chain (wellFormed : symbols text = chain.symbols) :
    Text.trim text ≠ "" := by
  apply trim_ne_empty
  rw [wellFormed]
  simp [Chain.symbols, Chain.spell]

/-- The exact value of the disciplined tree of a chain of digits. -/
def Chain.exactValue (rules : Rules) (chain : Chain Operand) : Except ArithmeticFault Rat :=
  (ExpressionTree.ofChain rules chain).exactValue fun digit =>
    Decimal.digitValue digit.character

/-- An exact value is there or misses for one of two faults. -/
theorem Chain.exactValue_cases (rules : Rules) (chain : Chain Operand) :
    (∃ value, chain.exactValue rules = .ok value) ∨
      chain.exactValue rules = .error .divisionByZero ∨
      (chain.exactValue rules = .error .exponentTooLarge ∧ .power ∈ chain.links) := by
  cases computed : chain.exactValue rules with
  | ok value => exact .inl ⟨value, rfl⟩
  | error fault =>
      have cause := ExpressionTree.exactValue_fault
        (ExpressionTree.disciplined_ofChain rules chain) computed
      rw [ExpressionTree.chain_ofChain] at cause
      rcases cause with rfl | ⟨rfl, power⟩
      · exact .inr (.inl rfl)
      · exact .inr (.inr ⟨rfl, power⟩)

/-- Without powers the exact value misses exactly if a zero follows a quotient. -/
theorem Chain.exists_exactValue_iff (rules : Rules)
    (digits : ∀ operand ∈ chain.items, operand.character.isDigit = true)
    (tame : .power ∉ chain.links) :
    (∃ value, chain.exactValue rules = .ok value) ↔
      ¬∃ link ∈ chain.rest, link.1 = .divide ∧ link.2.character = '0' := by
  have linksTame : Operator.power ∉ (ExpressionTree.ofChain rules chain).chain.links := by
    rwa [ExpressionTree.chain_ofChain]
  rw [Chain.exactValue, ExpressionTree.exists_exactValue_iff
    (ExpressionTree.disciplined_ofChain rules chain) linksTame, ExpressionTree.chain_ofChain]
  push Not
  refine forall₂_congr fun link member => imp_congr_right fun divides => ?_
  have digit : link.2.character.isDigit = true :=
    digits link.2 (List.mem_cons_of_mem _ (List.mem_map_of_mem member))
  exact (digitValue_eq_zero_iff digit).not

/-- Without powers no other fault occurs. -/
theorem Chain.exactValue_eq_divisionByZero_iff (rules : Rules)
    (digits : ∀ operand ∈ chain.items, operand.character.isDigit = true)
    (tame : .power ∉ chain.links) :
    chain.exactValue rules = .error .divisionByZero ↔
      ∃ link ∈ chain.rest, link.1 = .divide ∧ link.2.character = '0' := by
  rw [← not_iff_not, ← Chain.exists_exactValue_iff rules digits tame]
  constructor
  · intro other
    rcases Chain.exactValue_cases rules chain with found | zero | ⟨-, power⟩
    · exact found
    · exact absurd zero other
    · exact absurd power tame
  · rintro ⟨value, found⟩ zero
    rw [found] at zero
    cases zero

/-- The exact evaluation of a chain of digits is that of its disciplined tree. -/
theorem evaluatePostfix_exact_of_digits (rules : Rules) (wellFormed : symbols text = chain.symbols)
    (digits : ∀ operand ∈ chain.items, operand.character.isDigit = true) :
    Domain.exact.evaluatePostfix (toPostfix rules text) =
      (chain.exactValue rules).mapError Fault.arithmetic := by
  rw [← leaves_ofChain rules chain] at digits
  have readable : (ExpressionTree.ofChain rules chain).tokens.read? Domain.exact =
      some ((ExpressionTree.ofChain rules chain).map fun digit =>
        (Decimal.digitValue digit.character : Rat)) :=
    ExpressionTree.read?_map fun operand leaf => Domain.read?_exact_digit (digits operand leaf)
  have spelled : (toPostfix rules text).toList =
      (ExpressionTree.ofChain rules chain).tokens.postfixTokens := by
    rw [toPostfix_eq_postorder rules wellFormed, TokenSequence.toList_ofList,
      ExpressionTree.postfixTokens_tokens]
  exact Domain.evaluatePostfix_of_tree Domain.separatesOperators_exact readable spelled

/-- A chain of digits is derived with the exact outcome of its tree. -/
theorem exists_derivation_of_digits (options : Options)
    (wellFormed : symbols text = chain.symbols)
    (digits : ∀ operand ∈ chain.items, operand.character.isDigit = true) :
    ∃ derivation, derive options text = .ok derivation ∧
      (options.exact = true →
        derivation.exactValues = some (exactOutcome (chain.exactValue options.rules))) := by
  have trimmed : toPostfix options.rules (Text.trim text) = toPostfix options.rules text :=
    toPostfix_trim options.rules text
  obtain ⟨value, evaluated⟩ : ∃ value,
      Domain.floating.evaluatePostfix (toPostfix options.rules (Text.trim text)) = .ok value := by
    rw [trimmed, toPostfix_eq_postorder options.rules wellFormed, Domain.floating_eq_total]
    apply ExpressionTree.exists_evaluatePostfix_of_digits
      (Domain.separatesOperators_total _ _) (Domain.readsDigits_total _ _)
      (Domain.isTotal_total _ _)
    rwa [leaves_ofChain]
  obtain ⟨prefixText, tree, spell, -, -, derived⟩ :=
    derive_of_value options (trim_ne_empty_of_chain wellFormed) evaluated
  refine ⟨_, derived, fun asked => ?_⟩
  rw [if_pos asked, spell.evaluateExact_eq, trimmed,
    evaluatePostfix_exact_of_digits options.rules wellFormed digits, exactOutcome]

/-- A chain with a letter fails at its first letter. -/
theorem derive_of_letter (options : Options) (wellFormed : symbols text = chain.symbols)
    (letter : ∃ operand ∈ chain.items, operand.character.isDigit = false) :
    ∃ before first after front back,
      chain.items = before ++ first :: after ∧
        (∀ earlier ∈ before, earlier.character.isDigit = true) ∧
        first.character.isDigit = false ∧
        (toPostfix options.rules text).toList =
          (front ++ .operand first :: back).map Symbol.token ∧
        operands front = before ∧
        derive options text =
          .error (.notNumeric (String.singleton first.character) front.length) := by
  obtain ⟨tree, leaves, converted⟩ : ∃ tree : ExpressionTree Operand,
      tree.leaves = chain.items ∧ toPostfix options.rules text = TokenSequence.ofList
        ((tree.postorder .operand .operator).map Symbol.token) :=
    ⟨_, leaves_ofChain options.rules chain, toPostfix_eq_postorder options.rules wellFormed⟩
  have ordered : operands (tree.postorder .operand .operator) = chain.items := by
    rw [ExpressionTree.operands_postorder, leaves]
  have present : ∃ symbol ∈ tree.postorder Symbol.operand .operator,
      ∃ operand, symbol = .operand operand ∧ operand.character.isDigit = false := by
    obtain ⟨operand, member, notDigit⟩ := letter
    rw [← ordered, mem_operands] at member
    exact ⟨_, member, operand, rfl, notDigit⟩
  obtain ⟨front, symbol, back, spelled, ⟨first, rfl, notDigit⟩, none⟩ := exists_first present
  have digits : ∀ operand ∈ operands front, operand.character.isDigit = true := by
    intro operand member
    by_contra other
    rw [Bool.not_eq_true] at other
    exact none _ (mem_operands.mp member) ⟨operand, rfl, other⟩
  refine ⟨operands front, first, operands back, front, back, ?_, digits, notDigit, ?_, rfl, ?_⟩
  · rw [← ordered, spelled, operands_append, operands_cons_operand]
  · rw [converted, TokenSequence.toList_ofList, spelled]
  · apply derive_of_fault
    rw [toPostfix_trim, converted, Domain.floating_eq_total]
    exact ExpressionTree.evaluatePostfix_of_letter (Domain.readsLiterals_total _ _)
      (Domain.isTotal_total _ _) spelled digits notDigit

end Chain

/-- Well-formed digits are derived, and other well-formed texts fail at a letter. -/
theorem derive_of_well_formed (options : Options) {text : String} {chain : Chain Operand}
    (wellFormed : symbols text = chain.symbols) :
    ((∀ operand ∈ chain.items, operand.character.isDigit = true) →
      ∃ derivation, derive options text = .ok derivation ∧
        (options.exact = true → ∃ outcome, derivation.exactValues = some outcome ∧
          ((∃ values, outcome = .ok values) ∨
            outcome = .error (.arithmetic .divisionByZero) ∨
            outcome = .error (.arithmetic .exponentTooLarge)) ∧
          (.power ∉ chain.links →
            (outcome = .error (.arithmetic .divisionByZero) ↔
              ∃ link ∈ chain.rest, link.1 = .divide ∧ link.2.character = '0') ∧
            ((∃ values, outcome = .ok values) ↔
              ¬∃ link ∈ chain.rest, link.1 = .divide ∧ link.2.character = '0')))) ∧
      ((∃ operand ∈ chain.items, operand.character.isDigit = false) →
        ∃ before first after front back,
          chain.items = before ++ first :: after ∧
            (∀ earlier ∈ before, earlier.character.isDigit = true) ∧
            first.character.isDigit = false ∧
            (toPostfix options.rules text).toList =
              (front ++ .operand first :: back).map Symbol.token ∧
            operands front = before ∧
            derive options text =
              .error (.notNumeric (String.singleton first.character) front.length)) := by
  refine ⟨fun digits => ?_, derive_of_letter options wellFormed⟩
  obtain ⟨derivation, derived, exactly⟩ := exists_derivation_of_digits options wellFormed digits
  refine ⟨derivation, derived, fun asked => ⟨_, exactly asked, ?_, fun tame => ?_⟩⟩
  · simp only [exists_exactOutcome_iff, exactOutcome_eq_error_iff]
    exact (Chain.exactValue_cases options.rules chain).imp_right (Or.imp_right And.left)
  · simp only [exists_exactOutcome_iff, exactOutcome_eq_error_iff]
    exact ⟨Chain.exactValue_eq_divisionByZero_iff options.rules digits tame,
      Chain.exists_exactValue_iff options.rules digits tame⟩

/-- A division by zero is a fault of the exact values only. -/
theorem derive_of_well_formed_of_zero_and_letter :
    (∃ derivation, derive ⟨.standard, true⟩ " (7 - 2/0) * 3" = .ok derivation ∧
      derivation.exactValues = some (.error (.arithmetic .divisionByZero))) ∧
      derive ⟨⟨true⟩, true⟩ "1*2 + x^3" = .error (.notNumeric "x" 3) := by
  constructor
  · have wellFormed : symbols " (7 - 2/0) * 3" = Chain.symbols ⟨⟨'7', by decide⟩,
        [(.minus, ⟨'2', by decide⟩), (.divide, ⟨'0', by decide⟩), (.times, ⟨'3', by decide⟩)]⟩ := by
      cbv
    obtain ⟨derivation, derived, exactly⟩ :=
      (derive_of_well_formed ⟨.standard, true⟩ wellFormed).1 (by decide)
    obtain ⟨outcome, held, -, tame⟩ := exactly rfl
    refine ⟨derivation, derived, ?_⟩
    rw [held, (tame (by decide)).1.mpr (by decide)]
  · have wellFormed : symbols "1*2 + x^3" = Chain.symbols ⟨⟨'1', by decide⟩,
        [(.times, ⟨'2', by decide⟩), (.plus, ⟨'x', by decide +kernel⟩),
          (.power, ⟨'3', by decide⟩)]⟩ := by
      cbv
    have tokens : (toPostfix ⟨true⟩ "1*2 + x^3").toList =
        ["1", "2", "*", "x", "3", "^", "+"] := by
      rw [toList_toPostfix, wellFormed]
      decide +kernel
    obtain ⟨before, first, after, front, back, items, -, letter, spelled, -, failed⟩ :=
      (derive_of_well_formed ⟨⟨true⟩, true⟩ wellFormed).2
        ⟨⟨'x', by decide +kernel⟩, by simp [Chain.items], by decide⟩
    have onlyLetter : first.character = 'x' := by
      have others : ∀ operand ∈ Chain.items ⟨⟨'1', by decide⟩,
          [(.times, ⟨'2', by decide⟩), (.plus, ⟨'x', by decide +kernel⟩),
            (.power, (⟨'3', by decide⟩ : Operand))]⟩,
          operand.character.isDigit = false → operand.character = 'x' := by decide
      exact others first (by rw [items]; simp) letter
    have place : front.length = 3 := by
      have here : ["1", "2", "*", "x", "3", "^", "+"][front.length]? = some "x" := by
        rw [← tokens, spelled, List.getElem?_map, List.getElem?_append_right (Nat.le_refl _),
          Nat.sub_self]
        simp only [List.getElem?_cons_zero, Option.map_some, Symbol.token, Symbol.character,
          onlyLetter]
        rfl
      have inside := (List.getElem?_eq_some_iff.mp here).1
      have only : ∀ position < 7,
          ["1", "2", "*", "x", "3", "^", "+"][position]? = some "x" → position = 3 := by decide
      exact only front.length inside here
    rw [failed, onlyLetter, place]
    rfl

end PolishNotation
