import PolishNotation.Proofs.Chain
import PolishNotation.Proofs.TreeScan

namespace PolishNotation

namespace Chain

variable {Value : Type}

/-- A factor is folded from the side to which powers associate. -/
def factorValue (domain : Domain Value) (rules : Rules) (number : Operand → Value)
    (factor : Chain Operand) : Except ArithmeticFault Value :=
  if rules.rightAssociativePower then
    factor.foldRight domain.apply fun operand => .ok (number operand)
  else
    factor.foldLeft domain.apply fun operand => .ok (number operand)

/-- A term is cut at its products and quotients into factors. -/
def termValue (domain : Domain Value) (rules : Rules) (number : Operand → Value)
    (term : Chain Operand) : Except ArithmeticFault Value :=
  (term.cut Operator.isMultiplicative).foldLeft domain.apply (factorValue domain rules number)

/-- An expression is cut at its sums and differences into terms. -/
def value (domain : Domain Value) (rules : Rules) (number : Operand → Value)
    (expression : Chain Operand) : Except ArithmeticFault Value :=
  (expression.cut Operator.isAdditive).foldLeft domain.apply (termValue domain rules number)

end Chain

variable {Value : Type} {domain : Domain Value} {rules : Rules}

/-- The postfix order of the expression leaves the outcome on every stack. -/
def EvaluatesTo (domain : Domain Value) (rules : Rules) (expression : List Symbol)
    (outcome : Except ArithmeticFault Value) : Prop :=
  ∀ placed : List (String × Nat),
    placed.map Prod.fst = (postfixOrder rules expression).map Symbol.token →
      domain.Leaves .forward placed outcome

theorem EvaluatesTo.operand {operand : Operand} {number : Value}
    (read : domain.read? (Symbol.operand operand).token = some number) :
    EvaluatesTo domain rules [.operand operand] (.ok number) := by
  intro placed spelled
  rw [postfixOrder_of_signs_eq_nil rules rfl] at spelled
  obtain ⟨⟨token, position⟩, rfl, rfl⟩ := List.map_eq_singleton_iff.mp spelled
  exact Domain.Leaves.number read position

/-- An operator that splits an expression is applied to both sides. -/
theorem EvaluatesTo.split {before after : List Symbol} {sign : Operator}
    {left right : Except ArithmeticFault Value} (separated : domain.SeparatesOperators)
    (onLeft : EvaluatesTo domain rules before left)
    (onRight : EvaluatesTo domain rules after right)
    (leaving : ∀ earlier ∈ signs before, rules.yields sign earlier = true)
    (staying : ∀ later ∈ signs after, rules.yields later sign = false) :
    EvaluatesTo domain rules (before ++ .operator sign :: after)
      (do
        let leftValue ← left
        let rightValue ← right
        domain.apply sign leftValue rightValue) := by
  intro placed spelled
  rw [postfixOrder_split leaving staying, List.map_append, List.map_append] at spelled
  exact Domain.Leaves.operation_of_tokens separated onLeft onRight spelled

/-- Items at a level that associates to the left are folded from the left. -/
theorem EvaluatesTo.foldLeft {Item : Type} {level : Nat} {ofItem : Item → List Symbol}
    {value : Item → Except ArithmeticFault Value} {chain : Chain Item}
    (separated : domain.SeparatesOperators)
    (associates : ¬(rules.rightAssociativePower = true ∧ level = 3))
    (joined : ∀ sign ∈ chain.links, sign.precedence = level)
    (stronger : ∀ item ∈ chain.items, ∀ sign ∈ signs (ofItem item), level < sign.precedence)
    (evaluated : ∀ item ∈ chain.items, EvaluatesTo domain rules (ofItem item) (value item)) :
    EvaluatesTo domain rules (chain.spell ofItem) (chain.foldLeft domain.apply value) := by
  obtain ⟨first, rest⟩ := chain
  -- The last link is the root, so the chain is taken apart from its end.
  induction rest using List.reverseRecOn with
  | nil =>
      have alone := evaluated first (List.mem_cons_self ..)
      simpa [Chain.spell, Chain.foldLeft] using alone
  | append_singleton rest link inductionHypothesis =>
      obtain ⟨sign, last⟩ := link
      have earlierLink {other : Operator} (member : other ∈ Chain.links ⟨first, rest⟩) :
          other ∈ Chain.links ⟨first, rest ++ [(sign, last)]⟩ := by
        simp only [Chain.links, List.map_append, List.mem_append] at member ⊢
        exact .inl member
      have earlierItem {item : Item} (member : item ∈ Chain.items ⟨first, rest⟩) :
          item ∈ Chain.items ⟨first, rest ++ [(sign, last)]⟩ := by
        simp only [Chain.items, List.map_append, List.mem_cons, List.mem_append] at member ⊢
        exact member.imp_right .inl
      have lastItem : last ∈ Chain.items ⟨first, rest ++ [(sign, last)]⟩ := by
        simp [Chain.items]
      have atLevel : sign.precedence = level := joined sign (by simp [Chain.links])
      rw [Chain.spell_append, Chain.foldLeft_append]
      apply EvaluatesTo.split separated
      · exact inductionHypothesis (fun other member => joined other (earlierLink member))
          (fun item member => stronger item (earlierItem member))
          (fun item member => evaluated item (earlierItem member))
      · exact evaluated last lastItem
      · intro earlier member
        rw [yields_eq_true_iff, atLevel]
        refine ⟨?_, associates⟩
        rcases Chain.mem_signs_spell.mp member with isLink | ⟨item, inChain, within⟩
        · exact (joined earlier (earlierLink isLink)).ge
        · exact (stronger item (earlierItem inChain) earlier within).le
      · intro later member
        have above := stronger last lastItem later member
        rw [Bool.eq_false_iff, Ne, yields_eq_true_iff, atLevel]
        omega

/-- A chain is evaluated part by part if its parts hold stronger operators. -/
theorem EvaluatesTo.cut {separates : Operator → Bool} {level : Nat} {chain : Chain Operand}
    {value : Chain Operand → Except ArithmeticFault Value}
    (separated : domain.SeparatesOperators) (associates : level < 3)
    (joined : ∀ {sign : Operator}, separates sign = true → sign.precedence = level)
    (stronger : ∀ part ∈ (chain.cut separates).items, ∀ sign ∈ part.links,
      level < sign.precedence)
    (evaluated : ∀ part ∈ (chain.cut separates).items,
      EvaluatesTo domain rules part.symbols (value part)) :
    EvaluatesTo domain rules chain.symbols
      ((chain.cut separates).foldLeft domain.apply value) := by
  rw [Chain.symbols, ← Chain.spell_cut _ separates]
  apply EvaluatesTo.foldLeft separated (fun both => associates.ne both.2)
  · intro sign member
    exact joined (Chain.separates_of_mem_links_cut member)
  · intro part inside sign member
    rw [← Chain.symbols, Chain.signs_symbols] at member
    exact stronger part inside sign member
  · exact evaluated

/-- Powers that associate to the right are folded from the right. -/
theorem EvaluatesTo.foldRight {number : Operand → Value} {factor : Chain Operand}
    (separated : domain.SeparatesOperators) (right : rules.rightAssociativePower = true)
    (powers : ∀ sign ∈ factor.links, sign.precedence = 3)
    (reads : ∀ operand ∈ factor.items,
      domain.read? (Symbol.operand operand).token = some (number operand)) :
    EvaluatesTo domain rules factor.symbols
      (factor.foldRight domain.apply fun operand => .ok (number operand)) := by
  obtain ⟨first, rest⟩ := factor
  have alone : EvaluatesTo domain rules [.operand first] (.ok (number first)) :=
    EvaluatesTo.operand (reads first (List.mem_cons_self ..))
  induction rest generalizing first with
  | nil => exact alone
  | cons link rest inductionHypothesis =>
      obtain ⟨sign, next⟩ := link
      have inner := inductionHypothesis next
        (fun other member => powers other (List.mem_cons_of_mem _ member))
        (fun operand member => reads operand (List.mem_cons_of_mem _ member))
        (EvaluatesTo.operand (reads next (by simp [Chain.items])))
      rw [Chain.symbols, Chain.spell_cons]
      apply EvaluatesTo.split separated alone inner
      · intro earlier member
        cases member
      · intro later member
        have strongest : later.precedence = 3 := by
          apply powers
          rw [Chain.signs_symbols] at member
          exact List.mem_cons_of_mem _ member
        rw [Bool.eq_false_iff, Ne, yields_eq_true_iff]
        exact fun below => below.2 ⟨right, strongest⟩

section Levels

variable {number : Operand → Value} {chain : Chain Operand}

theorem evaluatesTo_factorValue (separated : domain.SeparatesOperators)
    (powers : ∀ sign ∈ chain.links, sign.precedence = 3)
    (reads : ∀ operand ∈ chain.items,
      domain.read? (Symbol.operand operand).token = some (number operand)) :
    EvaluatesTo domain rules chain.symbols (chain.factorValue domain rules number) := by
  unfold Chain.factorValue
  split
  · rename_i right
    exact EvaluatesTo.foldRight separated right powers reads
  · rename_i left
    apply EvaluatesTo.foldLeft separated (fun both => left both.1) powers
    · intro operand _ sign member
      cases member
    · intro operand member
      exact EvaluatesTo.operand (reads operand member)

theorem evaluatesTo_termValue (separated : domain.SeparatesOperators)
    (noSums : ∀ sign ∈ chain.links, sign.isAdditive = false)
    (reads : ∀ operand ∈ chain.items,
      domain.read? (Symbol.operand operand).token = some (number operand)) :
    EvaluatesTo domain rules chain.symbols (chain.termValue domain rules number) := by
  have powers {factor : Chain Operand}
      (part : factor ∈ (chain.cut Operator.isMultiplicative).items) :
      ∀ sign ∈ factor.links, sign.precedence = 3 := by
    intro sign member
    obtain ⟨inChain, notMultiplicative⟩ := (Chain.of_mem_items_cut part).1 sign member
    exact Operator.precedence_eq_three (noSums sign inChain) notMultiplicative
  apply EvaluatesTo.cut separated (by decide) Operator.precedence_of_isMultiplicative
  · intro factor part sign member
    rw [powers part sign member]
    decide
  · intro factor part
    apply evaluatesTo_factorValue separated (powers part)
    intro operand member
    exact reads operand ((Chain.of_mem_items_cut part).2 operand member)

theorem evaluatesTo_value (separated : domain.SeparatesOperators)
    (reads : ∀ operand ∈ chain.items,
      domain.read? (Symbol.operand operand).token = some (number operand)) :
    EvaluatesTo domain rules chain.symbols (chain.value domain rules number) := by
  have noSums {term : Chain Operand} (part : term ∈ (chain.cut Operator.isAdditive).items)
      (sign : Operator) (member : sign ∈ term.links) : sign.isAdditive = false :=
    ((Chain.of_mem_items_cut part).1 sign member).2
  apply EvaluatesTo.cut separated (by decide) Operator.precedence_of_isAdditive
  · intro term part sign member
    exact Operator.two_le_precedence (noSums part sign member)
  · intro term part
    apply evaluatesTo_termValue separated (noSums part)
    intro operand member
    exact reads operand ((Chain.of_mem_items_cut part).2 operand member)

end Levels

/-- In a domain that reads all operands the machine computes the value by levels. -/
theorem evaluatePostfix_toPostfix (separated : domain.SeparatesOperators) {text : String}
    {chain : Chain Operand} {number : Operand → Value} (spelled : symbols text = chain.symbols)
    (reads : ∀ operand ∈ chain.items,
      domain.read? (String.singleton operand.character) = some (number operand)) :
    domain.evaluatePostfix (toPostfix rules text) =
      (chain.value domain rules number).mapError Fault.arithmetic := by
  apply Domain.Leaves.run
  apply evaluatesTo_value separated reads
  rw [List.zipIdx_map_fst, toList_toPostfix, spelled]

/-- An infix expression of digits has its value by levels in every domain. -/
theorem evaluatePostfix_toPostfix_by_levels (rules : Rules) {text : String}
    {chain : Chain Operand} (spelled : symbols text = chain.symbols)
    (digits : ∀ operand ∈ chain.items, operand.character.isDigit = true) :
    (Domain.floating.evaluatePostfix (toPostfix rules text) =
      (chain.value Domain.floating rules fun digit =>
        Decimal.Literal.toFloat
          (.finite false (Decimal.digitValue digit.character) 0)).mapError Fault.arithmetic) ∧
      (∀ (Value : Type) (number : Decimal.Literal → Value)
          (operation : Operator → Value → Value → Value),
        (Domain.total number operation).evaluatePostfix (toPostfix rules text) =
          (chain.value (Domain.total number operation) rules fun digit =>
            number (.finite false (Decimal.digitValue digit.character) 0)).mapError
              Fault.arithmetic) ∧
      Domain.exact.evaluatePostfix (toPostfix rules text) =
        (chain.value Domain.exact rules fun digit =>
          (Decimal.digitValue digit.character : Rat)).mapError Fault.arithmetic := by
  have total (Value : Type) (number : Decimal.Literal → Value)
      (operation : Operator → Value → Value → Value) :
      (Domain.total number operation).evaluatePostfix (toPostfix rules text) =
        (chain.value (Domain.total number operation) rules fun digit =>
          number (.finite false (Decimal.digitValue digit.character) 0)).mapError
            Fault.arithmetic :=
    evaluatePostfix_toPostfix (Domain.separatesOperators_total number operation) spelled
      fun operand member => Domain.read?_total_digit number operation (digits operand member)
  refine ⟨total Float Decimal.Literal.toFloat Domain.applyFloat, total, ?_⟩
  exact evaluatePostfix_toPostfix Domain.separatesOperators_exact spelled
    fun operand member => Domain.read?_exact_digit (digits operand member)

/-- The product comes before the sum, and the rules decide about powers. -/
theorem evaluatePostfix_toPostfix_by_levels_of_quotients :
    Domain.exact.evaluatePostfix (toPostfix .standard "1 + 2*3") = .ok 7 ∧
      Domain.exact.evaluatePostfix (toPostfix .standard "(2^3^2 / 8) - 9") = .ok (-1) ∧
      Domain.exact.evaluatePostfix (toPostfix ⟨true⟩ "(2^3^2 / 8) - 9") = .ok 55 ∧
      Domain.exact.evaluatePostfix (toPostfix ⟨true⟩ "(1 + 2^3^2 / 0) - 4") =
        .error (.arithmetic .divisionByZero) := by
  have product : symbols "1 + 2*3" = Chain.symbols
      ⟨⟨'1', by decide⟩, [(.plus, ⟨'2', by decide⟩), (.times, ⟨'3', by decide⟩)]⟩ := rfl
  have powers : symbols "(2^3^2 / 8) - 9" = Chain.symbols
      ⟨⟨'2', by decide⟩, [(.power, ⟨'3', by decide⟩), (.power, ⟨'2', by decide⟩),
        (.divide, ⟨'8', by decide⟩), (.minus, ⟨'9', by decide⟩)]⟩ := rfl
  have byZero : symbols "(1 + 2^3^2 / 0) - 4" = Chain.symbols
      ⟨⟨'1', by decide⟩, [(.plus, ⟨'2', by decide⟩), (.power, ⟨'3', by decide⟩),
        (.power, ⟨'2', by decide⟩), (.divide, ⟨'0', by decide⟩), (.minus, ⟨'4', by decide⟩)]⟩ := rfl
  rw [(evaluatePostfix_toPostfix_by_levels .standard product (by decide)).2.2,
    (evaluatePostfix_toPostfix_by_levels .standard powers (by decide)).2.2,
    (evaluatePostfix_toPostfix_by_levels ⟨true⟩ powers (by decide)).2.2,
    (evaluatePostfix_toPostfix_by_levels ⟨true⟩ byZero (by decide)).2.2]
  refine ⟨?_, ?_, ?_, ?_⟩ <;> decide +kernel

end PolishNotation
