import PolishNotation.Proofs.InfixOutcome
import PolishNotation.Proofs.NoiseInvariance
import PolishNotation.Proofs.PendingOperators

namespace PolishNotation

/-- An expression without letters. -/
def OnlyDigits (expression : List Symbol) : Prop :=
  ∀ operand ∈ operands expression, operand.character.isDigit = true

theorem onlyDigits_append {first second : List Symbol} :
    OnlyDigits (first ++ second) ↔ OnlyDigits first ∧ OnlyDigits second := by
  simp only [OnlyDigits, operands_append, List.mem_append, or_imp, forall_and]

/-- No symbol stops an evaluation in this order. -/
def Runs (order : List Symbol) : Prop :=
  Domain.Sound (order.map Symbol.token).zipIdx

section Runs

variable {order : List Symbol}

theorem runs_nil : Runs [] := by
  intro before token position after impossible
  simp at impossible

theorem runs_concat_iff (symbol : Symbol) :
    Runs (order ++ [symbol]) ↔ Runs order ∧ ¬Stops (order.map Symbol.token) symbol.token := by
  rw [Runs, List.map_append, List.map_singleton, List.zipIdx_append, List.zipIdx_singleton,
    Domain.sound_concat_iff, List.zipIdx_map_fst]
  rfl

theorem Runs.onlyDigits (runs : Runs order) : OnlyDigits order := by
  induction order using List.reverseRecOn with
  | nil => simp [OnlyDigits]
  | append_singleton order symbol inductionHypothesis =>
      obtain ⟨runs, admitted⟩ := (runs_concat_iff symbol).mp runs
      refine onlyDigits_append.mpr ⟨inductionHypothesis runs, ?_⟩
      cases symbol with
      | operand operand =>
          rw [stops_operand_iff, Bool.not_eq_false] at admitted
          simpa [OnlyDigits] using admitted
      | operator sign => simp [OnlyDigits]

theorem surplus_map_token (digits : OnlyDigits order) :
    surplus (order.map Symbol.token) = (operands order).length - (signs order).length := by
  induction order using List.reverseRecOn with
  | nil => rfl
  | append_singleton order symbol inductionHypothesis =>
      obtain ⟨before, last⟩ := onlyDigits_append.mp digits
      rw [List.map_append, List.map_singleton, surplus_concat, inductionHypothesis before,
        operands_append, signs_append]
      cases symbol with
      | operand operand =>
          have decimal : operand.character.isDigit = true := last operand (by simp)
          rw [isSome_read?_operand, decimal, ofToken?_operand]
          simp
          omega
      | operator sign =>
          rw [isSome_read?_operator, ofToken?_operator]
          simp
          omega

/-- After an operator more operands than operators have been met. -/
theorem Runs.length_signs_lt (runs : Runs order) (someSign : 0 < (signs order).length) :
    (signs order).length < (operands order).length := by
  obtain ⟨stack, -, height, nonempty⟩ := Domain.scan_of_sound .forward
    Domain.readsLiterals_spelling Domain.isTotal_spelling runs
  have positive : 0 < stack.length := by
    apply nonempty
    rintro empty
    rw [List.zipIdx_eq_nil_iff, List.map_eq_nil_iff] at empty
    rw [empty] at someSign
    exact absurd someSign (Nat.lt_irrefl 0)
  rw [List.zipIdx_map_fst, surplus_map_token runs.onlyDigits] at height
  omega

theorem runs_concat_operand {operand : Operand} (decimal : operand.character.isDigit = true) :
    Runs (order ++ [.operand operand]) ↔ Runs order := by
  rw [runs_concat_iff, stops_operand_iff, decimal]
  simp

theorem runs_concat_operator (sign : Operator) :
    Runs (order ++ [.operator sign]) ↔
      Runs order ∧ (signs order).length + 1 < (operands order).length := by
  rw [runs_concat_iff]
  refine and_congr_right fun runs => ?_
  rw [stops_operator_iff, surplus_map_token runs.onlyDigits]
  omega

/-- Operators in a row need more operands than there are operators by then. -/
theorem runs_append_operators (leaving : List Operator) :
    Runs (order ++ leaving.map .operator) ↔
      Runs order ∧
        (0 < leaving.length →
          (signs order).length + leaving.length < (operands order).length) := by
  induction leaving generalizing order with
  | nil => simp
  | cons sign rest inductionHypothesis =>
      rw [List.map_cons, ← List.singleton_append, ← List.append_assoc, inductionHypothesis,
        runs_concat_operator, and_assoc]
      refine and_congr_right fun runs => ?_
      rw [signs_append, operands_append, List.length_append, List.length_append,
        signs_cons_operator, operands_cons_operator, List.length_cons, List.length_cons]
      simp only [signs_nil, operands_nil, List.length_nil]
      omega

end Runs

/-- Fewer operators are overtaken so far than operands stand before the operator. -/
def IsSupplied (rules : Rules) (before : List Symbol) (sign : Operator) : Prop :=
  0 < (overtaken rules (signs before ++ [sign])).length →
    (overtaken rules (signs before ++ [sign])).length < (operands before).length

instance (rules : Rules) (before : List Symbol) (sign : Operator) :
    Decidable (IsSupplied rules before sign) :=
  inferInstanceAs (Decidable (_ → _))

/-- Operators that leave find their values if the new one is supplied. -/
theorem runs_read_operator_iff (rules : Rules) (expression : List Symbol) (sign : Operator) :
    Runs (Conversion.after rules (expression ++ [.operator sign])).output.toList ↔
      Runs (Conversion.after rules expression).output.toList ∧
        IsSupplied rules expression sign := by
  have count := Conversion.length_signs_output_eq rules (expression ++ [.operator sign])
  rw [signs_append, signs_cons_operator, signs_nil] at count
  rw [IsSupplied, ← count, Conversion.after_concat, Conversion.read, Conversion.toList_putOut,
    runs_append_operators, signs_append, signs_map_operator, List.length_append,
    Conversion.operands_output_after]
  refine and_congr_right fun runs => ?_
  -- Operators that left before have found their values, so only those leaving now matter.
  have before := runs.length_signs_lt
  rw [Conversion.operands_output_after] at before
  omega

/-- Every operator of an expression is supplied. -/
def AllSupplied (rules : Rules) (expression : List Symbol) : Prop :=
  ∀ before sign, before ++ [.operator sign] <+: expression → IsSupplied rules before sign

theorem allSupplied_concat_operand {rules : Rules} {expression : List Symbol}
    (operand : Operand) :
    AllSupplied rules (expression ++ [.operand operand]) ↔ AllSupplied rules expression := by
  simp only [AllSupplied, List.prefix_concat_iff, List.append_singleton_inj, reduceCtorEq,
    and_false, false_or]

theorem allSupplied_concat_operator {rules : Rules} {expression : List Symbol}
    (sign : Operator) :
    AllSupplied rules (expression ++ [.operator sign]) ↔
      AllSupplied rules expression ∧ IsSupplied rules expression sign := by
  simp only [AllSupplied, List.prefix_concat_iff, List.append_singleton_inj,
    Symbol.operator.injEq]
  constructor
  · intro all
    exact ⟨fun before other inside => all before other (.inr inside),
      all expression sign (.inl ⟨rfl, rfl⟩)⟩
  · rintro ⟨all, here⟩ before other (⟨rfl, rfl⟩ | inside)
    · exact here
    · exact all before other inside

/-- The output so far can be evaluated if every operator so far is supplied. -/
theorem runs_output_iff (rules : Rules) {expression : List Symbol}
    (digits : OnlyDigits expression) :
    Runs (Conversion.after rules expression).output.toList ↔ AllSupplied rules expression := by
  induction expression using List.reverseRecOn with
  | nil =>
      refine iff_of_true runs_nil fun before sign inside => ?_
      exact absurd (List.prefix_nil.mp inside) (List.append_ne_nil_of_right_ne_nil _ (by simp))
  | append_singleton expression symbol inductionHypothesis =>
      obtain ⟨digitsBefore, last⟩ := onlyDigits_append.mp digits
      cases symbol with
      | operand operand =>
          have decimal : operand.character.isDigit = true := last operand (by simp)
          rw [Conversion.after_concat, Conversion.read, Array.toList_push,
            runs_concat_operand decimal, inductionHypothesis digitsBefore,
            allSupplied_concat_operand]
      | operator sign =>
          rw [runs_read_operator_iff, inductionHypothesis digitsBefore,
            allSupplied_concat_operator]

/-- The operands are digits, one more than the operators, which are all supplied. -/
structure Balanced (rules : Rules) (expression : List Symbol) : Prop where
  digits : OnlyDigits expression
  counts : (operands expression).length = (signs expression).length + 1
  supplied : AllSupplied rules expression

/-- The operators left at the end find their values by the counts. -/
theorem runs_postfixOrder_iff (rules : Rules) {expression : List Symbol}
    (digits : OnlyDigits expression)
    (counts : (operands expression).length = (signs expression).length + 1) :
    Runs (postfixOrder rules expression) ↔ AllSupplied rules expression := by
  have conserved := Conversion.length_signs_output_after rules expression
  rw [postfixOrder, Conversion.finish_eq, runs_append_operators, runs_output_iff rules digits,
    Conversion.operands_output_after, and_iff_left]
  intro _
  omega

/-- A text has a value in doubles exactly if its symbols are balanced. -/
theorem exists_evaluatePostfix_iff (rules : Rules) (text : String) :
    (∃ value, Domain.floating.evaluatePostfix (toPostfix rules text) = .ok value) ↔
      Balanced rules (symbols text) := by
  have decided := Domain.exists_run_iff .forward
    (Domain.readsLiterals_total Decimal.Literal.toFloat Domain.applyFloat)
    (Domain.isTotal_total Decimal.Literal.toFloat Domain.applyFloat)
    (toPostfix rules text).toList.zipIdx
  rw [List.zipIdx_map_fst, toList_toPostfix] at decided
  refine decided.trans ?_
  change Runs (postfixOrder rules (symbols text)) ∧ _ ↔ _
  constructor
  · rintro ⟨runs, single⟩
    have digits : OnlyDigits (symbols text) := by
      have kept := runs.onlyDigits
      rwa [OnlyDigits, operands_postfixOrder] at kept
    rw [surplus_map_token runs.onlyDigits, operands_postfixOrder,
      length_signs_postfixOrder] at single
    have counts : (operands (symbols text)).length = (signs (symbols text)).length + 1 := by
      omega
    exact ⟨digits, counts, (runs_postfixOrder_iff rules digits counts).mp runs⟩
  · rintro ⟨digits, counts, supplied⟩
    have runs := (runs_postfixOrder_iff rules digits counts).mpr supplied
    refine ⟨runs, ?_⟩
    rw [surplus_map_token runs.onlyDigits, operands_postfixOrder, length_signs_postfixOrder]
    omega

/-- Somewhere two operands stand side by side. -/
def HasNeighbours (expression : List Symbol) : Prop :=
  ∃ first second, [.operand first, .operand second] <:+: expression

theorem HasNeighbours.cons {expression : List Symbol} (symbol : Symbol)
    (neighbours : HasNeighbours expression) : HasNeighbours (symbol :: expression) := by
  obtain ⟨first, second, inside⟩ := neighbours
  exact ⟨first, second, inside.trans (List.suffix_cons symbol expression).isInfix⟩

/-- Without neighbours, one operand more than operators makes a text well-formed. -/
theorem chain_of_not_hasNeighbours {expression : List Symbol}
    (separate : ¬HasNeighbours expression) :
    (operands expression).length ≤ (signs expression).length + 1 ∧
      ((operands expression).length = (signs expression).length + 1 →
        ∃ chain : Chain Operand, expression = chain.symbols) := by
  induction expression using List.twoStepInduction with
  | nil => simp
  | singleton symbol =>
      cases symbol with
      | operand operand => exact ⟨by simp, fun _ => ⟨⟨operand, []⟩, rfl⟩⟩
      | operator sign => simp
  | cons_cons symbol next rest afterBoth afterOne =>
      cases symbol with
      | operator sign =>
          obtain ⟨bound, -⟩ := afterOne next fun inside => separate (inside.cons _)
          simp only [operands_cons_operator, signs_cons_operator, List.length_cons]
          omega
      | operand first =>
          cases next with
          | operand second => exact absurd ⟨first, second, [], rest, rfl⟩ separate
          | operator sign =>
              obtain ⟨bound, wellFormed⟩ := afterBoth fun inside =>
                separate ((inside.cons _).cons _)
              simp only [operands_cons_operand, operands_cons_operator, signs_cons_operand,
                signs_cons_operator, List.length_cons, Nat.add_le_add_iff_right,
                Nat.add_right_cancel_iff]
              refine ⟨bound, fun counts => ?_⟩
              obtain ⟨chain, rfl⟩ := wellFormed counts
              exact ⟨⟨first, (sign, chain.first) :: chain.rest⟩, rfl⟩

/-- A text is derived exactly if it is balanced, well-formed or not. -/
theorem derived_texts_are_balanced (options : Options) (text : String) :
    ((∃ derivation, derive options text = .ok derivation) ↔
      Balanced options.rules (symbols text)) ∧
      ((∃ fault, derive options text = .error fault) ↔
        ¬Balanced options.rules (symbols text)) ∧
      ((∃ derivation, derive options text = .ok derivation) →
        ¬HasNeighbours (symbols text) → ∃ chain : Chain Operand, symbols text = chain.symbols) := by
  have derived : (∃ derivation, derive options text = .ok derivation) ↔
      Balanced options.rules (symbols text) :=
    (exists_derive_iff options text).trans (exists_evaluatePostfix_iff options.rules text)
  refine ⟨derived, ?_, fun succeeded separate => ?_⟩
  · rw [← derived]
    cases derive options text <;> simp
  · exact (chain_of_not_hasNeighbours separate).2 (derived.mp succeeded).counts

/-- An operator after its operands is applied although the text is not well-formed. -/
theorem derive_of_operator_after_operands :
    (∃ derivation, derive ⟨.standard, false⟩ "12+" = .ok derivation) ∧
      ¬∃ chain : Chain Operand, symbols "12+" = chain.symbols := by
  constructor
  · have spelled : (toPostfix .standard "12+").toList =
        ExpressionTree.postfixTokens (.node .plus (.leaf "1") (.leaf "2")) := by decide +kernel
    exact exists_derive_of_tree ⟨.standard, false⟩ spelled (by decide)
  · have read : symbols "12+" =
        [.operand ⟨'1', by decide⟩, .operand ⟨'2', by decide⟩, .operator .plus] := by
      decide +kernel
    rw [read]
    rintro ⟨⟨first, rest⟩, same⟩
    cases rest with
    | nil => simp [Chain.symbols, Chain.spell] at same
    | cons link rest => simp [Chain.symbols, Chain.spell] at same

/-- A balanced text, one with an unsupplied sum and one without neighbours. -/
theorem derived_texts_are_balanced_in_any_arrangement :
    Balanced .standard (symbols "1+*23") ∧
      (∃ fault, derive ⟨.standard, false⟩ "+1+23" = .error fault) ∧
      ∃ chain : Chain Operand, symbols "(1+2)" = chain.symbols := by
  refine ⟨?_, ?_, ?_⟩
  · have spelled : (toPostfix .standard "1+*23").toList = ExpressionTree.postfixTokens
        (.node .plus (.leaf "1") (.node .times (.leaf "2") (.leaf "3"))) := by decide +kernel
    exact (derived_texts_are_balanced ⟨.standard, false⟩ "1+*23").1.mp
      (exists_derive_of_tree ⟨.standard, false⟩ spelled (by decide))
  · have read : symbols "+1+23" = [.operator .plus, .operand ⟨'1', by decide⟩, .operator .plus,
        .operand ⟨'2', by decide⟩, .operand ⟨'3', by decide⟩] := by decide +kernel
    refine (derived_texts_are_balanced ⟨.standard, false⟩ "+1+23").2.1.mpr fun balanced => ?_
    rw [read] at balanced
    have short : ¬IsSupplied .standard [.operator .plus, .operand ⟨'1', by decide⟩] .plus := by
      decide
    exact short (balanced.supplied _ .plus ⟨_, rfl⟩)
  · have spelled : (toPostfix .standard "(1+2)").toList =
        ExpressionTree.postfixTokens (.node .plus (.leaf "1") (.leaf "2")) := by decide +kernel
    have read : symbols "(1+2)" =
        [.operand ⟨'1', by decide⟩, .operator .plus, .operand ⟨'2', by decide⟩] := by
      decide +kernel
    refine (derived_texts_are_balanced ⟨.standard, false⟩ "(1+2)").2.2
      (exists_derive_of_tree ⟨.standard, false⟩ spelled (by decide)) ?_
    rw [read]
    rintro ⟨first, second, inside⟩
    simp [List.infix_cons_iff] at inside

end PolishNotation
