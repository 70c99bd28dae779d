import PolishNotation.Proofs.TreeScan

namespace PolishNotation

/-- An expression is a digit, or an operator before two expressions. -/
inductive IsPrefixExpression : List Char → Prop where
  | digit {character : Char} (decimal : character.isDigit = true) :
      IsPrefixExpression [character]
  | operation (operator : Operator) {left right : List Char}
      (onLeft : IsPrefixExpression left) (onRight : IsPrefixExpression right) :
      IsPrefixExpression (operator.symbol :: (left ++ right))

/-- A reading takes a value off a text and leaves a shorter rest. -/
structure Reading (Value : Type) (text : List Char) where
  value : Value
  rest : List Char
  shorter : rest.length < text.length

section Descent

variable {Value : Type} {domain : Domain Value}

/-- After an operator the left operand is read first. -/
def descend (domain : Domain Value) : (text : List Char) → Option (Reading Value text)
  | [] => none
  | character :: following =>
      match Operator.ofChar? character with
      | some operator => do
          let left ← descend domain following
          let right ← descend domain left.rest
          let value ← (domain.apply operator left.value right.value).toOption
          return ⟨value, right.rest,
            Nat.lt_succ_of_lt (Nat.lt_trans right.shorter left.shorter)⟩
      | none =>
          if character.isDigit then
            (domain.read? (String.singleton character)).map fun value =>
              ⟨value, following, Nat.lt_succ_self _⟩
          else
            none
termination_by text => text.length
decreasing_by
  · exact Nat.lt_succ_self _
  · exact Nat.lt_succ_of_lt left.shorter

/-- A descent evaluates a text if nothing of it is left over. -/
def evaluateByDescent (domain : Domain Value) (text : String) : Option Value := do
  let reading ← descend domain text.toList
  if reading.rest = [] then some reading.value else none

/-- The descent reads this value and leaves this rest. -/
def Descends (domain : Domain Value) (text : List Char) (value : Value) (rest : List Char) :
    Prop :=
  ∃ reading, descend domain text = some reading ∧ reading.value = value ∧ reading.rest = rest

theorem evaluateByDescent_eq_some_iff {text : String} {value : Value} :
    evaluateByDescent domain text = some value ↔ Descends domain text.toList value [] := by
  unfold evaluateByDescent Descends
  cases descend domain text.toList with
  | none => simp
  | some reading => simp [and_comm]

theorem Descends.length_lt {text rest : List Char} {value : Value}
    (descends : Descends domain text value rest) : rest.length < text.length := by
  obtain ⟨reading, -, -, rfl⟩ := descends
  exact reading.shorter

theorem not_descends_nil {value : Value} {rest : List Char} :
    ¬Descends domain [] value rest := by
  intro descends
  exact absurd descends.length_lt (Nat.not_lt_zero _)

theorem descends_operator_iff {operator : Operator} {following rest : List Char}
    {value : Value} :
    Descends domain (operator.symbol :: following) value rest ↔
      ∃ left middle right, Descends domain following left middle ∧
        Descends domain middle right rest ∧ domain.apply operator left right = .ok value := by
  have succeeds {left right result : Value} :
      (domain.apply operator left right).toOption = some result ↔
        domain.apply operator left right = .ok result := by
    cases domain.apply operator left right <;> simp [Except.toOption]
  unfold Descends
  rw [descend]
  simp only [Operator.ofChar?_symbol, Option.bind_eq_bind, Option.bind_eq_some_iff,
    Option.pure_def, Option.some.injEq, succeeds]
  constructor
  · intro descends
    obtain ⟨_, ⟨left, onLeft, right, onRight, result, applied, rfl⟩, rfl, rfl⟩ := descends
    exact ⟨left.value, left.rest, right.value, ⟨left, onLeft, rfl, rfl⟩,
      ⟨right, onRight, rfl, rfl⟩, applied⟩
  · intro operation
    obtain ⟨_, _, _, ⟨left, onLeft, rfl, rfl⟩, ⟨right, onRight, rfl, rfl⟩, applied⟩ := operation
    exact ⟨_, ⟨left, onLeft, right, onRight, value, applied, rfl⟩, rfl, rfl⟩

theorem descends_other_iff {character : Char} (other : Operator.ofChar? character = none)
    {following rest : List Char} {value : Value} :
    Descends domain (character :: following) value rest ↔
      character.isDigit = true ∧ domain.read? (String.singleton character) = some value ∧
        following = rest := by
  unfold Descends
  rw [descend]
  simp only [other]
  cases character.isDigit with
  | false => simp
  | true => simp

end Descent

namespace ExpressionTree

variable {Value : Type} {domain : Domain Value}

/-- A text spells a tree if its characters are the prefix tokens. -/
def SpelledBy (tree : ExpressionTree String) (text : List Char) : Prop :=
  text.map String.singleton = tree.prefixTokens

theorem spelledBy_leaf_iff {token : String} {text : List Char} :
    (leaf token).SpelledBy text ↔
      ∃ character, text = [character] ∧ String.singleton character = token :=
  List.map_eq_singleton_iff

theorem spelledBy_node_iff {operator : Operator} {left right : ExpressionTree String}
    {text : List Char} :
    (node operator left right).SpelledBy text ↔
      ∃ leftText rightText, text = operator.symbol :: (leftText ++ rightText) ∧
        left.SpelledBy leftText ∧ right.SpelledBy rightText := by
  unfold SpelledBy
  show text.map String.singleton =
    operator.token :: (left.prefixTokens ++ right.prefixTokens) ↔ _
  constructor
  · intro spelled
    obtain ⟨first, others, rfl, named, operands⟩ := List.map_eq_cons_iff.mp spelled
    obtain ⟨leftText, rightText, rfl, onLeft, onRight⟩ := List.map_eq_append_iff.mp operands
    rw [Operator.token, String.singleton_inj] at named
    exact ⟨leftText, rightText, by rw [named], onLeft, onRight⟩
  · intro parts
    obtain ⟨leftText, rightText, rfl, onLeft, onRight⟩ := parts
    rw [List.map_cons, List.map_append, onLeft, onRight]
    rfl

/-- The text of a tree of digits belongs to the grammar. -/
theorem Denotes.isPrefixExpression (reads : domain.ReadsOnlyDigits)
    {tree : ExpressionTree String} {value : Value} (denotes : tree.Denotes domain value)
    {text : List Char} (spelled : tree.SpelledBy text) : IsPrefixExpression text := by
  induction tree generalizing value text with
  | leaf token =>
      obtain ⟨character, rfl, rfl⟩ := spelledBy_leaf_iff.mp spelled
      apply IsPrefixExpression.digit
      rw [← reads character, denotes_leaf_iff.mp denotes, Option.isSome_some]
  | node operator left right leftHypothesis rightHypothesis =>
      obtain ⟨leftText, rightText, rfl, leftSpelled, rightSpelled⟩ :=
        spelledBy_node_iff.mp spelled
      obtain ⟨leftValue, rightValue, onLeft, onRight, -⟩ := denotes_node_iff.mp denotes
      exact .operation operator (leftHypothesis onLeft leftSpelled)
        (rightHypothesis onRight rightSpelled)

/-- A descent evaluates the tree that a text starts with, whatever follows it. -/
theorem Denotes.descends (reads : domain.ReadsOnlyDigits) {tree : ExpressionTree String}
    {value : Value} (denotes : tree.Denotes domain value) {text : List Char}
    (spelled : tree.SpelledBy text) (rest : List Char) :
    Descends domain (text ++ rest) value rest := by
  induction tree generalizing value text rest with
  | leaf token =>
      obtain ⟨character, rfl, rfl⟩ := spelledBy_leaf_iff.mp spelled
      have read := denotes_leaf_iff.mp denotes
      have decimal : character.isDigit = true := by
        rw [← reads character, read, Option.isSome_some]
      exact (descends_other_iff (Operator.ofChar?_eq_none_of_isDigit decimal)).mpr
        ⟨decimal, read, rfl⟩
  | node operator left right leftHypothesis rightHypothesis =>
      obtain ⟨leftText, rightText, rfl, leftSpelled, rightSpelled⟩ :=
        spelledBy_node_iff.mp spelled
      obtain ⟨leftValue, rightValue, onLeft, onRight, applied⟩ := denotes_node_iff.mp denotes
      rw [List.cons_append, List.append_assoc]
      exact descends_operator_iff.mpr ⟨leftValue, rightText ++ rest, rightValue,
        leftHypothesis onLeft leftSpelled (rightText ++ rest),
        rightHypothesis onRight rightSpelled rest, applied⟩

end ExpressionTree

section Agreement

open ExpressionTree

variable {Value : Type} {domain : Domain Value}

/-- Whatever a descent reads spells a tree with this value. -/
theorem exists_tree_of_descends {text rest : List Char} {value : Value}
    (descends : Descends domain text value rest) :
    ∃ (tree : ExpressionTree String) (read : List Char), text = read ++ rest ∧
      tree.SpelledBy read ∧ tree.Denotes domain value := by
  -- The right operand is read off a rest of the text, so the induction is on the length.
  induction size : text.length using Nat.strong_induction_on generalizing text value rest with
  | h size shorter =>
      cases text with
      | nil => exact absurd descends not_descends_nil
      | cons character following =>
          rw [List.length_cons] at size
          cases named : Operator.ofChar? character with
          | none =>
              obtain ⟨-, read, rfl⟩ := (descends_other_iff named).mp descends
              exact ⟨.leaf (String.singleton character), [character], rfl,
                spelledBy_leaf_iff.mpr ⟨character, rfl, rfl⟩, denotes_leaf_iff.mpr read⟩
          | some operator =>
              obtain rfl := Operator.symbol_of_ofChar? named
              obtain ⟨left, middle, right, onLeft, onRight, applied⟩ :=
                descends_operator_iff.mp descends
              have middleShorter := onLeft.length_lt
              obtain ⟨leftTree, leftText, leftSplit, leftSpelled, leftDenotes⟩ :=
                shorter _ (by omega) onLeft rfl
              obtain ⟨rightTree, rightText, rightSplit, rightSpelled, rightDenotes⟩ :=
                shorter _ (by omega) onRight rfl
              refine ⟨.node operator leftTree rightTree,
                operator.symbol :: (leftText ++ rightText), ?_,
                spelledBy_node_iff.mpr ⟨leftText, rightText, rfl, leftSpelled, rightSpelled⟩,
                denotes_node_iff.mpr ⟨left, right, leftDenotes, rightDenotes, applied⟩⟩
              rw [leftSplit, rightSplit, List.cons_append, List.append_assoc]

/-- The evaluation and the descent have one value, whatever the grouping into tokens. -/
structure Domain.FollowsDescent (domain : Domain Value) (sequence : TokenSequence) : Prop where
  value : ∀ result, domain.evaluatePrefix sequence = .ok result ↔
    IsPrefixExpression (String.join sequence.toList).toList ∧
      evaluateByDescent domain (String.join sequence.toList) = some result
  grouping : ∀ other : TokenSequence,
    String.join other.toList = String.join sequence.toList →
      domain.evaluatePrefix other = domain.evaluatePrefix sequence

theorem Domain.ReadsOnlyDigits.followsDescent (reads : domain.ReadsOnlyDigits)
    (sequence : TokenSequence) : domain.FollowsDescent sequence where
  value result := by
    have spelledBy_join (tree : ExpressionTree String) :
        tree.SpelledBy (String.join sequence.toList).toList ↔
          sequence.split = tree.prefixTokens := by
      rw [SpelledBy, String.toList_join, TokenSequence.split_eq]
    rw [evaluateByDescent_eq_some_iff]
    constructor
    · intro evaluated
      obtain ⟨tree, spelled, denotes⟩ := exists_tree_of_evaluatePrefix evaluated
      rw [← spelledBy_join] at spelled
      have descends := denotes.descends reads spelled []
      rw [List.append_nil] at descends
      exact ⟨denotes.isPrefixExpression reads spelled, descends⟩
    · intro expression
      obtain ⟨tree, read, whole, spelled, denotes⟩ := exists_tree_of_descends expression.2
      rw [List.append_nil] at whole
      rw [← whole, spelledBy_join] at spelled
      exact evaluatePrefix_of_denotes reads.separatesOperators denotes spelled
  grouping other same := by
    have characters : other.split = sequence.split := by
      rw [TokenSequence.split_eq, TokenSequence.split_eq, ← String.toList_join,
        ← String.toList_join, same]
    rw [evaluatePrefix, evaluatePrefix, characters]

end Agreement

/-- The scan from the right has the value of the descent from the left. -/
theorem evaluatePrefix_follows_descent (sequence : TokenSequence) :
    Domain.floating.FollowsDescent sequence ∧ Domain.exact.FollowsDescent sequence ∧
      ∀ (Value : Type) (number : Decimal.Literal → Value)
          (operation : Operator → Value → Value → Value),
        (Domain.total number operation).FollowsDescent sequence := by
  have total (Value : Type) (number : Decimal.Literal → Value)
      (operation : Operator → Value → Value → Value) :
      (Domain.total number operation).FollowsDescent sequence :=
    (Domain.readsLiterals_total number operation).readsOnlyDigits.followsDescent sequence
  exact ⟨total Float Decimal.Literal.toFloat Domain.applyFloat,
    Domain.readsOnlyDigits_exact.followsDescent sequence, total⟩

/-- Tokens may be cut anywhere, and faults keep their places. -/
theorem evaluatePrefix_follows_descent_across_tokens :
    Domain.exact.evaluatePrefix (.ofList ["-^", "23/", "", "84"]) = .ok 6 ∧
      Domain.exact.evaluatePrefix (.ofList ["^", "1+2"]) = .error (.missingOperands "+" 2) ∧
      Domain.exact.evaluatePrefix (.ofList ["^1+", "2"]) = .error (.missingOperands "+" 2) := by
  have power : IsPrefixExpression ['^', '2', '3'] :=
    @IsPrefixExpression.operation .power ['2'] ['3'] (.digit (by decide)) (.digit (by decide))
  have quotient : IsPrefixExpression ['/', '8', '4'] :=
    @IsPrefixExpression.operation .divide ['8'] ['4'] (.digit (by decide)) (.digit (by decide))
  have descended : evaluateByDescent Domain.exact "-^23/84" = some 6 := by decide +kernel
  have follows := (evaluatePrefix_follows_descent (.ofList ["-^", "23/", "", "84"])).2.1
  have refuses := (evaluatePrefix_follows_descent (.ofList ["^1+", "2"])).2.1
  have refused : Domain.exact.evaluatePrefix (.ofList ["^1+", "2"]) =
      .error (.missingOperands "+" 2) := by decide +kernel
  exact ⟨(follows.value 6).mpr ⟨power.operation .minus quotient, descended⟩,
    (refuses.grouping (.ofList ["^", "1+2"]) (by decide)).trans refused, refused⟩

end PolishNotation
