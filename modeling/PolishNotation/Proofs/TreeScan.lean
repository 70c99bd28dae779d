/-
This file relates the stack machine to expression trees.
-/

import PolishNotation.ExpressionTree
import PolishNotation.Proofs.DomainLaws

namespace PolishNotation

section Operation

variable {Problem First Second Result : Type} {first : Except Problem First}
  {second : Except Problem Second} {combine : First → Second → Except Problem Result}

/-- An operation succeeds if its operands do and their values can be combined. -/
theorem operation_eq_ok_iff {result : Result} :
    (do
      let firstValue ← first
      let secondValue ← second
      combine firstValue secondValue) = .ok result ↔
      ∃ firstValue secondValue, first = .ok firstValue ∧ second = .ok secondValue ∧
        combine firstValue secondValue = .ok result := by
  cases first with
  | error problem => simp [bind, Except.bind]
  | ok firstValue =>
      cases second with
      | error problem => simp [bind, Except.bind]
      | ok secondValue => simp [bind, Except.bind]

/-- An operation fails in an operand or in the combination of values. -/
theorem cases_of_operation_eq_error {problem : Problem}
    (failed : (do
      let firstValue ← first
      let secondValue ← second
      combine firstValue secondValue) = .error problem) :
    first = .error problem ∨ second = .error problem ∨
      ∃ firstValue secondValue, first = .ok firstValue ∧ second = .ok secondValue ∧
        combine firstValue secondValue = .error problem := by
  cases first with
  | error other => exact .inl (congrArg Except.error (Except.error.inj failed))
  | ok firstValue =>
      cases second with
      | error other => exact .inr (.inl (congrArg Except.error (Except.error.inj failed)))
      | ok secondValue => exact .inr (.inr ⟨firstValue, secondValue, rfl, rfl, failed⟩)

end Operation

namespace Domain

variable {Value : Type} {domain : Domain Value} {direction : Direction}

/-- The stack after a part that leaves one value or a fault. -/
def pushOutcome (stack : List Value) : Except ArithmeticFault Value → Except Fault (List Value)
  | .ok value => .ok (value :: stack)
  | .error fault => .error (.arithmetic fault)

theorem step_number {token : String} {value : Value} (read : domain.read? token = some value)
    (stack : List Value) (position : Nat) :
    domain.step direction stack (token, position) = .ok (value :: stack) := by
  simp only [step, read]

theorem step_operator (separated : domain.SeparatesOperators) (operator : Operator)
    (top below : Value) (rest : List Value) (position : Nat) :
    domain.step direction (top :: below :: rest) (operator.token, position) =
      pushOutcome rest (domain.combine direction operator top below) := by
  simp only [step, separated operator, Operator.ofToken?_token]
  cases domain.combine direction operator top below <;> rfl

theorem exists_combine (total : domain.IsTotal) (direction : Direction) (operator : Operator)
    (top below : Value) : ∃ value, domain.combine direction operator top below = .ok value := by
  cases direction with
  | forward => exact total operator below top
  | backward => exact total operator top below

/-- A step that succeeds reads a number or applies an operator. -/
theorem step_ok_cases {stack next : List Value} {token : String} {position : Nat}
    (stepped : domain.step direction stack (token, position) = .ok next) :
    (∃ value, domain.read? token = some value ∧ next = value :: stack) ∨
      ∃ operator top below rest value, token = operator.token ∧
        stack = top :: below :: rest ∧
        domain.combine direction operator top below = .ok value ∧ next = value :: rest := by
  simp only [step] at stepped
  split at stepped
  · rename_i value read
    exact .inl ⟨value, read, (Except.ok.inj stepped).symm⟩
  · split at stepped
    · cases stepped
    · rename_i operator named
      split at stepped
      · rename_i top below rest
        split at stepped
        · rename_i value combined
          exact .inr ⟨operator, top, below, rest, value,
            (Operator.token_of_ofToken? named).symm, rfl, combined,
            (Except.ok.inj stepped).symm⟩
        · cases stepped
      · cases stepped

/-- A scan that succeeds starts with a step that succeeds. -/
theorem exists_step_of_scan_cons {stack final : List Value} {first : String × Nat}
    {rest : List (String × Nat)}
    (scanned : domain.scan direction stack (first :: rest) = .ok final) :
    ∃ next, domain.step direction stack first = .ok next ∧
      domain.scan direction next rest = .ok final := by
  rw [scan] at scanned
  cases stepped : domain.step direction stack first with
  | error fault =>
      rw [stepped] at scanned
      cases scanned
  | ok next =>
      rw [stepped] at scanned
      exact ⟨next, rfl, scanned⟩

theorem scan_append_eq_ok_iff {stack final : List Value} {first second : List (String × Nat)} :
    domain.scan direction stack (first ++ second) = .ok final ↔
      ∃ next, domain.scan direction stack first = .ok next ∧
        domain.scan direction next second = .ok final := by
  rw [scan_append]
  cases domain.scan direction stack first with
  | ok next => simp
  | error fault => simp

/-- A part leaves an outcome if it does so on every stack. -/
def Leaves (domain : Domain Value) (direction : Direction) (placed : List (String × Nat))
    (outcome : Except ArithmeticFault Value) : Prop :=
  ∀ stack, domain.scan direction stack placed = pushOutcome stack outcome

theorem Leaves.number {token : String} {value : Value} (read : domain.read? token = some value)
    (position : Nat) : domain.Leaves direction [(token, position)] (.ok value) := by
  intro stack
  rw [scan, step_number read]
  rfl

/-- Two parts with an operator after them leave the outcome of the operation. -/
theorem Leaves.operation {first second : List (String × Nat)}
    {below top : Except ArithmeticFault Value} (separated : domain.SeparatesOperators)
    (firstLeaves : domain.Leaves direction first below)
    (secondLeaves : domain.Leaves direction second top) (operator : Operator)
    (position : Nat) :
    domain.Leaves direction (first ++ (second ++ [(operator.token, position)]))
      (do
        let belowValue ← below
        let topValue ← top
        domain.combine direction operator topValue belowValue) := by
  intro stack
  rw [scan_append, firstLeaves stack]
  cases below with
  | error fault => rfl
  | ok belowValue =>
      simp only [pushOutcome]
      rw [scan_append, secondLeaves]
      cases top with
      | error fault => rfl
      | ok topValue =>
          simp only [pushOutcome, scan, step_operator separated]
          change _ = pushOutcome stack (domain.combine direction operator topValue belowValue)
          cases domain.combine direction operator topValue belowValue <;> rfl

/-- The same holds wherever the tokens of the parts are placed. -/
theorem Leaves.operation_of_tokens {firstTokens secondTokens : List String}
    {below top : Except ArithmeticFault Value} {operator : Operator}
    (separated : domain.SeparatesOperators)
    (firstLeaves : ∀ placed : List (String × Nat), placed.map Prod.fst = firstTokens →
      domain.Leaves direction placed below)
    (secondLeaves : ∀ placed : List (String × Nat), placed.map Prod.fst = secondTokens →
      domain.Leaves direction placed top)
    {placed : List (String × Nat)}
    (spelled : placed.map Prod.fst = firstTokens ++ (secondTokens ++ [operator.token])) :
    domain.Leaves direction placed
      (do
        let belowValue ← below
        let topValue ← top
        domain.combine direction operator topValue belowValue) := by
  obtain ⟨first, others, rfl, firstSpelled, othersSpelled⟩ := List.map_eq_append_iff.mp spelled
  obtain ⟨second, last, rfl, secondSpelled, lastSpelled⟩ :=
    List.map_eq_append_iff.mp othersSpelled
  obtain ⟨⟨token, position⟩, rfl, rfl⟩ := List.map_eq_singleton_iff.mp lastSpelled
  exact (firstLeaves first firstSpelled).operation separated
    (secondLeaves second secondSpelled) operator position

/-- A notation that leaves an outcome is evaluated to it. -/
theorem Leaves.run {placed : List (String × Nat)} {outcome : Except ArithmeticFault Value}
    (leaves : domain.Leaves direction placed outcome) :
    domain.run direction placed = outcome.mapError Fault.arithmetic := by
  rw [Domain.run, leaves []]
  cases outcome <;> rfl

end Domain

namespace ExpressionTree

variable {Leaf Value : Type} {domain : Domain Value} {direction : Direction}

/-- The tree of an operation, with its operands in the order of the stack. -/
def join (direction : Direction) (operator : Operator) (top below : ExpressionTree Leaf) :
    ExpressionTree Leaf :=
  match direction with
  | .forward => .node operator below top
  | .backward => .node operator top below

/-- A scan meets the tokens of a tree in this order. -/
def met (direction : Direction) : ExpressionTree String → List String
  | .leaf token => [token]
  | .node operator left right =>
      match direction with
      | .forward => left.met direction ++ (right.met direction ++ [operator.token])
      | .backward => right.met direction ++ (left.met direction ++ [operator.token])

/-- The operands are evaluated in the order in which a scan meets them. -/
def valueMet (domain : Domain Value) (direction : Direction) :
    ExpressionTree Value → Except ArithmeticFault Value
  | .leaf number => .ok number
  | .node operator left right =>
      match direction with
      | .forward => do
          let leftValue ← left.valueMet domain direction
          let rightValue ← right.valueMet domain direction
          domain.apply operator leftValue rightValue
      | .backward => do
          let rightValue ← right.valueMet domain direction
          let leftValue ← left.valueMet domain direction
          domain.apply operator leftValue rightValue

/-- The tokens of a tree in postfix notation. -/
def postfixTokens (tree : ExpressionTree String) : List String :=
  tree.postorder id Operator.token

/-- The tokens of a tree in prefix notation. -/
def prefixTokens (tree : ExpressionTree String) : List String :=
  tree.preorder id Operator.token

theorem met_forward (tree : ExpressionTree String) : tree.met .forward = tree.postfixTokens := by
  induction tree with
  | leaf token => rfl
  | node operator left right leftHypothesis rightHypothesis =>
      simp only [met, postfixTokens, postorder] at leftHypothesis rightHypothesis ⊢
      rw [leftHypothesis, rightHypothesis]

theorem met_backward (tree : ExpressionTree String) :
    tree.met .backward = tree.prefixTokens.reverse := by
  induction tree with
  | leaf token => rfl
  | node operator left right leftHypothesis rightHypothesis =>
      simp only [met, prefixTokens, preorder] at leftHypothesis rightHypothesis ⊢
      rw [leftHypothesis, rightHypothesis]
      simp only [List.reverse_cons, List.reverse_append, List.append_assoc]

theorem met_join (operator : Operator) (top below : ExpressionTree String) :
    (join direction operator top below).met direction =
      below.met direction ++ (top.met direction ++ [operator.token]) := by
  cases direction <;> rfl

theorem valueMet_forward (tree : ExpressionTree Value) :
    tree.valueMet domain .forward = tree.value domain := by
  induction tree with
  | leaf number => rfl
  | node operator left right leftHypothesis rightHypothesis =>
      simp only [valueMet, value, leftHypothesis, rightHypothesis]

/-- The order of evaluation changes only which fault comes first. -/
theorem valueMet_eq_ok_iff (tree : ExpressionTree Value) (result : Value) :
    tree.valueMet domain direction = .ok result ↔ tree.value domain = .ok result := by
  cases direction with
  | forward => rw [valueMet_forward]
  | backward =>
      induction tree generalizing result with
      | leaf number => rfl
      | node operator left right leftHypothesis rightHypothesis =>
          simp only [valueMet, value, operation_eq_ok_iff, leftHypothesis, rightHypothesis]
          constructor
          · intro evaluated
            obtain ⟨rightValue, leftValue, onRight, onLeft, applied⟩ := evaluated
            exact ⟨leftValue, rightValue, onLeft, onRight, applied⟩
          · intro evaluated
            obtain ⟨leftValue, rightValue, onLeft, onRight, applied⟩ := evaluated
            exact ⟨rightValue, leftValue, onRight, onLeft, applied⟩

theorem value_join_eq_ok {operator : Operator} {top below : ExpressionTree Value}
    {topValue belowValue result : Value} (onTop : top.value domain = .ok topValue)
    (onBelow : below.value domain = .ok belowValue)
    (combined : domain.combine direction operator topValue belowValue = .ok result) :
    (join direction operator top below).value domain = .ok result := by
  cases direction with
  | forward =>
      exact operation_eq_ok_iff.mpr ⟨belowValue, topValue, onBelow, onTop, combined⟩
  | backward =>
      exact operation_eq_ok_iff.mpr ⟨topValue, belowValue, onTop, onBelow, combined⟩

theorem read?_node_eq_some_iff {operator : Operator} {left right : ExpressionTree String}
    {numbers : ExpressionTree Value} :
    (node operator left right).read? domain = some numbers ↔
      ∃ leftNumbers rightNumbers, left.read? domain = some leftNumbers ∧
        right.read? domain = some rightNumbers ∧
        numbers = .node operator leftNumbers rightNumbers := by
  simp only [read?, Option.bind_eq_bind, Option.bind_eq_some_iff, Option.pure_def,
    Option.some.injEq]
  constructor
  · intro read
    obtain ⟨leftNumbers, onLeft, rightNumbers, onRight, rfl⟩ := read
    exact ⟨leftNumbers, rightNumbers, onLeft, onRight, rfl⟩
  · intro read
    obtain ⟨leftNumbers, rightNumbers, onLeft, onRight, rfl⟩ := read
    exact ⟨leftNumbers, onLeft, rightNumbers, onRight, rfl⟩

/-- A tree is read as numbers if each of its leaves is. -/
theorem isSome_read?_iff (tree : ExpressionTree String) :
    (tree.read? domain).isSome = true ↔
      ∀ token ∈ tree.leaves, (domain.read? token).isSome = true := by
  induction tree with
  | leaf token => simp [read?, leaves]
  | node operator left right leftHypothesis rightHypothesis =>
      simp only [leaves, List.mem_append, or_imp, forall_and]
      rw [← leftHypothesis, ← rightHypothesis]
      simp only [Option.isSome_iff_exists, read?_node_eq_some_iff]
      constructor
      · intro read
        obtain ⟨_, leftNumbers, rightNumbers, onLeft, onRight, rfl⟩ := read
        exact ⟨⟨leftNumbers, onLeft⟩, ⟨rightNumbers, onRight⟩⟩
      · intro read
        obtain ⟨⟨leftNumbers, onLeft⟩, ⟨rightNumbers, onRight⟩⟩ := read
        exact ⟨_, leftNumbers, rightNumbers, onLeft, onRight, rfl⟩

/-- A tree of tokens whose leaves are numbers denotes its value. -/
def Denotes (domain : Domain Value) (tree : ExpressionTree String) (result : Value) : Prop :=
  ∃ numbers, tree.read? domain = some numbers ∧ numbers.value domain = .ok result

theorem denotes_join {operator : Operator} {top below : ExpressionTree String}
    {topValue belowValue result : Value} (onTop : top.Denotes domain topValue)
    (onBelow : below.Denotes domain belowValue)
    (combined : domain.combine direction operator topValue belowValue = .ok result) :
    (join direction operator top below).Denotes domain result := by
  obtain ⟨topNumbers, topRead, topEvaluated⟩ := onTop
  obtain ⟨belowNumbers, belowRead, belowEvaluated⟩ := onBelow
  refine ⟨join direction operator topNumbers belowNumbers, ?_,
    value_join_eq_ok topEvaluated belowEvaluated combined⟩
  cases direction with
  | forward =>
      exact read?_node_eq_some_iff.mpr ⟨belowNumbers, topNumbers, belowRead, topRead, rfl⟩
  | backward =>
      exact read?_node_eq_some_iff.mpr ⟨topNumbers, belowNumbers, topRead, belowRead, rfl⟩

theorem denotes_leaf_iff {token : String} {result : Value} :
    (leaf token).Denotes domain result ↔ domain.read? token = some result := by
  constructor
  · intro denotes
    obtain ⟨numbers, readable, evaluated⟩ := denotes
    obtain ⟨number, read, rfl⟩ := Option.map_eq_some_iff.mp readable
    rw [read, Except.ok.inj evaluated]
  · intro read
    refine ⟨.leaf result, ?_, rfl⟩
    rw [ExpressionTree.read?, read, Option.map_some]

/-- An operation denotes what its operator makes of the values of its operands. -/
theorem denotes_node_iff {operator : Operator} {left right : ExpressionTree String}
    {result : Value} :
    (node operator left right).Denotes domain result ↔
      ∃ leftValue rightValue, left.Denotes domain leftValue ∧ right.Denotes domain rightValue ∧
        domain.apply operator leftValue rightValue = .ok result := by
  constructor
  · intro denotes
    obtain ⟨numbers, readable, evaluated⟩ := denotes
    obtain ⟨leftNumbers, rightNumbers, onLeft, onRight, rfl⟩ := read?_node_eq_some_iff.mp readable
    obtain ⟨leftValue, rightValue, leftEvaluated, rightEvaluated, applied⟩ :=
      operation_eq_ok_iff.mp evaluated
    exact ⟨leftValue, rightValue, ⟨leftNumbers, onLeft, leftEvaluated⟩,
      ⟨rightNumbers, onRight, rightEvaluated⟩, applied⟩
  · intro operation
    obtain ⟨leftValue, rightValue, onLeft, onRight, applied⟩ := operation
    have joined : (join .forward operator right left).Denotes domain result :=
      denotes_join onRight onLeft applied
    exact joined

/-- The tokens that a scan has met when these trees stand on its stack. -/
def forestMet (direction : Direction) (forest : List (ExpressionTree String)) : List String :=
  forest.reverse.flatMap fun tree => tree.met direction

theorem forestMet_cons (tree : ExpressionTree String) (forest : List (ExpressionTree String)) :
    forestMet direction (tree :: forest) = forestMet direction forest ++ tree.met direction := by
  simp [forestMet]

end ExpressionTree

namespace Domain

open ExpressionTree

variable {Value : Type} {domain : Domain Value} {direction : Direction}

/-- A scan of the tokens of a tree leaves the value of the tree. -/
theorem leaves_met (separated : domain.SeparatesOperators) {tree : ExpressionTree String}
    {numbers : ExpressionTree Value} (readable : tree.read? domain = some numbers)
    {placed : List (String × Nat)} (spelled : placed.map Prod.fst = tree.met direction) :
    domain.Leaves direction placed (numbers.valueMet domain direction) := by
  induction tree generalizing numbers placed with
  | leaf token =>
      obtain ⟨value, read, rfl⟩ := Option.map_eq_some_iff.mp readable
      obtain ⟨⟨first, position⟩, rfl, rfl⟩ := List.map_eq_singleton_iff.mp spelled
      exact Leaves.number read position
  | node operator left right leftHypothesis rightHypothesis =>
      obtain ⟨leftNumbers, rightNumbers, onLeft, onRight, rfl⟩ :=
        read?_node_eq_some_iff.mp readable
      cases direction with
      | forward =>
          exact Leaves.operation_of_tokens separated
            (fun first firstSpelled => leftHypothesis onLeft firstSpelled)
            (fun second secondSpelled => rightHypothesis onRight secondSpelled) spelled
      | backward =>
          exact Leaves.operation_of_tokens separated
            (fun first firstSpelled => rightHypothesis onRight firstSpelled)
            (fun second secondSpelled => leftHypothesis onLeft secondSpelled) spelled

/-- A part that spells a tree with a value leaves this value. -/
theorem leaves_of_denotes (separated : domain.SeparatesOperators)
    {tree : ExpressionTree String} {result : Value} (denotes : tree.Denotes domain result)
    {placed : List (String × Nat)} (spelled : placed.map Prod.fst = tree.met direction) :
    domain.Leaves direction placed (.ok result) := by
  obtain ⟨numbers, readable, evaluated⟩ := denotes
  rw [← (valueMet_eq_ok_iff numbers result).mpr evaluated]
  exact leaves_met separated readable spelled

/-- A step that succeeds keeps the stack equal to the values of a forest. -/
theorem exists_forest_of_step {stack next : List Value} {placed : String × Nat}
    {forest : List (ExpressionTree String)}
    (denoted : List.Forall₂ (fun tree value => tree.Denotes domain value) forest stack)
    (stepped : domain.step direction stack placed = .ok next) :
    ∃ grown, List.Forall₂ (fun tree value => tree.Denotes domain value) grown next ∧
      forestMet direction grown = forestMet direction forest ++ [placed.1] := by
  obtain ⟨token, position⟩ := placed
  rcases step_ok_cases stepped with ⟨value, read, rfl⟩ |
    ⟨operator, top, below, rest, value, rfl, rfl, combined, rfl⟩
  · refine ⟨.leaf token :: forest, .cons ⟨.leaf value, ?_, rfl⟩ denoted, ?_⟩
    · simp [ExpressionTree.read?, read]
    · rw [forestMet_cons]
      rfl
  · cases denoted with
    | cons onTop others =>
        cases others with
        | cons onBelow others =>
            refine ⟨_, .cons (denotes_join onTop onBelow combined) others, ?_⟩
            simp only [forestMet_cons, met_join, List.append_assoc]

theorem exists_forest_of_scan {stack final : List Value} {placed : List (String × Nat)}
    {forest : List (ExpressionTree String)}
    (denoted : List.Forall₂ (fun tree value => tree.Denotes domain value) forest stack)
    (scanned : domain.scan direction stack placed = .ok final) :
    ∃ grown, List.Forall₂ (fun tree value => tree.Denotes domain value) grown final ∧
      forestMet direction grown = forestMet direction forest ++ placed.map Prod.fst := by
  -- The trees on the stack have met all tokens so far, in their order.
  induction placed generalizing stack forest with
  | nil =>
      cases scanned
      exact ⟨forest, denoted, (List.append_nil _).symm⟩
  | cons first rest inductionHypothesis =>
      obtain ⟨next, stepped, continued⟩ := exists_step_of_scan_cons scanned
      obtain ⟨middle, middleDenoted, middleMet⟩ := exists_forest_of_step denoted stepped
      obtain ⟨grown, grownDenoted, grownMet⟩ := inductionHypothesis middleDenoted continued
      refine ⟨grown, grownDenoted, ?_⟩
      rw [grownMet, middleMet, List.append_assoc]
      rfl

/-- A run that succeeds ends with its value alone on the stack. -/
theorem scan_of_run {placed : List (String × Nat)} {result : Value}
    (ran : domain.run direction placed = .ok result) :
    domain.scan direction [] placed = .ok [result] := by
  unfold Domain.run at ran
  split at ran
  · rename_i stack scanned
    unfold conclude at ran
    split at ran
    · cases ran
    · rw [scanned, Except.ok.inj ran]
    · cases ran
  · cases ran

theorem run_eq_ok_iff {placed : List (String × Nat)} {result : Value} :
    domain.run direction placed = .ok result ↔
      domain.scan direction [] placed = .ok [result] := by
  constructor
  · exact scan_of_run
  · intro scanned
    rw [run, scanned]
    rfl

/-- A run that succeeds has met the tokens of one tree with that value. -/
theorem exists_tree_of_run {placed : List (String × Nat)} {result : Value}
    (ran : domain.run direction placed = .ok result) :
    ∃ tree : ExpressionTree String, tree.met direction = placed.map Prod.fst ∧
      tree.Denotes domain result := by
  obtain ⟨grown, denoted, met⟩ := exists_forest_of_scan .nil (scan_of_run ran)
  cases denoted with
  | cons onTop others =>
      cases others
      refine ⟨_, ?_, onTop⟩
      simpa [forestMet] using met

/-- A postfix notation that spells a tree has the value of the tree. -/
theorem evaluatePostfix_of_tree (separated : domain.SeparatesOperators)
    {tree : ExpressionTree String} {numbers : ExpressionTree Value}
    (readable : tree.read? domain = some numbers) {sequence : TokenSequence}
    (spelled : sequence.toList = tree.postfixTokens) :
    domain.evaluatePostfix sequence = (numbers.value domain).mapError Fault.arithmetic := by
  rw [← valueMet_forward]
  apply Leaves.run
  apply leaves_met separated readable
  rw [List.zipIdx_map_fst, spelled, met_forward]

/-- A postfix notation that spells a tree with a value is evaluated to it. -/
theorem evaluatePostfix_of_denotes (separated : domain.SeparatesOperators)
    {tree : ExpressionTree String} {result : Value} (denotes : tree.Denotes domain result)
    {sequence : TokenSequence} (spelled : sequence.toList = tree.postfixTokens) :
    domain.evaluatePostfix sequence = .ok result := by
  have met : sequence.toList.zipIdx.map Prod.fst = tree.met .forward := by
    rw [List.zipIdx_map_fst, spelled, met_forward]
  exact (leaves_of_denotes separated denotes met).run

/-- A prefix notation is evaluated with the right operands first. -/
theorem evaluatePrefix_of_tree (separated : domain.SeparatesOperators)
    {tree : ExpressionTree String} {numbers : ExpressionTree Value}
    (readable : tree.read? domain = some numbers) {sequence : TokenSequence}
    (spelled : sequence.split = tree.prefixTokens) :
    domain.evaluatePrefix sequence =
      (numbers.valueMet domain .backward).mapError Fault.arithmetic := by
  apply Leaves.run
  apply leaves_met separated readable
  rw [List.map_reverse, List.zipIdx_map_fst, spelled, met_backward]

/-- A prefix notation that spells a tree with a value is evaluated to it. -/
theorem evaluatePrefix_of_denotes (separated : domain.SeparatesOperators)
    {tree : ExpressionTree String} {result : Value} (denotes : tree.Denotes domain result)
    {sequence : TokenSequence} (spelled : sequence.split = tree.prefixTokens) :
    domain.evaluatePrefix sequence = .ok result := by
  have met : sequence.split.zipIdx.reverse.map Prod.fst = tree.met .backward := by
    rw [List.map_reverse, List.zipIdx_map_fst, spelled, met_backward]
  exact (leaves_of_denotes separated denotes met).run

/-- A postfix notation with a value spells a tree with that value. -/
theorem exists_tree_of_evaluatePostfix {sequence : TokenSequence} {result : Value}
    (evaluated : domain.evaluatePostfix sequence = .ok result) :
    ∃ tree : ExpressionTree String, sequence.toList = tree.postfixTokens ∧
      tree.Denotes domain result := by
  obtain ⟨tree, met, denotes⟩ := exists_tree_of_run evaluated
  refine ⟨tree, ?_, denotes⟩
  rw [← met_forward, met, List.zipIdx_map_fst]

/-- A prefix notation with a value spells a tree with that value. -/
theorem exists_tree_of_evaluatePrefix {sequence : TokenSequence} {result : Value}
    (evaluated : domain.evaluatePrefix sequence = .ok result) :
    ∃ tree : ExpressionTree String, sequence.split = tree.prefixTokens ∧
      tree.Denotes domain result := by
  obtain ⟨tree, met, denotes⟩ := exists_tree_of_run evaluated
  refine ⟨tree, ?_, denotes⟩
  rwa [met_backward, List.map_reverse, List.zipIdx_map_fst, List.reverse_inj, eq_comm] at met

end Domain

end PolishNotation
