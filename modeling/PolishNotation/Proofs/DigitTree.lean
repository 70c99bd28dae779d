import PolishNotation.Proofs.DisciplinedTree
import PolishNotation.Proofs.RationalPower
import PolishNotation.Proofs.NotationAgreement

namespace PolishNotation

/-- Apart from powers only a division by zero has no exact result. -/
theorem Domain.exists_applyRational_iff {operator : Operator} {left right : Rat}
    (tame : operator ≠ .power) :
    (∃ value, applyRational operator left right = .ok value) ↔
      (operator = .divide → right ≠ 0) := by
  cases operator with
  | plus => simp [applyRational]
  | minus => simp [applyRational]
  | times => simp [applyRational]
  | divide =>
      simp only [applyRational]
      split
      · rename_i zero
        simp [zero]
      · rename_i nonzero
        simp [nonzero]
  | power => exact absurd rfl tame

namespace ExpressionTree

variable {Leaf Other Item : Type} {rules : Rules}

/-- Every leaf is replaced, and the operators stay. -/
def map (image : Leaf → Other) : ExpressionTree Leaf → ExpressionTree Other
  | .leaf value => .leaf (image value)
  | .node operator left right => .node operator (left.map image) (right.map image)

theorem postorder_map (image : Leaf → Other) (ofLeaf : Other → Item)
    (ofOperator : Operator → Item) (tree : ExpressionTree Leaf) :
    (tree.map image).postorder ofLeaf ofOperator =
      tree.postorder (fun leaf => ofLeaf (image leaf)) ofOperator := by
  induction tree with
  | leaf value => rfl
  | node operator left right leftHypothesis rightHypothesis =>
      rw [map, postorder, postorder, leftHypothesis, rightHypothesis]

theorem leaves_map (image : Leaf → Other) (tree : ExpressionTree Leaf) :
    (tree.map image).leaves = tree.leaves.map image := by
  induction tree with
  | leaf value => rfl
  | node operator left right leftHypothesis rightHypothesis =>
      rw [map, leaves, leaves, leftHypothesis, rightHypothesis, List.map_append]

/-- The leaves of a tree are the items of its chain. -/
theorem items_chain (tree : ExpressionTree Leaf) : tree.chain.items = tree.leaves := by
  induction tree with
  | leaf value => rfl
  | node operator left right leftHypothesis rightHypothesis =>
      rw [leaves, ← leftHypothesis, ← rightHypothesis]
      simp [chain, Chain.items]

theorem links_chain_node (operator : Operator) (left right : ExpressionTree Leaf) :
    (node operator left right).chain.links =
      left.chain.links ++ operator :: right.chain.links := by
  simp [chain, Chain.links]

theorem root_mem_links {tree : ExpressionTree Leaf} {root : Operator}
    (atRoot : root ∈ tree.root?) : root ∈ tree.chain.links := by
  cases tree with
  | leaf value => cases atRoot
  | node operator left right =>
      obtain rfl : operator = root := Option.some.inj atRoot
      rw [links_chain_node]
      exact List.mem_append_right _ (List.mem_cons_self ..)

/-- A tree is read as numbers if each of its leaves is. -/
theorem read?_map {Value : Type} {domain : Domain Value} {tree : ExpressionTree Leaf}
    {token : Leaf → String} {number : Leaf → Value}
    (reads : ∀ leaf ∈ tree.leaves, domain.read? (token leaf) = some (number leaf)) :
    (tree.map token).read? domain = some (tree.map number) := by
  induction tree with
  | leaf value =>
      have alone := reads value (List.mem_singleton_self _)
      rw [map, read?, alone]
      rfl
  | node operator left right leftHypothesis rightHypothesis =>
      refine read?_node_eq_some_iff.mpr ⟨left.map number, right.map number, ?_, ?_, rfl⟩
      · exact leftHypothesis fun leaf member => reads leaf (List.mem_append_left _ member)
      · exact rightHypothesis fun leaf member => reads leaf (List.mem_append_right _ member)

section Exact

variable (number : Leaf → Nat)

/-- The exact value of a tree whose leaves stand for natural numbers. -/
def exactValue (tree : ExpressionTree Leaf) : Except ArithmeticFault Rat :=
  (tree.map fun leaf => (number leaf : Rat)).value Domain.exact

theorem exactValue_node (operator : Operator) (left right : ExpressionTree Leaf) :
    (node operator left right).exactValue number = (do
      let leftValue ← left.exactValue number
      let rightValue ← right.exactValue number
      Domain.applyRational operator leftValue rightValue) := rfl

variable {number}

/-- A tree on the right of a power is natural or too large. -/
theorem exactValue_of_exponent {tree : ExpressionTree Leaf} (disciplined : tree.Disciplined rules)
    (exponent : ∀ root ∈ tree.root?, rules.AdmitsRight .power root) :
    (∃ value : Nat, tree.exactValue number = .ok (value : Rat)) ∨
      tree.exactValue number = .error .exponentTooLarge := by
  induction tree with
  | leaf value => exact .inl ⟨number value, rfl⟩
  | node operator left right leftHypothesis rightHypothesis =>
      obtain ⟨rfl, onRight⟩ : operator = .power ∧ rules.rightAssociativePower = true := by
        have admitted := exponent operator rfl
        obtain ⟨associates⟩ := rules
        revert admitted
        cases associates <;> cases operator <;> decide
      -- The base is a leaf, and the exponent is again a tower of powers.
      obtain ⟨base, rfl⟩ : ∃ base, left = .leaf base := by
        cases left with
        | leaf base => exact ⟨base, rfl⟩
        | node child _ _ =>
            have admitted := disciplined.1 child rfl
            rw [Rules.AdmitsLeft, onRight] at admitted
            cases admitted
      rw [exactValue_node]
      rcases rightHypothesis disciplined.2.2.2 disciplined.2.1 with ⟨value, evaluated⟩ | failed
      · rw [evaluated]
        change (∃ result : Nat, Rational.power (number base) value = .ok (result : Rat)) ∨
          Rational.power (number base) value = .error .exponentTooLarge
        rw [Rational.power_natCast]
        split
        · exact .inr rfl
        · exact .inl ⟨number base ^ value, by rw [Nat.cast_pow]⟩
      · rw [failed]
        exact .inr rfl

/-- A disciplined tree of natural numbers never has a fractional exponent. -/
theorem exactValue_fault {tree : ExpressionTree Leaf} (disciplined : tree.Disciplined rules)
    {fault : ArithmeticFault} (failed : tree.exactValue number = .error fault) :
    fault = .divisionByZero ∨
      (fault = .exponentTooLarge ∧ Operator.power ∈ tree.chain.links) := by
  induction tree generalizing fault with
  | leaf value => cases failed
  | node operator left right leftHypothesis rightHypothesis =>
      rw [exactValue_node] at failed
      rw [links_chain_node]
      rcases cases_of_operation_eq_error failed with
        onLeft | onRight | ⟨leftValue, rightValue, -, onRight, applied⟩
      · refine (leftHypothesis disciplined.2.2.1 onLeft).imp_right fun large => ⟨large.1, ?_⟩
        exact List.mem_append_left _ large.2
      · refine (rightHypothesis disciplined.2.2.2 onRight).imp_right fun large => ⟨large.1, ?_⟩
        exact List.mem_append_right _ (List.mem_cons_of_mem _ large.2)
      · by_cases power : operator = .power
        · subst power
          have atRoot : Operator.power ∈ left.chain.links ++ .power :: right.chain.links :=
            List.mem_append_right _ (List.mem_cons_self ..)
          have exponent : (∃ value : Nat, right.exactValue number = .ok (value : Rat)) ∨
              right.exactValue number = .error .exponentTooLarge :=
            exactValue_of_exponent disciplined.2.2.2 disciplined.2.1
          rcases exponent with ⟨value, evaluated⟩ | tooLarge
          · rw [evaluated] at onRight
            obtain rfl := Except.ok.inj onRight
            change Rational.power leftValue value = .error fault at applied
            rw [Rational.power_natCast] at applied
            split at applied
            · exact .inr ⟨(Except.error.inj applied).symm, atRoot⟩
            · cases applied
          · rw [tooLarge] at onRight
            cases onRight
        · exact .inl (Domain.applyRational_eq_error power applied)

/-- Without powers the divisors of a disciplined tree are leaves. -/
theorem Disciplined.exists_divisor {left right : ExpressionTree Leaf}
    (disciplined : (node .divide left right).Disciplined rules)
    (tame : Operator.power ∉ right.chain.links) : ∃ divisor, right = .leaf divisor := by
  cases right with
  | leaf divisor => exact ⟨divisor, rfl⟩
  | node child first second =>
      have above : Operator.divide.precedence < child.precedence := by
        have admitted := disciplined.2.1 child rfl
        rwa [Rules.AdmitsRight, if_neg (by simp)] at admitted
      have power : child = .power := by
        have bound := precedence_le_three child
        change 2 < child.precedence at above
        rw [eq_power_iff]
        omega
      exact absurd (root_mem_links (congrArg some power)) tame

/-- Without powers only a zero after a quotient prevents an exact value. -/
theorem exists_exactValue_iff {tree : ExpressionTree Leaf} (disciplined : tree.Disciplined rules)
    (tame : Operator.power ∉ tree.chain.links) :
    (∃ value, tree.exactValue number = .ok value) ↔
      ∀ link ∈ tree.chain.rest, link.1 = .divide → number link.2 ≠ 0 := by
  induction tree with
  | leaf leaf => exact ⟨fun _ link member => (nomatch member), fun _ => ⟨number leaf, rfl⟩⟩
  | node operator left right leftHypothesis rightHypothesis =>
      simp only [links_chain_node, List.mem_append, List.mem_cons, not_or] at tame
      obtain ⟨leftTame, otherThanPower, rightTame⟩ := tame
      have notPower := Ne.symm otherThanPower
      have onLeft := leftHypothesis disciplined.2.2.1 leftTame
      have onRight := rightHypothesis disciplined.2.2.2 rightTame
      simp only [exactValue_node, operation_eq_ok_iff, chain, List.mem_append, List.mem_cons,
        or_imp, forall_and, forall_eq]
      rw [← onLeft, ← onRight]
      constructor
      · intro evaluated
        obtain ⟨value, leftValue, rightValue, leftEvaluated, rightEvaluated, applied⟩ := evaluated
        refine ⟨⟨leftValue, leftEvaluated⟩, ?_, ⟨rightValue, rightEvaluated⟩⟩
        intro divides
        subst divides
        obtain ⟨divisor, rfl⟩ := disciplined.exists_divisor rightTame
        obtain rfl := Except.ok.inj rightEvaluated
        have nonzero := (Domain.exists_applyRational_iff notPower).mp ⟨value, applied⟩ rfl
        exact Nat.cast_ne_zero.mp nonzero
      · intro evaluated
        obtain ⟨⟨leftValue, leftEvaluated⟩, nonzero, ⟨rightValue, rightEvaluated⟩⟩ := evaluated
        obtain ⟨value, applied⟩ : ∃ value,
            Domain.applyRational operator leftValue rightValue = .ok value := by
          refine (Domain.exists_applyRational_iff notPower).mpr fun divides => ?_
          subst divides
          obtain ⟨divisor, rfl⟩ := disciplined.exists_divisor rightTame
          obtain rfl := Except.ok.inj rightEvaluated
          exact Nat.cast_ne_zero.mpr (nonzero rfl)
        exact ⟨value, leftValue, rightValue, leftEvaluated, rightEvaluated, applied⟩

end Exact

end ExpressionTree

end PolishNotation
