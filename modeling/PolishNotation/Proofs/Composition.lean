import PolishNotation.Proofs.TreeScan

namespace PolishNotation

namespace Domain

variable {Value : Type} {domain : Domain Value} {direction : Direction}

/-- A notation that has a value leaves it on top of every stack. -/
theorem leaves_of_run (separated : domain.SeparatesOperators) {placed moved : List (String × Nat)}
    {value : Value} (ran : domain.run direction placed = .ok value)
    (same : moved.map Prod.fst = placed.map Prod.fst) :
    domain.Leaves direction moved (.ok value) := by
  obtain ⟨tree, met, denotes⟩ := exists_tree_of_run ran
  exact leaves_of_denotes separated denotes (same.trans met.symm)

/-- Two notations with values and an operator after them make an operation. -/
theorem run_operation (separated : domain.SeparatesOperators)
    {first second placed : List (String × Nat)} {below top : Value} {operator : Operator}
    (firstRan : domain.run direction first = .ok below)
    (secondRan : domain.run direction second = .ok top)
    (spelled : placed.map Prod.fst =
      first.map Prod.fst ++ (second.map Prod.fst ++ [operator.token])) :
    domain.run direction placed =
      (domain.combine direction operator top below).mapError Fault.arithmetic :=
  (Leaves.operation_of_tokens separated (fun _ same => leaves_of_run separated firstRan same)
    (fun _ same => leaves_of_run separated secondRan same) spelled).run

/-- The position of a token only shows in a fault. -/
theorem step_ok_of_token (separated : domain.SeparatesOperators) {stack next : List Value}
    {first second : String × Nat} (same : first.1 = second.1)
    (stepped : domain.step direction stack first = .ok next) :
    domain.step direction stack second = .ok next := by
  obtain ⟨token, position⟩ := first
  obtain ⟨_, other⟩ := second
  cases same
  rcases step_ok_cases stepped with ⟨value, read, rfl⟩ |
    ⟨operator, top, below, rest, value, rfl, rfl, combined, rfl⟩
  · exact step_number read stack other
  · rw [step_operator separated, combined]
    rfl

theorem scan_ok_of_tokens (separated : domain.SeparatesOperators) {stack final : List Value}
    {first second : List (String × Nat)} (same : first.map Prod.fst = second.map Prod.fst)
    (scanned : domain.scan direction stack first = .ok final) :
    domain.scan direction stack second = .ok final := by
  induction first generalizing stack second with
  | nil =>
      rw [List.map_nil, eq_comm, List.map_eq_nil_iff] at same
      rw [same]
      exact scanned
  | cons here rest inductionHypothesis =>
      rw [List.map_cons, eq_comm] at same
      obtain ⟨there, others, rfl, sameToken, sameTokens⟩ := List.map_eq_cons_iff.mp same
      obtain ⟨next, stepped, continued⟩ := exists_step_of_scan_cons scanned
      rw [scan, step_ok_of_token separated sameToken.symm stepped]
      exact inductionHypothesis sameTokens.symm continued

/-- Two parts that leave the same value can stand for one another. -/
theorem evaluatePostfix_exchange (separated : domain.SeparatesOperators)
    {part other : List String} {value : Value}
    (partLeaves : ∀ placed : List (String × Nat), placed.map Prod.fst = part →
      domain.Leaves .forward placed (.ok value))
    (otherLeaves : ∀ placed : List (String × Nat), placed.map Prod.fst = other →
      domain.Leaves .forward placed (.ok value))
    {before after : List String} {result : Value}
    (evaluated : domain.evaluatePostfix (.ofList (before ++ part ++ after)) = .ok result) :
    domain.evaluatePostfix (.ofList (before ++ other ++ after)) = .ok result := by
  simp only [evaluatePostfix, TokenSequence.toList_ofList, List.zipIdx_append, run_eq_ok_iff,
    scan_append_eq_ok_iff] at evaluated ⊢
  obtain ⟨grown, ⟨stack, onBefore, onPart⟩, onAfter⟩ := evaluated
  rw [partLeaves _ (List.zipIdx_map_fst ..)] at onPart
  cases onPart
  -- The rest of the notation finds the same stack, at other positions.
  refine ⟨value :: stack, ⟨stack, onBefore, otherLeaves _ (List.zipIdx_map_fst ..) stack⟩, ?_⟩
  apply scan_ok_of_tokens separated _ onAfter
  rw [List.zipIdx_map_fst, List.zipIdx_map_fst]

/-- A run that fails before its end has met its fault in the scan. -/
theorem scan_of_run_eq_error {placed : List (String × Nat)} {fault : Fault}
    (ran : domain.run direction placed = .error fault) (notEmpty : fault ≠ .emptyInput)
    (notLeftover : ∀ count, fault ≠ .leftover count) :
    domain.scan direction [] placed = .error fault := by
  unfold run at ran
  split at ran
  · rename_i stack scanned
    unfold conclude at ran
    split at ran
    · exact absurd (Except.error.inj ran).symm notEmpty
    · cases ran
    · exact absurd (Except.error.inj ran).symm (notLeftover _)
  · rename_i other scanned
    rw [scanned, Except.error.inj ran]

/-- The value of a notation is found again in every longer notation. -/
structure Composes (domain : Domain Value) : Prop where
  /-- Two postfix notations before an operator make an operation. -/
  postfixOperation : ∀ first second operator left right,
    domain.evaluatePostfix (.ofList first) = .ok left →
    domain.evaluatePostfix (.ofList second) = .ok right →
      domain.evaluatePostfix (.ofList (first ++ second ++ [operator.token])) =
        (domain.apply operator left right).mapError Fault.arithmetic
  /-- Two prefix notations after an operator make an operation. -/
  prefixOperation : ∀ first second operator left right,
    domain.evaluatePrefix (.ofList first) = .ok left →
    domain.evaluatePrefix (.ofList second) = .ok right →
      domain.evaluatePrefix (.ofList ([operator.token] ++ first ++ second)) =
        (domain.apply operator left right).mapError Fault.arithmetic
  /-- A number can stand for a part with the same value. -/
  exchange : ∀ before part after token value,
    domain.evaluatePostfix (.ofList part) = .ok value → domain.read? token = some value →
      ∀ result, domain.evaluatePostfix (.ofList (before ++ part ++ after)) = .ok result ↔
        domain.evaluatePostfix (.ofList (before ++ [token] ++ after)) = .ok result
  /-- What comes after a fault does not change it. -/
  fault : ∀ before after fault, domain.evaluatePostfix (.ofList before) = .error fault →
    fault ≠ .emptyInput → (∀ count, fault ≠ .leftover count) →
      domain.evaluatePostfix (.ofList (before ++ after)) = .error fault

theorem SeparatesOperators.composes (separated : domain.SeparatesOperators) :
    domain.Composes where
  postfixOperation first second operator left right onFirst onSecond := by
    apply run_operation separated onFirst onSecond
    simp only [TokenSequence.toList_ofList, List.zipIdx_map_fst, List.append_assoc]
  prefixOperation first second operator left right onFirst onSecond := by
    -- The scan meets the second operand first.
    apply run_operation separated onSecond onFirst
    simp only [List.map_reverse, List.zipIdx_map_fst, TokenSequence.split,
      TokenSequence.toList_ofList, List.flatMap_append, List.flatMap_singleton, Operator.token,
      String.toList_singleton, List.map_singleton, List.reverse_append, List.reverse_singleton]
  exchange before part after token value evaluated read result := by
    have partLeaves (placed : List (String × Nat)) (spelled : placed.map Prod.fst = part) :
        domain.Leaves .forward placed (.ok value) := by
      apply leaves_of_run separated evaluated
      rw [spelled, List.zipIdx_map_fst, TokenSequence.toList_ofList]
    have tokenLeaves (placed : List (String × Nat)) (spelled : placed.map Prod.fst = [token]) :
        domain.Leaves .forward placed (.ok value) := by
      obtain ⟨⟨_, position⟩, rfl, rfl⟩ := List.map_eq_singleton_iff.mp spelled
      exact Leaves.number read position
    constructor
    · exact evaluatePostfix_exchange separated partLeaves tokenLeaves
    · exact evaluatePostfix_exchange separated tokenLeaves partLeaves
  fault before after fault evaluated notEmpty notLeftover := by
    have scanned : domain.scan .forward [] before.zipIdx = .error fault :=
      scan_of_run_eq_error evaluated notEmpty notLeftover
    rw [evaluatePostfix, TokenSequence.toList_ofList, List.zipIdx_append, run, scan_append,
      scanned]

end Domain

/-- Evaluations compose in doubles, in exact arithmetic and in every total domain. -/
theorem evaluations_compose :
    Domain.floating.Composes ∧ Domain.exact.Composes ∧
      ∀ (Value : Type) (number : Decimal.Literal → Value)
          (operation : Operator → Value → Value → Value),
        (Domain.total number operation).Composes := by
  have total (Value : Type) (number : Decimal.Literal → Value)
      (operation : Operator → Value → Value → Value) :
      (Domain.total number operation).Composes :=
    (Domain.separatesOperators_total number operation).composes
  exact ⟨total Float Decimal.Literal.toFloat Domain.applyFloat,
    Domain.separatesOperators_exact.composes, total⟩

/-- A half to the power of minus three, and a fault that nothing hides. -/
theorem evaluations_compose_of_fraction :
    Domain.exact.evaluatePostfix (.ofList ["1", "2", "/", "2", "5", "-", "^"]) = .ok 8 ∧
      Domain.exact.evaluatePrefix (.ofList ["^", "/1", "2", "-25"]) = .ok 8 ∧
      Domain.exact.evaluatePostfix (.ofList ["1", "2", "/", "-3", "^"]) = .ok 8 ∧
      Domain.exact.evaluatePostfix (.ofList ["4", "0", "/", "x", "+"]) =
        .error (.arithmetic .divisionByZero) := by
  have composes := evaluations_compose.2.1
  have power : Domain.exact.apply .power (1 / 2) (-3) = .ok 8 := by decide +kernel
  have onPostfix := composes.postfixOperation ["1", "2", "/"] ["2", "5", "-"] .power (1 / 2) (-3)
    (by decide +kernel) (by decide +kernel)
  have onPrefix := composes.prefixOperation ["/1", "2"] ["-25"] .power (1 / 2) (-3)
    (by decide +kernel) (by decide +kernel)
  rw [power] at onPostfix onPrefix
  have exchanged := composes.exchange ["1", "2", "/"] ["2", "5", "-"] ["^"] "-3" (-3)
    (by decide +kernel) (by decide +kernel) 8
  have failed := composes.fault ["4", "0", "/"] ["x", "+"] (.arithmetic .divisionByZero)
    (by decide +kernel) (by decide) (by intro count impossible; cases impossible)
  exact ⟨onPostfix, onPrefix, exchanged.mp onPostfix, failed⟩

end PolishNotation
