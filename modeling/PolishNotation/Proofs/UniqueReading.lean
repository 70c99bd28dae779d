import PolishNotation.Proofs.TreeScan

namespace PolishNotation

namespace Domain

variable {Value : Type} {domain : Domain Value}

/-- This domain reads the same tokens, and its operators build trees. -/
def trees (domain : Domain Value) : Domain (ExpressionTree String) where
  read? token := (domain.read? token).map fun _ => .leaf token
  apply operator left right := .ok (.node operator left right)

theorem read?_trees (domain : Domain Value) (token : String) :
    domain.trees.read? token = (domain.read? token).map fun _ => .leaf token := rfl

theorem SeparatesOperators.trees (separated : domain.SeparatesOperators) :
    domain.trees.SeparatesOperators := by
  intro operator
  rw [read?_trees, separated operator, Option.map_none]

/-- Where its leaves are numbers, a tree denotes itself. -/
theorem denotes_trees {tree : ExpressionTree String}
    (readable : (tree.read? domain).isSome = true) : tree.Denotes domain.trees tree := by
  rw [ExpressionTree.isSome_read?_iff] at readable
  induction tree with
  | leaf token =>
      obtain ⟨value, read⟩ := Option.isSome_iff_exists.mp
        (readable token (List.mem_singleton_self token))
      refine ⟨.leaf (.leaf token), ?_, rfl⟩
      rw [ExpressionTree.read?, read?_trees, read, Option.map_some, Option.map_some]
  | node operator left right leftHypothesis rightHypothesis =>
      have onLeft := leftHypothesis fun token member =>
        readable token (List.mem_append_left _ member)
      have onRight := rightHypothesis fun token member =>
        readable token (List.mem_append_right _ member)
      have joined : (ExpressionTree.join .forward operator right left).Denotes domain.trees
          (.node operator left right) := ExpressionTree.denotes_join onRight onLeft rfl
      exact joined

/-- Two trees of numbers with the same tokens met are the same. -/
theorem eq_of_met_eq (separated : domain.SeparatesOperators) (direction : Direction)
    {first second : ExpressionTree String} (firstReadable : (first.read? domain).isSome = true)
    (secondReadable : (second.read? domain).isSome = true)
    (same : first.met direction = second.met direction) : first = second := by
  -- The scan of these tokens leaves each of the two trees on the stack.
  have tokens : (first.met direction).zipIdx.map Prod.fst = first.met direction :=
    List.zipIdx_map_fst ..
  have onFirst := leaves_of_denotes separated.trees (denotes_trees firstReadable) tokens
  have onSecond := leaves_of_denotes separated.trees (denotes_trees secondReadable)
    (tokens.trans same)
  have reached : pushOutcome [] (.ok first) = pushOutcome [] (.ok second) :=
    (onFirst []).symm.trans (onSecond [])
  exact (List.cons.inj (Except.ok.inj reached)).1

/-- Two trees of numbers with the same postfix notation are the same. -/
theorem eq_of_postfixTokens_eq (separated : domain.SeparatesOperators)
    {first second : ExpressionTree String} (firstReadable : (first.read? domain).isSome = true)
    (secondReadable : (second.read? domain).isSome = true)
    (same : first.postfixTokens = second.postfixTokens) : first = second := by
  apply eq_of_met_eq separated .forward firstReadable secondReadable
  rw [ExpressionTree.met_forward, ExpressionTree.met_forward, same]

/-- Two trees of numbers with the same prefix notation are the same. -/
theorem eq_of_prefixTokens_eq (separated : domain.SeparatesOperators)
    {first second : ExpressionTree String} (firstReadable : (first.read? domain).isSome = true)
    (secondReadable : (second.read? domain).isSome = true)
    (same : first.prefixTokens = second.prefixTokens) : first = second := by
  apply eq_of_met_eq separated .backward firstReadable secondReadable
  rw [ExpressionTree.met_backward, ExpressionTree.met_backward, same]

/-- The values are those of the at most one tree a notation spells. -/
structure FollowsTrees (domain : Domain Value) (sequence : TokenSequence) : Prop where
  value : ∀ result, domain.evaluatePostfix sequence = .ok result ↔
    ∃ tree : ExpressionTree String, sequence.toList = tree.postfixTokens ∧
      tree.Denotes domain result
  unique : ∀ first second : ExpressionTree String,
    (first.read? domain).isSome = true → sequence.toList = first.postfixTokens →
    (second.read? domain).isSome = true → sequence.toList = second.postfixTokens →
    first = second

theorem SeparatesOperators.followsTrees (separated : domain.SeparatesOperators)
    (sequence : TokenSequence) : domain.FollowsTrees sequence where
  value result := by
    constructor
    · exact exists_tree_of_evaluatePostfix
    · rintro ⟨tree, spelled, denotes⟩
      exact evaluatePostfix_of_denotes separated denotes spelled
  unique first second firstReadable firstSpelled secondReadable secondSpelled :=
    eq_of_postfixTokens_eq separated firstReadable secondReadable
      (firstSpelled.symm.trans secondSpelled)

end Domain

/-- A postfix notation has the value of the one tree it spells. -/
theorem evaluatePostfix_follows_trees (sequence : TokenSequence) :
    Domain.floating.FollowsTrees sequence ∧ Domain.exact.FollowsTrees sequence ∧
      ∀ (Value : Type) (number : Decimal.Literal → Value)
          (operation : Operator → Value → Value → Value),
        (Domain.total number operation).FollowsTrees sequence := by
  have total (Value : Type) (number : Decimal.Literal → Value)
      (operation : Operator → Value → Value → Value) :
      (Domain.total number operation).FollowsTrees sequence :=
    (Domain.separatesOperators_total number operation).followsTrees sequence
  exact ⟨total Float Decimal.Literal.toFloat Domain.applyFloat,
    Domain.separatesOperators_exact.followsTrees sequence, total⟩

/-- A sign belongs to a longer token and is an operator alone. -/
theorem evaluatePostfix_follows_trees_of_signed_tokens :
    Domain.exact.evaluatePostfix (.ofList ["-12", "2", "+3", "-", "^"]) = .ok (-1 / 12) ∧
      ∃! tree : ExpressionTree String, (tree.read? Domain.exact).isSome = true ∧
        ["-12", "2", "+3", "-", "^"] = tree.postfixTokens := by
  obtain ⟨-, follows, -⟩ :=
    evaluatePostfix_follows_trees (.ofList ["-12", "2", "+3", "-", "^"])
  have read : (ExpressionTree.node .power (.leaf "-12")
      (.node .minus (.leaf "2") (.leaf "+3"))).read? Domain.exact =
        some (.node .power (.leaf (-12)) (.node .minus (.leaf 2) (.leaf 3))) := by
    decide +kernel
  have evaluated : (ExpressionTree.node .power (.leaf (-12))
      (.node .minus (.leaf 2) (.leaf 3))).value Domain.exact = .ok (-1 / 12) := by
    decide +kernel
  have readable := Option.isSome_iff_exists.mpr ⟨_, read⟩
  refine ⟨(follows.value _).mpr ⟨_, rfl, _, read, evaluated⟩, _, ⟨readable, rfl⟩, ?_⟩
  intro other otherReads
  exact follows.unique other _ otherReads.1 otherReads.2 readable rfl

end PolishNotation
