import PolishNotation.ExpressionTree
import PolishNotation.Proofs.Chain
import PolishNotation.Proofs.Noise

namespace PolishNotation

namespace Rules

/-- No weaker operator stands on the left, and none left of right-associative powers. -/
def AdmitsLeft (rules : Rules) (parent child : Operator) : Prop :=
  if rules.rightAssociativePower && parent == .power then
    False
  else
    parent.precedence ≤ child.precedence

/-- Only powers stand right of right-associative powers, otherwise only stronger operators. -/
def AdmitsRight (rules : Rules) (parent child : Operator) : Prop :=
  if rules.rightAssociativePower && parent == .power then
    child = .power
  else
    parent.precedence < child.precedence

instance (rules : Rules) (parent child : Operator) : Decidable (rules.AdmitsLeft parent child) :=
  inferInstanceAs (Decidable (if rules.rightAssociativePower && parent == .power then False
    else parent.precedence ≤ child.precedence))

instance (rules : Rules) (parent child : Operator) :
    Decidable (rules.AdmitsRight parent child) :=
  inferInstanceAs (Decidable (if rules.rightAssociativePower && parent == .power then
    child = .power else parent.precedence < child.precedence))

/-- An operator on the left leaves the stack when its parent arrives. -/
theorem admitsLeft_iff (rules : Rules) (parent child : Operator) :
    rules.AdmitsLeft parent child ↔ rules.yields parent child = true := by
  obtain ⟨right⟩ := rules
  cases right <;> cases parent <;> cases child <;> decide

/-- An operator on the right arrives while its parent stays on the stack. -/
theorem admitsRight_iff (rules : Rules) (parent child : Operator) :
    rules.AdmitsRight parent child ↔ rules.yields child parent = false := by
  obtain ⟨right⟩ := rules
  cases right <;> cases parent <;> cases child <;> decide

/-- A stronger operator leaves the stack whenever a weaker one does. -/
theorem yields_of_stronger_pending {rules : Rules} {incoming weaker stronger : Operator}
    (order : weaker.precedence ≤ stronger.precedence)
    (leaves : rules.yields incoming weaker = true) : rules.yields incoming stronger = true := by
  rw [yields_eq_true_iff] at leaves ⊢
  exact ⟨leaves.1.trans order, leaves.2⟩

/-- What stays when a weaker operator arrives stays for a stronger one. -/
theorem stays_of_stronger_incoming {rules : Rules} {pending weaker stronger : Operator}
    (order : weaker.precedence ≤ stronger.precedence)
    (stays : rules.yields weaker pending = false) : rules.yields stronger pending = false := by
  rw [Bool.eq_false_iff, Ne, yields_eq_true_iff] at stays ⊢
  intro leaves
  have bound := precedence_le_three stronger
  apply stays
  refine ⟨order.trans leaves.1, fun rightPower => leaves.2 ⟨rightPower.1, ?_⟩⟩
  omega

end Rules

/-- All earlier operators leave for the split, and no later one displaces it. -/
structure IsSplit (rules : Rules) (before : List Symbol) (sign : Operator)
    (after : List Symbol) : Prop where
  leaving : ∀ earlier ∈ signs before, rules.yields sign earlier = true
  staying : ∀ later ∈ signs after, rules.yields later sign = false

/-- No split stands after another one. -/
theorem between_splits_eq_nil {rules : Rules} {before between firstAfter after : List Symbol}
    {first second : Operator} (firstSplit : IsSplit rules before first firstAfter)
    (secondSplit : IsSplit rules (before ++ between) second after)
    (same : .operator first :: firstAfter = between ++ .operator second :: after) :
    between = [] := by
  cases between with
  | nil => rfl
  | cons symbol between =>
      obtain ⟨rfl, rfl⟩ := List.cons.inj same
      have leaves := secondSplit.leaving first (by simp)
      have stays := firstSplit.staying second (by simp)
      rw [leaves] at stays
      cases stays

/-- An expression has at most one split. -/
theorem IsSplit.unique {rules : Rules} {firstBefore firstAfter secondBefore secondAfter :
    List Symbol} {first second : Operator} (firstSplit : IsSplit rules firstBefore first firstAfter)
    (secondSplit : IsSplit rules secondBefore second secondAfter)
    (same : firstBefore ++ .operator first :: firstAfter =
      secondBefore ++ .operator second :: secondAfter) :
    firstBefore = secondBefore ∧ first = second ∧ firstAfter = secondAfter := by
  have place : firstBefore = secondBefore := by
    rcases List.append_eq_append_iff.mp same with ⟨between, rfl, later⟩ | ⟨between, rfl, later⟩
    · rw [between_splits_eq_nil firstSplit secondSplit later, List.append_nil]
    · rw [between_splits_eq_nil secondSplit firstSplit later, List.append_nil]
  rw [place] at same
  have others := List.cons.inj (List.append_cancel_left same)
  exact ⟨place, Symbol.operator.inj others.1, others.2⟩

namespace ExpressionTree

variable {Leaf : Type} {rules : Rules}

/-- A leaf has no operator at its root. -/
def root? : ExpressionTree Leaf → Option Operator
  | .leaf _ => none
  | .node operator _ _ => some operator

/-- Every operator of a disciplined tree admits the operators directly below it. -/
def Disciplined (rules : Rules) : ExpressionTree Leaf → Prop
  | .leaf _ => True
  | .node operator left right =>
      (∀ child ∈ left.root?, rules.AdmitsLeft operator child) ∧
        (∀ child ∈ right.root?, rules.AdmitsRight operator child) ∧
        left.Disciplined rules ∧ right.Disciplined rules

instance decidableDisciplined (rules : Rules) :
    (tree : ExpressionTree Leaf) → Decidable (tree.Disciplined rules)
  | .leaf _ => inferInstanceAs (Decidable True)
  | .node operator left right =>
      have := decidableDisciplined rules left
      have := decidableDisciplined rules right
      inferInstanceAs (Decidable
        ((∀ child ∈ left.root?, rules.AdmitsLeft operator child) ∧
          (∀ child ∈ right.root?, rules.AdmitsRight operator child) ∧
          left.Disciplined rules ∧ right.Disciplined rules))

/-- A tree whose leaves are operands has the symbols of an infix expression. -/
def symbols (tree : ExpressionTree Operand) : List Symbol :=
  tree.inorder .operand .operator

@[simp] theorem symbols_leaf (operand : Operand) :
    (leaf operand).symbols = [.operand operand] := rfl

@[simp] theorem symbols_node (operator : Operator) (left right : ExpressionTree Operand) :
    (node operator left right).symbols =
      left.symbols ++ .operator operator :: right.symbols := rfl

/-- The items of a tree in inorder. -/
def chain : ExpressionTree Leaf → Chain Leaf
  | .leaf value => ⟨value, []⟩
  | .node operator left right =>
      ⟨left.chain.first, left.chain.rest ++ (operator, right.chain.first) :: right.chain.rest⟩

/-- Every inorder list is well-formed. -/
theorem symbols_chain (tree : ExpressionTree Operand) : tree.chain.symbols = tree.symbols := by
  induction tree with
  | leaf operand => rfl
  | node operator left right leftHypothesis rightHypothesis =>
      rw [symbols_node, ← leftHypothesis, ← rightHypothesis]
      simp [chain, Chain.symbols, Chain.spell]

/-- The root of a disciplined tree is one of its weakest operators. -/
theorem Disciplined.root_precedence_le {tree : ExpressionTree Operand}
    (disciplined : tree.Disciplined rules) {root : Operator} (atRoot : root ∈ tree.root?) :
    ∀ sign ∈ signs tree.symbols, root.precedence ≤ sign.precedence := by
  induction tree generalizing root with
  | leaf operand => cases atRoot
  | node operator left right leftHypothesis rightHypothesis =>
      obtain rfl : operator = root := Option.some.inj atRoot
      obtain ⟨admitsLeft, admitsRight, leftDisciplined, rightDisciplined⟩ := disciplined
      intro sign member
      rw [symbols_node, signs_append, signs_cons_operator, List.mem_append,
        List.mem_cons] at member
      rcases member with inLeft | rfl | inRight
      · cases left with
        | leaf operand => cases inLeft
        | node child _ _ =>
            have leaves := (rules.admitsLeft_iff operator child).mp (admitsLeft child rfl)
            have order := ((yields_eq_true_iff rules operator child).mp leaves).1
            exact order.trans (leftHypothesis leftDisciplined rfl sign inLeft)
      · exact Nat.le_refl _
      · cases right with
        | leaf operand => cases inRight
        | node child _ _ =>
            have above := rightHypothesis rightDisciplined rfl sign inRight
            have stays := (rules.admitsRight_iff operator child).mp (admitsRight child rfl)
            rw [Bool.eq_false_iff, Ne, yields_eq_true_iff] at stays
            have bound := precedence_le_three operator
            omega

/-- The inorder list of a disciplined tree is split at the root. -/
theorem Disciplined.isSplit {operator : Operator} {left right : ExpressionTree Operand}
    (disciplined : (node operator left right).Disciplined rules) :
    IsSplit rules left.symbols operator right.symbols where
  leaving := by
    intro sign member
    cases left with
    | leaf operand => cases member
    | node child _ _ =>
        have leaves := (rules.admitsLeft_iff operator child).mp (disciplined.1 child rfl)
        have order := disciplined.2.2.1.root_precedence_le rfl sign member
        exact Rules.yields_of_stronger_pending order leaves
  staying := by
    intro sign member
    cases right with
    | leaf operand => cases member
    | node child _ _ =>
        have stays := (rules.admitsRight_iff operator child).mp (disciplined.2.1 child rfl)
        have order := disciplined.2.2.2.root_precedence_le rfl sign member
        exact Rules.stays_of_stronger_incoming order stays

/-- The conversion lists a disciplined tree in postorder. -/
theorem Disciplined.postfixOrder_symbols {tree : ExpressionTree Operand}
    (disciplined : tree.Disciplined rules) :
    postfixOrder rules tree.symbols = tree.postorder .operand .operator := by
  induction tree with
  | leaf operand => exact postfixOrder_of_signs_eq_nil rules rfl
  | node operator left right leftHypothesis rightHypothesis =>
      obtain ⟨leaving, staying⟩ := disciplined.isSplit
      rw [symbols_node, postfixOrder_split leaving staying, leftHypothesis disciplined.2.2.1,
        rightHypothesis disciplined.2.2.2]
      rfl

/-- A disciplined tree is determined by its inorder list. -/
theorem Disciplined.eq_of_symbols_eq {first second : ExpressionTree Operand}
    (firstDisciplined : first.Disciplined rules) (secondDisciplined : second.Disciplined rules)
    (same : first.symbols = second.symbols) : first = second := by
  induction first generalizing second with
  | leaf operand =>
      cases second with
      | leaf other =>
          obtain rfl : operand = other := Symbol.operand.inj (List.singleton_inj.mp same)
          rfl
      | node operator left right =>
          have noSign := congrArg signs same
          simp at noSign
  | node operator left right leftHypothesis rightHypothesis =>
      cases second with
      | leaf other =>
          have noSign := congrArg signs same
          simp at noSign
      | node otherOperator otherLeft otherRight =>
          obtain ⟨leftSame, rfl, rightSame⟩ :=
            firstDisciplined.isSplit.unique secondDisciplined.isSplit same
          rw [leftHypothesis firstDisciplined.2.2.1 secondDisciplined.2.2.1 leftSame,
            rightHypothesis firstDisciplined.2.2.2 secondDisciplined.2.2.2 rightSame]

/-- A further operator takes in the right edge as far as it yields. -/
def extend (rules : Rules) (tree : ExpressionTree Leaf) (link : Operator × Leaf) :
    ExpressionTree Leaf :=
  match tree with
  | .leaf value => .node link.1 (.leaf value) (.leaf link.2)
  | .node operator left right =>
      if rules.yields link.1 operator then
        .node link.1 (.node operator left right) (.leaf link.2)
      else
        .node operator left (right.extend rules link)

/-- The tree of a chain grows from left to right. -/
def ofChain (rules : Rules) (chain : Chain Leaf) : ExpressionTree Leaf :=
  chain.rest.foldl (extend rules) (.leaf chain.first)

theorem mem_root?_extend {tree : ExpressionTree Leaf} {link : Operator × Leaf}
    {root : Operator} (atRoot : root ∈ (tree.extend rules link).root?) :
    root = link.1 ∨ root ∈ tree.root? := by
  cases tree with
  | leaf value => exact .inl (Option.some.inj atRoot).symm
  | node operator left right =>
      rw [extend] at atRoot
      split at atRoot
      · exact .inl (Option.some.inj atRoot).symm
      · exact .inr atRoot

theorem Disciplined.extend {tree : ExpressionTree Leaf} (disciplined : tree.Disciplined rules)
    (link : Operator × Leaf) : (tree.extend rules link).Disciplined rules := by
  induction tree with
  | leaf value => simp [ExpressionTree.extend, Disciplined, root?]
  | node operator left right leftHypothesis rightHypothesis =>
      rw [ExpressionTree.extend]
      split
      · rename_i leaves
        refine ⟨?_, by simp [root?], disciplined, trivial⟩
        intro child atRoot
        obtain rfl : operator = child := Option.some.inj atRoot
        exact (rules.admitsLeft_iff link.1 operator).mpr leaves
      · rename_i stays
        refine ⟨disciplined.1, ?_, disciplined.2.2.1, rightHypothesis disciplined.2.2.2⟩
        intro child atRoot
        rcases mem_root?_extend atRoot with rfl | below
        · exact (rules.admitsRight_iff operator link.1).mpr (Bool.eq_false_iff.mpr stays)
        · exact disciplined.2.1 child below

/-- The new link stands at the end of the inorder list. -/
theorem chain_extend (tree : ExpressionTree Leaf) (link : Operator × Leaf) :
    (tree.extend rules link).chain = ⟨tree.chain.first, tree.chain.rest ++ [link]⟩ := by
  induction tree with
  | leaf value => rfl
  | node operator left right leftHypothesis rightHypothesis =>
      rw [ExpressionTree.extend]
      split
      · rfl
      · rw [chain, rightHypothesis, chain, List.append_assoc, List.cons_append]

theorem disciplined_ofChain (rules : Rules) (chain : Chain Leaf) :
    (ofChain rules chain).Disciplined rules := by
  obtain ⟨first, rest⟩ := chain
  induction rest using List.reverseRecOn with
  | nil => trivial
  | append_singleton rest link inductionHypothesis =>
      rw [ofChain, List.foldl_append]
      exact inductionHypothesis.extend link

/-- The tree of a chain lists the chain in inorder. -/
@[simp] theorem chain_ofChain (rules : Rules) (chain : Chain Leaf) :
    (ofChain rules chain).chain = chain := by
  obtain ⟨first, rest⟩ := chain
  induction rest using List.reverseRecOn with
  | nil => rfl
  | append_singleton rest link inductionHypothesis =>
      rw [ofChain, List.foldl_append]
      change ((ofChain rules ⟨first, rest⟩).extend rules link).chain = _
      rw [chain_extend, inductionHypothesis]

theorem symbols_ofChain (rules : Rules) (chain : Chain Operand) :
    (ofChain rules chain).symbols = chain.symbols := by
  rw [← symbols_chain, chain_ofChain]

/-- A chain is the inorder list of exactly one disciplined tree. -/
theorem existsUnique_disciplined (rules : Rules) (chain : Chain Operand) :
    ∃! tree : ExpressionTree Operand, tree.Disciplined rules ∧ tree.symbols = chain.symbols := by
  refine ⟨ofChain rules chain, ⟨disciplined_ofChain rules chain, symbols_ofChain rules chain⟩, ?_⟩
  intro other candidate
  apply candidate.1.eq_of_symbols_eq (disciplined_ofChain rules chain)
  rw [candidate.2, symbols_ofChain]

/-- The inorder text of a tree has no parentheses and no blanks. -/
def text (tree : ExpressionTree Operand) : String :=
  String.ofList (tree.inorder Operand.character Operator.symbol)

theorem map_character_symbols (tree : ExpressionTree Operand) :
    tree.symbols.map Symbol.character = tree.inorder Operand.character Operator.symbol := by
  induction tree with
  | leaf operand => rfl
  | node operator left right leftHypothesis rightHypothesis =>
      rw [symbols_node, List.map_append, List.map_cons, leftHypothesis, rightHypothesis]
      rfl

theorem symbols_text (tree : ExpressionTree Operand) :
    PolishNotation.symbols tree.text = tree.symbols := by
  rw [text, ← map_character_symbols, symbols_ofList_character]

theorem map_postorder {Item Other : Type} (image : Item → Other) (ofLeaf : Leaf → Item)
    (ofOperator : Operator → Item) (tree : ExpressionTree Leaf) :
    (tree.postorder ofLeaf ofOperator).map image =
      tree.postorder (fun leaf => image (ofLeaf leaf))
        fun operator => image (ofOperator operator) := by
  induction tree with
  | leaf value => rfl
  | node operator left right leftHypothesis rightHypothesis =>
      simp only [postorder, List.map_append, List.map_cons, List.map_nil, leftHypothesis,
        rightHypothesis]

end ExpressionTree

/-- The text without noise is that of a tree with the same symbols. -/
theorem withoutNoise_eq_text_iff (text : String) (tree : ExpressionTree Operand) :
    withoutNoise text = tree.text ↔ tree.symbols = symbols text := by
  rw [withoutNoise_eq, ExpressionTree.text, ← tree.map_character_symbols, ofList_character_inj,
    eq_comm]

/-- Well-formed texts are the inorder texts of disciplined trees, one each. -/
theorem disciplined_trees_correspond_to_infix (rules : Rules) :
    (∀ tree : ExpressionTree Operand, tree.Disciplined rules →
      (∃ chain : Chain Operand, symbols tree.text = chain.symbols) ∧
        (toPostfix rules tree.text).toList =
          tree.postorder (fun operand => String.singleton operand.character)
            (fun sign => String.singleton sign.symbol)) ∧
      ∀ (text : String) (chain : Chain Operand), symbols text = chain.symbols →
        ∃! tree : ExpressionTree Operand,
          tree.Disciplined rules ∧ withoutNoise text = tree.text := by
  constructor
  · intro tree disciplined
    refine ⟨⟨tree.chain, ?_⟩, ?_⟩
    · rw [tree.symbols_text, tree.symbols_chain]
    · rw [toList_toPostfix, tree.symbols_text, disciplined.postfixOrder_symbols,
        ExpressionTree.map_postorder]
      rfl
  · intro text chain wellFormed
    simp only [withoutNoise_eq_text_iff, wellFormed]
    exact ExpressionTree.existsUnique_disciplined rules chain

/-- With powers to the right the exponent is a tree of its own. -/
theorem disciplined_trees_correspond_to_infix_of_powers :
    ∃ tree : ExpressionTree Operand, tree.Disciplined ⟨true⟩ ∧
      (toPostfix ⟨true⟩ tree.text).toList =
        ["8", "2", "3", "x", "^", "^", "/", "1", "-"] ∧
      (∃ chain : Chain Operand, symbols "8 / (2^3) ^ x - 1" = chain.symbols) ∧
      ∃! other : ExpressionTree Operand,
        other.Disciplined ⟨true⟩ ∧ withoutNoise "8 / (2^3) ^ x - 1" = other.text := by
  obtain ⟨ofTree, ofText⟩ := disciplined_trees_correspond_to_infix ⟨true⟩
  have disciplined : ExpressionTree.Disciplined ⟨true⟩
      (.node .minus
        (.node .divide (.leaf ⟨'8', by decide⟩)
          (.node .power (.leaf ⟨'2', by decide⟩)
            (.node .power (.leaf ⟨'3', by decide⟩) (.leaf ⟨'x', by decide +kernel⟩))))
        (.leaf (⟨'1', by decide⟩ : Operand))) := by decide
  have wellFormed : ∃ chain : Chain Operand, symbols "8 / (2^3) ^ x - 1" = chain.symbols :=
    ⟨⟨⟨'8', by decide⟩, [(.divide, ⟨'2', by decide⟩), (.power, ⟨'3', by decide⟩),
      (.power, ⟨'x', by decide +kernel⟩), (.minus, ⟨'1', by decide⟩)]⟩, by cbv⟩
  refine ⟨_, disciplined, (ofTree _ disciplined).2, wellFormed, ?_⟩
  obtain ⟨chain, spelled⟩ := wellFormed
  exact ofText _ chain spelled

end PolishNotation
