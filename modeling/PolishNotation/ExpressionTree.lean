import PolishNotation.Domain

namespace PolishNotation

/-- Every inner node of a tree is an operator with two operands. -/
inductive ExpressionTree (Leaf : Type) where
  | leaf (value : Leaf)
  | node (operator : Operator) (left right : ExpressionTree Leaf)
deriving DecidableEq, Repr

namespace ExpressionTree

variable {Leaf Item Value : Type}

/-- The operator stands between its operands. This order does not determine the tree. -/
def inorder (ofLeaf : Leaf → Item) (ofOperator : Operator → Item) :
    ExpressionTree Leaf → List Item
  | .leaf value => [ofLeaf value]
  | .node operator left right =>
      left.inorder ofLeaf ofOperator ++ ofOperator operator :: right.inorder ofLeaf ofOperator

/-- The operator stands before its operands. -/
def preorder (ofLeaf : Leaf → Item) (ofOperator : Operator → Item) :
    ExpressionTree Leaf → List Item
  | .leaf value => [ofLeaf value]
  | .node operator left right =>
      ofOperator operator ::
        (left.preorder ofLeaf ofOperator ++ right.preorder ofLeaf ofOperator)

/-- The operator stands after its operands. -/
def postorder (ofLeaf : Leaf → Item) (ofOperator : Operator → Item) :
    ExpressionTree Leaf → List Item
  | .leaf value => [ofLeaf value]
  | .node operator left right =>
      left.postorder ofLeaf ofOperator ++
        (right.postorder ofLeaf ofOperator ++ [ofOperator operator])

def leaves : ExpressionTree Leaf → List Leaf
  | .leaf value => [value]
  | .node _ left right => left.leaves ++ right.leaves

/-- Every leaf is read as a number of the domain. -/
def read? (domain : Domain Value) : ExpressionTree String → Option (ExpressionTree Value)
  | .leaf token => (domain.read? token).map .leaf
  | .node operator left right => do
      let leftNumbers ← left.read? domain
      let rightNumbers ← right.read? domain
      return .node operator leftNumbers rightNumbers

/-- The left operand is evaluated before the right one. -/
def value (domain : Domain Value) : ExpressionTree Value → Except ArithmeticFault Value
  | .leaf number => .ok number
  | .node operator left right => do
      let leftValue ← left.value domain
      let rightValue ← right.value domain
      domain.apply operator leftValue rightValue

end ExpressionTree

end PolishNotation
