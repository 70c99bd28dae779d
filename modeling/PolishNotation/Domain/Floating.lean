import PolishNotation.Decimal.Literal
import PolishNotation.Domain

namespace PolishNotation.Domain

def applyFloat : Operator → Float → Float → Float
  | .plus, left, right => left + right
  | .minus, left, right => left - right
  | .times, left, right => left * right
  | .divide, left, right => left / right
  | .power, left, right => left ^ right

def floating : Domain Float where
  read? token := (Decimal.Literal.read? token).map Decimal.Literal.toFloat
  apply operator left right := .ok (applyFloat operator left right)

end PolishNotation.Domain
