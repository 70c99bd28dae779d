import PolishNotation.Decimal.Integer
import PolishNotation.Domain
import PolishNotation.Rational.Power

namespace PolishNotation.Domain

def applyRational : Operator → Rat → Rat → Except ArithmeticFault Rat
  | .plus, left, right => .ok (left + right)
  | .minus, left, right => .ok (left - right)
  | .times, left, right => .ok (left * right)
  | .divide, left, right => if right = 0 then .error .divisionByZero else .ok (left / right)
  | .power, left, right => Rational.power left right

def exact : Domain Rat where
  read? token := (Decimal.readInteger? token).map fun number => (number : Rat)
  apply := applyRational

end PolishNotation.Domain
