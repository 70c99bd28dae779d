import PolishNotation.Operator
import PolishNotation.Fault

namespace PolishNotation

/-- A domain tells which tokens are numbers and what operators make of values. -/
structure Domain (Value : Type) where
  read? : String → Option Value
  apply : Operator → Value → Value → Except ArithmeticFault Value

end PolishNotation
