import PolishNotation.Fault

namespace PolishNotation.Rational

/-- A power must fit in this number of bits, by an estimate. -/
def bitLimit : Nat := 1 <<< 20

/-- The number of binary digits. Zero has none. -/
def bitSize (number : Nat) : Nat := if number = 0 then 0 else number.log2 + 1

/-- The larger size of the numerator and the denominator. -/
def width (value : Rat) : Nat := max (bitSize value.num.natAbs) (bitSize value.den)

/-- The powers of zero, one and minus one never grow. -/
def isSteady (base : Rat) : Bool := base.num.natAbs ≤ 1 && base.den == 1

def leastExponent : Int := -2147483648

def greatestExponent : Int := 2147483647

/-- Limits hold for the size of the power and of the exponent. -/
def isTooLarge (base : Rat) (exponent : Int) : Bool :=
  !isSteady base && bitLimit < exponent.natAbs * width base ||
    exponent < leastExponent || greatestExponent < exponent

/-- The exponent must be an integer, and zero has no negative power. -/
def power (base exponent : Rat) : Except ArithmeticFault Rat :=
  if exponent.den ≠ 1 then
    .error .fractionalExponent
  else if base = 0 ∧ exponent.num < 0 then
    .error .divisionByZero
  else if isTooLarge base exponent.num then
    .error .exponentTooLarge
  else
    .ok (base ^ exponent.num)

end PolishNotation.Rational
