import PolishNotation.Decimal.Integer

namespace PolishNotation.Rational

/-- An integer is written without a denominator. -/
def text (value : Rat) : String :=
  if value.den = 1 then
    Decimal.integerText value.num
  else
    Decimal.integerText value.num ++ "/" ++ Decimal.naturalText value.den

/-- A quotient need not be in lowest terms. -/
def read? (text : String) : Option Rat :=
  match text.toList.span (· != '/') with
  | (numerator, []) =>
      (Decimal.readInteger? (String.ofList numerator)).map fun number => (number : Rat)
  | (numerator, _ :: denominator) =>
      match Decimal.readInteger? (String.ofList numerator),
          Decimal.readInteger? (String.ofList denominator) with
      | some dividend, some divisor =>
          if divisor = 0 then none else some (Rat.divInt dividend divisor)
      | _, _ => none

end PolishNotation.Rational
