import PolishNotation.Decimal.Digits
import PolishNotation.Decimal.Shortest

namespace PolishNotation.Decimal

/-- Zeros fill the places between the digits and the point. -/
def positional (digits : List Char) (power : Int) : List Char :=
  if power < 0 then
    let places := power.natAbs
    let filled := List.replicate (places + 1 - digits.length) '0' ++ digits
    let whole := filled.length - places
    filled.take whole ++ '.' :: filled.drop whole
  else
    digits ++ List.replicate power.natAbs '0'

def signed (negative : Bool) (text : String) : String :=
  if negative then "-" ++ text else text

/-- Negative zero keeps its sign. The value that is no number has none. -/
def floatText (value : Float) : String :=
  match Binary64.ofFloat value with
  | .notANumber => "NaN"
  | .infinite negative => signed negative "inf"
  | .finite negative significand exponent =>
      if significand = 0 then
        signed negative "0"
      else
        let (multiple, power) := shortest significand exponent
        signed negative (String.ofList (positional (digits multiple) power))

end PolishNotation.Decimal
