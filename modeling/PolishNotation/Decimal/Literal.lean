import PolishNotation.Decimal.Digits

namespace PolishNotation.Decimal

/-- A finite literal stands for `significand * 10 ^ exponent` with its sign. -/
inductive Literal where
  | finite (negative : Bool) (significand : Nat) (exponent : Int)
  | infinite (negative : Bool)
  | notANumber
deriving DecidableEq, Repr

namespace Literal

/-- At most one sign is taken off the text. -/
def splitSign : List Char → Bool × List Char
  | '-' :: rest => (true, rest)
  | '+' :: rest => (false, rest)
  | rest => (false, rest)

/-- The digits after a point are split from what follows them. -/
def splitFraction : List Char → List Char × List Char
  | '.' :: rest => (rest.takeWhile Char.isDigit, rest.dropWhile Char.isDigit)
  | rest => ([], rest)

/-- The size of an exponent takes no further digits once it has reached 65536. -/
def exponentSize (digits : List Char) : Nat :=
  digits.foldl (fun size digit => if size < 65536 then 10 * size + digitValue digit else size) 0

/-- An absent exponent counts as zero. A present one has at least one digit. -/
def readExponent? : List Char → Option Int
  | [] => some 0
  | mark :: rest =>
      let (negative, digits) := splitSign rest
      if (mark == 'e' || mark == 'E') && !digits.isEmpty && digits.all Char.isDigit then
        some (if negative then -(exponentSize digits : Int) else exponentSize digits)
      else
        none

/-- A number has at least one digit before or after the point. -/
def readNumber? (negative : Bool) (text : List Char) : Option Literal :=
  let whole := text.takeWhile Char.isDigit
  let (fraction, rest) := splitFraction (text.dropWhile Char.isDigit)
  if whole.isEmpty && fraction.isEmpty then
    none
  else
    (readExponent? rest).map fun exponent =>
      .finite negative (readOn 0 (whole ++ fraction)) (exponent - fraction.length)

/-- The words are read in capital and in small letters. -/
def readWord? (negative : Bool) (text : List Char) : Option Literal :=
  match text.map Char.toLower with
  | ['i', 'n', 'f'] => some (.infinite negative)
  | ['i', 'n', 'f', 'i', 'n', 'i', 't', 'y'] => some (.infinite negative)
  | ['n', 'a', 'n'] => some .notANumber
  | _ => none

def read? (text : String) : Option Literal :=
  let (negative, body) := splitSign text.toList
  match readNumber? negative body with
  | some literal => some literal
  | none => readWord? negative body

/-- A literal is rounded to the nearest double, a tie to the even one. -/
def toFloat : Literal → Float
  | .finite negative significand exponent =>
      let size := Float.ofScientific significand (exponent < 0) exponent.natAbs
      if negative then -size else size
  | .infinite negative => if negative then -(1.0 / 0.0) else 1.0 / 0.0
  | .notANumber => 0.0 / 0.0

end Literal

end PolishNotation.Decimal
