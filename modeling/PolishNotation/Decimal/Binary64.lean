namespace PolishNotation.Decimal

/-- A finite double has the value `significand * 2 ^ exponent` with its sign. -/
inductive Binary64 where
  | finite (negative : Bool) (significand : Nat) (exponent : Int)
  | infinite (negative : Bool)
  | notANumber
deriving DecidableEq, Repr

namespace Binary64

/-- The smallest normal significand. Below it the exponent is the least one. -/
def hiddenBit : Nat := 1 <<< 52

def leastExponent : Int := -1074

def ofBits (bits : Nat) : Binary64 :=
  let fraction := bits % hiddenBit
  let biased := bits / hiddenBit % 2048
  let negative := bits.testBit 63
  if biased = 2047 then
    if fraction = 0 then .infinite negative else .notANumber
  else if biased = 0 then
    .finite negative fraction leastExponent
  else
    .finite negative (hiddenBit + fraction) (leastExponent + (biased - 1 : Nat))

def ofFloat (value : Float) : Binary64 := ofBits value.toBits.toNat

end Binary64

end PolishNotation.Decimal
