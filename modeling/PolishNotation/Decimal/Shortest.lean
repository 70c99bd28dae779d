/-
This file finds the shortest decimal number that rounds to a given double.
-/

import PolishNotation.Decimal.Binary64

namespace PolishNotation.Decimal

/-- The numbers that round to one double, in units of `2 ^ exponent`. -/
structure RoundingInterval where
  lower : Nat
  middle : Nat
  upper : Nat
  exponent : Int
  closed : Bool
deriving DecidableEq, Repr

namespace RoundingInterval

/-- The ends lie half way to the neighbours and belong to even significands. -/
def around (significand : Nat) (exponent : Int) : RoundingInterval where
  lower :=
    if significand = Binary64.hiddenBit ∧ Binary64.leastExponent < exponent then
      4 * significand - 1
    else
      4 * significand - 2
  middle := 4 * significand
  upper := 4 * significand + 2
  exponent := exponent - 2
  closed := significand % 2 == 0

/-- Places and multiples of `10 ^ power` are compared on a common scale. -/
def scaledPlace (interval : RoundingInterval) (power : Int) (place : Nat) : Nat :=
  (place <<< interval.exponent.toNat) * Nat.pow 10 (-power).toNat

def scaledUnit (interval : RoundingInterval) (power : Int) : Nat :=
  Nat.pow 10 power.toNat <<< (-interval.exponent).toNat

/-- This tells whether `multiple * 10 ^ power` lies in the interval. -/
def holds (interval : RoundingInterval) (power : Int) (multiple : Nat) : Bool :=
  let lower := interval.scaledPlace power interval.lower
  let upper := interval.scaledPlace power interval.upper
  let place := multiple * interval.scaledUnit power
  if interval.closed then
    decide (lower ≤ place) && decide (place ≤ upper)
  else
    decide (lower < place) && decide (place < upper)

/-- The nearest multiple of `10 ^ power` in the interval, the larger of two. -/
def multiple? (interval : RoundingInterval) (power : Int) : Option Nat :=
  let middle := interval.scaledPlace power interval.middle
  let unit := interval.scaledUnit power
  let below := middle / unit
  let above := below + 1
  match interval.holds power below, interval.holds power above with
  | true, true => some (if 2 * middle < (below + above) * unit then below else above)
  | true, false => some below
  | false, true => some above
  | false, false => none

/-- The search goes from a coarse power of ten to finer ones. -/
def search (interval : RoundingInterval) : Nat → Int → Option (Nat × Int)
  | 0, _ => none
  | steps + 1, power =>
      match interval.multiple? power with
      | some multiple => some (multiple, power)
      | none => interval.search steps (power - 1)

end RoundingInterval

/-- Above this power of ten the double is smaller than a unit. -/
def startingPower (significand : Nat) (exponent : Int) : Int :=
  (significand.log2 + 1 + exponent) * 3 / 10 + 3

/-- The exact value of the double as a multiple of a power of ten. -/
def exactDecimal (significand : Nat) (exponent : Int) : Nat × Int :=
  if exponent < 0 then
    (significand * Nat.pow 5 exponent.natAbs, exponent)
  else
    (significand <<< exponent.natAbs, 0)

/-- The coarsest multiple of a power of ten that rounds to the double. -/
def shortest (significand : Nat) (exponent : Int) : Nat × Int :=
  let exact := exactDecimal significand exponent
  let start := startingPower significand exponent
  match (RoundingInterval.around significand exponent).search (start - exact.2).toNat start with
  | some found => found
  | none => exact

end PolishNotation.Decimal
