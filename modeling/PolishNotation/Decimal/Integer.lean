import PolishNotation.Decimal.Digits

namespace PolishNotation.Decimal

def integerText (number : Int) : String :=
  if number < 0 then "-" ++ naturalText number.natAbs else naturalText number.natAbs

/-- An underscore may stand anywhere after the first digit and has no value. -/
def readGrouped? (value : Nat) : List Char → Option Nat
  | [] => some value
  | '_' :: rest => readGrouped? value rest
  | digit :: rest =>
      if digit.isDigit then readGrouped? (10 * value + digitValue digit) rest else none

/-- An unsigned number starts with a digit. -/
def readUnsigned? : List Char → Option Nat
  | [] => none
  | digit :: rest => if digit.isDigit then readGrouped? (digitValue digit) rest else none

/-- At most one sign stands before the digits. -/
def readInteger? (text : String) : Option Int :=
  match text.toList with
  | '-' :: digits => (readUnsigned? digits).map fun size => -(size : Int)
  | '+' :: digits => (readUnsigned? digits).map Int.ofNat
  | digits => (readUnsigned? digits).map Int.ofNat

theorem ne_underscore_of_isDigit {digit : Char} (decimal : digit.isDigit = true) :
    digit ≠ '_' := by
  rintro rfl
  exact absurd decimal (by decide)

theorem readGrouped?_eq_readOn (value : Nat) {further : List Char}
    (decimal : ∀ digit ∈ further, digit.isDigit = true) :
    readGrouped? value further = some (readOn value further) := by
  induction further generalizing value with
  | nil => rfl
  | cons digit rest inductionHypothesis =>
      have first : digit.isDigit = true := decimal digit (List.mem_cons_self ..)
      have others : ∀ other ∈ rest, other.isDigit = true :=
        fun other member => decimal other (List.mem_cons_of_mem _ member)
      rw [readGrouped?, if_pos first, inductionHypothesis _ others]
      · rfl
      · exact ne_underscore_of_isDigit first

theorem readUnsigned?_eq_readOn {spelled : List Char} (some_digit : spelled ≠ [])
    (decimal : ∀ digit ∈ spelled, digit.isDigit = true) :
    readUnsigned? spelled = some (readOn 0 spelled) := by
  cases spelled with
  | nil => exact absurd rfl some_digit
  | cons digit rest =>
      have first : digit.isDigit = true := decimal digit (List.mem_cons_self ..)
      have others : ∀ other ∈ rest, other.isDigit = true :=
        fun other member => decimal other (List.mem_cons_of_mem _ member)
      rw [readUnsigned?, if_pos first, readGrouped?_eq_readOn _ others]
      simp [readOn]

end PolishNotation.Decimal
