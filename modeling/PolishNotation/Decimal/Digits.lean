namespace PolishNotation.Decimal

/-- This is the value of one of the ten digits. -/
def digitValue (digit : Char) : Nat := digit.toNat - '0'.toNat

/-- The unit of a level is ten or the square of the lower unit. -/
def unit : Nat → Nat
  | 0 => 10
  | level + 1 =>
      let root := unit level
      root * root

/-- The last `2 ^ level` digits of a number stand before `tail`, zeros included. -/
def padded : Nat → Nat → List Char → List Char
  | 0, number, tail => Nat.digitChar (number % 10) :: tail
  | level + 1, number, tail =>
      let half := unit level
      padded level (number / half) (padded level (number % half) tail)

/-- The digits of a number below the unit stand before `tail`, without leading zeros. -/
def unpadded : Nat → Nat → List Char → List Char
  | 0, number, tail => Nat.digitChar (number % 10) :: tail
  | level + 1, number, tail =>
      let half := unit level
      if number < half then
        unpadded level number tail
      else
        unpadded level (number / half) (padded level (number % half) tail)

/-- Every number is below the unit of this level. -/
def sufficientLevel (number : Nat) : Nat := Nat.log2 (Nat.log2 number + 1)

/-- The digits of a number start with the largest place. Zero has one digit. -/
def digits (number : Nat) : List Char := unpadded (sufficientLevel number) number []

def naturalText (number : Nat) : String := String.ofList (digits number)

/-- The digits carry on a number whose digits so far have the value `number`. -/
def readOn (number : Nat) (further : List Char) : Nat :=
  further.foldl (fun value digit => 10 * value + digitValue digit) number

theorem unit_succ (level : Nat) : unit (level + 1) = unit level * unit level := rfl

theorem unit_pos (level : Nat) : 0 < unit level := by
  induction level with
  | zero => decide
  | succ level inductionHypothesis => exact Nat.mul_pos inductionHypothesis inductionHypothesis

/-- A unit has more than three binary digits for each decimal one. -/
theorem lt_unit_sufficientLevel (number : Nat) : number < unit (sufficientLevel number) := by
  have grows : ∀ level, 2 ^ (3 * 2 ^ level) ≤ unit level := by
    intro level
    induction level with
    | zero => decide
    | succ level inductionHypothesis =>
        have exponent : 3 * 2 ^ (level + 1) = 3 * 2 ^ level + 3 * 2 ^ level := by
          rw [Nat.pow_succ]
          omega
        rw [exponent, Nat.pow_add, unit_succ]
        exact Nat.mul_le_mul inductionHypothesis inductionHypothesis
  have upper : Nat.log2 number + 1 < 2 ^ (sufficientLevel number + 1) := Nat.lt_log2_self
  have widths : Nat.log2 number + 1 ≤ 3 * 2 ^ sufficientLevel number := by
    rw [Nat.pow_succ] at upper
    omega
  calc number < 2 ^ (Nat.log2 number + 1) := Nat.lt_log2_self
    _ ≤ 2 ^ (3 * 2 ^ sufficientLevel number) := Nat.pow_le_pow_right (by decide) widths
    _ ≤ unit (sufficientLevel number) := grows _

theorem digitValue_digitChar {digit : Nat} (single : digit < 10) :
    digitValue (Nat.digitChar digit) = digit := by
  have all : ∀ value ∈ List.range 10, digitValue (Nat.digitChar value) = value := by decide
  exact all digit (List.mem_range.mpr single)

theorem isDigit_digitChar {digit : Nat} (single : digit < 10) :
    (Nat.digitChar digit).isDigit = true := by
  have all : ∀ value ∈ List.range 10, (Nat.digitChar value).isDigit = true := by decide
  exact all digit (List.mem_range.mpr single)

theorem readOn_padded (level start number : Nat) (tail : List Char)
    (small : number < unit level) :
    readOn start (padded level number tail) = readOn (start * unit level + number) tail := by
  induction level generalizing start number tail with
  | zero =>
      have single : number < 10 := small
      simp only [padded, readOn, List.foldl_cons, Nat.mod_eq_of_lt single,
        digitValue_digitChar single, unit]
      rw [Nat.mul_comm]
  | succ level inductionHypothesis =>
      rw [unit_succ] at small
      have high : number / unit level < unit level := Nat.div_lt_of_lt_mul small
      have low : number % unit level < unit level := Nat.mod_lt _ (unit_pos level)
      rw [padded, inductionHypothesis _ _ _ high, inductionHypothesis _ _ _ low, unit_succ,
        Nat.add_mul, Nat.mul_assoc, Nat.add_assoc, Nat.div_add_mod']

theorem readOn_unpadded (level number : Nat) (tail : List Char)
    (small : number < unit level) :
    readOn 0 (unpadded level number tail) = readOn number tail := by
  induction level generalizing number tail with
  | zero =>
      have single : number < 10 := small
      simp [unpadded, readOn, Nat.mod_eq_of_lt single, digitValue_digitChar single]
  | succ level inductionHypothesis =>
      rw [unit_succ] at small
      rw [unpadded]
      split
      · rename_i below
        exact inductionHypothesis _ _ below
      · have high : number / unit level < unit level := Nat.div_lt_of_lt_mul small
        have low : number % unit level < unit level := Nat.mod_lt _ (unit_pos level)
        rw [inductionHypothesis _ _ high, readOn_padded _ _ _ _ low, Nat.div_add_mod']

/-- The digits of a number read back as the number. -/
theorem readOn_digits (number : Nat) : readOn 0 (digits number) = number := by
  rw [digits, readOn_unpadded _ _ _ (lt_unit_sufficientLevel number)]
  rfl

theorem isDigit_of_mem_padded (level number : Nat) {tail : List Char}
    (tailDigits : ∀ digit ∈ tail, digit.isDigit = true) :
    ∀ digit ∈ padded level number tail, digit.isDigit = true := by
  induction level generalizing number tail with
  | zero =>
      intro digit member
      cases member with
      | head => exact isDigit_digitChar (Nat.mod_lt _ (by decide))
      | tail _ later => exact tailDigits digit later
  | succ level inductionHypothesis =>
      exact inductionHypothesis _ (inductionHypothesis _ tailDigits)

theorem isDigit_of_mem_unpadded (level number : Nat) {tail : List Char}
    (tailDigits : ∀ digit ∈ tail, digit.isDigit = true) :
    ∀ digit ∈ unpadded level number tail, digit.isDigit = true := by
  induction level generalizing number tail with
  | zero =>
      intro digit member
      cases member with
      | head => exact isDigit_digitChar (Nat.mod_lt _ (by decide))
      | tail _ later => exact tailDigits digit later
  | succ level inductionHypothesis =>
      rw [unpadded]
      split
      · exact inductionHypothesis _ tailDigits
      · exact inductionHypothesis _ (isDigit_of_mem_padded _ _ tailDigits)

theorem isDigit_of_mem_digits {number : Nat} {digit : Char}
    (member : digit ∈ digits number) : digit.isDigit = true := by
  have none : ∀ digit ∈ ([] : List Char), digit.isDigit = true := by simp
  exact isDigit_of_mem_unpadded _ _ none digit member

end PolishNotation.Decimal
