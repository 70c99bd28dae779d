import Mathlib
import PolishNotation.StackMachine

namespace PolishNotation

namespace Decimal

/-- A sign alone leaves nothing to read. -/
theorem Literal.splitSign_singleton (character : Char) :
    (∃ negative, Literal.splitSign [character] = (negative, [])) ∨
      Literal.splitSign [character] = (false, [character]) := by
  unfold Literal.splitSign
  split <;> simp_all

theorem Literal.readNumber?_singleton (negative : Bool) (character : Char) :
    Literal.readNumber? negative [character] =
      if character.isDigit then some (.finite negative (digitValue character) 0) else none := by
  by_cases decimal : character.isDigit = true
  · simp [Literal.readNumber?, Literal.splitFraction, Literal.readExponent?, readOn, decimal]
  · have fraction : (Literal.splitFraction [character]).1 = [] := by
      unfold Literal.splitFraction
      split <;> simp_all
    simp [Literal.readNumber?, decimal, fraction]

/-- A character alone is a literal only if it is a digit. -/
theorem Literal.read?_singleton (character : Char) :
    Literal.read? (String.singleton character) =
      if character.isDigit then some (.finite false (digitValue character) 0) else none := by
  have noWord (negative : Bool) : Literal.readWord? negative [character] = none := by
    simp [Literal.readWord?]
  unfold Literal.read?
  rw [String.toList_singleton]
  rcases Literal.splitSign_singleton character with ⟨negative, signed⟩ | unsigned
  · have noDigit : character.isDigit = false := by
      by_contra decimal
      unfold Literal.splitSign at signed
      split at signed <;> simp_all
    rw [signed, noDigit]
    rfl
  · rw [unsigned]
    dsimp only
    rw [Literal.readNumber?_singleton, noWord]
    cases character.isDigit <;> rfl

/-- A character alone is an integer only if it is a digit. -/
theorem readInteger?_singleton (character : Char) :
    readInteger? (String.singleton character) =
      if character.isDigit then some (digitValue character : Int) else none := by
  unfold readInteger?
  rw [String.toList_singleton]
  split
  · simp_all [readUnsigned?]
  · simp_all [readUnsigned?]
  · split <;> simp_all [readUnsigned?, readGrouped?]

end Decimal

/-- The token of an operator is its symbol. -/
def Operator.token (operator : Operator) : String := String.singleton operator.symbol

@[simp] theorem Operator.ofToken?_token (operator : Operator) :
    Operator.ofToken? operator.token = some operator := by
  rw [Operator.token, Operator.ofToken?_singleton, Operator.ofChar?_symbol]

theorem Operator.token_of_ofToken? {token : String} {operator : Operator}
    (named : Operator.ofToken? token = some operator) : operator.token = token := by
  unfold Operator.ofToken? at named
  split at named
  · rename_i character alone
    rw [Operator.token, Operator.symbol_of_ofChar? named]
    apply String.toList_inj.mp
    rw [String.toList_singleton, alone]
  · cases named

theorem Operator.symbol_not_isDigit (operator : Operator) :
    operator.symbol.isDigit = false := by
  cases operator <;> decide

/-- No digit is an operator. -/
theorem Operator.ofChar?_eq_none_of_isDigit {character : Char}
    (decimal : character.isDigit = true) : Operator.ofChar? character = none := by
  cases named : Operator.ofChar? character with
  | none => rfl
  | some operator =>
      rw [← Operator.symbol_of_ofChar? named, Operator.symbol_not_isDigit] at decimal
      cases decimal

/-- No operator is a literal. -/
theorem isSome_read?_of_ofToken? {token : String}
    (operator : (Operator.ofToken? token).isSome = true) :
    (Decimal.Literal.read? token).isSome = false := by
  obtain ⟨sign, named⟩ := Option.isSome_iff_exists.mp operator
  rw [← Operator.token_of_ofToken? named, Operator.token, Decimal.Literal.read?_singleton,
    Operator.symbol_not_isDigit]
  rfl

namespace Domain

variable {Value : Type} {domain : Domain Value}

/-- No operator is read as a number. -/
def SeparatesOperators (domain : Domain Value) : Prop :=
  ∀ operator : Operator, domain.read? operator.token = none

/-- Every digit is read as a number. -/
def ReadsDigits (domain : Domain Value) : Prop :=
  ∀ digit : Char, digit.isDigit = true →
    (domain.read? (String.singleton digit)).isSome = true

/-- Of the tokens of one character only the digits are numbers. -/
def ReadsOnlyDigits (domain : Domain Value) : Prop :=
  ∀ character : Char,
    (domain.read? (String.singleton character)).isSome = character.isDigit

/-- The numbers of a domain are the literals. -/
def ReadsLiterals (domain : Domain Value) : Prop :=
  ∀ token, (domain.read? token).isSome = (Decimal.Literal.read? token).isSome

/-- Every operation has a result. -/
def IsTotal (domain : Domain Value) : Prop :=
  ∀ operator left right, ∃ value, domain.apply operator left right = .ok value

/-- A total domain leaves open what literals and operators stand for. -/
def total (number : Decimal.Literal → Value)
    (operation : Operator → Value → Value → Value) : Domain Value where
  read? token := (Decimal.Literal.read? token).map number
  apply operator left right := .ok (operation operator left right)

theorem floating_eq_total : floating = total Decimal.Literal.toFloat applyFloat := rfl

theorem isTotal_total (number : Decimal.Literal → Value)
    (operation : Operator → Value → Value → Value) : (total number operation).IsTotal :=
  fun operator left right => ⟨operation operator left right, rfl⟩

theorem isTotal_spelling : spelling.IsTotal :=
  fun operator left right => ⟨String.singleton operator.symbol ++ left ++ right, rfl⟩

theorem read?_total_digit (number : Decimal.Literal → Value)
    (operation : Operator → Value → Value → Value) {digit : Char}
    (decimal : digit.isDigit = true) :
    (total number operation).read? (String.singleton digit) =
      some (number (.finite false (Decimal.digitValue digit) 0)) := by
  simp [total, Decimal.Literal.read?_singleton, decimal]

theorem read?_exact_digit {digit : Char} (decimal : digit.isDigit = true) :
    exact.read? (String.singleton digit) = some (Decimal.digitValue digit : Rat) := by
  simp only [exact, Decimal.readInteger?_singleton, decimal, if_true]
  rfl

/-- The exact domain reads the integers. -/
theorem read?_exact_eq (token : String) :
    exact.read? token = (Decimal.readInteger? token).map (Int.cast : Int → Rat) := by
  simp only [exact]
  cases Decimal.readInteger? token <;> rfl

theorem readsLiterals_total (number : Decimal.Literal → Value)
    (operation : Operator → Value → Value → Value) :
    (total number operation).ReadsLiterals := by
  intro token
  simp only [total, Option.isSome_map]

theorem readsLiterals_spelling : spelling.ReadsLiterals := isSome_read?_spelling

theorem ReadsLiterals.read?_eq_none (reads : domain.ReadsLiterals) {token : String}
    (other : (Decimal.Literal.read? token).isSome = false) : domain.read? token = none := by
  rw [← reads token] at other
  exact Option.not_isSome_iff_eq_none.mp (by rw [other]; decide)

theorem ReadsLiterals.readsOnlyDigits (reads : domain.ReadsLiterals) :
    domain.ReadsOnlyDigits := by
  intro character
  rw [reads, Decimal.Literal.read?_singleton]
  cases character.isDigit <;> rfl

theorem readsOnlyDigits_exact : exact.ReadsOnlyDigits := by
  intro character
  rw [read?_exact_eq, Decimal.readInteger?_singleton]
  cases character.isDigit <;> rfl

theorem ReadsOnlyDigits.separatesOperators (reads : domain.ReadsOnlyDigits) :
    domain.SeparatesOperators := by
  intro operator
  have other := reads operator.symbol
  rw [Operator.symbol_not_isDigit, Option.isSome_eq_false_iff, Option.isNone_iff_eq_none] at other
  exact other

theorem ReadsOnlyDigits.readsDigits (reads : domain.ReadsOnlyDigits) : domain.ReadsDigits :=
  fun digit decimal => (reads digit).trans decimal

theorem ReadsLiterals.separatesOperators (reads : domain.ReadsLiterals) :
    domain.SeparatesOperators :=
  reads.readsOnlyDigits.separatesOperators

theorem ReadsLiterals.readsDigits (reads : domain.ReadsLiterals) : domain.ReadsDigits :=
  reads.readsOnlyDigits.readsDigits

theorem separatesOperators_total (number : Decimal.Literal → Value)
    (operation : Operator → Value → Value → Value) :
    (total number operation).SeparatesOperators :=
  (readsLiterals_total number operation).separatesOperators

theorem separatesOperators_spelling : spelling.SeparatesOperators :=
  readsLiterals_spelling.separatesOperators

theorem separatesOperators_exact : exact.SeparatesOperators :=
  readsOnlyDigits_exact.separatesOperators

theorem readsDigits_total (number : Decimal.Literal → Value)
    (operation : Operator → Value → Value → Value) : (total number operation).ReadsDigits :=
  (readsLiterals_total number operation).readsDigits

theorem readsDigits_exact : exact.ReadsDigits := readsOnlyDigits_exact.readsDigits

end Domain

end PolishNotation
