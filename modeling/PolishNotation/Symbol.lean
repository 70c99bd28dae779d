import PolishNotation.Operator
import PolishNotation.Text.Alphabetic
import PolishNotation.Text.Numeric

namespace PolishNotation

/-- An operand is a decimal digit or a letter. -/
def isOperand (character : Char) : Bool :=
  character.isDigit || (Text.isAlphabetic character && !Text.isNumeric character)

structure Operand where
  character : Char
  admissible : isOperand character = true
deriving DecidableEq

inductive Symbol where
  | operand (operand : Operand)
  | operator (operator : Operator)
deriving DecidableEq

namespace Symbol

def character : Symbol → Char
  | .operand value => value.character
  | .operator sign => sign.symbol

/-- The token of a symbol is the text of its one character. -/
def token (symbol : Symbol) : String :=
  String.singleton symbol.character

def ofChar? (character : Char) : Option Symbol :=
  if admissible : isOperand character = true then
    some (.operand ⟨character, admissible⟩)
  else
    (Operator.ofChar? character).map .operator

theorem isOperand_symbol (sign : Operator) : isOperand sign.symbol = false := by
  cases sign <;> decide +kernel

@[simp] theorem ofChar?_character (symbol : Symbol) :
    ofChar? symbol.character = some symbol := by
  cases symbol with
  | operand value => simp [ofChar?, character, value.admissible]
  | operator sign => simp [ofChar?, character, isOperand_symbol]

theorem character_of_ofChar? {character : Char} {symbol : Symbol}
    (kept : ofChar? character = some symbol) : symbol.character = character := by
  unfold ofChar? at kept
  split at kept
  · cases kept
    rfl
  · obtain ⟨sign, named, rfl⟩ := Option.map_eq_some_iff.mp kept
    exact Operator.symbol_of_ofChar? named

theorem token_inj {first second : Symbol} : first.token = second.token ↔ first = second := by
  constructor
  · intro same
    have read := congrArg ofChar? (String.singleton_inj.mp same)
    rwa [ofChar?_character, ofChar?_character, Option.some_inj] at read
  · intro same
    rw [same]

end Symbol

/-- The symbols of a text stand in the order of the text. -/
def symbols (text : String) : List Symbol :=
  text.toList.filterMap Symbol.ofChar?

/-- The token of a symbol reads back as this symbol. -/
theorem symbols_of_token (symbol : Symbol) : symbols symbol.token = [symbol] := by
  rw [symbols, Symbol.token, String.toList_singleton,
    List.filterMap_cons_some (Symbol.ofChar?_character symbol), List.filterMap_nil]

/-- The characters of symbols read back as the same symbols. -/
theorem symbols_ofList_character (spelled : List Symbol) :
    symbols (String.ofList (spelled.map Symbol.character)) = spelled := by
  unfold symbols
  rw [String.toList_ofList]
  induction spelled with
  | nil => rfl
  | cons symbol rest inductionHypothesis =>
      rw [List.map_cons, List.filterMap_cons_some (Symbol.ofChar?_character symbol),
        inductionHypothesis]

end PolishNotation
