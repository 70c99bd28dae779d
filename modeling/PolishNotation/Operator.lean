namespace PolishNotation

inductive Operator where
  | plus
  | minus
  | times
  | divide
  | power
deriving DecidableEq, Repr

namespace Operator

def symbol : Operator → Char
  | .plus => '+'
  | .minus => '-'
  | .times => '*'
  | .divide => '/'
  | .power => '^'

def ofChar? : Char → Option Operator
  | '+' => some .plus
  | '-' => some .minus
  | '*' => some .times
  | '/' => some .divide
  | '^' => some .power
  | _ => none

/-- A token names an operator only if it has exactly one character. -/
def ofToken? (token : String) : Option Operator :=
  match token.toList with
  | [character] => ofChar? character
  | _ => none

/-- A larger precedence binds more tightly. -/
def precedence : Operator → Nat
  | .plus | .minus => 1
  | .times | .divide => 2
  | .power => 3

/-- A character that is no operator has precedence zero, below every operator. -/
def precedenceOf (character : Char) : Nat :=
  match ofChar? character with
  | some operator => operator.precedence
  | none => 0

@[simp] theorem ofChar?_symbol (operator : Operator) :
    ofChar? operator.symbol = some operator := by
  cases operator <;> rfl

theorem symbol_of_ofChar? {character : Char} {operator : Operator}
    (named : ofChar? character = some operator) : operator.symbol = character := by
  unfold ofChar? at named
  split at named <;> cases named <;> rfl

theorem ofToken?_singleton (character : Char) :
    ofToken? (String.singleton character) = ofChar? character := by
  simp [ofToken?]

theorem precedence_pos (operator : Operator) : 0 < operator.precedence := by
  cases operator <;> decide

theorem precedenceOf_pos_iff (character : Char) :
    0 < precedenceOf character ↔ (ofChar? character).isSome = true := by
  unfold precedenceOf
  cases ofChar? character with
  | none => simp
  | some operator => simp [precedence_pos]

end Operator

end PolishNotation
