/-
This file converts infix expressions to the postfix notation in one pass.
-/

import PolishNotation.Symbol
import PolishNotation.TokenSequence

namespace PolishNotation

/-- By default every operator associates to the left. -/
structure Rules where
  rightAssociativePower : Bool
deriving DecidableEq, Repr

def Rules.standard : Rules := ⟨false⟩

instance : Inhabited Rules := ⟨Rules.standard⟩

/-- A pending operator that yields leaves the stack before the incoming one arrives. -/
def Rules.yields (rules : Rules) (incoming pending : Operator) : Bool :=
  if rules.rightAssociativePower && incoming == .power then
    -- Only tighter operators leave for a power that associates to the right.
    incoming.precedence < pending.precedence
  else
    incoming.precedence ≤ pending.precedence

/-- A conversion holds the symbols put out and the pending operators, latest first. -/
structure Conversion where
  output : Array Symbol
  pending : List Operator
deriving DecidableEq

namespace Conversion

def start : Conversion := ⟨#[], []⟩

/-- The operators leave the stack in the order in which they stand on it. -/
def putOut (output : Array Symbol) (operators : List Operator) : Array Symbol :=
  operators.foldl (fun symbols operator => symbols.push (.operator operator)) output

def read (rules : Rules) (conversion : Conversion) : Symbol → Conversion
  | .operand operand => ⟨conversion.output.push (.operand operand), conversion.pending⟩
  | .operator operator =>
      let leaving := conversion.pending.takeWhile (rules.yields operator)
      let staying := conversion.pending.dropWhile (rules.yields operator)
      ⟨putOut conversion.output leaving, operator :: staying⟩

/-- This is the state after the given symbols. -/
def after (rules : Rules) (expression : List Symbol) : Conversion :=
  expression.foldl (read rules) start

def finish (conversion : Conversion) : List Symbol :=
  (putOut conversion.output conversion.pending).toList

theorem toList_putOut (output : Array Symbol) (operators : List Operator) :
    (putOut output operators).toList = output.toList ++ operators.map .operator := by
  unfold putOut
  induction operators generalizing output with
  | nil => simp
  | cons operator rest inductionHypothesis =>
      rw [List.foldl_cons, inductionHypothesis]
      simp

theorem finish_eq (conversion : Conversion) :
    conversion.finish = conversion.output.toList ++ conversion.pending.map .operator :=
  toList_putOut conversion.output conversion.pending

end Conversion

/-- The postfix order of the symbols of an infix expression. -/
def postfixOrder (rules : Rules) (expression : List Symbol) : List Symbol :=
  (Conversion.after rules expression).finish

/-- The conversion drops all noise and accepts every text. -/
def toPostfix (rules : Rules) (text : String) : TokenSequence :=
  TokenSequence.ofList ((postfixOrder rules (symbols text)).map Symbol.token)

theorem toList_toPostfix (rules : Rules) (text : String) :
    (toPostfix rules text).toList = (postfixOrder rules (symbols text)).map Symbol.token := rfl

end PolishNotation
