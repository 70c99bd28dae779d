import PolishNotation.Conversion
import PolishNotation.StackMachine
import PolishNotation.Text.Blank

namespace PolishNotation

structure Options where
  rules : Rules
  exact : Bool
deriving DecidableEq, Repr, Inhabited

structure ExactValues where
  postfixValue : Rat
  prefixValue : Rat
deriving DecidableEq, Repr

/-- A derivation holds the result of every stage, faults of exact arithmetic included. -/
structure Derivation where
  expression : String
  postfixForm : TokenSequence
  postfixValue : Float
  prefixForm : TokenSequence
  prefixValue : Float
  exactValues : Option (Except Fault ExactValues)

/-- The postfix form is evaluated first, so its fault is the one that shows. -/
def evaluateExact (postfixForm prefixForm : TokenSequence) : Except Fault ExactValues := do
  let postfixValue ← Domain.exact.evaluatePostfix postfixForm
  let prefixValue ← Domain.exact.evaluatePrefix prefixForm
  return ⟨postfixValue, prefixValue⟩

/-- The stages follow one another up to the first fault. -/
def derive (options : Options) (text : String) : Except Fault Derivation :=
  let expression := Text.trim text
  if expression.isEmpty then
    .error .emptyInput
  else do
    let postfixForm := toPostfix options.rules expression
    let postfixValue ← Domain.floating.evaluatePostfix postfixForm
    let prefixForm ← toPrefix postfixForm
    let prefixValue ← Domain.floating.evaluatePrefix prefixForm
    let exactValues :=
      if options.exact then some (evaluateExact postfixForm prefixForm) else none
    return { expression, postfixForm, postfixValue, prefixForm, prefixValue, exactValues }

end PolishNotation
