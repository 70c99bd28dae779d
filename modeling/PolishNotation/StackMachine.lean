/-
This file evaluates the postfix and the prefix notation with one stack machine.
-/

import PolishNotation.Domain
import PolishNotation.Domain.Exact
import PolishNotation.Domain.Floating
import PolishNotation.Domain.Spelling
import PolishNotation.TokenSequence

namespace PolishNotation

/-- A forward scan meets the left operand first, a backward scan the right one. -/
inductive Direction where
  | forward
  | backward
deriving DecidableEq, Repr

namespace Domain

variable {Value : Type}

/-- The top of the stack is the operand that was met last. -/
def combine (domain : Domain Value) (direction : Direction) (operator : Operator)
    (top below : Value) : Except ArithmeticFault Value :=
  match direction with
  | .forward => domain.apply operator below top
  | .backward => domain.apply operator top below

/-- A number is put on the stack, an operator replaces the two topmost values. -/
def step (domain : Domain Value) (direction : Direction) (stack : List Value) :
    String × Nat → Except Fault (List Value)
  | (token, position) =>
      match domain.read? token with
      | some value => .ok (value :: stack)
      | none =>
          match Operator.ofToken? token with
          | none => .error (.notNumeric token position)
          | some operator =>
              match stack with
              | top :: below :: rest =>
                  match domain.combine direction operator top below with
                  | .ok value => .ok (value :: rest)
                  | .error fault => .error (.arithmetic fault)
              | _ => .error (.missingOperands token position)

/-- A scan ends at its first fault. -/
def scan (domain : Domain Value) (direction : Direction) :
    List Value → List (String × Nat) → Except Fault (List Value)
  | stack, [] => .ok stack
  | stack, placed :: rest =>
      match domain.step direction stack placed with
      | .ok next => domain.scan direction next rest
      | .error fault => .error fault

/-- A complete scan leaves one value. -/
def conclude : List Value → Except Fault Value
  | [] => .error .emptyInput
  | [value] => .ok value
  | stack => .error (.leftover stack.length)

def run (domain : Domain Value) (direction : Direction) (placed : List (String × Nat)) :
    Except Fault Value :=
  match domain.scan direction [] placed with
  | .ok stack => conclude stack
  | .error fault => .error fault

/-- The two parts of a scan follow one another. -/
theorem scan_append (domain : Domain Value) (direction : Direction) (stack : List Value)
    (first second : List (String × Nat)) :
    domain.scan direction stack (first ++ second) =
      match domain.scan direction stack first with
      | .ok next => domain.scan direction next second
      | .error fault => .error fault := by
  induction first generalizing stack with
  | nil => rfl
  | cons placed rest inductionHypothesis =>
      rw [List.cons_append, scan, scan]
      cases domain.step direction stack placed with
      | ok next => exact inductionHypothesis next
      | error fault => rfl

def evaluatePostfix (domain : Domain Value) (sequence : TokenSequence) : Except Fault Value :=
  domain.run .forward sequence.toList.zipIdx

/-- Only the characters of a prefix sequence count, not their grouping into tokens. -/
def evaluatePrefix (domain : Domain Value) (sequence : TokenSequence) : Except Fault Value :=
  domain.run .backward sequence.split.zipIdx.reverse

end Domain

/-- The prefix form of a postfix sequence is one token. -/
def toPrefix (sequence : TokenSequence) : Except Fault TokenSequence :=
  (Domain.spelling.evaluatePostfix sequence).map fun spelled => TokenSequence.ofList [spelled]

end PolishNotation
