import PolishNotation.Report
import PolishNotation.Sink

namespace PolishNotation.Report

open Writing

def printLine (label value : String) : Writing Unit := do
  print (label ++ " : ")
  print value
  print "\n"

/-- The tokens are joined before anything is printed. -/
def printSequence (sequence : TokenSequence) : Writing Unit := do
  print sequence.text
  print "\n"

def printExact : Except Fault ExactValues → Writing Unit
  | .ok values => do
      printLine "Exact postfixe" (Rational.text values.postfixValue)
      printLine "Exact préfixe" (Rational.text values.prefixValue)
  | .error fault => printLine "Exact" fault.message

def printDerivation (derivation : Derivation) : Writing Unit := do
  print "Postfixe : "
  printSequence derivation.postfixForm
  printLine "Valeur postfixe" (Decimal.floatText derivation.postfixValue)
  print "Préfixe : "
  printSequence derivation.prefixForm
  printLine "Valeur préfixe" (Decimal.floatText derivation.prefixValue)
  match derivation.exactValues with
  | none => return
  | some values => printExact values

/-- Nothing is printed without results. -/
def printResults (session : Session) : Writing Unit :=
  match session.derivation? with
  | some derivation => printDerivation derivation
  | none => return

def printFailure (session : Session) : Writing Unit :=
  match session.fault? with
  | some fault => printLine "Erreur" fault.message
  | none => return

end PolishNotation.Report
