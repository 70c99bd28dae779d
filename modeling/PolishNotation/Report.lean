import PolishNotation.Decimal.FloatText
import PolishNotation.Rational.Text
import PolishNotation.Session

namespace PolishNotation.Report

def line (label value : String) : List String := [label, " : ", value, "\n"]

def ofExact : Except Fault ExactValues → List String
  | .ok values =>
      line "Exact postfixe" (Rational.text values.postfixValue) ++
        line "Exact préfixe" (Rational.text values.prefixValue)
  | .error fault => line "Exact" fault.message

def ofDerivation (derivation : Derivation) : List String :=
  line "Postfixe" derivation.postfixForm.text ++
    line "Valeur postfixe" (Decimal.floatText derivation.postfixValue) ++
    line "Préfixe" derivation.prefixForm.text ++
    line "Valeur préfixe" (Decimal.floatText derivation.prefixValue) ++
    match derivation.exactValues with
    | none => []
    | some values => ofExact values

def ofFault (fault : Fault) : List String := line "Erreur" fault.message

/-- The results of a session are written only if there are any. -/
def results (session : Session) : List String :=
  match session.derivation? with
  | some derivation => ofDerivation derivation
  | none => []

def failure (session : Session) : List String :=
  match session.fault? with
  | some fault => ofFault fault
  | none => []

def text (pieces : List String) : String := String.join pieces

end PolishNotation.Report
