namespace PolishNotation

/-- An arithmetic fault arises from the values, whatever their place in the expression. -/
inductive ArithmeticFault where
  | divisionByZero
  | fractionalExponent
  | exponentTooLarge
deriving DecidableEq, Repr

/-- A fault that a token causes carries the token and its position. -/
inductive Fault where
  | missingOperands (token : String) (position : Nat)
  | notNumeric (token : String) (position : Nat)
  | leftover (count : Nat)
  | emptyInput
  | arithmetic (fault : ArithmeticFault)
deriving DecidableEq, Repr

def ArithmeticFault.message : ArithmeticFault → String
  | .divisionByZero => "division par zéro"
  | .fractionalExponent => "exposant non entier"
  | .exponentTooLarge => "exposant trop grand pour le calcul exact"

namespace Fault

def message : Fault → String
  | .missingOperands token position =>
      "pile vide : l’opérateur '" ++ token ++ "' (position " ++ position.repr ++
        ") manque d’opérandes"
  | .notNumeric token position =>
      "opérande non numérique '" ++ token ++ "' (position " ++ position.repr ++ ")"
  | .leftover count =>
      "expression incomplète : " ++ count.repr ++ " valeurs restent sur la pile"
  | .emptyInput => "entrée vide"
  | .arithmetic fault => fault.message

end Fault

end PolishNotation
