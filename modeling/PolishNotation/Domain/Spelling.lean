import PolishNotation.Decimal.Literal
import PolishNotation.Domain

namespace PolishNotation.Domain

def spelling : Domain String where
  read? token := if (Decimal.Literal.read? token).isSome then some token else none
  apply operator left right := .ok (String.singleton operator.symbol ++ left ++ right)

/-- The spelling domain and the floating domain take the same tokens for numbers. -/
theorem isSome_read?_spelling (token : String) :
    (spelling.read? token).isSome = (Decimal.Literal.read? token).isSome := by
  show (if (Decimal.Literal.read? token).isSome then some token else none).isSome = _
  cases Decimal.Literal.read? token <;> rfl

end PolishNotation.Domain
