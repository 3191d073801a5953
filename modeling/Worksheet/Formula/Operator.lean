/-! # Operators

    The four binary operators on binary64 numbers.  Multiplication and
    division bind tighter than addition and subtraction. -/

namespace Worksheet

/-- A binary operator. -/
inductive Operator where
  | add
  | sub
  | mul
  | div
  deriving DecidableEq, Repr

namespace Operator

/-- The symbol of an operator. -/
def symbol : Operator → Char
  | .add => '+'
  | .sub => '-'
  | .mul => '*'
  | .div => '/'

/-- The operator with this symbol. -/
def ofSymbol? : List Char → Option Operator
  | ['+'] => some .add
  | ['-'] => some .sub
  | ['*'] => some .mul
  | ['/'] => some .div
  | _ => none

theorem ofSymbol?_symbol (op : Operator) : ofSymbol? [op.symbol] = some op := by
  cases op <;> rfl

/-- Does the operator bind tighter than addition and subtraction? -/
def isMultiplicative : Operator → Bool
  | .add | .sub => false
  | .mul | .div => true

/-- The result of applying the operator, none for a division by zero of either
    sign. -/
def value? (op : Operator) (left right : Float) : Option Float :=
  match op with
  | .add => some (left + right)
  | .sub => some (left - right)
  | .mul => some (left * right)
  | .div => if right == 0.0 then none else some (left / right)

end Operator

end Worksheet
