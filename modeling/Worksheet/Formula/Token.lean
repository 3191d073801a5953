import Worksheet.Number.Basic
import Worksheet.Formula.Operator

/-! # Tokens

    A formula is a sequence of tokens.  Numbers are binary64 values and
    variables are in normal form, so two spellings of one formula have the
    same tokens.  Numbers are compared by their bits. -/

namespace Worksheet

/-- A token of a formula. -/
inductive Token where
  | leftParen
  | rightParen
  | operator (op : Operator)
  | number (value : Float)
  | var (name : String)
  deriving DecidableEq

namespace Token

/-- The canonical text of a token. -/
def text : Token → String
  | .leftParen => "("
  | .rightParen => ")"
  | .operator op => String.singleton op.symbol
  | .number value => Number.canonical value
  | .var name => name

/-- May the token begin an operand? -/
def startsOperand : Token → Bool
  | .number _ | .var _ | .leftParen => true
  | .rightParen | .operator _ => false

/-- May the token end an operand? -/
def endsOperand : Token → Bool
  | .number _ | .var _ | .rightParen => true
  | .leftParen | .operator _ => false

/-- The variable that the token is. -/
def varName? : Token → Option String
  | .var name => some name
  | _ => none

end Token

end Worksheet
