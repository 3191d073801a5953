import Worksheet.Formula.Basic

/-! # Hash keys of formulas

    Formulas can be kept in hash tables.  A hash is computed from a sequence
    of numbers and texts, the hash key: first how many tokens there are and
    what each of them is, then how many variables there are and which.  A token
    has its kind in front, and numbers count by their bits. -/

namespace Worksheet

/-- A part of what a hash is computed from. -/
inductive HashPart where
  | number (value : Nat)
  | text (value : String)
  deriving DecidableEq, Repr

/-- The place of an operator among the four. -/
def Operator.index : Operator → Nat
  | .add => 0
  | .sub => 1
  | .mul => 2
  | .div => 3

/-- What a hash is computed from for a token: its kind, and what it holds. -/
def Token.hashKey : Token → List HashPart
  | .leftParen => [.number 0]
  | .rightParen => [.number 1]
  | .operator op => [.number 2, .number op.index]
  | .number value => [.number 3, .number value.toBits.toNat]
  | .var name => [.number 4, .text name]

/-- What a hash is computed from for a formula. -/
def Formula.hashKey (f : Formula) : List HashPart :=
  .number f.tokens.length :: f.tokens.flatMap Token.hashKey ++
    .number f.variableNames.size :: f.variableNames.toList.map .text

end Worksheet
