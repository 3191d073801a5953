import Worksheet.Formula.Token
import Worksheet.Formula.Error

/-! # The grammar of formulas

    Tokens form an expression when operands and operators alternate and the
    parentheses match.  The check runs once from left to right, keeps the
    number of open parentheses and compares each token with the next one. -/

namespace Worksheet.Formula

/-- May `next`, at `position`, follow `token`?  An operand has to begin exactly
    where none has just ended. -/
def checkNext (position : Nat) (token next : Token) : Except FormulaError Unit :=
  match token.endsOperand, next.startsOperand with
  | true, true => .error (.expectedOperator position next.text)
  | false, false => .error (.expectedOperand position next.text)
  | _, _ => .ok ()

/-- The number of open parentheses after the token at `position`. -/
def depthAfter (position depth : Nat) : Token → Except FormulaError Nat
  | .leftParen => .ok (depth + 1)
  | .rightParen => if depth = 0 then .error (.unmatchedClose position) else .ok (depth - 1)
  | _ => .ok depth

/-- Checks `token`, which stands at `position` under `depth` open parentheses,
    and all tokens after it. -/
def checkFrom (position depth : Nat) (token : Token) : List Token → Except FormulaError Unit
  | [] => do
    let depth ← depthAfter position depth token
    if depth = 0 then .ok () else .error (.unclosedParen depth)
  | next :: rest => do
    let depth ← depthAfter position depth token
    checkNext (position + 1) token next
    checkFrom (position + 1) depth next rest

/-- Do the tokens form an expression?  What is wrong at the ends is reported
    before anything in between. -/
def check : List Token → Except FormulaError Unit
  | [] => .error .empty
  | first :: rest =>
    let last := (first :: rest).getLast (by simp)
    if first.startsOperand then
      if last.endsOperand then checkFrom 0 0 first rest
      else .error (.invalidEnd last.text)
    else .error (.invalidStart first.text)

end Worksheet.Formula
