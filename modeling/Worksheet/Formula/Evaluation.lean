import Worksheet.Consultation
import Worksheet.Formula.Token
import Worksheet.Formula.Error

/-! # Evaluation

    Tokens are evaluated in one pass from left to right with a stack of
    operands and a stack of pending operators and open parentheses.  A
    multiplication or division is carried out as soon as its right operand is
    known; an addition or subtraction waits for the next of its kind, for the
    closing parenthesis or for the end.  Variables are looked up when they are
    met, and the first failure ends the evaluation. -/

namespace Worksheet.Formula

/-- What waits on the stack of operators. -/
inductive Pending where
  | operator (op : Operator)
  | openParen
  deriving DecidableEq, Repr

/-- Operands and pending operators, the latest first. -/
structure Stacks where
  operands : List Float
  pending : List Pending
  deriving DecidableEq

namespace Stacks

/-- The stacks before the first token. -/
def empty : Stacks := ⟨[], []⟩

/-- Carries out the operator that waits on top, if it is of the asked kind. -/
def resolve (multiplicative : Bool) (s : Stacks) : Except EvaluationError Stacks :=
  match s.pending with
  | .operator op :: pending =>
    if op.isMultiplicative = multiplicative then
      match s.operands with
      | right :: left :: operands =>
        match op.value? left right with
        | some value => .ok ⟨value :: operands, pending⟩
        | none => .error .divisionByZero
      | _ => .error .malformed
    else .ok s
  | _ => .ok s

/-- Adds an operand, and carries out a multiplication or division that waited
    for it. -/
def pushOperand (s : Stacks) (value : Float) : Except EvaluationError Stacks :=
  resolve true ⟨value :: s.operands, s.pending⟩

/-- Puts `waiting` on the stack of operators. -/
def wait (s : Stacks) (waiting : Pending) : Stacks :=
  ⟨s.operands, waiting :: s.pending⟩

/-- Closes a parenthesis: the sum inside it is finished, and its value is the
    right operand of a multiplication or division in front of it. -/
def close (s : Stacks) : Except EvaluationError Stacks := do
  let s ← s.resolve false
  match s.pending with
  | .openParen :: pending => resolve true ⟨s.operands, pending⟩
  | _ => .error .malformed

/-- The value that is left when all tokens are used up. -/
def finish (s : Stacks) : Except EvaluationError Float := do
  let s ← s.resolve false
  match s.operands, s.pending with
  | [value], [] => .ok value
  | _, _ => .error .malformed

end Stacks

/-- How the value of a variable is found. -/
abbrev Lookup := String → Except LookupError Float

/-- Asks for the number that `name` stands for. -/
def askVariable (lookup : Lookup) (name : String) : Consultation String EvaluationError Float :=
  .ask name ((lookup name).mapError (EvaluationError.ofLookup name))

/-- The effect of one token on the stacks. -/
def step (lookup : Lookup) (s : Stacks) :
    Token → Consultation String EvaluationError Stacks
  | .number value => ⟨[], s.pushOperand value⟩
  | .var name => do
    let value ← askVariable lookup name
    ⟨[], s.pushOperand value⟩
  | .operator op =>
    if op.isMultiplicative then .give (s.wait (.operator op))
    else do
      let s ← ⟨[], s.resolve false⟩
      return s.wait (.operator op)
  | .leftParen => .give (s.wait .openParen)
  | .rightParen => ⟨[], s.close⟩

/-- The value of a sequence of tokens. -/
def evaluateTokens (lookup : Lookup) (tokens : List Token) :
    Consultation String EvaluationError Float := do
  let s ← tokens.foldlM (step lookup) Stacks.empty
  ⟨[], s.finish⟩

end Worksheet.Formula
