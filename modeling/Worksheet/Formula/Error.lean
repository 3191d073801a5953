/-! # What can be wrong with a formula

    A formula that is not well formed is refused with a `FormulaError`.  A
    well-formed formula may still have no value; then its cell holds an
    `EvaluationError`. -/

namespace Worksheet

/-- Why a text is no formula.  Positions count tokens from 0. -/
inductive FormulaError where
  | empty
  | invalidToken (text : String)
  | numberOutOfRange (text : String)
  /-- The normal form of a variable lacks the shape of a variable. -/
  | invalidVariable (raw normalized : String)
  /-- The name rules do not allow the normal form of a variable. -/
  | rejectedVariable (raw normalized : String)
  | invalidStart (text : String)
  | invalidEnd (text : String)
  | expectedOperator (position : Nat) (text : String)
  | expectedOperand (position : Nat) (text : String)
  | unmatchedClose (position : Nat)
  | unclosedParen (count : Nat)
  deriving DecidableEq, Repr

/-- The wording of a formula error. -/
def FormulaError.message : FormulaError → String
  | .empty => "Formula contains no tokens"
  | .invalidToken text => "Invalid token \"" ++ text ++ "\""
  | .numberOutOfRange text => "Number \"" ++ text ++ "\" is out of range"
  | .invalidVariable raw normalized =>
    "Variable \"" ++ raw ++ "\" was invalid when normalized to \"" ++ normalized ++ "\""
  | .rejectedVariable raw normalized =>
    "Variable \"" ++ raw ++ "\" (normalized to \"" ++ normalized ++
      "\") was rejected by the validator"
  | .invalidStart text =>
    "Formula must start with a number, variable, or '(' but starts with \"" ++ text ++ "\""
  | .invalidEnd text =>
    "Formula must end with a number, variable, or ')' but ends with \"" ++ text ++ "\""
  | .expectedOperator position text =>
    "Expected an operator or ')' at position " ++ toString position ++
      " but found \"" ++ text ++ "\""
  | .expectedOperand position text =>
    "Expected a number, variable, or '(' at position " ++ toString position ++
      " but found \"" ++ text ++ "\""
  | .unmatchedClose position =>
    "Closing parenthesis at position " ++ toString position ++ " has no matching '('"
  | .unclosedParen count => "Formula has " ++ toString count ++ " more '(' than ')'"

/-- Why a formula has no value.  The last three name the variable that has
    none; the cell behind it may hold an error of its own. -/
inductive EvaluationError where
  | divisionByZero
  | malformed
  /-- A reason that was given from outside. -/
  | reported (reason : String)
  | undefined (name : String)
  | notNumeric (name : String)
  | failed (name : String) (cause : EvaluationError)
  deriving DecidableEq, Repr

/-- Why a variable has no number. -/
inductive LookupError where
  | undefined
  | notNumeric
  | failed (cause : EvaluationError)
  deriving DecidableEq, Repr

/-- The error of a formula whose variable `name` has no number. -/
def EvaluationError.ofLookup (name : String) : LookupError → EvaluationError
  | .undefined => .undefined name
  | .notNumeric => .notNumeric name
  | .failed cause => .failed name cause

/-- A reason that is about the variable `name`. -/
def aboutVariable (name reason : String) : String :=
  "variable \"" ++ name ++ "\" " ++ reason

/-- The reason as it is shown in a cell. -/
def EvaluationError.message : EvaluationError → String
  | .divisionByZero => "division by zero"
  | .malformed => "malformed expression"
  | .reported reason => reason
  | .undefined name => aboutVariable name "has no value"
  | .notNumeric name => aboutVariable name "does not hold a number"
  | .failed name cause => aboutVariable name ("holds an error (" ++ cause.message ++ ")")

/-- The wording of a lookup error, as it follows the name of the variable. -/
def LookupError.message : LookupError → String
  | .undefined => "has no value"
  | .notNumeric => "does not hold a number"
  | .failed cause => "holds an error (" ++ cause.message ++ ")"

/-- The reason names the variable and says what is wrong with it. -/
theorem EvaluationError.message_ofLookup (name : String) (e : LookupError) :
    (EvaluationError.ofLookup name e).message = aboutVariable name e.message := by
  cases e <;> rfl

end Worksheet
