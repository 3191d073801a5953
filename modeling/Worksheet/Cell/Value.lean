import Worksheet.Cell.Content

/-! # Values of cells

    A number or text is its own value; the value of a formula is a number or
    an error.  A formula that refers to a cell sees only numbers. -/

namespace Worksheet

/-- The value of a cell. -/
inductive Value where
  | number (value : Float)
  | text (value : String)
  | error (cause : EvaluationError)
  deriving DecidableEq

namespace Value

/-- The number that a formula sees when it refers to this value. -/
def toNumber : Value → Except LookupError Float
  | .number value => .ok value
  | .text _ => .error .notNumeric
  | .error cause => .error (.failed cause)

/-- Is the value an error? -/
def isError : Value → Bool
  | .error _ => true
  | .number _ | .text _ => false

/-- The value as it is shown. -/
def display : Value → String
  | .number value => Number.shown value
  | .text value => value
  | .error cause => "#ERR! " ++ cause.message

/-- The value that a formula's result gives. -/
def ofResult : Except EvaluationError Float → Value
  | .ok value => .number value
  | .error cause => .error cause

end Value

/-- The value of a content, where `lookup` gives the values of variables. -/
def Content.evaluate (lookup : Formula.Lookup) : Content → Value
  | .number value => .number value
  | .text value => .text value
  | .formula value => .ofResult (value.evaluate lookup).result

/-- A cell: its content and the value it last had. -/
structure Cell where
  content : Content
  value : Value
  deriving DecidableEq

/-- The cell with this content and the value it has under `lookup`. -/
def Cell.ofContent (lookup : Formula.Lookup) (content : Content) : Cell :=
  ⟨content, content.evaluate lookup⟩

/-- The cell with its value computed anew. -/
def Cell.recalculate (lookup : Formula.Lookup) (cell : Cell) : Cell :=
  .ofContent lookup cell.content

end Worksheet
