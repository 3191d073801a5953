import Worksheet.Formula.Basic

/-! # Contents of cells

    What is entered into a cell is a number, a formula or plain text.  A
    number may be padded with blanks and has to be finite; a formula begins
    with the formula marker; everything else is text, kept as it is.  Empty
    text is the content of an empty cell. -/

namespace Worksheet

/-- The content of a cell. -/
inductive Content where
  | number (value : Float)
  | text (value : String)
  | formula (value : Formula)
  deriving DecidableEq

namespace Content

/-- The character that marks a formula. -/
def formulaMarker : Char := '='

/-- The content that is entered as `raw`, with what the name rules were
    asked. -/
def enter (rules : NameRules) (raw : String) : Consultation NameQuery FormulaError Content :=
  match Number.ofText? (Text.trim raw.toList) with
  | some value => .give (.number value)
  | none =>
    match raw.toList with
    | [] => .give (.text raw)
    | c :: rest =>
      if c = formulaMarker then .formula <$> Formula.parse rules (String.ofList rest)
      else .give (.text raw)

/-- The content that is entered as `raw`. -/
def ofInput (rules : NameRules) (raw : String) : Except FormulaError Content :=
  (enter rules raw).result

/-- The content of an empty cell. -/
def empty : Content := .text ""

/-- Is this the content of an empty cell? -/
def isEmpty : Content → Bool
  | .text value => value.isEmpty
  | .number _ | .formula _ => false

/-- The input that gives this content. -/
def input : Content → String
  | .number value => Number.canonical value
  | .text value => value
  | .formula value => String.singleton formulaMarker ++ value.text

/-- The names of the cells that the content refers to. -/
def references : Content → Std.ExtTreeSet String
  | .formula value => value.variableNames
  | .number _ | .text _ => ∅

end Content

end Worksheet
