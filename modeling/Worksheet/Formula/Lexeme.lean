import Worksheet.Text.Blank
import Worksheet.Number.Numeral
import Worksheet.Name.Shape

/-! # Lexemes of a formula

    The text of a formula is cut into runs from left to right.  A run is a
    parenthesis, an operator symbol, a variable, a numeral or blank space;
    each takes as many characters as it can.  Where none of these begins, the
    characters up to the next place where one does form an unrecognized run.
    The runs make up the whole text, so nothing is lost; the lexemes are the
    runs without the blank ones. -/

namespace Worksheet.Formula

/-- The lexical shape of a lexeme. -/
inductive Shape where
  | leftParen
  | rightParen
  | operator
  | number
  | var
  | unrecognized
  deriving DecidableEq, Repr

/-- A piece of a formula's text together with its shape. -/
structure Lexeme where
  shape : Shape
  text : String
  deriving DecidableEq, Repr

/-- A piece of a formula's text, blank if it has no shape. -/
structure Run where
  shape : Option Shape
  text : List Char
  deriving DecidableEq, Repr

/-- Is `c` the symbol of an operator? -/
def isOperatorSymbol (c : Char) : Bool :=
  c = '+' || c = '-' || c = '*' || c = '/'

/-- The run that begins with `c` in front of `cs`: its shape and how many of
    `cs` belong to it. -/
def recognize (c : Char) (cs : List Char) : Option (Option Shape × Nat) :=
  if c = '(' then some (some .leftParen, 0)
  else if c = ')' then some (some .rightParen, 0)
  else if isOperatorSymbol c then some (some .operator, 0)
  else if Name.isStart c then some (some .var, (cs.takeWhile Name.isPart).length)
  else
    match Number.numeralLength (c :: cs) with
    | n + 1 => some (some .number, n)
    | 0 => if Text.isBlank c then some (none, (cs.takeWhile Text.isBlank).length) else none

/-- How many characters pass before a run is recognized. -/
def strayLength : List Char → Nat
  | [] => 0
  | c :: cs => if (recognize c cs).isSome then 0 else strayLength cs + 1

/-- The shape of the run at the front of `c :: cs` and how many of `cs` belong
    to it. -/
def nextRun (c : Char) (cs : List Char) : Option Shape × Nat :=
  (recognize c cs).getD (some .unrecognized, strayLength cs)

/-- The text `cs` cut into runs. -/
def runs : List Char → List Run
  | [] => []
  | c :: cs =>
    let next := nextRun c cs
    ⟨next.1, c :: cs.take next.2⟩ :: runs (cs.drop next.2)
termination_by cs => cs.length
decreasing_by simp only [List.length_cons, List.length_drop]; omega

/-- The lexeme of a run that is not blank. -/
def Run.lexeme? (run : Run) : Option Lexeme :=
  run.shape.map fun shape => ⟨shape, String.ofList run.text⟩

/-- The lexemes of a formula's text, without any marker in front. -/
def tokenize (text : String) : List Lexeme :=
  (runs text.toList).filterMap Run.lexeme?

end Worksheet.Formula
