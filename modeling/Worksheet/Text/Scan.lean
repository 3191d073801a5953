/-! # Scanning text

    A scanner goes through a text in steps.  Each step takes something off the
    front and either goes on with a new state or stops with a result; a step
    that finds nothing it can read makes the whole scan fail. -/

namespace Worksheet.Text

/-- What a step of a scan comes to: a state to go on with, or the result; both
    with the text that is left. -/
inductive Progress (σ α : Type) where
  | more (state : σ) (rest : List Char)
  | done (result : α) (rest : List Char)

/-- Steps from the state `s`: at most one for each character of `bound`, and one
    more. -/
def scanSteps {σ α : Type} (step : σ → List Char → Option (Progress σ α))
    (bound : List Char) (s : σ) (cs : List Char) : Option (α × List Char) :=
  match step s cs, bound with
  | some (.done result rest), _ => some (result, rest)
  | some (.more s rest), _ :: bound => scanSteps step bound s rest
  | _, _ => none

/-- Scans `cs` from the state `s`.  Every step but the last takes something off the
    text, so the text itself is a bound for the number of steps. -/
def scan {σ α : Type} (step : σ → List Char → Option (Progress σ α)) (s : σ) (cs : List Char) :
    Option (α × List Char) :=
  scanSteps step cs s cs

end Worksheet.Text
