import Worksheet.Sheet.Basic

/-! # Editing a sheet

    A new content is accepted if the references stay free of cycles.  Then the
    cell and everything that depends on it is evaluated again, each cell after
    those it depends on. -/

namespace Worksheet.Sheet

/-- Evaluates the cell called `name` again, if there is one. -/
def recalculate (cells : Std.ExtTreeMap String Cell) (name : String) :
    Std.ExtTreeMap String Cell :=
  match cells[name]? with
  | some cell => cells.insert name (cell.recalculate (lookup cells))
  | none => cells

/-- The cells after the cell called `name` has got `content`, before the cells
    that depend on it are evaluated again. -/
def place (cells : Std.ExtTreeMap String Cell) (name : String) (content : Content) :
    Std.ExtTreeMap String Cell :=
  if content.isEmpty then cells.erase name
  else cells.insert name (.ofContent (lookup cells) content)

/-- Gives the cell called `name`, a legal name in normal form, a new content.
    The result is the set of cells that were evaluated.  The references are
    replaced first; if they turn out to be circular, the former ones are put
    back and no cell is touched. -/
def commit (s : Sheet) (name : String) (content : Content) : Outcome (Std.ExtTreeSet String) :=
  let former := s.graph.dependees name
  let graph := s.graph.replaceDependees name content.references.toList
  match graph.recalculationOrder name with
  | .error _ =>
    ⟨{ s with graph := graph.replaceDependees name former.toList }, .error (.circular name)⟩
  | .ok order =>
    -- The order begins with the edited cell, which `place` evaluates.
    let cells := (order.drop 1).foldl recalculate (place s.cells name content)
    ⟨{ s with cells := cells, graph := graph, modified := true }, .ok (.ofList order)⟩

/-- Enters `input` into the cell called `name`. -/
def enter (s : Sheet) (name input : String) : Outcome (Std.ExtTreeSet String) :=
  match legalName s.rules name with
  | .error e => ⟨s, .error e⟩
  | .ok name =>
    match Content.ofInput s.rules input with
    | .error e => ⟨s, .error (.formula e)⟩
    | .ok content => s.commit name content

/-- Empties the cell called `name`. -/
def clear (s : Sheet) (name : String) : Outcome (Std.ExtTreeSet String) :=
  match legalName s.rules name with
  | .error e => ⟨s, .error e⟩
  | .ok name => s.commit name .empty

end Worksheet.Sheet
