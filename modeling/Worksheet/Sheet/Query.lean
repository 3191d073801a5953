import Worksheet.Sheet.Basic

/-! # Reading a sheet

    Cells are read by name; the name is brought to its normal form first.  An
    empty cell holds empty text. -/

namespace Worksheet.Sheet

/-- The content of the cell called `name`. -/
def contentOf (s : Sheet) (name : String) : Except SheetError Content := do
  let name ← legalName s.rules name
  match s.cells[name]? with
  | some cell => .ok cell.content
  | none => .ok .empty

/-- The value of the cell called `name`. -/
def valueOf (s : Sheet) (name : String) : Except SheetError Value := do
  let name ← legalName s.rules name
  match s.cells[name]? with
  | some cell => .ok cell.value
  | none => .ok (.text "")

/-- The value of the cell called `name` as it is shown. -/
def displayOf (s : Sheet) (name : String) : Except SheetError String :=
  Value.display <$> s.valueOf name

/-- The cells whose formulas refer to the cell called `name`. -/
def dependentsOf (s : Sheet) (name : String) : Except SheetError (Std.ExtTreeSet String) :=
  s.graph.dependents <$> legalName s.rules name

/-- The names of the cells, in text order. -/
def names (s : Sheet) : List String :=
  s.cells.keys

/-- The names of the cells, in listing order. -/
def sortedNames (s : Sheet) : List String :=
  Name.sort s.names

/-- A summary of the sheet: how many cells and edges it has, its version, its
    file and whether it is modified. -/
def summary (s : Sheet) : String :=
  let path := match s.path with
    | some path => "Some(" ++ Text.quoted path ++ ")"
    | none => "None"
  "Spreadsheet \x7b cells: " ++ toString s.cells.size ++ ", edges: " ++ toString s.graph.size ++
    ", version: " ++ Text.quoted s.version ++ ", file_path: " ++ path ++
    ", modified: " ++ toString s.modified ++ " \x7d"

end Worksheet.Sheet
