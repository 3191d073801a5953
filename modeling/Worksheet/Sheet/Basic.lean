import Worksheet.Name.Order
import Worksheet.Cell.Value
import Worksheet.Dependency.Order
import Worksheet.Sheet.Error

/-! # Sheets

    A sheet holds cells under names in normal form, together with the graph of
    the references between them: an edge from `a` to `b` says that the formula
    of `b` refers to `a`.  An empty cell has no entry. -/

namespace Worksheet

/-- A sheet. -/
structure Sheet where
  rules : NameRules
  version : String
  cells : Std.ExtTreeMap String Cell
  graph : Dependency.Graph
  /-- The file that the sheet was last loaded from or saved to. -/
  path : Option String
  /-- Has the sheet changed since it was created, loaded or saved? -/
  modified : Bool

/-- What comes of an operation on a sheet: the sheet afterwards and the
    result. -/
structure Outcome (α : Type) where
  sheet : Sheet
  result : Except SheetError α

namespace Sheet

/-- The version of a sheet for which none is given. -/
def defaultVersion : String := "default"

/-- The empty sheet with these rules and this version. -/
def new (rules : NameRules) (version : String) : Sheet where
  rules := rules
  version := version
  cells := ∅
  graph := ∅
  path := none
  modified := false

/-- The empty sheet that keeps names as they are and allows all of them. -/
def plain : Sheet := new .plain defaultVersion

/-- Is `name`, in normal form, a legal cell name? -/
def isLegal (rules : NameRules) (name : String) : Bool :=
  Name.isCell name && rules.isValid name

/-- The normal form of `name`, if that is a legal cell name. -/
def legalName (rules : NameRules) (name : String) : Except SheetError String :=
  let normalized := rules.normalize name
  if isLegal rules normalized then .ok normalized else .error (.invalidName name)

/-- What a formula sees of the cells: numbers only. -/
def lookup (cells : Std.ExtTreeMap String Cell) : Formula.Lookup := fun name =>
  match cells[name]? with
  | some cell => cell.value.toNumber
  | none => .error .undefined

end Sheet

end Worksheet
