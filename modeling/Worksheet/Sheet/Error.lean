import Worksheet.Files
import Worksheet.Text.Quoted
import Worksheet.Formula.Error
import Worksheet.SavedSheet.Basic

/-! # Errors of sheet operations

    Why an operation on a sheet fails.  A failed operation leaves the sheet as
    it was. -/

namespace Worksheet

/-- Why an operation on a sheet fails. -/
inductive SheetError where
  /-- The name, as it was given, is not a legal cell name. -/
  | invalidName (name : String)
  | formula (cause : FormulaError)
  /-- The new content of `cell` would make it depend on itself. -/
  | circular (cell : String)
  | file (cause : FileError)
  | parse (cause : SavedSheet.ParseError)
  | versionMismatch (expected found : String)
  | noFilePath
  /-- The record of `cell` cannot be entered. -/
  | load (cell : String) (cause : SheetError)
  deriving DecidableEq, Repr

namespace SheetError

/-- The wording of a sheet error. -/
def message : SheetError → String
  | .invalidName name => "Invalid cell name: " ++ Text.quoted name
  | .formula cause => "Formula error: " ++ cause.message
  | .circular cell => "Circular dependency: " ++ cell ++ " would depend on itself"
  | .file cause => "IO error: " ++ cause.message
  | .parse cause => "Parse error at line " ++ toString cause.line ++ ": " ++ cause.fault.message
  | .versionMismatch expected found =>
    "Version mismatch: expected " ++ Text.quoted expected ++ ", found " ++ Text.quoted found
  | .noFilePath => "No file path set"
  | .load cell cause => "Cell " ++ cell ++ " in saved sheet: " ++ cause.message

/-- The messages of the error and of all causes behind it, outermost first. -/
def chain (e : SheetError) : List String :=
  match e with
  | .formula cause => [e.message, cause.message]
  | .file cause => [e.message, cause.message]
  | .load _ cause => e.message :: cause.chain
  | _ => [e.message]

end SheetError

end Worksheet
