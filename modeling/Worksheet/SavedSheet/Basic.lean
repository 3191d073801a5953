/-! # Saved sheets

    A saved sheet is a text file with one line for the version of the sheet
    and one line for each cell.  Cells are saved as what was entered into
    them, so a saved sheet is opened by entering its records one by one. -/

namespace Worksheet

/-- A cell in a saved sheet: its name, and what has to be entered into it. -/
structure Record where
  name : String
  input : String
  deriving DecidableEq, Repr

/-- A saved sheet, with its records in the order of their lines. -/
structure SavedSheet where
  version : String
  records : List Record
  deriving DecidableEq, Repr

namespace SavedSheet

/-- What begins the line that holds the version. -/
def versionMark : String := "@version"

/-- What can be wrong with a saved sheet. -/
inductive Fault where
  | duplicateVersion
  | missingVersion
  | noSeparator
  | noName
  | badValue (text : String)
  deriving DecidableEq, Repr

/-- The wording of a fault. -/
def Fault.message : Fault → String
  | .duplicateVersion => "Duplicate '" ++ versionMark ++ "' line"
  | .missingVersion => "Missing '" ++ versionMark ++ "' line"
  | .noSeparator => "Expected 'NAME: VALUE' format"
  | .noName => "Missing cell name"
  | .badValue text => "Invalid value: " ++ text ++ ". Use quotes for text."

/-- A fault and the number of the line that has it, counted from 1. -/
structure ParseError where
  line : Nat
  fault : Fault
  deriving DecidableEq, Repr

end SavedSheet

end Worksheet
