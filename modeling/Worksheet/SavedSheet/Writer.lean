import Worksheet.Cell.Content
import Worksheet.SavedSheet.Basic
import Worksheet.SavedSheet.Escape

/-! # Writing saved sheets

    A comment, the version, and one record for each cell, each on a line of
    its own.  Numbers and formulas stand in canonical form, text in quotes. -/

namespace Worksheet.SavedSheet

/-- The comment on the first line. -/
def heading : String := "# sheetcalc spreadsheet"

/-- A content as it is saved. -/
def writeValue : Content → String
  | .text value => "\"" ++ String.ofList (escape value.toList) ++ "\""
  | content => content.input

/-- The text of a saved sheet with this version and these cells, in this
    order. -/
def write (version : String) (cells : List (String × Content)) : String :=
  let records := cells.map fun (name, content) => name ++ ": " ++ writeValue content
  let lines := heading :: (versionMark ++ " " ++ version) :: records
  String.join (lines.map (· ++ "\n"))

end Worksheet.SavedSheet
