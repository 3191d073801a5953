import Worksheet.SavedSheet.Reader
import Worksheet.SavedSheet.Writer
import Worksheet.Sheet.Edit
import Worksheet.Sheet.Query

/-! # Loading and saving sheets

    A sheet is loaded by entering the records of a saved sheet into an empty
    one with the same rules.  Only if all of them are accepted do the new
    cells take the place of the old ones. -/

namespace Worksheet.Sheet

/-- The saved sheet in the file at `path`. -/
def readSaved (read : FileReader) (path : String) : Except SheetError SavedSheet := do
  let text ← (read.text path).mapError .file
  (SavedSheet.parse text).mapError .parse

/-- The version of the saved sheet in the file at `path`. -/
def savedVersion (read : FileReader) (path : String) : Except SheetError String :=
  SavedSheet.version <$> readSaved read path

/-- Enters records one after the other, up to the first that is refused. -/
def enterRecords (s : Sheet) : List Record → Except SheetError Sheet
  | [] => .ok s
  | record :: rest =>
    let outcome := s.enter record.name record.input
    match outcome.result with
    | .error cause => .error (.load record.name cause)
    | .ok _ => outcome.sheet.enterRecords rest

/-- The sheet with these rules and this version that a saved sheet gives. -/
def ofSaved (rules : NameRules) (version : String) (saved : SavedSheet) :
    Except SheetError Sheet :=
  if saved.version = version then (new rules version).enterRecords saved.records
  else .error (.versionMismatch version saved.version)

/-- Replaces the cells by those saved in the file at `path`. -/
def load (s : Sheet) (read : FileReader) (path : String) : Outcome Unit :=
  match readSaved read path >>= ofSaved s.rules s.version with
  | .error e => ⟨s, .error e⟩
  | .ok loaded =>
    ⟨{ s with cells := loaded.cells, graph := loaded.graph, path := some path, modified := false },
      .ok ()⟩

/-- The sheet saved in the file at `path`, with these rules and this version. -/
def openFile (read : FileReader) (path : String) (rules : NameRules) (version : String) :
    Except SheetError Sheet :=
  let outcome := (new rules version).load read path
  outcome.result.map fun _ => outcome.sheet

/-- The sheet as it is saved. -/
def savedText (s : Sheet) : String :=
  SavedSheet.write s.version <| s.sortedNames.filterMap fun name =>
    s.cells[name]?.map fun cell => (name, cell.content)

/-- The sheet with `path` as its file. -/
def setPath (s : Sheet) (path : String) : Sheet :=
  { s with path := some path }

/-- What a sheet becomes when `written` comes of writing it to `path`. -/
def afterWriting (s : Sheet) (path : String) (written : Except FileError Unit) : Outcome String :=
  match written with
  | .error e => ⟨s, .error (.file e)⟩
  | .ok () => ⟨{ s with path := some path, modified := false }, .ok path⟩

/-- Saves the sheet to the file at `path`, which becomes its file. -/
def saveAs (s : Sheet) (files : Files) (path : String) : Files × Outcome String :=
  match files.write path s.savedText with
  | .error e => (files, s.afterWriting path (.error e))
  | .ok files => (files, s.afterWriting path (.ok ()))

/-- Saves the sheet to its file. -/
def save (s : Sheet) (files : Files) : Files × Outcome String :=
  match s.path with
  | none => (files, ⟨s, .error .noFilePath⟩)
  | some path => s.saveAs files path

end Worksheet.Sheet
