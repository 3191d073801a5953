import Worksheet.CommandLine.Arguments
import Worksheet.CommandLine.Usage
import Worksheet.Settings.Basic
import Worksheet.Sheet.File

/-! # Runs of the command line

    A run opens a sheet or creates one, sets cells in it, lists its cells, and
    saves it if asked to.  Up to saving it only reads files, so it either plans to
    save a certain sheet or is over without having written anything. -/

namespace Worksheet.CommandLine

/-- What a run leaves behind: its exit code, and what it has written on the two
    standard streams. -/
structure Report where
  code : Nat
  output : String
  messages : String
  deriving DecidableEq, Repr

/-- What a run fails at. -/
inductive Failure where
  | opening (path : String) (cause : SheetError)
  | setting (cell : String) (cause : SheetError)
  | listing (cause : SheetError)
  | saving (path : String) (cause : SheetError)
  deriving DecidableEq, Repr

/-- The wording of a failure: what was to be done, and all causes, outermost
    first. -/
def Failure.message : Failure → String
  | .opening path cause => joined (("Failed to open " ++ path) :: cause.chain)
  | .setting cell cause => joined (("Failed to set " ++ cell) :: cause.chain)
  | .listing cause => joined cause.chain
  | .saving path cause => joined (("Failed to save " ++ path) :: cause.chain)
where
  /-- The parts with a colon and a space between them. -/
  joined (parts : List String) : String :=
    ": ".intercalate parts

/-- The line that shows an error. -/
def errorLine (message : String) : String :=
  line ("Error: " ++ message)

/-- The line that shows a warning about the settings. -/
def warningLine (warning : Settings.Warning) : String :=
  line ("Warning: " ++ warning.message)

/-- What has been printed, and how printing has ended. -/
structure Printing where
  output : String
  result : Except SheetError Unit

/-- Prints lines, up to the first that could not be made. -/
def printLines : List (Except SheetError String) → Printing
  | [] => ⟨"", .ok ()⟩
  | .error cause :: _ => ⟨"", .error cause⟩
  | .ok line :: rest =>
    let later := printLines rest
    ⟨line ++ later.output, later.result⟩

/-- The line that lists a cell. -/
def cellLine (s : Sheet) (name : String) : Except SheetError String := do
  return line (name ++ "\t" ++ (← s.displayOf name))

/-- Prints all cells, in listing order. -/
def listing (s : Sheet) : Printing :=
  printLines (s.sortedNames.map (cellLine s))

/-- Enters contents one after the other. -/
def assign (s : Sheet) : List (String × String) → Except Failure Sheet
  | [] => .ok s
  | (cell, content) :: rest =>
    let outcome := s.enter cell content
    match outcome.result with
    | .error cause => .error (.setting cell cause)
    | .ok _ => assign outcome.sheet rest

/-- The sheet that a run begins with. -/
def openSheet (read : FileReader) (settings : Settings) (file : Option String) :
    Except Failure Sheet :=
  match file with
  | none => .ok (.new settings.rules settings.version)
  | some path => (Sheet.openFile read path settings.rules settings.version).mapError (.opening path)

/-- The sheet with all cells set. -/
def evaluate (read : FileReader) (settings : Settings) (request : Request) :
    Except Failure Sheet := do
  assign (← openSheet read settings request.file) request.assignments

/-- A run up to saving. -/
inductive Plan where
  /-- The run is over. -/
  | finish (report : Report)
  /-- The sheet is to be saved to the file at `path`; the report is what the run
      leaves behind up to then. -/
  | save (sheet : Sheet) (path : String) (report : Report)

/-- A run on a request, up to saving. -/
def Plan.ofRequest (read : FileReader) (userPath : Option String) (request : Request) : Plan :=
  let (settings, warnings) := Settings.load read request.config userPath
  let shown := String.join (warnings.map warningLine)
  match evaluate read settings request with
  | .error failure => .finish ⟨1, "", shown ++ errorLine failure.message⟩
  | .ok s =>
    let ⟨output, result⟩ := listing s
    match result, request.output with
    | .error cause, _ => .finish ⟨1, output, shown ++ errorLine (Failure.listing cause).message⟩
    | .ok (), none => .finish ⟨0, output, shown⟩
    | .ok (), some path => .save s path ⟨0, output, shown⟩

/-- A run on arguments, up to saving. -/
def Plan.ofArguments (read : FileReader) (userPath : Option String) (arguments : List String) :
    Plan :=
  match parse arguments with
  | .error e => .finish ⟨1, "", errorLine e.message ++ usage⟩
  | .ok .help => .finish ⟨0, "", usage⟩
  | .ok (.run request) => .ofRequest read userPath request

/-- The report after saving to the file at `path`. -/
def Report.afterSaving (report : Report) (path : String) (saved : Except SheetError String) :
    Report :=
  match saved with
  | .ok _ => { report with messages := report.messages ++ line ("Saved to " ++ path) }
  | .error cause =>
    { report with
      code := 1
      messages := report.messages ++ errorLine (Failure.saving path cause).message }

/-- A run on a tree of files: the files afterwards and the report. -/
def run (files : Files) (userPath : Option String) (arguments : List String) : Files × Report :=
  match Plan.ofArguments files.read userPath arguments with
  | .finish report => (files, report)
  | .save s path report =>
    let (files, outcome) := s.saveAs files path
    (files, report.afterSaving path outcome.result)

/-- The paths that a run on these arguments may read. -/
def inputs (userPath : Option String) (arguments : List String) : List String :=
  match parse arguments with
  | .ok (.run request) => (request.config.or userPath).toList ++ request.file.toList
  | _ => []

end Worksheet.CommandLine
