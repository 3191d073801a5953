import Worksheet.CommandLine.Run

/-! # The program

    Reads the files that a run may need, follows its plan, and shows its report. -/

namespace Worksheet.Main

/-- The file error behind an error of the system. -/
def fileError : IO.Error → FileError
  | .noFileOrDirectory _ _ _ => .notFound
  | .inappropriateType _ code details =>
    if code = 21 then .isDirectory else if code = 20 then .notDirectory else .other details
  | e => .other (toString e)

/-- What is at `path`. -/
def readFile (path : String) : IO (Except FileError FileContent) := do
  try
    return .ok (.ofBytes (← IO.FS.readBinFile path))
  catch e => return .error (fileError e)

/-- Writes `text` to the file at `path`. -/
def writeFile (path text : String) : IO (Except FileError Unit) := do
  try
    IO.FS.writeFile path text
    return .ok ()
  catch e => return .error (fileError e)

/-- A reader that knows what is at these paths. -/
def reader (contents : List (String × Except FileError FileContent)) : FileReader := fun path =>
  (contents.lookup path).getD (.error .notFound)

/-- The path of the user's own settings file. -/
def userPath : IO (Option String) := do
  let dir? ← match ← IO.getEnv "XDG_CONFIG_HOME" with
    | some dir => pure (if dir.startsWith "/" then some dir else none)
    | none => pure none
  let home? := (← IO.getEnv "HOME").map fun home => home ++ "/.config"
  return (dir?.or home?).map fun dir => dir ++ "/sheetcalc/config.toml"

end Worksheet.Main

open Worksheet

/-- Runs the command line. -/
def main (arguments : List String) : IO UInt32 := do
  let userPath ← Main.userPath
  let paths := CommandLine.inputs userPath arguments
  let contents ← paths.mapM fun path => do return (path, ← Main.readFile path)
  let report ← match CommandLine.Plan.ofArguments (Main.reader contents) userPath arguments with
    | .finish report => pure report
    | .save sheet path report => do
      let written ← Main.writeFile path sheet.savedText
      pure (report.afterSaving path (sheet.afterWriting path written).result)
  IO.print report.output
  IO.eprint report.messages
  return report.code.toUInt32
