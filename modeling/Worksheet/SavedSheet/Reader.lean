import Worksheet.Text.Blank
import Worksheet.Text.Split
import Worksheet.Number.Basic
import Worksheet.Cell.Content
import Worksheet.SavedSheet.Basic
import Worksheet.SavedSheet.Escape

/-! # Reading saved sheets

    A saved sheet is read line by line.  Blank lines and comments are skipped,
    one line holds the version, and every other line is a record `NAME:
    VALUE`.  The value is a formula, a finite number, a text in quotes, or
    nothing.  Blanks around lines, names, values and the version do not
    count. -/

namespace Worksheet.SavedSheet

/-- What a single line says. -/
inductive Line where
  | skipped
  | version (tag : String)
  | record (value : Record)
  deriving DecidableEq, Repr

/-- The version that a trimmed line holds: the mark alone, or the mark, a blank
    and the version. -/
def versionTag? (line : List Char) : Option String :=
  let mark := versionMark.toList
  if mark.isPrefixOf line then
    match line.drop mark.length with
    | [] => some ""
    | c :: rest =>
      if Text.isBlank c then some (String.ofList (Text.trim (c :: rest))) else none
  else none

/-- The text between two double quotes that enclose all of `value`. -/
def betweenQuotes? (value : List Char) : Option (List Char) :=
  match value with
  | '"' :: rest => if rest.getLast? = some '"' then some rest.dropLast else none
  | _ => none

/-- What has to be entered for a saved value. -/
def readValue (cs : List Char) : Except Fault String :=
  let value := Text.trim cs
  if value = [] ∨ value.head? = some Content.formulaMarker then .ok (String.ofList value)
  else
    match betweenQuotes? value with
    | some text => .ok (String.ofList (unescape text))
    | none =>
      if (Number.ofText? value).isSome then .ok (String.ofList value)
      else .error (.badValue (String.ofList value))

/-- What a trimmed line says that is neither skipped nor holds the version. -/
def readRecord (line : List Char) : Except Fault Record :=
  match line.dropWhile (· ≠ ':') with
  | [] => .error .noSeparator
  | _ :: value =>
    let name := Text.trim (line.takeWhile (· ≠ ':'))
    if name = [] then .error .noName
    else do return ⟨String.ofList name, ← readValue value⟩

/-- What a line says. -/
def readLine (cs : List Char) : Except Fault Line :=
  let line := Text.trim cs
  if line = [] ∨ line.head? = some '#' then .ok .skipped
  else
    match versionTag? line with
    | some tag => .ok (.version tag)
    | none => .record <$> readRecord line

/-- Reads the lines from number `number` on, where `version` is the version
    that was read before. -/
def readLines (number : Nat) (version : Option String) :
    List (List Char) → Except ParseError SavedSheet
  | [] =>
    match version with
    | some tag => .ok ⟨tag, []⟩
    | none => .error ⟨1, .missingVersion⟩
  | line :: rest =>
    match readLine line with
    | .error fault => .error ⟨number, fault⟩
    | .ok .skipped => readLines (number + 1) version rest
    | .ok (.version tag) =>
      if version.isSome then .error ⟨number, .duplicateVersion⟩
      else readLines (number + 1) (some tag) rest
    | .ok (.record value) => do
      let saved ← readLines (number + 1) version rest
      return { saved with records := value :: saved.records }

/-- The saved sheet that `text` is. -/
def parse (text : String) : Except ParseError SavedSheet :=
  readLines 1 none (Text.split '\n' text.toList)

end Worksheet.SavedSheet
