import Worksheet.Text.Blank
import Worksheet.Text.Quoted

/-! # Arguments

    The command line names a file to open and has options to set cells, to save
    the sheet and to choose the settings.  Arguments are read from left to right.
    An option takes the next argument as its value, whatever that looks like; of
    repeated options the last one counts, except that every cell is set. -/

namespace Worksheet.CommandLine

/-- What a run has to do. -/
structure Request where
  file : Option String
  /-- The cells to set, with what is entered into each. -/
  assignments : List (String × String)
  output : Option String
  config : Option String
  deriving DecidableEq, Repr

/-- What the arguments ask for. -/
inductive Invocation where
  | help
  | run (request : Request)
  deriving DecidableEq, Repr

/-- Why arguments are not understood. -/
inductive ArgumentError where
  | missingValue (option : String)
  | unknownOption (argument : String)
  | unexpected (argument : String)
  /-- The value of an option that sets a cell has no equals sign. -/
  | badAssignment (value : String)
  deriving DecidableEq, Repr

/-- The wording of an argument error. -/
def ArgumentError.message : ArgumentError → String
  | .missingValue option => option ++ " requires a value"
  | .unknownOption argument => "Unknown option: " ++ argument
  | .unexpected argument => "Unexpected argument: " ++ argument
  | .badAssignment value => "Expected CELL=CONTENT, got " ++ Text.quoted value

/-- The options that take a value. -/
inductive Setter where
  | cell
  | output
  | config
  deriving DecidableEq, Repr

/-- The option that an argument is, in its short or its long form. -/
def Setter.ofArgument? (argument : String) : Option Setter :=
  match argument with
  | "-s" | "--set" => some .cell
  | "-o" | "--output" => some .output
  | "-c" | "--config" => some .config
  | _ => none

/-- The cell and its content from a value: the name before the first equals sign,
    without blanks around it, and everything after the sign. -/
def assignment? (value : String) : Option (String × String) :=
  let name := value.toList.takeWhile (· ≠ '=')
  match value.toList.drop name.length with
  | [] => none
  | _ :: content => some (String.ofList (Text.trim name), String.ofList content)

namespace Request

/-- The request for nothing in particular. -/
def empty : Request := ⟨none, [], none, none⟩

/-- The request with one more option. -/
def set (r : Request) (setter : Setter) (value : String) : Except ArgumentError Request :=
  match setter with
  | .cell =>
    match assignment? value with
    | some assignment => .ok { r with assignments := r.assignments ++ [assignment] }
    | none => .error (.badAssignment value)
  | .output => .ok { r with output := some value }
  | .config => .ok { r with config := some value }

/-- The request with the file to open. -/
def setFile (r : Request) (argument : String) : Except ArgumentError Request :=
  if argument.toList.head? = some '-' then .error (.unknownOption argument)
  else if r.file.isSome then .error (.unexpected argument)
  else .ok { r with file := some argument }

end Request

/-- What the arguments ask for, where `r` is what those before them ask for.  A
    wish for help ends the reading. -/
def parseFrom (r : Request) : List String → Except ArgumentError Invocation
  | [] => .ok (.run r)
  | argument :: rest =>
    if argument = "-h" ∨ argument = "--help" then .ok .help
    else
      match Setter.ofArgument? argument, rest with
      | some _, [] => .error (.missingValue argument)
      | some setter, value :: rest => do parseFrom (← r.set setter value) rest
      | none, rest => do parseFrom (← r.setFile argument) rest

/-- What the arguments ask for. -/
def parse (arguments : List String) : Except ArgumentError Invocation :=
  parseFrom .empty arguments

end Worksheet.CommandLine
