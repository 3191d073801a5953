import Worksheet.Sheet.Basic
import Worksheet.Settings.Document
import Worksheet.Settings.NamePattern

/-! # Settings

    The settings give new sheets their version and their rules for names.  They
    come from a file; what is missing there or cannot be used keeps its default,
    and for what cannot be used there is a warning. -/

namespace Worksheet

/-- How sheets are created and opened. -/
structure Settings where
  version : String
  /-- Are the letters of names brought to upper case? -/
  uppercaseNames : Bool
  /-- What names have to look like besides. -/
  namePattern : Option NamePattern
  deriving DecidableEq, Repr

namespace Settings

/-- Why a settings file or a part of it is not used.  For a text that is no settings
    file, and for one that is no pattern, there is no further reason: reading them
    only tells that they are none. -/
inductive Warning where
  | notFound (path : String)
  | tooLarge (path : String) (size : Nat)
  | unreadable (path : String) (cause : FileError)
  | malformed (path : String)
  | badVersion (tag : String)
  | badNamePattern (text : String)
  deriving DecidableEq, Repr

/-- The greatest size of a settings file in bytes. -/
def maxSize : Nat := 1048576

/-- The wording of a warning.  Where there is no further reason, it ends before the
    colon that a reason would stand behind. -/
def Warning.message : Warning → String
  | .notFound path => "Config file not found: " ++ path
  | .tooLarge path size =>
    "Refusing to read " ++ path ++ ": file too large (" ++ toString size ++ " bytes, max " ++
      toString maxSize ++ ")"
  | .unreadable path cause => "Failed to read " ++ path ++ ": " ++ cause.message
  | .malformed path => "Failed to parse " ++ path
  | .badVersion tag => "Ignoring invalid version tag " ++ Text.quoted tag
  | .badNamePattern text => "Ignoring name_pattern " ++ Text.quoted text

/-- The settings where a file says nothing. -/
def default : Settings := ⟨Sheet.defaultVersion, false, none⟩

/-- The rules for names under these settings. -/
def rules (s : Settings) : NameRules where
  normalize name := if s.uppercaseNames then name.toUpper else name
  isValid name := s.namePattern.all fun p => p.allows name

/-- The version that a file asks for: its blanks at either end do not count, and
    it must be neither empty nor hold other blanks. -/
def versionOf (tag : String) : Except Warning String :=
  let cs := Text.trim tag.toList
  let trimmed := String.ofList cs
  if cs = [] ∨ cs.any Text.isBlank then .error (.badVersion trimmed) else .ok trimmed

/-- The restriction on names that a file asks for. -/
def namePatternOf (text : String) : Except Warning NamePattern :=
  match NamePattern.ofText? text with
  | some p => .ok p
  | none => .error (.badNamePattern text)

/-- The part of the settings that `read` makes of the value in a file, or else the
    default, perhaps with a warning. -/
def choose {α β : Type} (value : Option α) (read : α → Except Warning β) (default : β) :
    β × List Warning :=
  match value with
  | none => (default, [])
  | some a =>
    match read a with
    | .ok b => (b, [])
    | .error w => (default, [w])

/-- The settings that a document asks for. -/
def ofDocument (d : Document) : Settings × List Warning :=
  let (version, versionWarnings) := choose d.version versionOf default.version
  let (namePattern, patternWarnings) :=
    choose d.namePattern (fun text => some <$> namePatternOf text) default.namePattern
  (⟨version, d.uppercaseNames.getD default.uppercaseNames, namePattern⟩,
    versionWarnings ++ patternWarnings)

/-- The document in the file at `path`.  It is an error that nothing is there only
    if the file `isRequired`. -/
def readDocument (read : FileReader) (path : String) (isRequired : Bool) :
    Except Warning Document :=
  match read path with
  | .error cause =>
    if ¬ cause.isAbsence then .error (.unreadable path cause)
    else if isRequired then .error (.notFound path)
    else .ok .empty
  | .ok content =>
    if maxSize < content.size then .error (.tooLarge path content.size)
    else
      match content.toText with
      | .error cause => .error (.unreadable path cause)
      | .ok text =>
        match Document.parse? text with
        | some d => .ok d
        | none => .error (.malformed path)

/-- The settings from the file at `path`, or for want of a path from the user's
    own file, which need not be there. -/
def load (read : FileReader) (path userPath : Option String) : Settings × List Warning :=
  match path.or userPath with
  | none => (default, [])
  | some file =>
    match readDocument read file path.isSome with
    | .ok d => ofDocument d
    | .error w => (default, [w])

end Settings

end Worksheet
