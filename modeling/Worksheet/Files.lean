import Std.Data.ExtTreeMap
import Worksheet.Text.Split

/-! # Files

    A tree of files and directories.  The key of a place in it holds the names on
    the way from the root, joined by slashes.

    A path begins at the root if it begins with a slash, and otherwise in the
    working directory.  It is walked component by component: empty components
    and `.` stay where they are, `..` goes up, and everything but the last
    component has to be a directory. -/

namespace Worksheet

/-- Why a file cannot be read or written. -/
inductive FileError where
  | notFound
  | notDirectory
  | isDirectory
  | nameTooLong
  | nulInName
  | notText
  /-- A reason of the surrounding system. -/
  | other (reason : String)
  deriving DecidableEq, Repr

namespace FileError

/-- The wording of a file error. -/
def message : FileError → String
  | .notFound => "No such file or directory (os error 2)"
  | .notDirectory => "Not a directory (os error 20)"
  | .isDirectory => "Is a directory (os error 21)"
  | .nameTooLong => "File name too long (os error 36)"
  | .nulInName => "file name contained an unexpected NUL byte"
  | .notText => "stream did not contain valid UTF-8"
  | .other reason => reason

/-- Does the error say that nothing can be at the path? -/
def isAbsence : FileError → Bool
  | .notFound | .notDirectory | .nameTooLong | .nulInName => true
  | .isDirectory | .notText | .other _ => false

end FileError

/-- What a file holds: a text, or bytes that are no text. -/
inductive FileContent where
  | text (value : String)
  | bytes (count : Nat)
  deriving DecidableEq, Repr

namespace FileContent

/-- The content that these bytes are. -/
def ofBytes (data : ByteArray) : FileContent :=
  match String.fromUTF8? data with
  | some value => .text value
  | none => .bytes data.size

/-- The number of bytes. -/
def size : FileContent → Nat
  | .text value => value.utf8ByteSize
  | .bytes count => count

/-- The content as a text. -/
def toText : FileContent → Except FileError String
  | .text value => .ok value
  | .bytes _ => .error .notText

end FileContent

/-- A way to read files: what is at a path. -/
abbrev FileReader := String → Except FileError FileContent

/-- The text of the file at `path`. -/
def FileReader.text (read : FileReader) (path : String) : Except FileError String := do
  (← read path).toText

/-- What is at a place in a tree of files. -/
inductive Node where
  | directory
  | file (content : FileContent)
  deriving DecidableEq, Repr

/-- A tree of files, as a program sees it that works in one of the directories. -/
structure Files where
  /-- What is at each place but the root, which is a directory. -/
  nodes : Std.ExtTreeMap String Node
  /-- The place of the working directory. -/
  current : String

namespace Files

/-- No files, and the root as the working directory. -/
def empty : Files := ⟨∅, ""⟩

/-- The key of the place below the directory `dir` that is called `name`. -/
def below (dir : String) (name : List Char) : String :=
  if dir.isEmpty then String.ofList name else dir ++ "/" ++ String.ofList name

/-- The directory that `place` lies in.  For the root this is the root. -/
def parent (place : String) : String :=
  String.ofList ((place.toList.reverse.dropWhile (· ≠ '/')).drop 1).reverse

/-- Is `place` a directory? -/
def isDirectory (files : Files) (place : String) : Bool :=
  place.isEmpty || decide (files.nodes[place]? = some .directory)

/-- Walks from the directory `place` along `names` and gives the place at the
    end.  There need not be anything there unless it has to be a directory. -/
def walk (files : Files) (place : String) : List (List Char) → Except FileError String
  | [] => .ok place
  | name :: rest =>
    if ¬ files.isDirectory place then
      .error (if files.nodes.contains place then .notDirectory else .notFound)
    else if (String.ofList name).utf8ByteSize > 255 then .error .nameTooLong
    else if name = [] ∨ name = ['.'] then files.walk place rest
    else if name = ['.', '.'] then files.walk (parent place) rest
    else files.walk (below place name) rest

/-- The place that `path` begins at. -/
def start (files : Files) (path : String) : String :=
  if path.toList.head? = some '/' then "" else files.current

/-- The place that `path` leads to. -/
def resolve (files : Files) (path : String) : Except FileError String :=
  if '\x00' ∈ path.toList then .error .nulInName
  else if path.isEmpty then .error .notFound
  else if path.utf8ByteSize ≥ 4096 then .error .nameTooLong
  else files.walk (files.start path) (Text.split '/' path.toList)

/-- What is at `path`. -/
def read (files : Files) : FileReader := fun path => do
  let place ← files.resolve path
  match files.nodes[place]? with
  | some (.file content) => .ok content
  | _ => .error (if files.isDirectory place then .isDirectory else .notFound)

/-- The tree with `node` at `place`. -/
def put (files : Files) (place : String) (node : Node) : Files :=
  { files with nodes := files.nodes.insert place node }

/-- The tree with the directories along `names`, the first of them in `dir`. -/
def addDirectories (files : Files) (dir : String) : List (List Char) → Files
  | [] => files
  | name :: rest =>
    let place := below dir name
    (files.put place .directory).addDirectories place rest

/-- The tree with `content` at the components of `path`, and with all directories
    above. -/
def add (files : Files) (path : String) (content : FileContent) : Files :=
  let names := (Text.split '/' path.toList).filter fun name => name ≠ [] ∧ name ≠ ['.']
  let dir := files.start path
  (files.addDirectories dir names.dropLast).put (names.foldl below dir) (.file content)

/-- `path` without the slashes at its end, unless it has nothing else. -/
def withoutSlashes (path : String) : String :=
  match path.toList.reverse.dropWhile (· = '/') with
  | [] => path
  | front => String.ofList front.reverse

/-- Writes `text` to the file at `path`, whose directory has to be there.  A
    path that ends in a slash can only be a directory. -/
def write (files : Files) (path : String) (text : String) : Except FileError Files := do
  let place ← files.resolve (withoutSlashes path)
  if files.isDirectory place ∨ path.toList.getLast? = some '/' then .error .isDirectory
  else .ok (files.put place (.file (.text text)))

end Files

end Worksheet
