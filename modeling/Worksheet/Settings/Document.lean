import Worksheet.Text.Hexadecimal
import Worksheet.Text.Scan

/-! # Settings files

    A settings file holds lines of the form `KEY = VALUE`, blank lines, and
    comments, which go from `#` to the end of the line.  There are three keys,
    none of which may come twice: `version` and `name_pattern` have texts as
    values, `uppercase_names` has `true` or `false`.

    A text stands between quotation marks, where a backslash begins an escape, or
    between apostrophes, where it does not.  Between three marks or apostrophes
    it may go over several lines.  A key may be written like a text of one
    line. -/

namespace Worksheet.Settings

/-- What a settings file says. -/
structure Document where
  version : Option String
  uppercaseNames : Option Bool
  namePattern : Option String
  deriving DecidableEq, Repr

/-- A value in a settings file. -/
inductive Scalar where
  | flag (value : Bool)
  | text (value : String)
  deriving DecidableEq, Repr

/-- The document that says nothing. -/
def Document.empty : Document := ⟨none, none, none⟩

/-- The document with one more line, if that has a key of its own and a value that
    fits it. -/
def Document.insert? (d : Document) (key : String) (value : Scalar) : Option Document :=
  match key, value with
  | "version", .text v => if d.version.isSome then none else some { d with version := some v }
  | "uppercase_names", .flag v =>
    if d.uppercaseNames.isSome then none else some { d with uppercaseNames := some v }
  | "name_pattern", .text v =>
    if d.namePattern.isSome then none else some { d with namePattern := some v }
  | _, _ => none

/-! ## Characters -/

/-- Can `c` stand in a comment or a text as it is?  Controls other than the tab
    cannot. -/
def isPlain (c : Char) : Bool :=
  c = '\t' || (0x20 ≤ c.toNat && c.toNat ≠ 0x7f)

/-- Is `c` a space or a tab? -/
def isSpace (c : Char) : Bool :=
  c = ' ' || c = '\t'

/-- Can `c` stand in a key as it is? -/
def isKeyChar (c : Char) : Bool :=
  c.isAlphanum || c = '_' || c = '-'

/-- The text with line feeds as its only line breaks: those with a carriage return
    in front lose it. -/
def unifyLineBreaks (cs : List Char) : List Char :=
  let (unified, _) := cs.foldr
    (fun c (rest, next) => (if c = '\r' ∧ next = some '\n' then rest else c :: rest, some c))
    ([], none)
  unified

/-- What is left after the end of a line: spaces, perhaps a comment, and a line
    break or the end of the text. -/
def lineEnd? (cs : List Char) : Option (List Char) :=
  let rest := cs.dropWhile isSpace
  match if rest.head? = some '#' then rest.dropWhile isPlain else rest with
  | [] => some []
  | '\n' :: rest => some rest
  | _ => none

/-! ## Texts -/

/-- Reads an escape after its backslash. -/
def readEscape : List Char → Option (Char × List Char)
  | 'b' :: rest => some ('\x08', rest)
  | 'f' :: rest => some ('\x0c', rest)
  | 'n' :: rest => some ('\n', rest)
  | 'r' :: rest => some ('\r', rest)
  | 't' :: rest => some ('\t', rest)
  | '"' :: rest => some ('"', rest)
  | '\\' :: rest => some ('\\', rest)
  | 'u' :: rest => codePoint 4 rest
  | 'U' :: rest => codePoint 8 rest
  | _ => none
where
  /-- A code point of `count` digits. -/
  codePoint (count : Nat) (cs : List Char) : Option (Char × List Char) :=
    let digits := cs.take count
    if digits.length < count then none
    else (Text.charOfHex? digits).map fun c => (c, cs.drop count)

/-- One step through a text in quotation marks, where `seen` is what was read of
    it, last first. -/
def quotedStep (seen : List Char) : List Char → Option (Text.Progress (List Char) (List Char))
  | '"' :: rest => some (.done seen.reverse rest)
  | '\\' :: rest => (readEscape rest).map fun (c, rest) => .more (c :: seen) rest
  | c :: rest => if isPlain c then some (.more (c :: seen) rest) else none
  | [] => none

/-- Reads a text after its quotation mark. -/
def readQuoted (cs : List Char) : Option (List Char × List Char) :=
  Text.scan quotedStep [] cs

/-- Reads a text after its apostrophe. -/
def readLiteral (cs : List Char) : Option (List Char × List Char) :=
  let value := cs.takeWhile fun c => c ≠ '\'' && isPlain c
  match cs.drop value.length with
  | '\'' :: rest => some (value, rest)
  | _ => none

/-- One step through a text of several lines between three marks.  Marks at the
    end belong to the text as far as there are more than three; one or two of them
    can stand anywhere.  A backslash at the end of a line takes the line break and
    all blank space after it away. -/
def linesStep (mark : Char) (seen : List Char) (cs : List Char) :
    Option (Text.Progress (List Char) (List Char)) :=
  match cs with
  | [] => none
  | c :: rest =>
    if c = mark then
      let marks := cs.takeWhile (· = mark)
      let rest := cs.drop marks.length
      if marks.length < 3 then some (.more (marks ++ seen) rest)
      else if marks.length < 6 then some (.done (marks.drop 3 ++ seen).reverse rest)
      else none
    else if c = '\\' ∧ mark = '"' then
      if (rest.dropWhile isSpace).head? = some '\n' then
        some (.more seen (rest.dropWhile fun c => isSpace c || c = '\n'))
      else (readEscape rest).map fun (c, rest) => .more (c :: seen) rest
    else if c = '\n' ∨ isPlain c then some (.more (c :: seen) rest)
    else none

/-- Reads a text of several lines after its three marks.  A line break right after
    them does not belong to it. -/
def readLines (mark : Char) (cs : List Char) : Option (List Char × List Char) :=
  Text.scan (linesStep mark) [] <|
    match cs with
    | '\n' :: rest => rest
    | _ => cs

/-! ## Lines -/

/-- Reads a key. -/
def readKey (cs : List Char) : Option (List Char × List Char) :=
  match cs with
  | '"' :: rest => readQuoted rest
  | '\'' :: rest => readLiteral rest
  | _ =>
    let key := cs.takeWhile isKeyChar
    if key = [] then none else some (key, cs.drop key.length)

/-- Reads a value. -/
def readValue (cs : List Char) : Option (Scalar × List Char) :=
  let text (read : Option (List Char × List Char)) : Option (Scalar × List Char) :=
    read.map fun (value, rest) => (.text (String.ofList value), rest)
  match cs with
  | 't' :: 'r' :: 'u' :: 'e' :: rest => some (.flag true, rest)
  | 'f' :: 'a' :: 'l' :: 's' :: 'e' :: rest => some (.flag false, rest)
  | '"' :: '"' :: '"' :: rest => text (readLines '"' rest)
  | '\'' :: '\'' :: '\'' :: rest => text (readLines '\'' rest)
  | '"' :: rest => text (readQuoted rest)
  | '\'' :: rest => text (readLiteral rest)
  | _ => none

/-- Reads a key, a value and the end of their line. -/
def readSetting (d : Document) (cs : List Char) : Option (Document × List Char) := do
  let (key, rest) ← readKey (cs.dropWhile isSpace)
  match rest.dropWhile isSpace with
  | '=' :: rest =>
    let (value, rest) ← readValue (rest.dropWhile isSpace)
    let d ← d.insert? (String.ofList key) value
    let rest ← lineEnd? rest
    some (d, rest)
  | _ => none

/-- One step through a document: a line without a setting, or a setting. -/
def documentStep (d : Document) (cs : List Char) : Option (Text.Progress Document Document) :=
  if cs = [] then some (.done d [])
  else
    match lineEnd? cs with
    | some rest => some (.more d rest)
    | none => (readSetting d cs).map fun (d, rest) => .more d rest

/-- The document that `text` is.  A byte order mark in front does not belong to
    it. -/
def Document.parse? (text : String) : Option Document :=
  let cs := match text.toList with
    | '\ufeff' :: rest => rest
    | cs => cs
  (Text.scan documentStep .empty (unifyLineBreaks cs)).map Prod.fst

end Worksheet.Settings
