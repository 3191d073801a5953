import Worksheet.CharSet.Ascii
import Worksheet.Text.Hexadecimal
import Worksheet.Pattern.Basic
import Worksheet.Pattern.Mode
import Worksheet.Unicode.Property

/-! # Escapes

    A backslash makes a character out of a sign that has a meaning of its own,
    and a class of characters, a place or a code point out of a letter.  Letters
    and digits without such a meaning cannot be escaped; there are no
    references back to groups. -/

namespace Worksheet.Pattern

/-- The smallest parts of a pattern. -/
inductive Atom where
  | char (c : Char)
  | set (members : CharSet)
  | look (place : Look)
  deriving DecidableEq, Repr

/-- A class or what is left without it.  Only in Unicode mode a class can be left
    out, as a single byte need not be a character. -/
def classAtom? (m : Mode) (negated : Bool) (members : CharSet) : Option Atom :=
  if !negated then some (.set members)
  else if m.unicode then some (.set members.compl)
  else none

/-- Reads the code point after `\x`, `\u` or `\U`: a fixed number of digits, or
    any number of them in braces.  Two fixed digits are a byte, which has to be a
    character unless the mode is Unicode. -/
def readCodePoint (m : Mode) (count : Nat) (cs : List Char) : Option (Atom × List Char) :=
  match m.skip cs with
  | '\x7b' :: rest =>
    match m.takeAll Text.isHexDigit (m.skip rest) with
    | (digits, '\x7d' :: rest) => (Text.charOfHex? digits).map fun c => (.char c, rest)
    | _ => none
  | cs => do
    let (digits, rest) := m.takeRun Text.isHexDigit count cs
    let c ← Text.charOfHex? digits
    if digits.length < count then none
    else if count = 2 ∧ ¬ m.unicode ∧ 0x80 ≤ c.toNat then none
    else some (.char c, rest)

/-- The set that the text between the braces of `\p` names: a name alone, or a
    property and its value.  The sign `!=` between these two asks for all other
    characters, and the result tells so. -/
def propertySet? (query : List Char) : Option (CharSet × Bool) :=
  let parts (separator : String) : List String := (String.ofList query).splitOn separator
  match ["!=", ":", "="].find? fun separator => (parts separator).length ≠ 1 with
  | none => (Unicode.named? query).map fun members => (members, false)
  | some separator =>
    match parts separator with
    | [property, value] =>
      (Unicode.valued? property.toList value.toList).map fun members =>
        (members, separator = "!=")
    | _ => none

/-- Reads the name after `\p` or `\P`: a single letter, or a text in braces. -/
def readProperty (m : Mode) (negated : Bool) (cs : List Char) : Option (Atom × List Char) := do
  let (query, rest) ← match m.skip cs with
    | '\x7b' :: rest =>
      match m.takeAll (· ≠ '\x7d') (m.skip rest) with
      | (query, '\x7d' :: rest) => some (query, rest)
      | _ => none
    | c :: rest => some ([c], rest)
    | [] => none
  let (members, others) ← propertySet? query
  let atom ← classAtom? m (negated != others) (m.fold members)
  if m.unicode then some (atom, rest) else none

/-- Reads what follows `\b`: the kind of the edge in braces, or nothing.  Braces
    that begin with neither a letter nor a hyphen hold a number of
    repetitions. -/
def readEdge (m : Mode) (cs : List Char) : Option (Atom × List Char) :=
  let isKindChar (c : Char) := c.isAlpha || c = '-'
  let word (place : WordPlace) : Atom := .look (.word place !m.unicode)
  match cs with
  | '\x7b' :: rest =>
    match m.skip rest with
    | [] => none
    | c :: inner =>
      if isKindChar c then
        match m.takeAll isKindChar (c :: inner) with
        | (kind, '\x7d' :: rest) =>
          match String.ofList kind with
          | "start" => some (word .start, rest)
          | "end" => some (word .finish, rest)
          | "start-half" => some (word .noneBefore, rest)
          | "end-half" => some (word .noneAfter, rest)
          | _ => none
        | _ => none
      else some (word .edge, cs)
  | _ => some (word .edge, cs)

/-- Reads what follows a backslash. -/
def readEscape (m : Mode) : List Char → Option (Atom × List Char)
  | [] => none
  | c :: rest =>
    let char (c : Char) : Option (Atom × List Char) := some (.char c, rest)
    let set (negated : Bool) (members ascii : CharSet) : Option (Atom × List Char) :=
      (classAtom? m negated (if m.unicode then members else ascii)).map fun atom => (atom, rest)
    let look (place : Look) : Option (Atom × List Char) := some (.look place, rest)
    let word (place : WordPlace) : Option (Atom × List Char) := look (.word place !m.unicode)
    match c with
    | 'x' => readCodePoint m 2 rest
    | 'u' => readCodePoint m 4 rest
    | 'U' => readCodePoint m 8 rest
    | 'p' => readProperty m false rest
    | 'P' => readProperty m true rest
    | 'd' => set false Unicode.Category.decimalNumber.members CharSet.Ascii.digits
    | 'D' => set true Unicode.Category.decimalNumber.members CharSet.Ascii.digits
    | 's' => set false Unicode.whiteSpace CharSet.Ascii.blanks
    | 'S' => set true Unicode.whiteSpace CharSet.Ascii.blanks
    | 'w' => set false Unicode.wordChars CharSet.Ascii.wordChars
    | 'W' => set true Unicode.wordChars CharSet.Ascii.wordChars
    | 'a' => char '\x07'
    | 'f' => char '\x0c'
    | 't' => char '\t'
    | 'n' => char '\n'
    | 'r' => char '\r'
    | 'v' => char '\x0b'
    | 'A' => look .textStart
    | 'z' => look .textEnd
    | 'b' => readEdge m rest
    | 'B' => word .noEdge
    | '<' => word .start
    | '>' => word .finish
    | c => if c.toNat < 0x80 ∧ ¬ c.isAlphanum then char c else none

end Worksheet.Pattern
