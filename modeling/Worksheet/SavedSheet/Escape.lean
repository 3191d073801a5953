/-! # Escaped text in saved sheets

    A text in a saved sheet stands between double quotes on one line.  The
    backslash, the double quote and the line feed are escaped by a backslash.
    A backslash in front of any other character, or at the end, stands for
    itself. -/

namespace Worksheet.SavedSheet

/-- One character of a text as it is saved. -/
def escapeChar (c : Char) : List Char :=
  if c = '\\' then ['\\', '\\']
  else if c = '"' then ['\\', '"']
  else if c = '\n' then ['\\', 'n']
  else [c]

/-- A text as it is saved, without the quotes around it. -/
def escape (cs : List Char) : List Char :=
  cs.flatMap escapeChar

/-- The character that `c` stands for behind a backslash, if it is an escape. -/
def unescapeChar (c : Char) : Option Char :=
  if c = '\\' then some '\\'
  else if c = '"' then some '"'
  else if c = 'n' then some '\n'
  else none

/-- The text that was saved as `cs`. -/
def unescape : List Char → List Char
  | [] => []
  | [c] => [c]
  | c :: d :: cs =>
    if c = '\\' then
      match unescapeChar d with
      | some e => e :: unescape cs
      | none => c :: d :: unescape cs
    else c :: unescape (d :: cs)

end Worksheet.SavedSheet
