import Worksheet.CharSet.Written

/-! # ASCII classes

    Classes of ASCII characters have names of their own in a bracket, such as
    `[:alpha:]`. -/

namespace Worksheet.CharSet.Ascii

/-- The ASCII letters, digits and the underscore. -/
def wordChars : CharSet := .ofWritten "30-39 41-5A 5F 61-7A"

/-- The ASCII digits. -/
def digits : CharSet := .ofWritten "30-39"

/-- The ASCII blanks. -/
def blanks : CharSet := .ofWritten "9-D 20"

/-- The ASCII class with this name. -/
def ofName? (name : String) : Option CharSet :=
  match name with
  | "alnum" => some (.ofWritten "30-39 41-5A 61-7A")
  | "alpha" => some (.ofWritten "41-5A 61-7A")
  | "ascii" => some (.ofWritten "0-7F")
  | "blank" => some (.ofWritten "9 20")
  | "cntrl" => some (.ofWritten "0-1F 7F")
  | "digit" => some digits
  | "graph" => some (.ofWritten "21-7E")
  | "lower" => some (.ofWritten "61-7A")
  | "print" => some (.ofWritten "20-7E")
  | "punct" => some (.ofWritten "21-2F 3A-40 5B-60 7B-7E")
  | "space" => some blanks
  | "upper" => some (.ofWritten "41-5A")
  | "word" => some wordChars
  | "xdigit" => some (.ofWritten "30-39 41-46 61-66")
  | _ => none

end Worksheet.CharSet.Ascii
