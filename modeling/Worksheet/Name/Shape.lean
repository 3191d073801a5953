/-! # Shapes of names

    A variable of a formula is a letter or underscore followed by letters,
    digits and underscores.  The name of a cell is one or more letters
    followed by one or more digits.  Letters and digits are the ASCII ones. -/

namespace Worksheet.Name

/-- May `c` begin a variable? -/
def isStart (c : Char) : Bool :=
  c.isAlpha || c = '_'

/-- May `c` follow in a variable? -/
def isPart (c : Char) : Bool :=
  c.isAlphanum || c = '_'

/-- Has `name` the shape of a variable? -/
def isVariable (name : String) : Bool :=
  match name.toList with
  | [] => false
  | c :: cs => isStart c && cs.all isPart

/-- The letters that `name` begins with. -/
def letters (name : String) : List Char :=
  name.toList.takeWhile Char.isAlpha

/-- What follows the letters that `name` begins with. -/
def number (name : String) : List Char :=
  name.toList.dropWhile Char.isAlpha

/-- Has `name` the shape of a cell name? -/
def isCell (name : String) : Bool :=
  letters name ≠ [] && number name ≠ [] && (number name).all Char.isDigit

end Worksheet.Name
