import Worksheet.Name.Shape

/-! # Coordinates of cells

    The letters of a cell name count columns in bijective base 26 (`A` is 1,
    `Z` is 26, `AA` is 27), its digits count rows from 1.  Coordinates count
    both from 0.  A name has coordinates only if both counts are positive and
    below `2 ^ 64`. -/

namespace Worksheet.Name

/-- Row and column of a cell, counted from 0. -/
structure Coordinates where
  row : Nat
  column : Nat
  deriving DecidableEq, Repr

/-- The first count that is out of range. -/
def countLimit : Nat := Nat.pow 2 64

/-- `n`, if it is in range as a count. -/
def inRange? (n : Nat) : Option Nat :=
  if n < countLimit then some n else none

/-- The count that the digit `d` makes of `n` when it is written behind it.  Neither
    the product nor the sum may leave the range. -/
def shiftIn? (base n d : Nat) : Option Nat := do
  let shifted ← inRange? (base * n)
  inRange? (shifted + d)

/-- The count that `cs` write, read from the left, where `value` says what a
    character counts as a digit. -/
def count? (base : Nat) (value : Char → Nat) (cs : List Char) : Option Nat :=
  cs.foldlM (fun n c => shiftIn? base n (value c)) 0

/-- The value of one letter, 1 for `A` of either case. -/
def letterValue (c : Char) : Nat :=
  c.toUpper.toNat - 'A'.toNat + 1

/-- The value of one decimal digit. -/
def digitValue (c : Char) : Nat :=
  c.toNat - '0'.toNat

/-- The index from 0 of the `n`th of what is counted from 1. -/
def index? : Nat → Option Nat
  | 0 => none
  | n + 1 => some n

/-- The upper-case letters that write the column count `n`. -/
def lettersOf (n : Nat) : List Char :=
  if n = 0 then []
  else lettersOf ((n - 1) / 26) ++ [Char.ofNat ('A'.toNat + (n - 1) % 26)]
termination_by n
decreasing_by omega

namespace Coordinates

/-- The coordinates that `name` stands for. -/
def ofName? (name : String) : Option Coordinates :=
  if isCell name then do
    let column ← index? (← count? 26 letterValue (letters name))
    let row ← index? (← count? 10 digitValue (number name))
    return ⟨row, column⟩
  else none

/-- The letters of the column with this index. -/
def columnLetters (column : Nat) : String :=
  String.ofList (lettersOf (column + 1))

/-- The name of the cell at `c`: upper-case letters, then the row count
    without leading zeros. -/
def name (c : Coordinates) : String :=
  columnLetters c.column ++ String.ofList (Nat.toDigits 10 (c.row + 1))

/-- Coordinates are ordered by row, then by column. -/
def compare (a b : Coordinates) : Ordering :=
  (Ord.compare a.row b.row).then (Ord.compare a.column b.column)

end Coordinates

end Worksheet.Name
