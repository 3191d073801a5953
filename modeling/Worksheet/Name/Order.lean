import Worksheet.Name.Coordinates

/-! # The order of cell names

    Listings and saved sheets run by row, then by column.  Names for the same
    cell (`a1`, `A1`, `A01`) follow each other in text order, and names
    without coordinates come last, in text order too. -/

namespace Worksheet.Name

/-- The order in which cells are listed. -/
def compare (a b : String) : Ordering :=
  match Coordinates.ofName? a, Coordinates.ofName? b with
  | some x, some y => (x.compare y).then (Ord.compare a b)
  | some _, none => .lt
  | none, some _ => .gt
  | none, none => Ord.compare a b

/-- `names` in listing order; equal names keep their places. -/
def sort (names : List String) : List String :=
  names.mergeSort fun a b => compare a b != .gt

end Worksheet.Name
