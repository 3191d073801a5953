import Worksheet.Number.Shortest
import Worksheet.Number.Numeral

/-! # Numbers and their texts

    Cells hold binary64 numbers.  The canonical text of a number is the
    shortest decimal that reads back to it, always in positional notation.
    Numbers are read from numerals with an optional sign, and only where the
    nearest binary64 number is finite. -/

namespace Worksheet.Number

/-- The canonical text of `x`: the sign, which negative zero keeps, and the
    shortest decimal that reads back. -/
def canonical (x : Float) : String :=
  if infinity < magnitude x then "NaN"
  else
    let digits :=
      if magnitude x = infinity then ['i', 'n', 'f'] else (Decimal.shortest (magnitude x)).text
    String.ofList (if isNegative x then '-' :: digits else digits)

/-- The text of a computed number, with marks for what is not finite. -/
def shown (x : Float) : String :=
  if infinity < magnitude x then "#NAN!"
  else if magnitude x = infinity then "#INF!"
  else canonical x

/-- The number nearest to the numeral `cs`, infinite if out of range. -/
def ofNumeral? (negative : Bool) (cs : List Char) : Option Float :=
  (Decimal.ofNumeral? cs).map fun d => ofMagnitude negative d.nearest

/-- The number that `cs` writes, with an optional sign. -/
def ofSigned? : List Char → Option Float
  | '-' :: cs => ofNumeral? true cs
  | '+' :: cs => ofNumeral? false cs
  | cs => ofNumeral? false cs

/-- The number that `cs` writes, if it is a finite one. -/
def ofText? (cs : List Char) : Option Float :=
  (ofSigned? cs).filter fun x => magnitude x < infinity

end Worksheet.Number
