import Worksheet.Text.Hexadecimal
import Worksheet.Text.Split
import Worksheet.CharSet.Basic

/-! # Written sets

    Tables write a set as words in hexadecimal digits with blanks between them.
    A word such as `41` is a code point, `41-5A` are the code points from one to
    another, and `100-136/2` is every second of them. -/

namespace Worksheet.CharSet

/-- The code points from `first` to `last` in steps of `step`, one by one. -/
def everyNth (first last step : Nat) : List Span :=
  (List.range ((last - first) / step + 1)).map fun n =>
    ⟨first + step * n, first + step * n⟩

/-- The ranges that a word stands for. -/
def spansOfWord (word : List Char) : List Span :=
  let number (digits : List Char) := (Text.hexValue? digits).getD 0
  match (Text.split '-' word).map (Text.split '/') with
  | [[only]] => [⟨number only, number only⟩]
  | [[first], [last]] => [⟨number first, number last⟩]
  | [[first], [last, step]] => everyNth (number first) (number last) (number step)
  | _ => []

/-- The words of a text. -/
def words (text : String) : List (List Char) :=
  (((text.splitOn "\n").flatMap fun line => line.splitOn " ").map String.toList).filter (· ≠ [])

/-- The set that is written like this. -/
def ofWritten (text : String) : CharSet :=
  ofSpans ((words text).flatMap spansOfWord)

end Worksheet.CharSet
