/-! # Splitting text

    A text with `n` separators has `n + 1` parts, some of them perhaps
    empty. -/

namespace Worksheet.Text

/-- The parts of `cs` between the separators. -/
def split (separator : Char) (cs : List Char) : List (List Char) :=
  let first := cs.takeWhile (· ≠ separator)
  if first.length < cs.length then first :: split separator (cs.drop (first.length + 1))
  else [first]
termination_by cs.length
decreasing_by simp only [List.length_drop]; omega

end Worksheet.Text
