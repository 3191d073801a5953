import Worksheet.Pattern.Match
import Worksheet.Pattern.Parse

/-! # Name patterns

    The settings can restrict the names of cells to those that a pattern
    describes.  The pattern is put between signs for the start and the end of
    the name.  These stand outside a group around it, so a pattern that closes
    the group and opens another can escape from them. -/

namespace Worksheet

/-- A restriction on names. -/
structure NamePattern where
  /-- The text of the pattern between the signs for start and end. -/
  text : String
  pattern : Pattern
  deriving DecidableEq, Repr

namespace NamePattern

/-- The text of a pattern between the signs for start and end. -/
def anchored (text : String) : String :=
  "^(?:" ++ text ++ ")$"

/-- The restriction by a pattern with this text, if it is the text of one. -/
def ofText? (text : String) : Option NamePattern :=
  (Pattern.parse? (anchored text).toList).map fun pattern => ⟨anchored text, pattern⟩

/-- Does the restriction allow `name`? -/
def allows (p : NamePattern) (name : String) : Bool :=
  p.pattern.isMatch name.toList

end NamePattern

end Worksheet
