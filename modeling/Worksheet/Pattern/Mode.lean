import Worksheet.Text.Blank
import Worksheet.Unicode.CaseFolding

/-! # Modes

    Flags such as the `i` of `(?i)` change the mode in which the rest of a
    group is read. -/

namespace Worksheet.Pattern

/-- How the text of a pattern is read. -/
structure Mode where
  /-- `i`: does case make no difference? -/
  ignoreCase : Bool
  /-- `m`: are there places at the ends of lines? -/
  multiline : Bool
  /-- `s`: does the dot stand for line ends, too? -/
  dotAll : Bool
  /-- `U`: are few repetitions tried before many? -/
  lazyFirst : Bool
  /-- `u`: do classes have their Unicode meaning? -/
  unicode : Bool
  /-- `R`: does a carriage return end a line, too? -/
  anyLineEnd : Bool
  /-- `x`: may there be blanks and comments between the parts of a pattern? -/
  verbose : Bool
  deriving DecidableEq, Repr

/-- The text after blanks and comments; a comment goes from `#` to the end of
    its line.  `inComment` tells whether the text begins in a comment. -/
def skipLayout (inComment : Bool) : List Char → List Char
  | [] => []
  | c :: rest =>
    if inComment then skipLayout (c ≠ '\n') rest
    else if Text.isBlank c then skipLayout false rest
    else if c = '#' then skipLayout true rest
    else c :: rest

theorem length_skipLayout_le (inComment : Bool) (cs : List Char) :
    (skipLayout inComment cs).length ≤ cs.length := by
  induction cs generalizing inComment with
  | nil => exact Nat.le_refl _
  | cons c rest ih =>
    have step (b : Bool) : (skipLayout b rest).length ≤ (c :: rest).length :=
      Nat.le_succ_of_le (ih b)
    unfold skipLayout
    split
    · exact step _
    · split
      · exact step _
      · split
        · exact step _
        · exact Nat.le_refl _

namespace Mode

/-- The mode at the beginning of a pattern. -/
def start : Mode :=
  { ignoreCase := false, multiline := false, dotAll := false, lazyFirst := false, unicode := true
    anyLineEnd := false, verbose := false }

/-- Skips layout where the mode allows it. -/
def skip (m : Mode) (cs : List Char) : List Char :=
  if m.verbose then skipLayout false cs else cs

theorem length_skip_le (m : Mode) (cs : List Char) : (m.skip cs).length ≤ cs.length := by
  unfold skip
  split
  · exact length_skipLayout_le false cs
  · exact Nat.le_refl _

/-- At most `limit` characters that satisfy `p` from the front of a text, and the
    rest.  Layout after each of them is skipped. -/
def takeRun (m : Mode) (p : Char → Bool) : Nat → List Char → List Char × List Char
  | 0, cs => ([], cs)
  | _ + 1, [] => ([], [])
  | limit + 1, c :: rest =>
    if p c then
      let (run, rest) := takeRun m p limit (m.skip rest)
      (c :: run, rest)
    else ([], c :: rest)

/-- All characters that satisfy `p` from the front of a text, and the rest.
    Layout after each of them is skipped. -/
def takeAll (m : Mode) (p : Char → Bool) (cs : List Char) : List Char × List Char :=
  match cs with
  | [] => ([], [])
  | c :: rest =>
    if p c then
      let (run, rest) := takeAll m p (m.skip rest)
      (c :: run, rest)
    else ([], c :: rest)
termination_by cs.length
decreasing_by exact Nat.lt_succ_of_le (m.length_skip_le rest)

/-- The mode after flags.  Those before a hyphen are switched on and those after
    it off. -/
def withFlags (m : Mode) (flags : List Char) : Mode :=
  let on := flags.takeWhile (· ≠ '-')
  let off := flags.dropWhile (· ≠ '-')
  let state (flag : Char) (current : Bool) := on.contains flag || (current && !off.contains flag)
  { ignoreCase := state 'i' m.ignoreCase
    multiline := state 'm' m.multiline
    dotAll := state 's' m.dotAll
    lazyFirst := state 'U' m.lazyFirst
    unicode := state 'u' m.unicode
    anyLineEnd := state 'R' m.anyLineEnd
    verbose := state 'x' m.verbose }

/-- The set with the case variants of its members, if case makes no difference.
    Outside Unicode mode only ASCII letters have variants. -/
def fold (m : Mode) (s : CharSet) : CharSet :=
  if !m.ignoreCase then s
  else Unicode.foldedBy (if m.unicode then Unicode.Folding.table else Unicode.Folding.ascii) s

end Mode

end Worksheet.Pattern
