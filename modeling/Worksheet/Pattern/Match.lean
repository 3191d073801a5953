import Worksheet.CharSet.Ascii
import Worksheet.Pattern.Basic
import Worksheet.Unicode.Derived

/-! # Matching

    A text matches a pattern when the pattern describes some part of it.  A
    text of `n` characters has `n + 1` places, before, between and behind them.
    From a set of places where parts of the text may begin, matching finds the
    set of places where such parts end. -/

namespace Worksheet

/-- Is there a word character at index `i` of `text`? -/
def Look.isWordAt (inAscii : Bool) (text : List Char) (i : Nat) : Bool :=
  match text[i]? with
  | some c => (if inAscii then CharSet.Ascii.wordChars else Unicode.wordChars).contains c
  | none => false

/-- Does the condition hold between two characters of which it is known whether
    they are word characters? -/
def WordPlace.holds (place : WordPlace) (before after : Bool) : Bool :=
  match place with
  | .edge => before != after
  | .noEdge => before == after
  | .start => !before && after
  | .finish => before && !after
  | .noneBefore => !before
  | .noneAfter => !after

/-- Does the condition hold at the place before index `i` of `text`?  Between a
    carriage return and the line feed after it no line ends. -/
def Look.holds (place : Look) (text : List Char) (i : Nat) : Bool :=
  let before := if 0 < i then text[i - 1]? else none
  let after := text[i]?
  let inLineEnd := before == some '\r' && after == some '\n'
  match place with
  | .textStart => i = 0
  | .textEnd => i = text.length
  | .lineStart anyEnd =>
    i = 0 || before == some '\n' || (anyEnd && before == some '\r' && !inLineEnd)
  | .lineEnd false => i = text.length || after == some '\n'
  | .lineEnd true =>
    i = text.length || after == some '\r' || (after == some '\n' && !inLineEnd)
  | .word place inAscii =>
    place.holds (0 < i && isWordAt inAscii text (i - 1)) (isWordAt inAscii text i)

namespace Pattern

/-- A set of places: for each place in turn, whether it is in the set. -/
abbrev Places := List Bool

/-- The places behind an allowed character from those in front of it. -/
def advance (text : List Char) (allowed : Char → Bool) (places : Places) : Places :=
  false :: List.zipWith (fun here c => here && allowed c) places text

/-- `f` done to `places` for `n` times, or until that makes no difference any
    more. -/
def settle (f : Places → Places) : Nat → Places → Places
  | 0, places => places
  | n + 1, places =>
    let next := f places
    if next = places then places else settle f n next

/-- The places where the parts of `text` that the pattern describes end, when they
    begin at one of the given places.

    A part of length `n` contains at most `n` repetitions that are not empty,
    and a repetition that is empty can be left out or done again.  So more than
    one repetition per character, and one more, adds nothing. -/
def ends (text : List Char) : Pattern → Places → Places
  | .empty, places => places
  | .literal word, places => word.foldl (fun places c => advance text (· == c) places) places
  | .one members _, places => advance text members.contains places
  | .look place, places =>
    List.zipWith (· && ·) places ((List.range (text.length + 1)).map (place.holds text))
  | .times p r, places =>
    let optional := match r.most with
      | some most => min (most - r.least) text.length
      | none => text.length
    let required := settle (p.ends text) (min r.least (text.length + 1)) places
    settle (fun places => List.zipWith (· || ·) places (p.ends text places)) optional required
  | .group _ p, places => p.ends text places
  | .seq p q, places => q.ends text (p.ends text places)
  | .alt p q, places => List.zipWith (· || ·) (p.ends text places) (q.ends text places)

/-- Does the pattern describe some part of `text`? -/
def isMatch (p : Pattern) (text : List Char) : Bool :=
  (p.ends text (List.replicate (text.length + 1) true)).any id

end Pattern

end Worksheet
