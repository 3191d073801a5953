import Worksheet.Automaton.Pattern
import Worksheet.Pattern.Bracket
import Worksheet.Pattern.Group
import Worksheet.Pattern.Repetition

/-! # Reading patterns

    The text of a pattern is read from left to right.  The open groups are kept
    on a stack, each with its finished alternatives and the pieces of the current
    one.  A text that is nested too deep, or that describes too large an
    automaton, is no pattern. -/

namespace Worksheet.Pattern

/-- A piece of a pattern. -/
structure Piece where
  pattern : Pattern
  /-- How deep the text of the piece is nested. -/
  depth : Nat
  /-- Is the piece nothing but flags?  Then it cannot be repeated. -/
  isSetting : Bool

namespace Piece

/-- The greatest depth of a pattern. -/
def maxDepth : Nat := 250

/-- A piece that holds flags. -/
def setting : Piece := ⟨.empty, 0, true⟩

/-- A piece without depth. -/
def plain (p : Pattern) : Piece := ⟨p, 0, false⟩

/-- A set. -/
def set (m : Mode) (members : CharSet) (depth : Nat) : Piece :=
  ⟨.ofSet members !m.unicode, depth, false⟩

/-- A character outside brackets. -/
def char (m : Mode) (c : Char) : Piece :=
  set m (m.fold (.single c)) 0

/-- An atom outside brackets. -/
def atom (m : Mode) : Atom → Piece
  | .char c => char m c
  | .set members => set m members 0
  | .look place => plain (.look place)

/-- Pieces one after the other. -/
def sequence : List Piece → Piece
  | [] => plain .empty
  | [piece] => piece
  | pieces =>
    { pattern := .sequence (pieces.map Piece.pattern)
      depth := 1 + (pieces.map Piece.depth).foldl max 0
      isSetting := false }

/-- A choice from pieces. -/
def choice : List Piece → Piece
  | [] => sequence []
  | [piece] => piece
  | pieces =>
    { pattern := .choice (pieces.map Piece.pattern)
      depth := 1 + (pieces.map Piece.depth).foldl max 0
      isSetting := false }

/-- A piece in parentheses that begin a group with a number. -/
def group (number : Option Nat) (piece : Piece) : Piece :=
  { pattern := match number with
      | some n => .group n piece.pattern
      | none => piece.pattern
    depth := piece.depth + 1
    isSetting := false }

/-- A piece repeated. -/
def repeated (piece : Piece) (r : Repetitions) : Piece :=
  ⟨piece.pattern.repeated r, piece.depth + 1, false⟩

/-- The pattern, if it is within the limits. -/
def withinLimits? (piece : Piece) : Option Pattern :=
  if piece.depth ≤ maxDepth ∧ Automaton.fits piece.pattern then some piece.pattern else none

end Piece

/-- An open group: what has been read of it. -/
structure OpenGroup where
  /-- The mode around the group, which comes back at its end. -/
  outerMode : Mode
  /-- The number of the group, if it has one. -/
  number : Option Nat
  /-- The finished alternatives, last first. -/
  alternatives : List Piece
  /-- The pieces of the current alternative, last first. -/
  pieces : List Piece

namespace OpenGroup

/-- The current alternative. -/
def current (g : OpenGroup) : Piece :=
  .sequence g.pieces.reverse

/-- What the group stands for when it ends here. -/
def content (g : OpenGroup) : Piece :=
  .choice (g.current :: g.alternatives).reverse

end OpenGroup

/-- How far the text of a pattern has been read. -/
structure Reading where
  mode : Mode
  /-- How many groups with numbers have begun so far. -/
  groups : Nat
  /-- The names of groups so far. -/
  names : List (List Char)
  /-- The innermost open group; the outermost one is the pattern itself. -/
  inner : OpenGroup
  /-- The open groups around it, innermost first. -/
  outer : List OpenGroup

namespace Reading

/-- Before anything has been read. -/
def start : Reading := ⟨.start, 0, [], ⟨.start, none, [], []⟩, []⟩

/-- Adds a piece to the current alternative. -/
def push (r : Reading) (piece : Piece) : Reading :=
  { r with inner := { r.inner with pieces := piece :: r.inner.pieces } }

/-- Begins the next alternative. -/
def nextAlternative (r : Reading) : Reading :=
  { r with inner :=
      { r.inner with alternatives := r.inner.current :: r.inner.alternatives, pieces := [] } }

/-- Repeats the last piece. -/
def repeatLast? (r : Reading) (repetitions : Repetitions) : Option Reading :=
  match r.inner.pieces with
  | [] => none
  | piece :: pieces =>
    if piece.isSetting then none
    else some { r with inner := { r.inner with pieces := piece.repeated repetitions :: pieces } }

/-- Begins a group with these flags, and with a number or without. -/
def beginGroup (r : Reading) (flags : List Char) (number : Option Nat) : Reading :=
  { r with
    mode := r.mode.withFlags flags
    inner := ⟨r.mode, number, [], []⟩
    outer := r.inner :: r.outer }

/-- Begins a group with the next number. -/
def beginNumbered (r : Reading) : Reading :=
  { r with groups := r.groups + 1 }.beginGroup [] (some (r.groups + 1))

/-- Begins what an opening parenthesis stands for.  Names of groups differ. -/
def open? (r : Reading) : Opening → Option Reading
  | .flags letters => some { r.push .setting with mode := r.mode.withFlags letters }
  | .group => some r.beginNumbered
  | .named name =>
    if r.names.contains name then none else some { r.beginNumbered with names := name :: r.names }
  | .flagged letters => some (r.beginGroup letters none)

/-- Ends the innermost group. -/
def close? (r : Reading) : Option Reading :=
  match r.outer with
  | [] => none
  | around :: outer =>
    some ({ r with mode := r.inner.outerMode, inner := around, outer := outer }.push
      (r.inner.content.group r.inner.number))

/-- What has been read, if no group is open. -/
def finish? (r : Reading) : Option Piece :=
  if r.outer.isEmpty then some r.inner.content else none

/-- The characters that the dot stands for. -/
def dotSet (m : Mode) : CharSet :=
  if m.dotAll then .all
  else if m.anyLineEnd then CharSet.compl (.unions [.single '\n', .single '\r'])
  else CharSet.compl (.single '\n')

/-- Reads the next part of a pattern. -/
def step (r : Reading) (cs : List Char) : Option (Text.Progress Reading Piece) :=
  let m := r.mode
  let add (piece : Piece) (rest : List Char) : Option (Text.Progress Reading Piece) :=
    some (.more (r.push piece) rest)
  let addRepeated (repetitions : Repetitions) (rest : List Char) :
      Option (Text.Progress Reading Piece) :=
    (r.repeatLast? repetitions).map fun r => .more r rest
  let addOperator (least : Nat) (most : Option Nat) (rest : List Char) :
      Option (Text.Progress Reading Piece) :=
    let (repetitions, rest) := readGreed m least most rest
    addRepeated repetitions rest
  match m.skip cs with
  | [] => r.finish?.map fun piece => .done piece []
  | '(' :: rest => do
    let (opening, rest) ← readOpening m rest
    let r ← r.open? opening
    some (.more r rest)
  | ')' :: rest => r.close?.map fun r => .more r rest
  | '|' :: rest => some (.more r.nextAlternative rest)
  | '[' :: rest => do
    let (part, rest) ← readBracket m rest
    add (.set m part.members part.depth) rest
  | '?' :: rest => addOperator 0 (some 1) rest
  | '*' :: rest => addOperator 0 none rest
  | '+' :: rest => addOperator 1 none rest
  | '\x7b' :: rest => do
    let (repetitions, rest) ← readRepetitions m rest
    addRepeated repetitions rest
  | '.' :: rest => if m.unicode then add (.set m (dotSet m) 0) rest else none
  | '^' :: rest =>
    add (.plain (.look (if m.multiline then .lineStart m.anyLineEnd else .textStart))) rest
  | '$' :: rest =>
    add (.plain (.look (if m.multiline then .lineEnd m.anyLineEnd else .textEnd))) rest
  | '\\' :: rest => do
    let (atom, rest) ← readEscape m rest
    add (.atom m atom) rest
  | c :: rest => add (.char m c) rest

end Reading

/-- The pattern with this text, if it is the text of one. -/
def parse? (cs : List Char) : Option Pattern := do
  let (piece, _) ← Text.scan Reading.step .start cs
  piece.withinLimits?

end Worksheet.Pattern
