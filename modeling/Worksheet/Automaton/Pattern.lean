import Worksheet.Automaton.Class
import Worksheet.Automaton.Words
import Worksheet.Pattern.Build

/-! # Automata for patterns

    There is an automaton that reads a text forward and finds the groups, and
    one that reads it backward.  Both must keep to the limit. -/

namespace Worksheet

namespace Pattern

/-- The length of the shortest text, where parts that describe no text leave it
    unknown. -/
def shortest? : Pattern → Option Nat
  | .empty => some 0
  | .literal text => some text.length
  | .one members _ => if members.isEmpty then none else some 1
  | .look _ => some 0
  | .times p r => p.shortest?.map (r.least * ·)
  | .group _ p => p.shortest?
  | .seq p q => do return (← p.shortest?) + (← q.shortest?)
  | .alt p q => do return min (← p.shortest?) (← q.shortest?)

/-- Does every text begin at a place of this kind? -/
def beginsAt (place : Look) : Pattern → Bool
  | .look l => l = place
  | .times p r => 0 < r.least && p.beginsAt place
  | .group _ p => p.beginsAt place
  | .seq p q => p.beginsAt place || (p.isWidthless && q.beginsAt place)
  | .alt p q => p.beginsAt place && q.beginsAt place
  | _ => false

/-- Does every text end at a place of this kind? -/
def endsAt (place : Look) : Pattern → Bool
  | .look l => l = place
  | .times p r => 0 < r.least && p.endsAt place
  | .group _ p => p.endsAt place
  | .seq p q => q.endsAt place || (q.isWidthless && p.endsAt place)
  | .alt p q => p.endsAt place && q.endsAt place
  | _ => false

/-- The encoded form of a literal. -/
def bytes? : Pattern → Option (List UInt8)
  | .literal text => some (text.flatMap String.utf8EncodeChar)
  | _ => none

end Pattern

namespace Automaton

/-- What repetitions of a growth add. -/
def repeated (g : Growth) (mayBeEmpty : Bool) (r : Repetitions) : Growth :=
  let exactly (n : Nat) : Growth := if n = 0 then .plain else g.copies n
  match r.least, r.most with
  | 0, some 1 => Growth.fork.andThen (g.andThen .plain)
  | 0, none =>
    if mayBeEmpty then g.andThen (Growth.fork.andThen (Growth.fork.andThen .plain))
    else Growth.fork.andThen g
  | least, none => (g.copies least).andThen .fork
  | least, some most =>
    if least = most then exactly least
    else
      (exactly least).andThen (Growth.plain.andThen ((Growth.fork.andThen g).copies (most - least)))

/-- What a choice adds, given what its alternatives add: after the second one, a
    state that leads on to all of them, and one that all of them lead to. -/
def joined : List Growth → Growth
  | first :: second :: others =>
    let join : Growth := .within fun e => (e.addFork (others.length + 2)).addPlain
    others.foldl Growth.andThen (first.andThen (second.andThen join))
  | [only] => only
  | [] => some

/-- What a pattern adds, given what its alternatives add.  A choice from literals
    becomes a tree. -/
def assembled (d : Direction) (p : Pattern) (alternatives : List Growth) : Growth :=
  match p, p.alternatives.mapM Pattern.bytes?, d with
  | .alt _ _, some words, .forward => Words.growth words
  | .alt _ _, some words, .backward => Words.growth (words.map List.reverse)
  | _, _, _ => joined alternatives

/-- What a group adds.  Only the automaton that reads forward finds groups. -/
def grouped (inner : Growth) : Direction → Growth
  | .forward => Growth.plain.andThen (inner.andThen .plain)
  | .backward => inner

/-- What each alternative of a pattern adds to an automaton. -/
def growths (d : Direction) : Pattern → List Growth
  | .empty => [.plain]
  | .literal text => [Growth.plain.copies (text.foldl (fun n c => n + c.utf8Size) 0)]
  | .one members _ => [classGrowth d members members.encoded]
  | .look _ => [.plain]
  | .times p r =>
    let mayBeEmpty := p.shortest?.getD 0 = 0
    [repeated (assembled d p (growths d p)) mayBeEmpty r]
  | .group _ p => [grouped (assembled d p (growths d p)) d]
  | .seq p q =>
    let first := assembled d p (growths d p)
    let second := assembled d q (growths d q)
    match d with
    | .forward => [first.andThen second]
    | .backward => [second.andThen first]
  | .alt p q => assembled d p (growths d p) :: growths d q

/-- Does every match begin where an automaton begins to read? -/
def isAnchored (p : Pattern) : Direction → Bool
  | .forward => p.beginsAt .textStart
  | .backward => p.endsAt .textEnd

/-- The automaton for a pattern.  Unless it is anchored, states in front let a
    match begin anywhere.  The whole pattern is a group, and a last state tells
    that there is a match. -/
def extent? (d : Direction) (p : Pattern) : Option Extent :=
  let front : Growth :=
    if isAnchored p d then .plain
    else .within fun e => ((e.addFork 2).addPlain).addReader 1
  let whole := grouped (assembled d p (growths d p)) d
  (front.andThen (whole.andThen .plain)) .none

/-- Are the automata for a pattern within the limit? -/
def fits (p : Pattern) : Bool :=
  (extent? .forward p).isSome && (extent? .backward p).isSome

end Automaton

end Worksheet
