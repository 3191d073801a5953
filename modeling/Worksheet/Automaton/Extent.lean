/-! # The extent of automata

    A pattern is matched by an automaton, and a pattern whose automaton would be
    too large is refused.  Only the extent of the automaton is kept: the number
    of its states, by which they refer to each other, and the memory for them
    and their edges. -/

namespace Worksheet.Automaton

/-- The direction in which an automaton reads a text. -/
inductive Direction where
  | forward
  | backward
  deriving DecidableEq, Repr

/-- How far an automaton has grown. -/
structure Extent where
  states : Nat
  bytes : Nat
  deriving DecidableEq, Repr

namespace Extent

/-- Before there are any states. -/
def none : Extent := ⟨0, 0⟩

/-- The greatest number of bytes: 10 MiB. -/
def limit : Nat := 10 * Nat.pow 2 20

/-- One more state, with `edges` bytes for its edges. -/
def add (e : Extent) (edges : Nat) : Extent :=
  ⟨e.states + 1, e.bytes + 32 + edges⟩

/-- One more state that leads on or reads one range of bytes. -/
def addPlain (e : Extent) : Extent := e.add 0

/-- One more state that reads bytes in one of `n` ranges. -/
def addReader (e : Extent) (n : Nat) : Extent := e.add (8 * n)

/-- One more state that leads on to `n` others. -/
def addFork (e : Extent) (n : Nat) : Extent := e.add (4 * n)

end Extent

/-- What a part of a pattern adds to an automaton, unless that gets too large. -/
abbrev Growth := Extent → Option Extent

namespace Growth

/-- The growth to `f`, if it keeps to the limit. -/
def within (f : Extent → Extent) : Growth := fun e =>
  let e := f e
  if e.bytes ≤ Extent.limit then some e else none

/-- A state that leads on or reads one range of bytes. -/
def plain : Growth := within Extent.addPlain

/-- A state that leads on to two others. -/
def fork : Growth := within fun e => e.addFork 2

/-- One growth after another. -/
def andThen (g h : Growth) : Growth := fun e => (g e).bind h

/-- `n` times a growth. -/
def copies (g : Growth) : Nat → Growth
  | 0, e => some e
  | n + 1, e =>
    match g e with
    | some e => copies g n e
    | none => none

end Growth

end Worksheet.Automaton
