import Std.Data.HashMap
import Worksheet.Automaton.Extent
import Worksheet.CharSet.Encoded

/-! # Automata for sets of characters

    An automaton reads bytes, so a set of characters becomes states that read
    the encoded forms of its members.  States that do the same are made once, as
    long as they are remembered: there is a fixed number of slots for them, and
    a state that is put into the slot of another takes its place. -/

namespace Worksheet.Automaton

/-! ## Slots -/

/-- The hash of no numbers. -/
def emptyHash : UInt64 := 0xcbf29ce484222325

/-- The hash of numbers of which `hash` is that of all but the last one, by the
    rule FNV-1a. -/
def addToHash (hash : UInt64) (n : Nat) : UInt64 :=
  (hash ^^^ n.toUInt64) * 0x100000001b3

/-- The slot for some numbers when there are this many slots. -/
def slot (slots : Nat) (numbers : List Nat) : Nat :=
  (numbers.foldl addToHash emptyHash).toNat % slots

/-- An edge that leads to a state for bytes of a range. -/
structure Edge where
  bytes : CharSet.ByteRange
  next : Nat
  deriving DecidableEq, Repr

/-- The numbers that make up an edge. -/
def Edge.numbers (edge : Edge) : List Nat :=
  [edge.bytes.first.toNat, edge.bytes.last.toNat, edge.next]

/-- An automaton with remembered states: in each slot, the edges of a state and its
    number. -/
structure Memory where
  extent : Extent
  known : Std.HashMap Nat (List Edge × Nat)

/-- Finds the state with these edges, or else grows by it, where the state belongs
    into slot `slot`. -/
def Memory.state (m : Memory) (slot : Nat) (edges : List Edge) (grow : Extent → Extent) :
    Nat × Memory :=
  let number := m.extent.states
  let new : Nat × Memory := (number, ⟨grow m.extent, m.known.insert slot (edges, number)⟩)
  match m.known[slot]? with
  | some (found, known) => if found = edges then (known, m) else new
  | none => new

/-! ## Reading forward -/

/-- A state on the way to the sequence that was read last: its finished edges, last
    first, and the bytes of the edge that is still open. -/
structure OpenState where
  edges : List Edge
  bytes : CharSet.ByteRange

/-- The edges of an open state when its open edge leads to `next`, last first. -/
def OpenState.closed (s : OpenState) (next : Nat) : List Edge :=
  ⟨s.bytes, next⟩ :: s.edges

/-- Makes the open states on a way, from its end; the last edge leads to
    `target`. -/
def Memory.close (target : Nat) : List OpenState → Memory → Nat × Memory
  | [], m => (target, m)
  | s :: deeper, m =>
    let (next, m) := close target deeper m
    let edges := (s.closed next).reverse
    m.state (slot 10000 (edges.flatMap Edge.numbers)) edges fun e => e.addReader edges.length

/-- Adds a sequence of byte ranges to the open states.  What the sequence has in
    common with the one before stays open. -/
def Memory.insert (target : Nat) :
    List OpenState → List CharSet.ByteRange → Memory → List OpenState × Memory
  | s :: deeper, bytes :: rest, m =>
    if s.bytes = bytes then
      let (deeper, m) := insert target deeper rest m
      (s :: deeper, m)
    else
      let (next, m) := m.close target deeper
      (⟨s.closed next, bytes⟩ :: rest.map (⟨[], ·⟩), m)
  | [], bytes, m => (bytes.map (⟨[], ·⟩), m)
  | way, [], m => (way, m)

/-- Grows by states that read the sequences forward, from the first byte. -/
def forwardClass (sequences : List (List CharSet.ByteRange)) (e : Extent) : Extent :=
  let target := e.states
  let start : List OpenState × Memory := ([], ⟨e.addPlain, ∅⟩)
  let (way, m) := sequences.foldl (fun (way, m) bytes => m.insert target way bytes) start
  (m.close target way).2.extent

/-! ## Reading backward -/

/-- Grows by states that read a sequence backward, from the last byte, and lead to
    `target`. -/
def Memory.addBackward (target : Nat) (sequence : List CharSet.ByteRange) (m : Memory) : Memory :=
  (sequence.foldl
    (fun (next, m) bytes =>
      m.state (slot 1000 [next, bytes.first.toNat, bytes.last.toNat]) [⟨bytes, next⟩]
        Extent.addPlain)
    (target, m)).2

/-- Grows by states that read the sequences backward, with a state in front that
    leads on to one for each sequence. -/
def backwardClass (sequences : List (List CharSet.ByteRange)) (e : Extent) : Extent :=
  let e := e.addFork sequences.length
  let start : Memory := ⟨e.addPlain, ∅⟩
  (sequences.foldl (fun m bytes => m.addBackward e.states bytes) start).extent

/-! ## Sets -/

/-- What a set with these encoded forms adds to an automaton.  A set of ASCII
    characters, which have one byte each, takes one state that reads and one
    behind it. -/
def classGrowth (direction : Direction) (members : CharSet)
    (sequences : List (List CharSet.ByteRange)) : Growth :=
  if members.isAscii then .within fun e => e.addPlain.addReader members.spans.length
  else
    match direction with
    | .forward => .within (forwardClass sequences)
    | .backward => .within (backwardClass sequences)

end Worksheet.Automaton
