import Worksheet.Text.Scan
import Worksheet.Pattern.Escape

/-! # Classes in brackets

    A class in brackets is a union of characters, ranges, escapes, ASCII classes
    by name and further brackets.  Such unions are combined from left to right by
    `&&` for what they share, `--` for what only the left one has, and `~~` for
    what only one of the two has. -/

namespace Worksheet.Pattern

/-- A set, and how deep its text is nested. -/
structure ClassPart where
  members : CharSet
  depth : Nat
  deriving DecidableEq, Repr

/-- How two unions are combined. -/
inductive ClassOperator where
  | intersection
  | difference
  | symmetricDifference
  deriving DecidableEq, Repr

/-- The set that the operator makes of two. -/
def ClassOperator.apply : ClassOperator → CharSet → CharSet → CharSet
  | .intersection => .inter
  | .difference => .diff
  | .symmetricDifference => .symmDiff

/-- An open bracket: what has been read of it. -/
structure OpenBracket where
  negated : Bool
  /-- The operand before the current one, and the operator between them. -/
  left : Option (ClassPart × ClassOperator)
  /-- The parts of the current operand, last first. -/
  parts : List ClassPart
  /-- Has nothing but hyphens been read? -/
  fresh : Bool

namespace OpenBracket

/-- The bracket with one more part. -/
def push (b : OpenBracket) (part : ClassPart) : OpenBracket :=
  { b with parts := part :: b.parts }

/-- The current operand. -/
def operand (b : OpenBracket) : ClassPart :=
  let nested := match b.parts with
    | _ :: _ :: _ => 1
    | _ => 0
  { members := .unions (b.parts.map ClassPart.members)
    depth := nested + (b.parts.map ClassPart.depth).foldl max 0 }

/-- All operands up to the current one, combined. -/
def combined (m : Mode) (b : OpenBracket) : ClassPart :=
  let right := b.operand
  match b.left with
  | none => right
  | some (left, operator) =>
    { members := operator.apply (m.fold left.members) (m.fold right.members)
      depth := 1 + max left.depth right.depth }

/-- The bracket after an operator. -/
def pushOperator (m : Mode) (b : OpenBracket) (operator : ClassOperator) : OpenBracket :=
  { b with left := some (b.combined m, operator), parts := [] }

/-- The set that the bracket stands for when it ends here. -/
def close? (m : Mode) (b : OpenBracket) : Option ClassPart :=
  let all := b.combined m
  match classAtom? m b.negated (m.fold all.members) with
  | some (.set members) => some ⟨members, all.depth + 1⟩
  | _ => none

end OpenBracket

/-- A character as a part of a class.  Only Unicode classes go beyond ASCII. -/
def charPart? (m : Mode) (first last : Char) : Option ClassPart :=
  if m.unicode ∨ (first.toNat < 0x80 ∧ last.toNat < 0x80) then some ⟨.range first last, 0⟩
  else none

/-- An atom as a part of a class.  Places are none. -/
def atomPart? (m : Mode) : Atom → Option ClassPart
  | .char c => charPart? m c c
  | .set members => some ⟨members, 0⟩
  | .look _ => none

/-- Reads the beginning of a bracket after its sign. -/
def openBracket (m : Mode) (cs : List Char) : OpenBracket × List Char :=
  match m.skip cs with
  | '^' :: rest => (⟨true, none, [], true⟩, rest)
  | cs => (⟨false, none, [], true⟩, cs)

/-- Reads an ASCII class after its bracket: a name between colons, perhaps with
    a sign that leaves its members out. -/
def readAsciiClass (m : Mode) (cs : List Char) : Option (Option ClassPart × List Char) :=
  match cs with
  | ':' :: rest =>
    let (negated, rest) := match rest with
      | '^' :: rest => (true, rest)
      | rest => (false, rest)
    let name := rest.takeWhile (· ≠ ':')
    match rest.drop name.length, CharSet.Ascii.ofName? (String.ofList name) with
    | ':' :: ']' :: rest, some members =>
      some ((classAtom? m negated (m.fold members)).bind (atomPart? m), rest)
    | _, _ => none
  | _ => none

/-- Reads a character or an escape inside a bracket. -/
def readMember (m : Mode) : List Char → Option (Atom × List Char)
  | '\\' :: rest => readEscape m rest
  | c :: rest => some (.char c, rest)
  | [] => none

/-- The character that decides what a hyphen before it stands for.  Where layout
    is allowed that is the next one which is not blank, after one sign for a
    comment; if there is none, it is the next one of all. -/
def afterHyphen (m : Mode) (cs : List Char) : Option Char :=
  if !m.verbose then cs.head?
  else
    let next := match Text.trimLeft cs with
      | '#' :: rest => Text.trimLeft rest
      | next => next
    next.head?.or cs.head?

/-- Reads a character, an escape or a range.  A hyphen stands for itself before
    the end of the bracket and before another hyphen. -/
def readMembers (m : Mode) (cs : List Char) : Option (ClassPart × List Char) := do
  let (first, rest) ← readMember m cs
  let single := (atomPart? m first).map fun part => (part, m.skip rest)
  match m.skip rest with
  | '-' :: rest =>
    let next := afterHyphen m rest
    if next = some ']' ∨ next = some '-' then single
    else
      match first, ← readMember m (m.skip rest) with
      | .char first, (.char last, rest) =>
        if first ≤ last then (charPart? m first last).map fun part => (part, rest) else none
      | _, _ => none
  | _ => single

/-- One step through a bracket, where `outer` are the open brackets around the
    current one, innermost first. -/
def bracketStep (m : Mode) (state : OpenBracket × List OpenBracket) (cs : List Char) :
    Option (Text.Progress (OpenBracket × List OpenBracket) ClassPart) :=
  let (b, outer) := state
  let rest := m.skip cs
  let hyphen : ClassPart := ⟨.single '-', 0⟩
  let closing : ClassPart := ⟨.single ']', 0⟩
  let started := { b with fresh := false }
  let operator (op : ClassOperator) (rest : List Char) :=
    some (.more (started.pushOperator m op, outer) rest)
  match rest, b.fresh with
  | [], _ => none
  | '-' :: rest, true => some (.more (b.push hyphen, outer) rest)
  | c :: rest, fresh =>
    if c = ']' ∧ fresh ∧ b.parts.isEmpty then some (.more (started.push closing, outer) rest)
    else
      match c, rest with
      | '[', rest =>
        match readAsciiClass m rest with
        | some (part, rest) => part.map fun part => .more (started.push part, outer) rest
        | none =>
          let (inner, rest) := openBracket m rest
          some (.more (inner, started :: outer) rest)
      | ']', rest => do
        let part ← b.close? m
        match outer with
        | [] => some (.done part rest)
        | around :: outer => some (.more (around.push part, outer) rest)
      | '&', '&' :: rest => operator .intersection rest
      | '-', '-' :: rest => operator .difference rest
      | '~', '~' :: rest => operator .symmetricDifference rest
      | c, rest => do
        let (part, rest) ← readMembers m (c :: rest)
        some (.more (started.push part, outer) rest)

/-- Reads a bracket after its sign. -/
def readBracket (m : Mode) (cs : List Char) : Option (ClassPart × List Char) :=
  let (b, rest) := openBracket m cs
  Text.scan (bracketStep m) (b, []) rest

end Worksheet.Pattern
