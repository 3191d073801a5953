import Worksheet.Pattern.Basic
import Worksheet.Pattern.Mode

/-! # Numbers of repetitions

    After `{` comes how often something is repeated: an exact number, a least
    number, or a least and a greatest one.  Every operator that repeats may have
    a question mark after it; that asks for few repetitions before many. -/

namespace Worksheet.Pattern

/-- Reads the end of an operator that repeats, with a question mark or without. -/
def readGreed (m : Mode) (least : Nat) (most : Option Nat) (cs : List Char) :
    Repetitions × List Char :=
  match cs with
  | '?' :: rest => (⟨least, most, m.lazyFirst⟩, rest)
  | rest => (⟨least, most, !m.lazyFirst⟩, rest)

/-- Reads a number of less than 33 bits, with blanks around it. -/
def readCount (m : Mode) (cs : List Char) : Option (Nat × List Char) :=
  let (digits, rest) := m.takeAll Char.isDigit (cs.dropWhile Text.isBlank)
  let n := digits.foldl (fun n c => 10 * n + (c.toNat - '0'.toNat)) 0
  if digits = [] ∨ Nat.pow 2 32 ≤ n then none else some (n, rest.dropWhile Text.isBlank)

/-- Reads the greatest number after a comma, if there is one. -/
def readMost (m : Mode) (cs : List Char) : Option (Option Nat × List Char) :=
  match m.skip cs with
  | '\x7d' :: rest => some (none, '\x7d' :: rest)
  | cs => (readCount m cs).map fun (n, rest) => (some n, rest)

/-- Reads what follows an opening brace. -/
def readRepetitions (m : Mode) (cs : List Char) : Option (Repetitions × List Char) := do
  let (least, rest) ← readCount m (m.skip cs)
  let (most, rest) ← match rest with
    | ',' :: rest => readMost m rest
    | rest => some (some least, rest)
  match rest with
  | '\x7d' :: rest =>
    if most.all (least ≤ ·) then some (readGreed m least most (m.skip rest)) else none
  | _ => none

end Worksheet.Pattern
