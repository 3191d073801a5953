import Worksheet.Pattern.Basic

/-! # Building patterns

    Patterns are built in a simple form: no part of a sequence is empty or a
    sequence itself, literals do not stand side by side, no alternative of a
    choice is a choice, and alternatives that begin with the same parts share
    them. -/

namespace Worksheet.Pattern

/-! ## Sets -/

/-- No text at all. -/
def never : Pattern := .one .empty true

/-- One character of a set. -/
def ofSet (members : CharSet) (inBytes : Bool) : Pattern :=
  match members.only? with
  | some c => .literal [c]
  | none => if members.isEmpty then never else .one members inBytes

/-! ## Sequences -/

/-- The patterns that follow each other in a pattern. -/
def parts : Pattern → List Pattern
  | .empty => []
  | .seq p q => p :: q.parts
  | p => [p]

/-- Parts with one more in front.  A literal joins a literal after it. -/
def pushPart (p : Pattern) (rest : List Pattern) : List Pattern :=
  match p, rest with
  | .literal a, .literal b :: rest => .literal (a ++ b) :: rest
  | p, rest => p :: rest

/-- The pattern with these parts. -/
def ofParts : List Pattern → Pattern
  | [] => .empty
  | [p] => p
  | p :: rest => .seq p (ofParts rest)

/-- Patterns one after the other. -/
def sequence (patterns : List Pattern) : Pattern :=
  ofParts ((patterns.flatMap parts).foldr pushPart [])

/-! ## Repetitions -/

/-- Does the pattern describe only empty texts? -/
def isWidthless : Pattern → Bool
  | .empty => true
  | .literal _ => false
  | .one _ _ => false
  | .look _ => true
  | .times p r => r.most.isSome && p.isWidthless
  | .group _ p => p.isWidthless
  | .seq p q => p.isWidthless && q.isWidthless
  | .alt p q => p.isWidthless && q.isWidthless

/-- A pattern repeated.  Repeating empty texts more than once adds nothing. -/
def repeated (p : Pattern) (r : Repetitions) : Pattern :=
  let r := if p.isWidthless then
      { r with least := min r.least 1, most := some (min (r.most.getD 1) 1) }
    else r
  if r.most = some 0 then .empty
  else if r.least = 1 ∧ r.most = some 1 then p
  else .times p r

/-! ## Choices -/

/-- The patterns that a pattern is a choice from. -/
def alternatives : Pattern → List Pattern
  | .alt p q => p :: q.alternatives
  | p => [p]

/-- The choice from these alternatives. -/
def ofAlternatives : List Pattern → Pattern
  | [] => never
  | [p] => p
  | p :: rest => .alt p (ofAlternatives rest)

/-- The character of a literal that has only one. -/
def char? : Pattern → Option Char
  | .literal [c] => some c
  | _ => none

/-- The members of a set. -/
def members? : Pattern → Option CharSet
  | .one members _ => some members
  | _ => none

/-- The parts that all alternatives begin with, if all are sequences. -/
def sharedParts (alternatives : List Pattern) : List Pattern :=
  let shared (a b : List Pattern) : List Pattern :=
    ((a.zip b).takeWhile fun (p, q) => p = q).map Prod.fst
  let isSequence (p : Pattern) : Bool := 2 ≤ p.parts.length
  match alternatives with
  | [] => []
  | p :: rest =>
    if alternatives.all isSequence then rest.foldl (fun common q => shared common q.parts) p.parts
    else []

/-- The number of constructors of a pattern. -/
def size : Pattern → Nat
  | .times p _ => p.size + 1
  | .group _ p => p.size + 1
  | .seq p q => p.size + q.size + 1
  | .alt p q => p.size + q.size + 1
  | _ => 1

/-- A choice that is simplified at most `fuel` times.  Characters and sets become
    a set, and parts that all alternatives begin with are taken out. -/
def choiceWithin : Nat → List Pattern → Pattern
  | 0, patterns => ofAlternatives patterns
  | fuel + 1, patterns =>
    match patterns.flatMap alternatives with
    | [p] => p
    | all =>
      match all.mapM char?, all.mapM members? with
      | some chars, _ => ofSet (.unions (chars.map .single)) false
      | none, some sets => ofSet (.unions sets) false
      | none, none =>
        match sharedParts all with
        | [] => ofAlternatives all
        | shared =>
          let rests := all.map fun p => sequence (p.parts.drop shared.length)
          sequence (shared ++ [choiceWithin fuel rests])

/-- A choice from patterns.  Taking out what the alternatives share makes them
    smaller, so that it is done less often than there are constructors. -/
def choice (patterns : List Pattern) : Pattern :=
  choiceWithin (patterns.foldl (fun n p => n + p.size) 1) patterns

end Worksheet.Pattern
