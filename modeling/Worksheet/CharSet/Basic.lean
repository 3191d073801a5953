/-! # Sets of characters

    A set of characters is kept as ranges of code points, in ascending order and
    apart from each other.  Surrogates are not characters; a range may stretch
    over all of them, but none begins or ends with one. -/

namespace Worksheet

/-- A range of code points, both ends included. -/
structure CharSet.Span where
  first : Nat
  last : Nat
  deriving DecidableEq, Repr

/-- A set of characters. -/
structure CharSet where
  spans : List CharSet.Span
  deriving DecidableEq, Repr

namespace CharSet

/-- Is `c` a member? -/
def contains (s : CharSet) (c : Char) : Bool :=
  s.spans.any fun span => span.first ≤ c.toNat && c.toNat ≤ span.last

/-! ## Sets from ranges -/

/-- `span` and ascending ranges that begin after its beginning, where ranges that
    overlap or touch are made one. -/
def joinFrom (span : Span) : List Span → List Span
  | [] => [span]
  | next :: rest =>
    if next.first ≤ span.last + 1 then joinFrom ⟨span.first, max span.last next.last⟩ rest
    else span :: joinFrom next rest

/-- The union of ranges in any order. -/
def ofSpans (spans : List Span) : CharSet :=
  match spans.mergeSort fun a b => a.first ≤ b.first with
  | [] => ⟨[]⟩
  | span :: rest => ⟨joinFrom span rest⟩

/-- The set without members. -/
def empty : CharSet := ⟨[]⟩

/-- The characters from `first` to `last`, both included. -/
def range (first last : Char) : CharSet :=
  if first ≤ last then ⟨[⟨first.toNat, last.toNat⟩]⟩ else empty

/-- The set with one member. -/
def single (c : Char) : CharSet := range c c

/-- All characters. -/
def all : CharSet := ⟨[⟨0, 0x10ffff⟩]⟩

/-! ## Sets from sets -/

/-- The union of sets. -/
def unions (sets : List CharSet) : CharSet :=
  ofSpans (sets.flatMap spans)

/-- The members of `a` and those of `b`. -/
def union (a b : CharSet) : CharSet := unions [a, b]

/-- The characters from `first` up to but not including `past`. -/
def gap (first past : Nat) : List Span :=
  let first := if 0xd800 ≤ first ∧ first < 0xe000 then 0xe000 else first
  let past := if 0xd800 < past ∧ past ≤ 0xe000 then 0xd800 else past
  if first < past then [⟨first, past - 1⟩] else []

/-- The characters from `first` on that are in none of the ranges. -/
def gapsFrom (first : Nat) : List Span → List Span
  | [] => gap first 0x110000
  | span :: rest => gap first span.first ++ gapsFrom (span.last + 1) rest

/-- The characters that are not members. -/
def compl (s : CharSet) : CharSet := ⟨gapsFrom 0 s.spans⟩

/-- The members of `a` that are not in `b`. -/
def diff (a b : CharSet) : CharSet := (a.compl.union b).compl

/-- The members that `a` and `b` share. -/
def inter (a b : CharSet) : CharSet := a.diff b.compl

/-- The members of exactly one of `a` and `b`. -/
def symmDiff (a b : CharSet) : CharSet := (a.union b).diff (a.inter b)

/-! ## Questions about sets -/

/-- Has the set no members? -/
def isEmpty (s : CharSet) : Bool := s.spans.isEmpty

/-- Are all members ASCII characters? -/
def isAscii (s : CharSet) : Bool := s.spans.all fun span => span.last < 0x80

/-- The member of a set that has exactly one. -/
def only? (s : CharSet) : Option Char :=
  match s.spans with
  | [⟨first, last⟩] => if first = last then some (Char.ofNat first) else none
  | _ => none

@[simp] theorem contains_empty (c : Char) : empty.contains c = false := rfl

theorem contains_range (first last c : Char) :
    (range first last).contains c = (first ≤ c && c ≤ last : Bool) := by
  have le_iff (a b : Char) : a ≤ b ↔ a.toNat ≤ b.toNat := Iff.rfl
  unfold range contains
  split
  · simp [le_iff]
  · rename_i h
    simp only [empty, List.any_nil, Bool.false_eq, Bool.and_eq_false_iff, decide_eq_false_iff_not]
    rw [le_iff] at h ⊢
    rw [le_iff]
    omega

@[simp] theorem contains_single (a c : Char) : (single a).contains c = (c == a) := by
  rw [single, contains_range, Bool.eq_iff_iff]
  simp only [Bool.and_eq_true, decide_eq_true_eq, beq_iff_eq]
  exact ⟨fun h => Char.le_antisymm h.2 h.1, fun h => h ▸ ⟨Char.le_refl c, Char.le_refl c⟩⟩

end CharSet

end Worksheet
