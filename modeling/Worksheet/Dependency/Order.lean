import Worksheet.Dependency.Graph

/-! # The order of recalculation

    When a cell changes, it and everything that depends on it, directly or
    not, is evaluated again, each cell after its dependees.  A depth-first
    walk along the dependents, siblings in ascending order, gives the order:
    a cell is put in front of those already listed when everything that
    depends on it has been listed.  A walk that meets its start again has
    found a circular dependency.

    The walk keeps its own stack.  A cell is entered at most once: what depends
    on something has an entry among the backward edges, and `fresh` are the
    entries of the cells that have not been entered yet. -/

namespace Worksheet.Dependency

/-- The walk along the dependents of some cell leads back to it from `cell`. -/
structure Circular where
  cell : String
  deriving DecidableEq, Repr

/-- The wording of a circular dependency. -/
def Circular.message (c : Circular) : String :=
  "Circular dependency detected at " ++ c.cell

/-- A cell that the walk has entered, with the dependents it has not yet
    looked at. -/
structure Visit where
  cell : String
  pending : List String
  deriving DecidableEq, Repr

namespace Graph

/-- The beginning of a visit to `cell`. -/
def visit (g : Graph) (cell : String) : Visit :=
  ⟨cell, (g.dependents cell).toList⟩

/-- Walks on with the visits in `stack`, the latest first, where `listed` are
    the cells whose visits have ended, the latest first. -/
def walk (g : Graph) (start : String) (fresh : Adjacency) (listed : List String) :
    List Visit → Except Circular (List String)
  | [] => .ok listed
  | ⟨cell, []⟩ :: stack => g.walk start fresh (cell :: listed) stack
  | ⟨cell, next :: pending⟩ :: stack =>
    if next = start then .error ⟨cell⟩
    else if next ∈ fresh then
      g.walk start (fresh.erase next) listed (g.visit next :: ⟨cell, pending⟩ :: stack)
    else g.walk start fresh listed (⟨cell, pending⟩ :: stack)
termination_by stack => (fresh.size, stack.foldr (fun v n => v.pending.length + 1 + n) 0)
decreasing_by
  · exact Prod.Lex.right _ (by simp)
  · apply Prod.Lex.left
    have nonempty : fresh.size ≠ 0 := fun h0 => by
      have := Std.ExtTreeMap.isEmpty_eq_size_beq_zero (t := fresh)
      simp_all
    rw [Std.ExtTreeMap.size_erase, if_pos (by simpa using ‹next ∈ fresh›)]
    omega
  · exact Prod.Lex.right _ (by simp)

/-- `start` and everything that depends on it, each cell after its dependees. -/
def recalculationOrder (g : Graph) (start : String) : Except Circular (List String) :=
  g.walk start (g.backward.erase start) [] [g.visit start]

end Graph

end Worksheet.Dependency
