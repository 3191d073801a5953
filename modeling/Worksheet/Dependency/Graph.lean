import Std.Data.ExtTreeMap
import Std.Data.ExtTreeSet

/-! # The dependency graph

    An edge from `s` to `t` says that `t` depends on `s`: `s` has to be
    evaluated first.  The `t` are the dependents of `s`, the `s` are the
    dependees of `t`.  The edges are kept in both directions, and their number
    is kept beside them. -/

namespace Worksheet.Dependency

/-- One direction of the edges: the neighbours of each name.  Names without
    neighbours have no entry. -/
abbrev Adjacency := Std.ExtTreeMap String (Std.ExtTreeSet String)

namespace Adjacency

/-- The neighbours of `a`. -/
def neighbours (m : Adjacency) (a : String) : Std.ExtTreeSet String :=
  m[a]?.getD ∅

/-- Is `b` a neighbour of `a`? -/
def linked (m : Adjacency) (a b : String) : Bool :=
  (m.neighbours a).contains b

/-- Makes `b` a neighbour of `a`. -/
def link (m : Adjacency) (a b : String) : Adjacency :=
  m.insert a ((m.neighbours a).insert b)

/-- Makes `b` no neighbour of `a`, and drops the entry of `a` with its last
    neighbour. -/
def unlink (m : Adjacency) (a b : String) : Adjacency :=
  let rest := (m.neighbours a).erase b
  if rest.isEmpty then m.erase a else m.insert a rest

end Adjacency

/-- The edges in both directions and their number. -/
structure Graph where
  forward : Adjacency
  backward : Adjacency
  size : Nat

namespace Graph

/-- The graph without edges. -/
def empty : Graph := ⟨∅, ∅, 0⟩

instance : EmptyCollection Graph := ⟨empty⟩

/-- Has the graph no edges? -/
def isEmpty (g : Graph) : Bool :=
  g.size = 0

/-- What depends directly on `s`. -/
def dependents (g : Graph) (s : String) : Std.ExtTreeSet String :=
  g.forward.neighbours s

/-- What `t` depends on directly. -/
def dependees (g : Graph) (t : String) : Std.ExtTreeSet String :=
  g.backward.neighbours t

/-- Does anything depend on `s`? -/
def hasDependents (g : Graph) (s : String) : Bool :=
  g.forward.contains s

/-- Does `t` depend on anything? -/
def hasDependees (g : Graph) (t : String) : Bool :=
  g.backward.contains t

/-- How much depends directly on `s`. -/
def dependentCount (g : Graph) (s : String) : Nat :=
  (g.dependents s).size

/-- On how much `t` depends directly. -/
def dependeeCount (g : Graph) (t : String) : Nat :=
  (g.dependees t).size

/-- Adds the edge from `s` to `t`, unless it is there. -/
def insert (g : Graph) (s t : String) : Graph :=
  if g.forward.linked s t then g
  else ⟨g.forward.link s t, g.backward.link t s, g.size + 1⟩

/-- Removes the edge from `s` to `t`, if it is there. -/
def erase (g : Graph) (s t : String) : Graph :=
  if g.forward.linked s t then ⟨g.forward.unlink s t, g.backward.unlink t s, g.size - 1⟩
  else g

/-- Makes the names in `new` the only dependents of `s`. -/
def replaceDependents (g : Graph) (s : String) (new : List String) : Graph :=
  let cleared := (g.dependents s).toList.foldl (fun g t => g.erase s t) g
  new.foldl (fun g t => g.insert s t) cleared

/-- Makes the names in `new` the only dependees of `t`. -/
def replaceDependees (g : Graph) (t : String) (new : List String) : Graph :=
  let cleared := (g.dependees t).toList.foldl (fun g s => g.erase s t) g
  new.foldl (fun g s => g.insert s t) cleared

end Graph

end Worksheet.Dependency
