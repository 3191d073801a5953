import Worksheet.Proofs.Dependency.Edges

/-! # A dependency graph is a set of pairs

    A graph is changed by adding and removing single edges, and by giving one
    name other dependents or other dependees.  On the set of its pairs each of
    these is an operation that can be written down at once.  The graph does
    more: it keeps both directions, drops an entry with its last neighbour, and
    counts.  Yet after any edits it answers every question as the set would.

    An edit is carried out edge by edge, and the number of edges is lowered in
    between as well.  It counts the pairs at each of these steps, so it is never
    lowered when it is zero. -/

namespace Worksheet.Dependency

/-! ### Edits of pairs and of graphs -/

/-- A change of the edges. -/
inductive Edit where
  | insert (s t : String)
  | erase (s t : String)
  /-- The names in `new` become the only dependents of `s`. -/
  | replaceDependents (s : String) (new : List String)
  /-- The names in `new` become the only dependees of `t`. -/
  | replaceDependees (t : String) (new : List String)

/-- The pairs after an edit. -/
def Edit.pairs (edges : Finset (String × String)) : Edit → Finset (String × String)
  | .insert s t => edges ∪ {(s, t)}
  | .erase s t => edges \ {(s, t)}
  | .replaceDependents s new => edges.filter (fun e => e.1 ≠ s) ∪ (new.map (s, ·)).toFinset
  | .replaceDependees t new => edges.filter (fun e => e.2 ≠ t) ∪ (new.map (·, t)).toFinset

/-- The pairs after edits one after the other, beginning without any. -/
def pairsAfter (edits : List Edit) : Finset (String × String) :=
  edits.foldl Edit.pairs ∅

namespace Graph

/-- The graph after an edit. -/
def edit (g : Graph) : Edit → Graph
  | .insert s t => g.insert s t
  | .erase s t => g.erase s t
  | .replaceDependents s new => g.replaceDependents s new
  | .replaceDependees t new => g.replaceDependees t new

/-- The graph after edits one after the other, beginning without any edge. -/
def afterEdits (edits : List Edit) : Graph :=
  edits.foldl edit ∅

variable {g : Graph} {edges : Finset (String × String)}

theorem Represents.edit (hg : g.Represents edges) (e : Edit) :
    (g.edit e).Represents (e.pairs edges) := by
  cases e with
  | insert s t =>
    rw [Edit.pairs, Finset.union_comm]
    exact hg.insert s t
  | erase s t =>
    rw [Edit.pairs, Finset.sdiff_singleton_eq_erase]
    exact hg.erase s t
  | replaceDependents s new => exact hg.replaceDependents s new
  | replaceDependees t new => exact hg.replaceDependees t new

theorem represents_afterEdits (edits : List Edit) :
    (afterEdits edits).Represents (pairsAfter edits) := by
  suffices hall : ∀ (g : Graph) (edges : Finset (String × String)), g.Represents edges →
      (edits.foldl Graph.edit g).Represents (edits.foldl Edit.pairs edges) from
    hall ∅ ∅ represents_empty
  induction edits with
  | nil => exact fun _ _ hg => hg
  | cons e edits ih => exact fun _ _ hg => ih _ _ (hg.edit e)

/-! ### Questions -/

/-- A set of names has as many members as the pairs that it stands for. -/
theorem size_eq_card {names : Std.ExtTreeSet String} {pair : String → String × String}
    (hpair : Function.Injective pair)
    (hmem : ∀ e, e ∈ edges ↔ ∃ name ∈ names, pair name = e) : names.size = edges.card := by
  have hnodup : names.toList.Nodup :=
    Std.ExtTreeSet.distinct_toList.imp fun hne heq => hne (Std.compare_eq_iff_eq.mpr heq)
  have hedges : edges = (names.toList.map pair).toFinset := by
    ext e
    simp [hmem]
  rw [hedges, List.toFinset_card_of_nodup (hnodup.map hpair), List.length_map,
    Std.ExtTreeSet.length_toList]

theorem Represents.dependentCount_eq (hg : g.Represents edges) (s : String) :
    g.dependentCount s = (edges.filter fun e => e.1 = s).card := by
  refine size_eq_card (Prod.mk_right_injective s) ?_
  rintro ⟨a, b⟩
  simp only [Finset.mem_filter, hg.mem_dependents, Prod.mk.injEq]
  grind

theorem Represents.dependeeCount_eq (hg : g.Represents edges) (t : String) :
    g.dependeeCount t = (edges.filter fun e => e.2 = t).card := by
  refine size_eq_card (Prod.mk_left_injective t) ?_
  rintro ⟨a, b⟩
  simp only [Finset.mem_filter, hg.mem_dependees, Prod.mk.injEq]
  grind

theorem Represents.hasDependents_iff (hg : g.Represents edges) (s : String) :
    g.hasDependents s = true ↔ ∃ t, (s, t) ∈ edges :=
  hg.forward.contains_iff s

theorem Represents.hasDependees_iff (hg : g.Represents edges) (t : String) :
    g.hasDependees t = true ↔ ∃ s, (s, t) ∈ edges :=
  hg.backward.contains_iff t

theorem Represents.isEmpty_iff (hg : g.Represents edges) : g.isEmpty = true ↔ edges = ∅ := by
  rw [Graph.isEmpty, decide_eq_true_eq, hg.size_eq, Finset.card_eq_zero]

/-! ### Edge by edge -/

/-- A single edge that is added or removed in the course of an edit. -/
inductive Step where
  | insert (s t : String)
  | erase (s t : String)

/-- The graph after a step. -/
def step (g : Graph) : Step → Graph
  | .insert s t => g.insert s t
  | .erase s t => g.erase s t

/-- The steps of an edit.  A replacement removes all that was there when it
    began, and then adds what is new. -/
def steps (g : Graph) : Edit → List Step
  | .insert s t => [.insert s t]
  | .erase s t => [.erase s t]
  | .replaceDependents s new =>
    (g.dependents s).toList.map (.erase s ·) ++ new.map (.insert s ·)
  | .replaceDependees t new =>
    (g.dependees t).toList.map (.erase · t) ++ new.map (.insert · t)

theorem edit_eq_foldl_step (g : Graph) (e : Edit) : g.edit e = (g.steps e).foldl step g := by
  cases e with
  | insert | erase => rfl
  | replaceDependents s new =>
    simp only [edit, steps, replaceDependents, List.foldl_append, List.foldl_map, step]
  | replaceDependees t new =>
    simp only [edit, steps, replaceDependees, List.foldl_append, List.foldl_map, step]

theorem Represents.step (hg : g.Represents edges) (next : Step) :
    ∃ edges', (g.step next).Represents edges' := by
  cases next with
  | insert s t => exact ⟨_, hg.insert s t⟩
  | erase s t => exact ⟨_, hg.erase s t⟩

theorem Represents.foldl_step (hg : g.Represents edges) (taken : List Step) :
    ∃ edges', (taken.foldl Graph.step g).Represents edges' := by
  induction taken generalizing g edges with
  | nil => exact ⟨edges, hg⟩
  | cons next taken ih =>
    obtain ⟨edges', hnext⟩ := hg.step next
    exact ih hnext

/-- Removing an edge that is there lowers the number by one. -/
theorem Represents.size_erase (hg : g.Represents edges) {s t : String}
    (hlinked : g.forward.linked s t = true) : (g.erase s t).size + 1 = g.size := by
  have hmem : (s, t) ∈ edges := (hg.linked_iff s t).mp hlinked
  rw [(hg.erase s t).size_eq, hg.size_eq]
  exact Finset.card_erase_add_one hmem

/-- **The graph is the set of its pairs**: after any edits the dependents and
    the dependees of every name, their numbers, whether there are any, the
    number of all edges and whether it is zero are what the pairs say, and no
    entry in either direction is empty.  A further edit is carried out in single
    steps, and whichever have been taken, in whichever order, removing an edge
    that is there lowers the number by one: it has not been zero. -/
theorem answers_afterEdits (edits : List Edit) :
    let g := afterEdits edits
    let edges := pairsAfter edits
    (∀ s t, t ∈ g.dependents s ↔ (s, t) ∈ edges) ∧
    (∀ s t, s ∈ g.dependees t ↔ (s, t) ∈ edges) ∧
    (∀ s, g.dependentCount s = (edges.filter fun e => e.1 = s).card) ∧
    (∀ t, g.dependeeCount t = (edges.filter fun e => e.2 = t).card) ∧
    (∀ s, g.hasDependents s = true ↔ ∃ t, (s, t) ∈ edges) ∧
    (∀ t, g.hasDependees t = true ↔ ∃ s, (s, t) ∈ edges) ∧
    g.size = edges.card ∧ (g.isEmpty = true ↔ edges = ∅) ∧
    (∀ s : String, g.forward[s]? ≠ some ∅) ∧ (∀ t : String, g.backward[t]? ≠ some ∅) ∧
    (∀ e, g.edit e = (g.steps e).foldl step g) ∧
    (∀ (taken : List Step) (s t : String), let h := taken.foldl step g
      h.forward.linked s t = true → (h.step (.erase s t)).size + 1 = h.size) := by
  intro g edges
  have hg : g.Represents edges := represents_afterEdits edits
  refine ⟨hg.mem_dependents, hg.mem_dependees, hg.dependentCount_eq, hg.dependeeCount_eq,
    hg.hasDependents_iff, hg.hasDependees_iff, hg.size_eq, hg.isEmpty_iff, hg.forward.no_empty,
    hg.backward.no_empty, g.edit_eq_foldl_step, ?_⟩
  intro taken s t h hlinked
  obtain ⟨edges', hh⟩ := hg.foldl_step taken
  exact hh.size_erase hlinked

end Graph

end Worksheet.Dependency
