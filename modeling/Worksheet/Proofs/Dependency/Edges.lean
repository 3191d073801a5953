import Mathlib.Data.Finset.Card
import Mathlib.Data.Finset.Union
import Worksheet.Dependency.Graph

/-! # The edges of a dependency graph

    A graph keeps its edges in both directions and their number beside them.
    `Represents` ties all three to one finite set of pairs.  Every operation on
    graphs is an operation on that set, and a graph is determined by it, so
    graphs with the same edges are equal. -/

namespace Worksheet.Dependency

/-! ### One direction -/

namespace Adjacency

/-- The neighbours are those that `R` relates, and no entry is empty. -/
structure Holds (m : Adjacency) (R : String → String → Prop) : Prop where
  mem_iff : ∀ a b, b ∈ m.neighbours a ↔ R a b
  no_empty : ∀ a : String, m[a]? ≠ some ∅

theorem mem_neighbours_link (m : Adjacency) (a b x y : String) :
    y ∈ (m.link a b).neighbours x ↔ y ∈ m.neighbours x ∨ (x = a ∧ y = b) := by
  unfold link neighbours
  rw [Std.ExtTreeMap.getElem?_insert]
  by_cases hx : a = x
  · subst hx
    simp only [Std.ReflCmp.compare_self, if_true, Option.getD_some, Std.ExtTreeSet.mem_insert,
      Std.compare_eq_iff_eq, true_and]
    rw [or_comm, eq_comm]
  · simp [hx, Ne.symm hx]

theorem mem_neighbours_unlink (m : Adjacency) (a b x y : String) :
    y ∈ (m.unlink a b).neighbours x ↔ y ∈ m.neighbours x ∧ ¬ (x = a ∧ y = b) := by
  unfold unlink
  dsimp only
  split
  · next hempty =>
    -- The last neighbour of `a` is gone, and its entry with it.
    have hrest : ∀ z, z ∉ (m.neighbours a).erase b := by
      rw [Std.ExtTreeSet.isEmpty_iff.mp hempty]
      simp
    by_cases hx : a = x
    · subst hx
      have hy := hrest y
      simp [neighbours] at hy ⊢
      grind
    · simp [neighbours, Std.ExtTreeMap.getElem?_erase, hx, Ne.symm hx]
  · by_cases hx : a = x
    · subst hx
      simp only [neighbours, Std.ExtTreeMap.getElem?_insert_self, Option.getD_some,
        Std.ExtTreeSet.mem_erase, true_and]
      rw [and_comm, Ne, Std.compare_eq_iff_eq, eq_comm]
    · simp [neighbours, Std.ExtTreeMap.getElem?_insert, hx, Ne.symm hx]

variable {m n : Adjacency} {R S : String → String → Prop}

theorem holds_empty : Holds ∅ fun _ _ => False where
  mem_iff := by simp [neighbours]
  no_empty := by simp

theorem Holds.congr (h : m.Holds R) (hRS : ∀ a b, R a b ↔ S a b) : m.Holds S where
  mem_iff a b := (h.mem_iff a b).trans (hRS a b)
  no_empty := h.no_empty

theorem Holds.link (h : m.Holds R) (a b : String) :
    (m.link a b).Holds fun x y => R x y ∨ (x = a ∧ y = b) where
  mem_iff x y := by rw [mem_neighbours_link, h.mem_iff]
  no_empty x := by
    unfold Adjacency.link
    rw [Std.ExtTreeMap.getElem?_insert]
    split
    · simp
    · exact h.no_empty x

theorem Holds.unlink (h : m.Holds R) (a b : String) :
    (m.unlink a b).Holds fun x y => R x y ∧ ¬ (x = a ∧ y = b) where
  mem_iff x y := by rw [mem_neighbours_unlink, h.mem_iff]
  no_empty x := by
    unfold Adjacency.unlink
    dsimp only
    split
    · rw [Std.ExtTreeMap.getElem?_erase]
      split
      · simp
      · exact h.no_empty x
    · next hrest =>
      rw [Std.ExtTreeMap.getElem?_insert]
      split
      · intro hempty
        exact hrest (Std.ExtTreeSet.isEmpty_iff.mpr (Option.some.inj hempty))
      · exact h.no_empty x

/-- The entry of a name is missing exactly when the name has no neighbours. -/
theorem Holds.getElem?_eq (h : m.Holds R) (a : String) :
    m[a]? = if m.neighbours a = ∅ then none else some (m.neighbours a) := by
  have hne := h.no_empty a
  unfold neighbours
  cases hentry : m[a]? with
  | none => simp
  | some ns =>
    rw [hentry] at hne
    have hns : ns ≠ ∅ := fun h => hne (congrArg some h)
    simp [hns]

/-- A name has an entry exactly when it has neighbours. -/
theorem Holds.contains_iff (h : m.Holds R) (a : String) :
    m.contains a = true ↔ ∃ b, R a b := by
  have hentry : m.contains a = true ↔ m.neighbours a ≠ ∅ := by
    rw [Std.ExtTreeMap.contains_eq_isSome_getElem?, h.getElem?_eq]
    split <;> simp_all
  simp only [hentry, ne_eq, Std.ExtTreeSet.eq_empty_iff_forall_not_mem, not_forall, not_not,
    h.mem_iff]

/-- Two maps that hold the same relation are equal. -/
theorem Holds.unique (hm : m.Holds R) (hn : n.Holds R) : m = n := by
  apply Std.ExtTreeMap.ext_getElem?
  intro a
  have hneighbours : m.neighbours a = n.neighbours a := by
    apply Std.ExtTreeSet.ext_mem
    intro b
    rw [hm.mem_iff, hn.mem_iff]
  rw [hm.getElem?_eq, hn.getElem?_eq, hneighbours]

end Adjacency

/-! ### Both directions and the count -/

namespace Graph

/-- The graph has exactly these edges, in both directions, and counts them. -/
structure Represents (g : Graph) (edges : Finset (String × String)) : Prop where
  forward : g.forward.Holds fun s t => (s, t) ∈ edges
  backward : g.backward.Holds fun t s => (s, t) ∈ edges
  size_eq : g.size = edges.card

variable {g h : Graph} {edges : Finset (String × String)}

theorem Represents.mem_dependents (hg : g.Represents edges) (s t : String) :
    t ∈ g.dependents s ↔ (s, t) ∈ edges :=
  hg.forward.mem_iff s t

theorem Represents.mem_dependees (hg : g.Represents edges) (s t : String) :
    s ∈ g.dependees t ↔ (s, t) ∈ edges :=
  hg.backward.mem_iff t s

/-- What depends on something has an entry among the backward edges. -/
theorem Represents.mem_backward (hg : g.Represents edges) {s t : String}
    (hst : t ∈ g.dependents s) : t ∈ g.backward := by
  have hmem : s ∈ g.dependees t := by rwa [hg.mem_dependees, ← hg.mem_dependents]
  by_contra hout
  have hnone : g.backward[t]? = none := Std.ExtTreeMap.getElem?_eq_none hout
  simp [dependees, Adjacency.neighbours, hnone] at hmem

theorem Represents.linked_iff (hg : g.Represents edges) (s t : String) :
    g.forward.linked s t = true ↔ (s, t) ∈ edges := by
  rw [← hg.mem_dependents]
  exact Std.ExtTreeSet.mem_iff_contains.symm

/-- Graphs with the same edges are equal. -/
theorem Represents.unique (hg : g.Represents edges) (hh : h.Represents edges) : g = h := by
  obtain ⟨forward, backward, size⟩ := g
  obtain ⟨forward', backward', size'⟩ := h
  have hforward : forward = forward' := hg.forward.unique hh.forward
  have hbackward : backward = backward' := hg.backward.unique hh.backward
  have hsize : size = size' := hg.size_eq.trans hh.size_eq.symm
  rw [hforward, hbackward, hsize]

theorem represents_empty : (∅ : Graph).Represents ∅ where
  forward := Adjacency.holds_empty.congr (by simp)
  backward := Adjacency.holds_empty.congr (by simp)
  size_eq := rfl

theorem Represents.insert (hg : g.Represents edges) (s t : String) :
    (g.insert s t).Represents (Insert.insert (s, t) edges) := by
  unfold Graph.insert
  by_cases hst : (s, t) ∈ edges
  · rw [if_pos ((hg.linked_iff s t).mpr hst), Finset.insert_eq_of_mem hst]
    exact hg
  · rw [if_neg (fun hl => hst ((hg.linked_iff s t).mp hl))]
    refine ⟨(hg.forward.link s t).congr ?_, (hg.backward.link t s).congr ?_, ?_⟩
    · intro a b
      simp [or_comm]
    · intro a b
      simp [or_comm, and_comm (a := a = t)]
    · rw [Finset.card_insert_of_notMem hst, hg.size_eq]

/-- Removing an edge that is there never meets a count of zero. -/
theorem Represents.erase (hg : g.Represents edges) (s t : String) :
    (g.erase s t).Represents (edges.erase (s, t)) := by
  unfold Graph.erase
  by_cases hst : (s, t) ∈ edges
  · rw [if_pos ((hg.linked_iff s t).mpr hst)]
    refine ⟨(hg.forward.unlink s t).congr ?_, (hg.backward.unlink t s).congr ?_, ?_⟩
    · intro a b
      simp [and_comm]
    · intro a b
      simp [and_comm]
    · rw [Finset.card_erase_of_mem hst, hg.size_eq]
  · rw [if_neg (fun hl => hst ((hg.linked_iff s t).mp hl)), Finset.erase_eq_of_notMem hst]
    exact hg

/-! ### Replacing edges

    Both ways of replacing edges first remove the old edges of one name, one by
    one, and then add the new ones. -/

theorem Represents.insert_all (hg : g.Represents edges) (new : List (String × String)) :
    (new.foldl (fun g e => g.insert e.1 e.2) g).Represents (edges ∪ new.toFinset) := by
  induction new generalizing g edges with
  | nil => simpa using hg
  | cons e new ih =>
    have hnext := ih (hg.insert e.1 e.2)
    rwa [Finset.insert_union, ← Finset.union_insert, ← List.toFinset_cons] at hnext

theorem Represents.erase_all (hg : g.Represents edges) (old : List (String × String)) :
    (old.foldl (fun g e => g.erase e.1 e.2) g).Represents (edges \ old.toFinset) := by
  induction old generalizing g edges with
  | nil => simpa using hg
  | cons e old ih =>
    have hnext := ih (hg.erase e.1 e.2)
    rwa [Finset.erase_sdiff_comm, ← Finset.sdiff_insert, ← List.toFinset_cons] at hnext

/-- Removing the edges outside `keep` and adding new ones. -/
theorem Represents.replace (hg : g.Represents edges) {keep : String × String → Prop}
    [DecidablePred keep] {old : List (String × String)}
    (hold : ∀ e, e ∈ old ↔ e ∈ edges ∧ ¬ keep e) (new : List (String × String)) :
    (new.foldl (fun g e => g.insert e.1 e.2)
      (old.foldl (fun g e => g.erase e.1 e.2) g)).Represents
        (edges.filter keep ∪ new.toFinset) := by
  have hcleared := hg.erase_all old
  have hedges : edges \ old.toFinset = edges.filter keep := by
    ext e
    simp only [Finset.mem_sdiff, List.mem_toFinset, hold, Finset.mem_filter]
    tauto
  rw [hedges] at hcleared
  exact hcleared.insert_all new

theorem Represents.replaceDependents (hg : g.Represents edges) (s : String)
    (new : List String) :
    (g.replaceDependents s new).Represents
      (edges.filter (fun e => e.1 ≠ s) ∪ (new.map (s, ·)).toFinset) := by
  have hold : ∀ e, e ∈ (g.dependents s).toList.map (s, ·) ↔ e ∈ edges ∧ ¬ e.1 ≠ s := by
    rintro ⟨a, b⟩
    simp only [List.mem_map, Std.ExtTreeSet.mem_toList, hg.mem_dependents, Prod.mk.injEq]
    grind
  have hdone := hg.replace hold (new.map (s, ·))
  simpa only [Graph.replaceDependents, List.foldl_map] using hdone

theorem Represents.replaceDependees (hg : g.Represents edges) (t : String)
    (new : List String) :
    (g.replaceDependees t new).Represents
      (edges.filter (fun e => e.2 ≠ t) ∪ (new.map (·, t)).toFinset) := by
  have hold : ∀ e, e ∈ (g.dependees t).toList.map (·, t) ↔ e ∈ edges ∧ ¬ e.2 ≠ t := by
    rintro ⟨a, b⟩
    simp only [List.mem_map, Std.ExtTreeSet.mem_toList, hg.mem_dependees, Prod.mk.injEq]
    grind
  have hdone := hg.replace hold (new.map (·, t))
  simpa only [Graph.replaceDependees, List.foldl_map] using hdone

/-- An edge after new dependees have been given to `t`. -/
theorem Represents.mem_dependents_replaceDependees (hg : g.Represents edges) (t : String)
    (new : List String) (a b : String) :
    b ∈ (g.replaceDependees t new).dependents a ↔
      (b ≠ t ∧ b ∈ g.dependents a) ∨ (b = t ∧ a ∈ new) := by
  rw [(hg.replaceDependees t new).mem_dependents, hg.mem_dependents]
  simp only [Finset.mem_union, Finset.mem_filter, List.mem_toFinset, List.mem_map, Prod.mk.injEq]
  grind

/-- Putting the former dependees back undoes a replacement altogether. -/
theorem Represents.replaceDependees_former (hg : g.Represents edges) (t : String)
    (new : List String) :
    (g.replaceDependees t new).replaceDependees t (g.dependees t).toList = g := by
  refine ((hg.replaceDependees t new).replaceDependees t _).unique ?_
  convert hg using 1
  ext ⟨a, b⟩
  simp only [Finset.mem_union, Finset.mem_filter, List.mem_toFinset, List.mem_map, Prod.mk.injEq,
    Std.ExtTreeSet.mem_toList, hg.mem_dependees]
  grind

end Graph

end Worksheet.Dependency
