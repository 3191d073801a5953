import Worksheet.Proofs.Dependency.Pairs
import Worksheet.Proofs.Dependency.Walk

/-! # The order of recalculation on every graph

    Every graph that edits can make is walked to an end, cycles or not.  The
    walk is taken here turn by turn: it looks at the next dependent of the
    latest visit, or ends this visit, and remembers the cells that it has
    visited.  Nothing bounds the number of turns, but finitely many of them lead
    to the outcome.

    The outcome is a refusal exactly if the start lies on a cycle.  Otherwise it
    is a list of what depends on the start, in which an edge points forward
    unless it is part of a cycle. -/

namespace Worksheet.Dependency

open Relation

/-- An edge points forward in an order unless its end leads back. -/
theorem IsOrder.idxOf_lt {edge : String → String → Prop} {start : String} {order : List String}
    (horder : IsOrder edge start order) {u v : String} (hu : u ∈ order) (huv : edge u v)
    (hback : ¬ ReflTransGen edge v u) : order.idxOf u < order.idxOf v := by
  obtain ⟨before, after, hsplit, hfirst⟩ := List.eq_append_cons_of_mem hu
  have hafter : v ∈ after := (horder.later before u after hsplit v huv).resolve_right hback
  have hnodup := horder.nodup
  rw [hsplit, List.nodup_append] at hnodup
  have hne : u ≠ v := fun heq => hback (heq ▸ .refl)
  have hlater : v ∉ before := fun hbefore =>
    hnodup.2.2 v hbefore v (List.mem_cons_of_mem u hafter) rfl
  calc order.idxOf u = before.length := by
        rw [hsplit, List.idxOf_append_of_notMem hfirst, List.idxOf_cons_self, Nat.add_zero]
    _ < before.length + (after.idxOf v + 1) := by omega
    _ = order.idxOf v := by
        rw [hsplit, List.idxOf_append_of_notMem hlater, List.idxOf_cons_ne after hne]

namespace Graph

/-! ### Turns -/

/-- The walk between two turns. -/
structure Stage where
  visited : Std.ExtTreeSet String
  listed : List String
  stack : List Visit

/-- The walk before its first turn. -/
def firstStage (g : Graph) (start : String) : Stage :=
  ⟨{start}, [], [g.visit start]⟩

/-- One turn of the walk, which gives the next stage or the outcome. -/
def turn (g : Graph) (start : String) (w : Stage) : Stage ⊕ Except Circular (List String) :=
  match w.stack with
  | [] => .inr (.ok w.listed)
  | ⟨cell, []⟩ :: stack => .inl ⟨w.visited, cell :: w.listed, stack⟩
  | ⟨cell, next :: pending⟩ :: stack =>
    if next = start then .inr (.error ⟨cell⟩)
    else if next ∈ w.visited then .inl ⟨w.visited, w.listed, ⟨cell, pending⟩ :: stack⟩
    else .inl ⟨w.visited.insert next, w.listed, g.visit next :: ⟨cell, pending⟩ :: stack⟩

/-- So many turns of the walk, or fewer if there is an outcome before. -/
def turns (g : Graph) (start : String) : Nat → Stage → Stage ⊕ Except Circular (List String)
  | 0, w => .inl w
  | n + 1, w =>
    match g.turn start w with
    | .inl w => g.turns start n w
    | .inr outcome => .inr outcome

variable {g : Graph} {start : String} {fresh : Adjacency} {listed : List String}
  {stack : List Visit} {visited : Std.ExtTreeSet String}

/-- A turn in front of finitely many more. -/
theorem exists_turns_of_turn {w w' : Stage} {outcome : Except Circular (List String)}
    (hturn : g.turn start w = .inl w') (h : ∃ n, g.turns start n w' = .inr outcome) :
    ∃ n, g.turns start n w = .inr outcome := by
  obtain ⟨n, hn⟩ := h
  refine ⟨n + 1, ?_⟩
  rw [turns, hturn]
  exact hn

/-- Finitely many turns lead to the outcome of the walk. -/
theorem Walking.exists_turns (hentries : ∀ s t, g.Edge s t → t ∈ g.backward)
    (h : g.Walking start fresh listed stack)
    (hvisited : ∀ c, c ∈ visited ↔ c ∈ entered listed stack) :
    ∃ n, g.turns start n ⟨visited, listed, stack⟩ = .inr (g.walk start fresh listed stack) := by
  -- What has been visited is always what has been entered, on the stack or listed.
  fun_induction walk g start fresh listed stack generalizing visited with
  | case1 fresh listed => exact ⟨1, rfl⟩
  | case2 fresh listed cell stack ih =>
    refine exists_turns_of_turn rfl (ih h.leave fun c => ?_)
    rw [hvisited, entered_cons]
  | case3 fresh listed cell pending stack => exact ⟨1, by simp [turns, turn]⟩
  | case4 fresh listed cell next pending stack hstart hfresh ih =>
    have hnew : next ∉ visited := by
      rw [hvisited]
      exact ((h.fresh_iff next).mp hfresh).2
    have hturn : g.turn start ⟨visited, listed, ⟨cell, next :: pending⟩ :: stack⟩ =
        .inl ⟨visited.insert next, listed, g.visit next :: ⟨cell, pending⟩ :: stack⟩ := by
      simp [turn, hstart, hnew]
    refine exists_turns_of_turn hturn (ih (h.enter hstart hfresh) fun c => ?_)
    rw [Std.ExtTreeSet.mem_insert, hvisited, Std.compare_eq_iff_eq]
    simp only [mem_entered, visit, List.map_cons, List.mem_cons]
    grind
  | case5 fresh listed cell next pending stack hstart hfresh ih =>
    have hentered : next ∈ entered listed (⟨cell, pending⟩ :: stack) :=
      h.mem_entered_of_notMem hentries hfresh
    have hold : next ∈ visited := (hvisited next).mpr hentered
    have hturn : g.turn start ⟨visited, listed, ⟨cell, next :: pending⟩ :: stack⟩ =
        .inl ⟨visited, listed, ⟨cell, pending⟩ :: stack⟩ := by
      simp [turn, hstart, hold]
    exact exists_turns_of_turn hturn (ih (h.skip hstart hentered) hvisited)

/-! ### The outcome -/

theorem mem_visited_firstStage (g : Graph) (start c : String) :
    c ∈ (g.firstStage start).visited ↔ c ∈ entered [] [g.visit start] := by
  have hvisited : c ∈ (g.firstStage start).visited ↔ start = c := by
    rw [← Std.compare_eq_iff_eq]
    simp [firstStage]
  rw [hvisited]
  simp [mem_entered, visit, eq_comm]

/-- **Recalculation on every graph**: on a graph that edits have made, cyclic or
    not, finitely many turns lead to the outcome.  It is a refusal exactly if the
    start lies on a cycle, and then it names a cell that depends on the start, or
    is the start, and has an edge to it.  Otherwise it is a list that begins with
    the start and names everything that depends on it once and nothing else.
    Each edge points forward in it unless its end leads back, so without cycles
    each edge does. -/
theorem recalculationOrder_afterEdits (edits : List Edit) (start : String) :
    let g := afterEdits edits
    let outcome := g.recalculationOrder start
    (∃ n, g.turns start n (g.firstStage start) = .inr outcome) ∧
    ((∃ e, outcome = .error e) ↔ TransGen g.Edge start start) ∧
    (∀ e, outcome = .error e → ReflTransGen g.Edge start e.cell ∧ g.Edge e.cell start) ∧
    ∀ order, outcome = .ok order →
      order.head? = some start ∧ order.Nodup ∧ (∀ c, c ∈ order ↔ ReflTransGen g.Edge start c) ∧
      (∀ u ∈ order, ∀ v ∈ order, g.Edge u v → ¬ ReflTransGen g.Edge v u →
        order.idxOf u < order.idxOf v) ∧
      ((∀ c ∈ order, ¬ TransGen g.Edge c c) →
        ∀ u ∈ order, ∀ v ∈ order, g.Edge u v → order.idxOf u < order.idxOf v) := by
  intro g outcome
  have hg : g.Represents (pairsAfter edits) := represents_afterEdits edits
  have hentries : ∀ s t, g.Edge s t → t ∈ g.backward := fun _ _ hst => hg.mem_backward hst
  have hturns : ∃ n, g.turns start n (g.firstStage start) = .inr outcome :=
    (walking_start g start).exists_turns hentries (mem_visited_firstStage g start)
  refine ⟨hturns, ?_⟩
  rcases recalculationOrder_spec hg start with
    ⟨order, hwalk, horder, hcycle⟩ | ⟨c, hwalk, hreach, hback⟩
  · have houtcome : outcome = .ok order := hwalk
    rw [houtcome]
    refine ⟨by simp [hcycle], by simp, ?_⟩
    intro order' hsame
    obtain rfl := Except.ok.inj hsame
    have hforward : ∀ u ∈ order, ∀ v ∈ order, g.Edge u v → ¬ ReflTransGen g.Edge v u →
        order.idxOf u < order.idxOf v := fun u hu v _ => horder.idxOf_lt hu
    refine ⟨horder.head, horder.nodup, horder.mem_iff, hforward, fun hacyclic u hu v hv huv => ?_⟩
    exact hforward u hu v hv huv fun hvu => hacyclic u hu (TransGen.head' huv hvu)
  · have houtcome : outcome = .error ⟨c⟩ := hwalk
    have hcycle : TransGen g.Edge start start := TransGen.tail' hreach hback
    rw [houtcome]
    refine ⟨by simp [hcycle], ?_, by simp⟩
    intro e hsame
    obtain rfl := Except.error.inj hsame
    exact ⟨hreach, hback⟩

end Graph

end Worksheet.Dependency
