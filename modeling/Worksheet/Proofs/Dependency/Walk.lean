import Mathlib.Logic.Relation
import Worksheet.Dependency.Order
import Worksheet.Proofs.Dependency.Edges

/-! # What the walk finds

    The depth-first walk along the dependents of a cell either meets its start
    again, and then the start lies on a cycle, or it lists everything that
    depends on the start, each cell once and in front of its dependents.

    The argument is one invariant, `Walking`, that every step of the walk
    keeps.  It speaks about the list of all cells entered so far: those on the
    stack from the first to the latest, followed by those listed.  Ending a
    visit leaves this list as it is, so only entering a cell has to be
    considered there. -/

namespace Worksheet.Dependency

open Relation

/-- Each cell stands in front of its dependents, unless they lead back to it. -/
def DependentsLater (edge : String → String → Prop) (order : List String) : Prop :=
  ∀ before c after, order = before ++ c :: after →
    ∀ d, edge c d → d ∈ after ∨ ReflTransGen edge d c

/-- `order` is `start` and everything that depends on it, in order. -/
structure IsOrder (edge : String → String → Prop) (start : String) (order : List String) :
    Prop where
  head : order.head? = some start
  nodup : order.Nodup
  mem_iff : ∀ c, c ∈ order ↔ ReflTransGen edge start c
  later : DependentsLater edge order

/-- In an order without cycles each cell stands in front of its dependents. -/
theorem IsOrder.mem_after {edge : String → String → Prop} {start : String} {order : List String}
    (horder : IsOrder edge start order) (hacyclic : ∀ c, ¬ TransGen edge c c)
    {before after : List String} {c d : String} (hsplit : order = before ++ c :: after)
    (hcd : edge c d) : d ∈ after := by
  rcases horder.later before c after hsplit d hcd with hafter | hback
  · exact hafter
  · exact absurd (TransGen.head' hcd hback) (hacyclic c)

namespace Graph

/-- `t` depends directly on `s`. -/
def Edge (g : Graph) (s t : String) : Prop :=
  t ∈ g.dependents s

/-! ### The invariant -/

/-- The cells entered so far. -/
def entered (listed : List String) (stack : List Visit) : List String :=
  (stack.map Visit.cell).reverse ++ listed

theorem mem_entered {listed : List String} {stack : List Visit} {c : String} :
    c ∈ entered listed stack ↔ c ∈ stack.map Visit.cell ∨ c ∈ listed := by
  simp [entered]

/-- Ending a visit does not change what has been entered. -/
theorem entered_cons (listed : List String) (v : Visit) (stack : List Visit) :
    entered listed (v :: stack) = entered (v.cell :: listed) stack := by
  simp [entered]

/-- What holds while the walk is on its way. -/
structure Walking (g : Graph) (start : String) (fresh : Adjacency) (listed : List String)
    (stack : List Visit) : Prop where
  nodup : (entered listed stack).Nodup
  head : (entered listed stack).head? = some start
  fresh_iff : ∀ c, c ∈ fresh ↔ c ∈ g.backward ∧ c ∉ entered listed stack
  reached : ∀ c ∈ entered listed stack, ReflTransGen g.Edge start c
  /-- The stack is a path: every visit leads to those above it. -/
  path : stack.Pairwise fun upper lower => ReflTransGen g.Edge lower.cell upper.cell
  pending : ∀ v ∈ stack, ∀ d ∈ v.pending, g.Edge v.cell d
  looked_at : ∀ v ∈ stack, ∀ d, g.Edge v.cell d →
    d ∈ v.pending ∨ (d ∈ entered listed stack ∧ d ≠ start)
  closed : ∀ c ∈ listed, ∀ d, g.Edge c d → d ∈ entered listed stack ∧ d ≠ start
  later : DependentsLater g.Edge listed

variable {g : Graph} {start cell next : String} {fresh : Adjacency} {listed pending : List String}
  {stack : List Visit}

theorem walking_start (g : Graph) (start : String) :
    g.Walking start (g.backward.erase start) [] [g.visit start] where
  nodup := by simp [entered]
  head := by simp [entered, visit]
  fresh_iff c := by
    simp only [Std.ExtTreeMap.mem_erase, ne_eq, Std.compare_eq_iff_eq, mem_entered, visit]
    simp [and_comm, eq_comm]
  reached c hc := by
    have heq : c = start := by simpa [mem_entered, visit] using hc
    rw [heq]
  path := by simp
  pending v hv d hd := by
    have heq : v = g.visit start := by simpa using hv
    subst heq
    exact Std.ExtTreeSet.mem_toList.mp hd
  looked_at v hv d hd := by
    have heq : v = g.visit start := by simpa using hv
    subst heq
    exact .inl (Std.ExtTreeSet.mem_toList.mpr hd)
  closed := by simp
  later := by
    intro before c after h
    simp at h

/-- Ending a visit whose dependents have all been looked at. -/
theorem Walking.leave (h : g.Walking start fresh listed (⟨cell, []⟩ :: stack)) :
    g.Walking start fresh (cell :: listed) stack := by
  have hsame := entered_cons listed ⟨cell, []⟩ stack
  -- All dependents of the cell have been entered.
  have hcell : ∀ d, g.Edge cell d → d ∈ entered (cell :: listed) stack ∧ d ≠ start := by
    intro d hd
    have := h.looked_at ⟨cell, []⟩ (by simp) d hd
    simpa [hsame] using this
  refine ⟨hsame ▸ h.nodup, hsame ▸ h.head, ?_, hsame ▸ h.reached, h.path.of_cons, ?_, ?_, ?_, ?_⟩
  · intro c
    rw [h.fresh_iff, hsame]
  · exact fun v hv => h.pending v (List.mem_cons_of_mem _ hv)
  · intro v hv d hd
    rw [← hsame]
    exact h.looked_at v (List.mem_cons_of_mem _ hv) d hd
  · intro c hc d hd
    rcases List.mem_cons.mp hc with rfl | hc
    · exact hcell d hd
    · rw [← hsame]
      exact h.closed c hc d hd
  · intro before c after hsplit d hd
    rcases before with _ | ⟨b, before⟩
    · -- The cell just listed: its dependents are listed already or below it on the stack.
      obtain ⟨rfl, rfl⟩ := List.cons.inj hsplit
      rcases mem_entered.mp (hcell d hd).1 with hbelow | hlisted
      · obtain ⟨v, hv, rfl⟩ := List.mem_map.mp hbelow
        exact .inr (List.rel_of_pairwise_cons h.path hv)
      · rcases List.mem_cons.mp hlisted with rfl | hafter
        · exact .inr .refl
        · exact .inl hafter
    · exact h.later before c after (List.cons.inj hsplit).2 d hd

/-- Passing over a dependent that has been entered before. -/
theorem Walking.skip (h : g.Walking start fresh listed (⟨cell, next :: pending⟩ :: stack))
    (hstart : next ≠ start) (hentered : next ∈ entered listed (⟨cell, pending⟩ :: stack)) :
    g.Walking start fresh listed (⟨cell, pending⟩ :: stack) := by
  refine ⟨h.nodup, h.head, h.fresh_iff, h.reached, ?_, ?_, ?_, h.closed, h.later⟩
  · exact List.pairwise_cons.mpr (List.pairwise_cons.mp h.path)
  · intro v hv d hd
    rcases List.mem_cons.mp hv with rfl | hv
    · exact h.pending ⟨cell, next :: pending⟩ (by simp) d (List.mem_cons_of_mem _ hd)
    · exact h.pending v (List.mem_cons_of_mem _ hv) d hd
  · intro v hv d hd
    rcases List.mem_cons.mp hv with rfl | hv
    · rcases h.looked_at ⟨cell, next :: pending⟩ (by simp) d hd with hpending | hdone
      · rcases List.mem_cons.mp hpending with rfl | hpending
        · exact .inr ⟨hentered, hstart⟩
        · exact .inl hpending
      · exact .inr hdone
    · exact h.looked_at v (List.mem_cons_of_mem _ hv) d hd

/-- Entering a dependent for the first time. -/
theorem Walking.enter (h : g.Walking start fresh listed (⟨cell, next :: pending⟩ :: stack))
    (hstart : next ≠ start) (hfresh : next ∈ fresh) :
    g.Walking start (fresh.erase next) listed (g.visit next :: ⟨cell, pending⟩ :: stack) := by
  have hnew : next ∉ entered listed (⟨cell, pending⟩ :: stack) := ((h.fresh_iff next).mp hfresh).2
  have hedge : g.Edge cell next := h.pending ⟨cell, next :: pending⟩ (by simp) next (by simp)
  have hmem : ∀ c, c ∈ entered listed (g.visit next :: ⟨cell, pending⟩ :: stack) ↔
      c = next ∨ c ∈ entered listed (⟨cell, next :: pending⟩ :: stack) := by
    intro c
    simp only [mem_entered, visit, List.map_cons, List.mem_cons]
    grind
  refine ⟨?_, ?_, ?_, ?_, ?_, ?_, ?_, ?_, h.later⟩
  · have hperm : (next :: entered listed (⟨cell, pending⟩ :: stack)).Nodup :=
      List.nodup_cons.mpr ⟨hnew, h.nodup⟩
    rw [entered_cons]
    exact List.nodup_middle.mpr hperm
  · have := h.head
    simp only [entered, List.map_cons, List.reverse_cons] at this ⊢
    simpa using this
  · intro c
    rw [Std.ExtTreeMap.mem_erase, h.fresh_iff, hmem]
    simp only [ne_eq, Std.compare_eq_iff_eq]
    grind
  · intro c hc
    rcases (hmem c).mp hc with rfl | hc
    · exact (h.reached cell (by simp [mem_entered])).tail hedge
    · exact h.reached c hc
  · refine List.pairwise_cons.mpr ⟨?_, List.pairwise_cons.mpr (List.pairwise_cons.mp h.path)⟩
    intro lower hlower
    rcases List.mem_cons.mp hlower with rfl | hlower
    · exact .single hedge
    · exact (List.rel_of_pairwise_cons h.path hlower).tail hedge
  · intro v hv d hd
    rcases List.mem_cons.mp hv with rfl | hv
    · exact Std.ExtTreeSet.mem_toList.mp hd
    · rcases List.mem_cons.mp hv with rfl | hv
      · exact h.pending ⟨cell, next :: pending⟩ (by simp) d (List.mem_cons_of_mem _ hd)
      · exact h.pending v (List.mem_cons_of_mem _ hv) d hd
  · intro v hv d hd
    rw [hmem]
    rcases List.mem_cons.mp hv with rfl | hv
    · exact .inl (Std.ExtTreeSet.mem_toList.mpr hd)
    · rcases List.mem_cons.mp hv with rfl | hv
      · rcases h.looked_at ⟨cell, next :: pending⟩ (by simp) d hd with hpending | hdone
        · rcases List.mem_cons.mp hpending with rfl | hpending
          · exact .inr ⟨.inl rfl, hstart⟩
          · exact .inl hpending
        · exact .inr ⟨.inr hdone.1, hdone.2⟩
      · have := h.looked_at v (List.mem_cons_of_mem _ hv) d hd
        grind
  · intro c hc d hd
    rw [hmem]
    exact ⟨.inr (h.closed c hc d hd).1, (h.closed c hc d hd).2⟩

/-- A dependent that is not fresh has been entered, since it has an entry of its own. -/
theorem Walking.mem_entered_of_notMem (h : g.Walking start fresh listed
      (⟨cell, next :: pending⟩ :: stack))
    (hentries : ∀ s t, g.Edge s t → t ∈ g.backward) (hfresh : next ∉ fresh) :
    next ∈ entered listed (⟨cell, pending⟩ :: stack) := by
  have hedge : g.Edge cell next := h.pending ⟨cell, next :: pending⟩ (by simp) next (by simp)
  by_contra hout
  exact hfresh ((h.fresh_iff next).mpr ⟨hentries cell next hedge, hout⟩)

/-! ### The outcome -/

/-- The walk ends with everything entered listed, or with a way back to its start. -/
theorem Walking.outcome (hentries : ∀ s t, g.Edge s t → t ∈ g.backward)
    (h : g.Walking start fresh listed stack) :
    (∃ order fresh', g.walk start fresh listed stack = .ok order ∧
      g.Walking start fresh' order []) ∨
    (∃ c, g.walk start fresh listed stack = .error ⟨c⟩ ∧ ReflTransGen g.Edge start c ∧
      g.Edge c start) := by
  fun_induction walk g start fresh listed stack with
  | case1 fresh listed => exact .inl ⟨listed, fresh, rfl, h⟩
  | case2 fresh listed cell stack ih => exact ih h.leave
  | case3 fresh listed cell pending stack =>
    refine .inr ⟨cell, rfl, h.reached cell (by simp [mem_entered]), ?_⟩
    exact h.pending ⟨cell, start :: pending⟩ (by simp) start (by simp)
  | case4 fresh listed cell next pending stack hstart hfresh ih =>
    exact ih (h.enter hstart hfresh)
  | case5 fresh listed cell next pending stack hstart hfresh ih =>
    exact ih (h.skip hstart (h.mem_entered_of_notMem hentries hfresh))

/-- When the stack is empty, what is listed is closed under dependents. -/
theorem Walking.mem_iff_of_done {order : List String} (h : g.Walking start fresh order [])
    (c : String) : c ∈ order ↔ ReflTransGen g.Edge start c := by
  constructor
  · intro hc
    exact h.reached c (by simpa [mem_entered] using hc)
  · intro hc
    induction hc with
    | refl => exact List.mem_of_mem_head? (by simpa [entered] using h.head)
    | tail _ hedge ih => simpa [mem_entered] using (h.closed _ ih _ hedge).1

theorem Walking.isOrder {order : List String} (h : g.Walking start fresh order []) :
    IsOrder g.Edge start order where
  head := by simpa [entered] using h.head
  nodup := by simpa [entered] using h.nodup
  mem_iff := h.mem_iff_of_done
  later := h.later

/-- A walk that comes to its end has met no way back to its start. -/
theorem Walking.no_cycle {order : List String} (h : g.Walking start fresh order []) :
    ¬ TransGen g.Edge start start := by
  intro hcycle
  obtain ⟨c, hc, hedge⟩ := TransGen.tail'_iff.mp hcycle
  exact (h.closed c ((h.mem_iff_of_done c).mpr hc) start hedge).2 rfl

/-- **The order of recalculation**: either the start is on no cycle and the
    walk lists it with everything that depends on it, in order, or the walk
    names a cell on the way from the start back to it. -/
theorem recalculationOrder_spec {edges : Finset (String × String)} (hg : g.Represents edges)
    (start : String) :
    (∃ order, g.recalculationOrder start = .ok order ∧ IsOrder g.Edge start order ∧
      ¬ TransGen g.Edge start start) ∨
    (∃ c, g.recalculationOrder start = .error ⟨c⟩ ∧ ReflTransGen g.Edge start c ∧
      g.Edge c start) := by
  have hentries : ∀ s t, g.Edge s t → t ∈ g.backward := fun _ _ hst => hg.mem_backward hst
  rcases (walking_start g start).outcome hentries with ⟨order, fresh', hwalk, hdone⟩ | herror
  · exact .inl ⟨order, hwalk, hdone.isOrder, hdone.no_cycle⟩
  · exact .inr herror

end Graph

end Worksheet.Dependency
