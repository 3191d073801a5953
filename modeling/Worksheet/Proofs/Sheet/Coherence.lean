import Worksheet.Proofs.Dependency.Walk
import Worksheet.Proofs.Sheet.Contents
import Worksheet.Sheet.File

/-! # Coherent sheets

    A sheet is coherent if its graph has exactly the references of its
    formulas as edges, no cell depends on itself, its names are legal, no cell
    is stored empty, and all values are current.  The empty sheet is coherent,
    and committing a content keeps a sheet coherent, whether it is accepted or
    refused.

    An edit is checked for cycles through the edited cell only.  That is enough:
    the edit changes no reference of any other cell, so a new cycle has to pass
    through the edited one. -/

namespace Worksheet.Sheet

open Relation Dependency

/-- The store and the graph belong together. -/
structure Coherent (s : Sheet) : Prop where
  graph : ∃ edges, s.graph.Represents edges ∧
    ∀ v c, (v, c) ∈ edges ↔ Refers (contents s.cells) v c
  acyclic : ∀ c, ¬ TransGen (Refers (contents s.cells)) c c
  legal : ∀ name ∈ s.cells, isLegal s.rules name = true
  filled : ∀ (name : String) (cell : Cell), s.cells[name]? = some cell →
    cell.content.isEmpty = false
  current : Current s.cells

variable {s t : Sheet}

/-- Coherence is about rules, cells and graph only. -/
theorem Coherent.congr (h : s.Coherent) (hrules : t.rules = s.rules) (hcells : t.cells = s.cells)
    (hgraph : t.graph = s.graph) : t.Coherent where
  graph := by rw [hcells, hgraph]; exact h.graph
  acyclic := by rw [hcells]; exact h.acyclic
  legal := by rw [hrules, hcells]; exact h.legal
  filled := by rw [hcells]; exact h.filled
  current := by rw [hcells]; exact h.current

theorem coherent_new (rules : NameRules) (version : String) : (new rules version).Coherent where
  graph := ⟨∅, Graph.represents_empty, by simp [new, Refers]⟩
  acyclic c hcycle := by
    obtain ⟨v, _, hedge⟩ := TransGen.tail'_iff.mp hcycle
    simp [new, Refers] at hedge
  legal := by simp [new]
  filled := by simp [new]
  current := by simp [new, Current]

/-- In a coherent sheet the edges of the graph are the references. -/
theorem edge_eq_refers {g : Graph} {edges : Finset (String × String)}
    {held : Std.ExtTreeMap String Content} (hg : g.Represents edges)
    (hedges : ∀ v c, (v, c) ∈ edges ↔ Refers held v c) : g.Edge = Refers held := by
  funext v c
  exact propext ((hg.mem_dependents v c).trans (hedges v c))

/-! ### Cycles -/

/-- A path either avoids the edges into `name` or passes through `name`. -/
theorem transGen_avoids_or_passes {R R' : String → String → Prop} {name : String}
    (hsame : ∀ v c, c ≠ name → R' v c → R v c) {a b : String} (h : TransGen R' a b) :
    TransGen R a b ∨ (ReflTransGen R' a name ∧ ReflTransGen R' name b) := by
  induction h with
  | @single b hab =>
    by_cases hb : b = name
    · subst hb
      exact .inr ⟨.single hab, .refl⟩
    · exact .inl (.single (hsame a b hb hab))
  | @tail b c hpath hbc ih =>
    by_cases hc : c = name
    · subst hc
      exact .inr ⟨(hpath.tail hbc).to_reflTransGen, .refl⟩
    · rcases ih with havoid | ⟨hto, hfrom⟩
      · exact .inl (havoid.tail (hsame b c hc hbc))
      · exact .inr ⟨hto, hfrom.tail hbc⟩

/-- A new content makes a cycle only through the cell that gets it. -/
theorem acyclic_put {held : Std.ExtTreeMap String Content} {name : String} {content : Content}
    (h : ∀ c, ¬ TransGen (Refers held) c c)
    (hname : ¬ TransGen (Refers (put held name content)) name name) (c : String) :
    ¬ TransGen (Refers (put held name content)) c c := by
  intro hcycle
  have hsame : ∀ v d, d ≠ name → Refers (put held name content) v d → Refers held v d := by
    intro v d hd hr
    rcases (refers_put held name content v d).mp hr with ⟨-, hr⟩ | ⟨heq, -⟩
    · exact hr
    · exact absurd heq hd
  -- A cycle that avoids `name` was there before; any other can be turned to start at `name`.
  rcases transGen_avoids_or_passes hsame hcycle with havoid | ⟨hto, hfrom⟩
  · exact h c havoid
  · exact hname ((hcycle.trans_right hfrom).trans_left hto)

/-! ### Committing a content -/

/-- The graph after the references of `name` have been replaced. -/
theorem Coherent.replaceDependees (h : s.Coherent) (name : String) (content : Content) :
    ∃ edges, (s.graph.replaceDependees name content.references.toList).Represents edges ∧
      ∀ v c, (v, c) ∈ edges ↔ Refers (put (contents s.cells) name content) v c := by
  obtain ⟨edges, hrepresents, hedges⟩ := h.graph
  have hafter := hrepresents.replaceDependees name content.references.toList
  refine ⟨_, hafter, ?_⟩
  intro v c
  rw [← hafter.mem_dependents, hrepresents.mem_dependents_replaceDependees,
    hrepresents.mem_dependents, hedges, Std.ExtTreeSet.mem_toList, refers_put]

/-- **What committing does.**  Either the new content leads back to its cell, and
    the sheet stays as it is, or the edited cell is placed and everything that
    depends on it is evaluated again, in order. -/
theorem Coherent.commit_cases (h : s.Coherent) (name : String) (content : Content) :
    (TransGen (Refers (put (contents s.cells) name content)) name name ∧
      s.commit name content = ⟨s, .error (.circular name)⟩) ∨
    (¬ TransGen (Refers (put (contents s.cells) name content)) name name ∧
      ∃ order, IsOrder (Refers (put (contents s.cells) name content)) name order ∧
        s.commit name content =
          ⟨{ s with
              cells := (order.drop 1).foldl recalculate (place s.cells name content)
              graph := s.graph.replaceDependees name content.references.toList
              modified := true }, .ok (.ofList order)⟩) := by
  obtain ⟨edges, hrepresents, hedges⟩ := h.replaceDependees name content
  have hedge := edge_eq_refers hrepresents hedges
  rcases Graph.recalculationOrder_spec hrepresents name with
    ⟨order, hwalk, horder, hcycle⟩ | ⟨c, hwalk, hreach, hback⟩
  · rw [hedge] at horder hcycle
    exact .inr ⟨hcycle, order, horder, by simp only [commit, hwalk]⟩
  · rw [hedge] at hreach hback
    -- The former references are put back, which gives the very graph of before.
    obtain ⟨_, hformer, -⟩ := h.graph
    refine .inl ⟨TransGen.tail' hreach hback, ?_⟩
    simp only [commit, hwalk, hformer.replaceDependees_former]

/-- Evaluating the dependents of the edited cell, in order, makes all values current. -/
theorem current_commit {cells : Std.ExtTreeMap String Cell} {name : String} {content : Content}
    {order : List String} (hcurrent : Current cells)
    (hacyclic : ∀ c, ¬ TransGen (Refers (put (contents cells) name content)) c c)
    (horder : IsOrder (Refers (put (contents cells) name content)) name order) :
    Current ((order.drop 1).foldl recalculate (place cells name content)) := by
  obtain ⟨rest, rfl⟩ : ∃ rest, order = name :: rest := List.head?_eq_some_iff.mp horder.head
  -- No formula reads its own cell, so evaluating it keeps its own value current.
  have hself : ∀ c, ¬ Refers (put (contents cells) name content) c c :=
    fun c hc => hacyclic c (.single hc)
  have hlater : ∀ before c after, rest = before ++ c :: after →
      ∀ d, Refers (put (contents cells) name content) c d → d ∈ after := by
    intro before c after hsplit d hd
    have hwhole : name :: rest = (name :: before) ++ c :: after := by
      rw [hsplit, List.cons_append]
    exact horder.mem_after hacyclic hwhole hd
  have hfirst : name :: rest = [] ++ name :: rest := rfl
  refine (hcurrent.place (hself name) ?_).foldl_recalculate ?_ ?_
  · exact fun c hc => horder.mem_after hacyclic hfirst hc
  · intro c _
    rw [contents_place]
    exact hself c
  · rw [contents_place]
    exact hlater

theorem Coherent.commit (h : s.Coherent) {name : String} (hlegal : isLegal s.rules name = true)
    (content : Content) : (s.commit name content).sheet.Coherent := by
  rcases h.commit_cases name content with ⟨-, heq⟩ | ⟨hcycle, order, horder, heq⟩
  · rw [heq]
    exact h
  · have hacyclic := acyclic_put h.acyclic hcycle
    have hheld : contents ((order.drop 1).foldl recalculate (place s.cells name content)) =
        put (contents s.cells) name content := by
      rw [contents_foldl_recalculate, contents_place]
    -- Every cell stored now is the edited one or was stored with the same content.
    have hstored : ∀ (c : String) (cell : Cell),
        ((order.drop 1).foldl recalculate (place s.cells name content))[c]? = some cell →
          (c = name ∧ cell.content.isEmpty = false) ∨
            ∃ former, s.cells[c]? = some former ∧ former.content = cell.content := by
      intro c cell hcell
      have hput : (put (contents s.cells) name content)[c]? = some cell.content := by
        rw [← hheld, getElem?_contents, hcell, Option.map_some]
      have hwas := held_of_put hput
      rwa [getElem?_contents, Option.map_eq_some_iff] at hwas
    rw [heq]
    refine ⟨?_, ?_, ?_, ?_, current_commit h.current hacyclic horder⟩
    · rw [hheld]
      exact h.replaceDependees name content
    · rw [hheld]
      exact hacyclic
    · intro c hc
      obtain ⟨cell, hcell⟩ :=
        Option.isSome_iff_exists.mp (Std.ExtTreeMap.isSome_getElem?_iff_mem.mpr hc)
      rcases hstored c cell hcell with ⟨rfl, -⟩ | ⟨former, hformer, -⟩
      · exact hlegal
      · exact h.legal c (Std.ExtTreeMap.isSome_getElem?_iff_mem.mp (by simp [hformer]))
    · intro c cell hcell
      rcases hstored c cell hcell with ⟨-, hfilled⟩ | ⟨former, hformer, hsame⟩
      · exact hfilled
      · rw [← hsame]
        exact h.filled c former hformer

end Worksheet.Sheet
