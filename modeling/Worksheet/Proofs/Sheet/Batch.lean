import Mathlib.Data.Finset.Card
import Worksheet.Proofs.Sheet.History

/-! # Evaluating a sheet from scratch

    A sheet keeps its values current edit by edit.  The alternative is to throw
    all values away and to evaluate the contents once, in an order in which
    every formula comes after the stored cells it refers to.  Such an order
    always exists, and each of them gives the values that the sheet holds.  So
    the values, and the edges with them, are determined by the contents: it
    does not matter which history led to them. -/

namespace Worksheet.Sheet

open Relation Dependency

/-! ### The evaluation -/

/-- Evaluates the content held under `name` over the cells evaluated before. -/
def evaluateNext (held : Std.ExtTreeMap String Content) (cells : Std.ExtTreeMap String Cell)
    (name : String) : Std.ExtTreeMap String Cell :=
  match held[name]? with
  | some content => cells.insert name (.ofContent (lookup cells) content)
  | none => cells

/-- Evaluates the contents one after the other, beginning without any values. -/
def evaluateAll (held : Std.ExtTreeMap String Content) (order : List String) :
    Std.ExtTreeMap String Cell :=
  order.foldl (evaluateNext held) ∅

/-- `order` names every stored cell once, each after the stored cells that it
    refers to. -/
structure BatchOrder (held : Std.ExtTreeMap String Content) (order : List String) : Prop where
  nodup : order.Nodup
  mem_iff : ∀ name, name ∈ order ↔ name ∈ held
  referenced_before : ∀ before name rest, order = before ++ name :: rest →
    ∀ v, Refers held v name → v ∈ held → v ∈ before

variable {cells : Std.ExtTreeMap String Cell} {held : Std.ExtTreeMap String Content}
  {order : List String}

theorem mem_contents {name : String} : name ∈ contents cells ↔ name ∈ cells :=
  Std.ExtTreeMap.mem_map

/-- Over the cells evaluated so far a content has the value that the sheet holds. -/
theorem ofContent_eq_of_referenced {batch : Std.ExtTreeMap String Cell} {name : String}
    {cell : Cell} (hcurrent : Current cells) (hcell : cells[name]? = some cell)
    (hreferenced : ∀ v, Refers (contents cells) v name → batch[v]? = cells[v]?) :
    Cell.ofContent (lookup batch) cell.content = cell := by
  have hvalue : cell.content.evaluate (lookup batch) = cell.value := by
    rw [hcurrent name cell hcell]
    apply Content.evaluate_congr
    intro v hv
    apply lookup_congr
    exact hreferenced v ((refers_iff _ v name).mpr ⟨cell.content, by simp [hcell], hv⟩)
  simp only [Cell.ofContent, hvalue]

/-- The cells evaluated so far are those of the sheet, whatever is still to come. -/
theorem foldl_evaluateNext (hcurrent : Current cells) (horder : BatchOrder (contents cells) order)
    (rest : List String) : ∀ (done : List String) (batch : Std.ExtTreeMap String Cell),
      order = done ++ rest → (∀ c : String, batch[c]? = if c ∈ done then cells[c]? else none) →
      rest.foldl (evaluateNext (contents cells)) batch = cells := by
  induction rest with
  | nil =>
    intro done batch hsplit hbatch
    apply Std.ExtTreeMap.ext_getElem?
    intro c
    rw [List.foldl_nil, hbatch]
    split
    · rfl
    · next hout =>
      have hnone : c ∉ cells := by
        rw [← mem_contents, ← horder.mem_iff, hsplit, List.append_nil]
        exact hout
      exact (Std.ExtTreeMap.getElem?_eq_none hnone).symm
  | cons name rest ih =>
    intro done batch hsplit hbatch
    have hstored : name ∈ cells := by
      rw [← mem_contents, ← horder.mem_iff, hsplit]
      simp
    obtain ⟨cell, hcell⟩ := Option.isSome_iff_exists.mp
      (Std.ExtTreeMap.isSome_getElem?_iff_mem.mpr hstored)
    have hreferenced : ∀ v, Refers (contents cells) v name → batch[v]? = cells[v]? := by
      intro v hv
      -- A name without a cell has none on either side.
      by_cases hin : v ∈ cells
      · have hdone := horder.referenced_before done name rest hsplit v hv (mem_contents.mpr hin)
        rw [hbatch, if_pos hdone]
      · rw [hbatch, Std.ExtTreeMap.getElem?_eq_none hin, ite_self]
    have hnext : evaluateNext (contents cells) batch name = batch.insert name cell := by
      simp only [evaluateNext, getElem?_contents, hcell, Option.map_some,
        ofContent_eq_of_referenced hcurrent hcell hreferenced]
    rw [List.foldl_cons, hnext]
    refine ih (done ++ [name]) _ (by rw [hsplit]; simp) ?_
    intro c
    rw [Std.ExtTreeMap.getElem?_insert, hbatch]
    by_cases hc : name = c
    · rw [if_pos (Std.compare_eq_iff_eq.mpr hc), if_pos (by simp [hc]), ← hc, hcell]
    · rw [if_neg (by simpa using hc)]
      simp [Ne.symm hc]

/-- Evaluating current cells from scratch gives the same cells, in every order. -/
theorem evaluateAll_contents (hcurrent : Current cells)
    (horder : BatchOrder (contents cells) order) : evaluateAll (contents cells) order = cells :=
  foldl_evaluateNext hcurrent horder order [] ∅ rfl (by simp)

/-! ### There is an order -/

open Classical in
/-- On how many stored cells the cell `c` depends. -/
noncomputable def rank (held : Std.ExtTreeMap String Content) (c : String) : Nat :=
  (held.keys.toFinset.filter fun k => TransGen (Refers held) k c).card

/-- A stored cell has a lower rank than the cells that refer to it. -/
theorem rank_lt_rank (hacyclic : ∀ c, ¬ TransGen (Refers held) c c) {v c : String}
    (hv : v ∈ held) (hr : Refers held v c) : rank held v < rank held c := by
  classical
  apply Finset.card_lt_card
  refine Finset.ssubset_iff_subset_ne.mpr ⟨?_, ?_⟩
  · intro k hk
    simp only [Finset.mem_filter] at hk ⊢
    exact ⟨hk.1, hk.2.tail hr⟩
  · intro heq
    have hin : v ∈ held.keys.toFinset.filter fun k => TransGen (Refers held) k c := by
      simp only [Finset.mem_filter, List.mem_toFinset, Std.ExtTreeMap.mem_keys]
      exact ⟨hv, .single hr⟩
    rw [← heq] at hin
    exact hacyclic v (Finset.mem_filter.mp hin).2

/-- Without cycles the stored cells, sorted by rank, are in order. -/
theorem exists_batchOrder (hacyclic : ∀ c, ¬ TransGen (Refers held) c c) :
    ∃ order, BatchOrder held order := by
  have htrans : ∀ a b c, decide (rank held a ≤ rank held b) = true →
      decide (rank held b ≤ rank held c) = true → decide (rank held a ≤ rank held c) = true := by
    simp only [decide_eq_true_eq]
    omega
  have htotal : ∀ a b,
      (decide (rank held a ≤ rank held b) || decide (rank held b ≤ rank held a)) = true := by
    simp only [Bool.or_eq_true, decide_eq_true_eq]
    omega
  have hsorted := List.pairwise_mergeSort htrans htotal held.keys
  have hperm := List.mergeSort_perm held.keys fun a b => decide (rank held a ≤ rank held b)
  refine ⟨_, hperm.nodup_iff.mpr Std.ExtTreeMap.nodup_keys, ?_, ?_⟩
  · intro name
    rw [hperm.mem_iff, Std.ExtTreeMap.mem_keys]
  · intro before name rest hsplit v hr hv
    have hlt := rank_lt_rank hacyclic hv hr
    have hmem : v ∈ before ++ name :: rest := by
      rw [← hsplit, hperm.mem_iff, Std.ExtTreeMap.mem_keys]
      exact hv
    -- At `name` or behind it the rank is not lower.
    rw [hsplit] at hsorted
    have hrest : ∀ w ∈ rest, rank held name ≤ rank held w := by
      intro w hw
      have hpairs := (List.pairwise_append.mp hsorted).2.1
      exact of_decide_eq_true (List.rel_of_pairwise_cons hpairs hw)
    rcases List.mem_append.mp hmem with hbefore | hafter
    · exact hbefore
    · rcases List.mem_cons.mp hafter with rfl | hafter
      · omega
      · have := hrest v hafter
        omega

/-! ### The history does not matter -/

/-- Coherent sheets that hold the same contents have the same cells. -/
theorem Coherent.cells_eq {s t : Sheet} (hs : s.Coherent) (ht : t.Coherent)
    (hheld : contents t.cells = contents s.cells) : t.cells = s.cells := by
  -- One order serves both sheets, since it depends on the contents alone.
  obtain ⟨order, horder⟩ := exists_batchOrder hs.acyclic
  have hscratch := evaluateAll_contents hs.current horder
  rw [← hheld] at horder hscratch
  rw [← evaluateAll_contents ht.current horder, hscratch]

/-- Coherent sheets that hold the same contents have the same graph. -/
theorem Coherent.graph_eq {s t : Sheet} (hs : s.Coherent) (ht : t.Coherent)
    (hheld : contents t.cells = contents s.cells) : t.graph = s.graph := by
  obtain ⟨edges, hrepresents, hedges⟩ := hs.graph
  obtain ⟨edges', hrepresents', hedges'⟩ := ht.graph
  have hsame : edges' = edges := by
    ext ⟨v, c⟩
    rw [hedges, hedges', hheld]
  rw [hsame] at hrepresents'
  exact hrepresents'.unique hrepresents

/-- **Incremental is from scratch**: after any history the contents can be
    evaluated from scratch, every order gives the cells that the sheet holds,
    and every other history that leaves the same contents leaves the same cells
    and the same graph. -/
theorem after_eq_evaluateAll (rules : NameRules) (version : String) (history : List Operation) :
    let s := (new rules version).after history
    (∃ order, BatchOrder (contents s.cells) order) ∧
    (∀ order, BatchOrder (contents s.cells) order →
      evaluateAll (contents s.cells) order = s.cells) ∧
    (∀ version' history', let t := (new rules version').after history'
      contents t.cells = contents s.cells → t.cells = s.cells ∧ t.graph = s.graph) := by
  intro s
  have hs : s.Coherent := coherent_after rules version history
  refine ⟨exists_batchOrder hs.acyclic, fun order horder => ?_, ?_⟩
  · exact evaluateAll_contents hs.current horder
  · intro version' history' t hheld
    have ht : t.Coherent := coherent_after rules version' history'
    exact ⟨hs.cells_eq ht hheld, hs.graph_eq ht hheld⟩

end Worksheet.Sheet
