import Worksheet.Proofs.Sheet.Closure
import Worksheet.Proofs.Sheet.Reopening

/-! # Undoing an edit

    What a cell held before an edit can be entered again, and then the sheet is
    what it was, values and edges included.  The contents that the second edit
    leads to are those of the sheet before the first one.  They are free of
    cycles, so the edit is accepted, and they determine values and edges.  Both
    edits evaluate the cells that depend on the edited one, and these are the
    same before and after an edit. -/

namespace Worksheet.Sheet

open Relation

variable {s t : Sheet} {cell : String}

/-! ### Contents -/

/-- Of two contents put one after the other the second remains. -/
theorem put_put (held : Std.ExtTreeMap String Content) (name : String) (first second : Content) :
    put (put held name first) name second = put held name second := by
  apply Std.ExtTreeMap.ext_getElem?
  intro c
  simp only [getElem?_put]
  split <;> rfl

/-- Putting what is held already changes nothing. -/
theorem put_eq_self {held : Std.ExtTreeMap String Content} {name : String} {content : Content}
    (h : held[name]? = stored content) : put held name content = held := by
  apply Std.ExtTreeMap.ext_getElem?
  intro c
  rw [getElem?_put]
  split
  · next hc => rw [hc, h, stored]
  · rfl

/-- What is read under a legal name: the content held there, or the empty one. -/
theorem contentOf_eq {name : String} (hlegal : isLegal s.rules (s.rules.normalize name) = true) :
    s.contentOf name = .ok ((contents s.cells)[s.rules.normalize name]?.getD .empty) := by
  rw [contentOf, legalName_of_isLegal hlegal, getElem?_contents]
  simp only [bind, Except.bind]
  cases s.cells[s.rules.normalize name]? <;> rfl

/-- What is read can be entered again, and is what the cell is seen to hold. -/
theorem Coherent.exists_contentOf (h : s.Coherent) (hentered : s.Entered)
    (hnormal : ∀ name, s.rules.normalize (s.rules.normalize name) = s.rules.normalize name)
    {name : String} (hlegal : isLegal s.rules (s.rules.normalize name) = true) :
    ∃ former, s.contentOf name = .ok former ∧ Content.ofInput s.rules former.input = .ok former ∧
      (contents s.cells)[s.rules.normalize name]? = stored former := by
  refine ⟨_, contentOf_eq hlegal, ?_⟩
  rw [getElem?_contents]
  cases hcell : s.cells[s.rules.normalize name]? with
  | none => exact ⟨rfl, rfl⟩
  | some found =>
    obtain ⟨-, input, hinput⟩ := hentered _ found hcell
    have hfilled := h.filled _ found hcell
    exact ⟨Content.ofInput_input hnormal hinput, by simp [stored, hfilled]⟩

/-! ### Edits with a known result -/

/-- An edit that leads to the contents of a coherent sheet is accepted, gives
    its cells and edges, and evaluates what depends on the edited cell there. -/
theorem Coherent.commit_of_contents (ht : t.Coherent) (hs : s.Coherent)
    (hlegal : isLegal t.rules cell = true) {content : Content}
    (hput : put (contents t.cells) cell content = contents s.cells) :
    ∃ evaluated, t.commit cell content =
        ⟨{ t with cells := s.cells, graph := s.graph, modified := true }, .ok evaluated⟩ ∧
      ∀ c, c ∈ evaluated ↔ c = cell ∨ TransGen (Refers (contents s.cells)) cell c := by
  have hcoherent := ht.commit hlegal content
  rcases ht.commit_cases cell content with ⟨hcycle, -⟩ | ⟨-, order, -, heq⟩
  · rw [hput] at hcycle
    exact absurd hcycle (hs.acyclic cell)
  · have hok : (t.commit cell content).result = .ok (.ofList order) := by rw [heq]
    -- Both sheets are coherent and hold the same, so they have the same values and edges.
    have hheld : contents (t.commit cell content).sheet.cells = contents s.cells := by
      rw [contents_commit hok, hput]
    have hcells := hs.cells_eq hcoherent hheld
    have hgraph := hs.graph_eq hcoherent hheld
    have hedit := ht.isEdit_commit hok
    rw [heq] at hcells hgraph
    refine ⟨.ofList order, ?_, fun c => ?_⟩
    · rw [heq, ← hcells, ← hgraph]
    · rw [hedit.mem_iff_after, hheld]

/-- Committing the former content undoes a commit and evaluates the same cells. -/
theorem Coherent.commit_former (h : s.Coherent) (hlegal : isLegal s.rules cell = true)
    {content former : Content} (hformer : (contents s.cells)[cell]? = stored former)
    {evaluated : Std.ExtTreeSet String} (hok : (s.commit cell content).result = .ok evaluated) :
    (s.commit cell content).sheet.commit cell former =
      ⟨{ s with modified := true }, .ok evaluated⟩ := by
  have hput : put (contents (s.commit cell content).sheet.cells) cell former =
      contents s.cells := by
    rw [contents_commit hok, put_put, put_eq_self hformer]
  obtain ⟨evaluated', hcommit, hmem⟩ := (h.commit hlegal content).commit_of_contents h
    (by rwa [rules_commit]) hput
  have hsame : evaluated' = evaluated := by
    apply Std.ExtTreeSet.ext_mem
    intro c
    rw [hmem, (h.isEdit_commit hok).mem_iff_before]
  rw [hcommit, hsame, rules_commit, version_commit, path_commit]

/-- **Undo**: if normal forms are left alone by the rules, then after any history
    an accepted edit is undone by entering what the cell held before, as it was
    read then.  This is always accepted, gives the cells and edges of before, and
    evaluates the same cells; only the mark for changes may be new.  In the same
    way nothing changes when a cell is given what it holds. -/
theorem enter_former_input (rules : NameRules) (version : String) (history : List Operation)
    (hnormal : ∀ name, rules.normalize (rules.normalize name) = rules.normalize name) :
    let s := (new rules version).after history
    (∀ name input evaluated, (s.enter name input).result = .ok evaluated →
      ∃ former, s.contentOf name = .ok former ∧
        (s.enter name input).sheet.enter name former.input =
          ⟨{ s with modified := true }, .ok evaluated⟩) ∧
    (∀ name, isLegal rules (rules.normalize name) = true →
      ∃ former evaluated, s.contentOf name = .ok former ∧
        s.enter name former.input = ⟨{ s with modified := true }, .ok evaluated⟩) := by
  intro s
  have h : s.Coherent := coherent_after rules version history
  have hentered : s.Entered := invariant_entered.after rules version history
  have hrules : s.rules = rules := rules_after _ history
  rw [← hrules] at hnormal ⊢
  constructor
  · intro name input evaluated hok
    obtain ⟨hlegal, content, hinput, heq⟩ := enter_eq_commit_of_ok hok
    obtain ⟨former, hcontent, hagain, hformer⟩ := h.exists_contentOf hentered hnormal hlegal
    rw [heq] at hok ⊢
    have hundo := h.commit_former hlegal hformer hok
    exact ⟨former, hcontent, (enter_eq_commit (rules_commit s _ content) hlegal hagain).trans hundo⟩
  · intro name hlegal
    obtain ⟨former, hcontent, hagain, hformer⟩ := h.exists_contentOf hentered hnormal hlegal
    obtain ⟨evaluated, hcommit, -⟩ := h.commit_of_contents h hlegal (put_eq_self hformer)
    refine ⟨former, evaluated, hcontent, ?_⟩
    rw [enter_eq_commit rfl hlegal hagain, hcommit]

/-- A text takes the place of a number that a formula refers to, and the number
    is entered again. -/
theorem enter_former_input_number :
    let s := (new .plain "1").after [.enter "B1" "=A1*2", .enter "A1" "3"]
    (∀ name, NameRules.plain.normalize (NameRules.plain.normalize name) =
      NameRules.plain.normalize name) ∧
    ∃ evaluated, (s.enter "A1" "two").result = .ok evaluated ∧
      s.contentOf "A1" = .ok (.number 3) ∧
      (s.enter "A1" "two").sheet.enter "A1" "3" = ⟨{ s with modified := true }, .ok evaluated⟩ := by
  intro s
  have hnormal : ∀ name, NameRules.plain.normalize (NameRules.plain.normalize name) =
      NameRules.plain.normalize name := fun _ => rfl
  have hlegal : isLegal .plain (NameRules.plain.normalize "A1") = true := by decide
  have hnumber : Content.ofInput .plain "3" = .ok (.number 3) := by decide +kernel
  have htext : Content.ofInput .plain "two" = .ok (.text "two") := by decide +kernel
  -- The number is accepted last, so it is what the cell holds.
  let before := (new .plain "1").after [.enter "B1" "=A1*2"]
  have hbefore : before.Coherent := coherent_after .plain "1" _
  have hrules : before.rules = .plain := rules_after _ _
  obtain ⟨_, haccepted⟩ : ∃ evaluated, (before.enter "A1" "3").result = .ok evaluated :=
    hbefore.enter_ok_of_plain hrules hlegal hnumber fun _ hf => nomatch hf
  have hheld : (contents s.cells)["A1"]? = some (.number 3) := by
    have hput := contents_enter hrules hlegal hnumber haccepted
    exact (congrArg (fun held => held["A1"]?) hput).trans (getElem?_put _ _ _ _)
  have h : s.Coherent := coherent_after .plain "1" _
  have hrules' : s.rules = .plain := rules_after _ _
  obtain ⟨evaluated, hok⟩ : ∃ evaluated, (s.enter "A1" "two").result = .ok evaluated :=
    h.enter_ok_of_plain hrules' hlegal htext fun _ hf => nomatch hf
  obtain ⟨former, hformer, hundo⟩ :=
    (enter_former_input .plain "1" [.enter "B1" "=A1*2", .enter "A1" "3"] hnormal).1 "A1" "two"
      evaluated hok
  have hcontent : s.contentOf "A1" = .ok (.number 3) := by
    rw [← hrules'] at hlegal
    rw [contentOf_eq hlegal, hrules']
    exact congrArg (fun held => Except.ok (held.getD .empty)) hheld
  have hsame : former = .number 3 := by
    rw [hcontent] at hformer
    exact (Except.ok.inj hformer).symm
  have hinput : (Content.number 3).input = "3" := by decide +kernel
  rw [hsame, hinput] at hundo
  exact ⟨hnormal, evaluated, hok, hcontent, hundo⟩

end Worksheet.Sheet
