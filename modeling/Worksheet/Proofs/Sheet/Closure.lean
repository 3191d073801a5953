import Worksheet.Proofs.Sheet.Acceptance

/-! # What an edit touches

    An accepted edit reports the cells that were evaluated.  These are the
    edited cell and everything that depends on it, directly or through a chain
    of formulas, and nothing else: who shows only the reported cells again shows
    the whole sheet.

    The references may be read before the edit or after it.  The two differ only
    in the edges into the edited cell, and no way from there needs one of these. -/

namespace Worksheet.Sheet

open Relation Dependency

/-- An edit that gives `cell` the content `content`, evaluates the cells
    `evaluated` and makes `t` of `s`. -/
structure IsEdit (s : Sheet) (cell : String) (content : Content)
    (evaluated : Std.ExtTreeSet String) (t : Sheet) : Prop where
  /-- Evaluated are the cells that depended on the edited one before, -/
  mem_iff_before : ∀ c, c ∈ evaluated ↔ c = cell ∨ TransGen (Refers (contents s.cells)) cell c
  /-- and these are the cells that depend on it now. -/
  mem_iff_after : ∀ c, c ∈ evaluated ↔ c = cell ∨ TransGen (Refers (contents t.cells)) cell c
  /-- All other cells keep their content and their value. -/
  outside : ∀ c, c ∉ evaluated → t.cells[c]? = s.cells[c]?
  /-- The evaluated cells keep their content, -/
  inside : ∀ c ∈ evaluated, c ≠ cell → (contents t.cells)[c]? = (contents s.cells)[c]?
  /-- except that the edited one has got the new content, or is gone. -/
  edited : (contents t.cells)[cell]? = if content.isEmpty then none else some content

variable {s : Sheet}

/-- What a commit evaluates is the edited cell and all that depends on it. -/
theorem Coherent.isEdit_commit (h : s.Coherent) {cell : String} {content : Content}
    {evaluated : Std.ExtTreeSet String} (hok : (s.commit cell content).result = .ok evaluated) :
    IsEdit s cell content evaluated (s.commit cell content).sheet := by
  have hheld := contents_commit hok
  rcases h.commit_cases cell content with ⟨-, heq⟩ | ⟨-, order, horder, heq⟩
  · rw [heq] at hok
    exact nomatch hok
  · rw [heq] at hok
    obtain rfl := Except.ok.inj hok
    have hmem : ∀ c, c ∈ Std.ExtTreeSet.ofList order ↔
        ReflTransGen (Refers (put (contents s.cells) cell content)) cell c := by
      intro c
      rw [Std.ExtTreeSet.mem_ofList, List.contains_iff_mem, horder.mem_iff]
    refine ⟨fun c => ?_, fun c => ?_, fun c hout => ?_, fun c _ hc => ?_, ?_⟩
    · rw [hmem, reflTransGen_put_iff, reflTransGen_iff_eq_or_transGen]
    · rw [hmem, hheld, reflTransGen_iff_eq_or_transGen]
    · -- Neither placing the content nor the evaluation of dependents looks at such a cell.
      have hcell : c ≠ cell := fun hc => hout ((hmem c).mpr (hc ▸ .refl))
      have horder : c ∉ order.drop 1 := by
        intro hlater
        rw [Std.ExtTreeSet.mem_ofList, List.contains_iff_mem] at hout
        exact hout (List.mem_of_mem_drop hlater)
      rw [heq, getElem?_foldl_recalculate horder, getElem?_place, if_neg hcell]
    · rw [hheld, getElem?_put, if_neg hc]
    · rw [hheld, getElem?_put, if_pos rfl]

/-- **Closure and frame**: after any history, an accepted input or a cleared
    cell reports exactly the edited cell and the cells that depend on it; all
    others stay as they are, and of those reported only the edited one gets
    another content. -/
theorem isEdit_of_ok (rules : NameRules) (version : String) (history : List Operation) :
    let s := (new rules version).after history
    (∀ name input evaluated, (s.enter name input).result = .ok evaluated →
      ∃ content, Content.ofInput rules input = .ok content ∧
        IsEdit s (rules.normalize name) content evaluated (s.enter name input).sheet) ∧
    (∀ name evaluated, (s.clear name).result = .ok evaluated →
      IsEdit s (rules.normalize name) .empty evaluated (s.clear name).sheet) := by
  intro s
  have h : s.Coherent := coherent_after rules version history
  have hrules : s.rules = rules := rules_after _ history
  constructor
  · intro name input evaluated hok
    obtain ⟨-, content, hinput, heq⟩ := enter_eq_commit_of_ok hok
    rw [hrules] at hinput heq
    rw [heq] at hok ⊢
    exact ⟨content, hinput, h.isEdit_commit hok⟩
  · intro name evaluated hok
    rcases s.clear_cases name with ⟨-, heq⟩ | ⟨-, heq⟩
    · rw [heq] at hok
      exact nomatch hok
    · rw [hrules] at heq
      rw [heq] at hok ⊢
      exact h.isEdit_commit hok

/-- A number is entered under a formula that refers to it. -/
theorem isEdit_of_ok_dependent :
    let s := (new .plain "1").after [.enter "B1" "=A1*2"]
    ∃ evaluated, (s.enter "A1" "3").result = .ok evaluated ∧
      "A1" ∈ evaluated ∧ "B1" ∈ evaluated := by
  intro s
  have hempty : (new .plain "1").Coherent := coherent_new .plain "1"
  have h : s.Coherent := coherent_after .plain "1" _
  have hrules : s.rules = .plain := rules_after _ _
  have hformula : Content.ofInput .plain "=A1*2" =
      .ok (.formula ⟨[.var "A1", .operator .mul, .number 2], rfl⟩) := by
    decide +kernel
  have hnumber : Content.ofInput .plain "3" = .ok (.number 3) := by decide +kernel
  have hrefers : Refers (contents s.cells) "A1" "B1" := by
    obtain ⟨former, hformer⟩ : ∃ former, ((new .plain "1").enter "B1" "=A1*2").result =
        .ok former := by
      refine (hempty.enter_ok_iff "B1" "=A1*2").mpr ⟨by decide, _, hformula, ?_⟩
      -- In an empty sheet nothing depends on the cell.
      rw [leadsBack_iff]
      rintro ⟨v, hv, hway⟩
      rcases reflTransGen_iff_eq_or_transGen.mp hway with rfl | hway
      · exact absurd hv (by decide +kernel)
      · obtain ⟨w, -, f, hf, -⟩ := TransGen.tail'_iff.mp hway
        simp [new] at hf
    obtain ⟨-, content, hcontent, heq⟩ := enter_eq_commit_of_ok hformer
    obtain rfl := Except.ok.inj (hformula.symm.trans hcontent)
    rw [heq] at hformer
    have hheld : contents s.cells = _ :=
      (congrArg (contents ·.sheet.cells) heq).trans (contents_commit hformer)
    refine ⟨⟨[.var "A1", .operator .mul, .number 2], rfl⟩, ?_, ?_⟩
    · rw [hheld, getElem?_put, if_pos (by decide)]
      rfl
    · rw [Formula.mem_variableNames]
      exact List.mem_cons_self
  obtain ⟨evaluated, hok⟩ : ∃ evaluated, (s.enter "A1" "3").result = .ok evaluated := by
    rw [h.enter_ok_iff, hrules]
    refine ⟨by decide, _, hnumber, ?_⟩
    rintro ⟨f, hf, -⟩
    exact absurd hf (by simp)
  obtain ⟨content, -, hedit⟩ :=
    (isEdit_of_ok .plain "1" [.enter "B1" "=A1*2"]).1 "A1" "3" evaluated hok
  refine ⟨evaluated, hok, ?_, ?_⟩
  · exact (hedit.mem_iff_before "A1").mpr (.inl rfl)
  · exact (hedit.mem_iff_before "B1").mpr (.inr (.single hrefers))

end Worksheet.Sheet
