import Worksheet.Cell.Value

/-! # Evaluation reads the references only

    The value of a formula, and the questions it puts on the way, depend on
    what its own variables stand for and on nothing else.  So two states of the
    cells that agree on the references of a content give it the same value. -/

namespace Worksheet

namespace Formula

theorem step_congr {lookup lookup' : Lookup} {token : Token}
    (h : ∀ name, token.varName? = some name → lookup name = lookup' name) (s : Stacks) :
    step lookup s token = step lookup' s token := by
  cases token with
  | var name => simp only [step, askVariable, h name rfl]
  | leftParen | rightParen | operator | number => rfl

theorem foldlM_step_congr {lookup lookup' : Lookup} {tokens : List Token}
    (h : ∀ name ∈ tokens.filterMap Token.varName?, lookup name = lookup' name) (s : Stacks) :
    tokens.foldlM (step lookup) s = tokens.foldlM (step lookup') s := by
  induction tokens generalizing s with
  | nil => rfl
  | cons token tokens ih =>
    have htoken : ∀ name, token.varName? = some name → lookup name = lookup' name := by
      intro name hname
      exact h name (List.mem_filterMap.mpr ⟨token, by simp, hname⟩)
    have hrest : ∀ name ∈ tokens.filterMap Token.varName?, lookup name = lookup' name := by
      intro name hname
      obtain ⟨other, hother, hvar⟩ := List.mem_filterMap.mp hname
      exact h name (List.mem_filterMap.mpr ⟨other, List.mem_cons_of_mem _ hother, hvar⟩)
    rw [List.foldlM_cons, List.foldlM_cons, step_congr htoken]
    congr 1
    funext s
    exact ih hrest s

/-- Lookups that agree on the variables among the tokens give the same evaluation. -/
theorem evaluateTokens_congr {lookup lookup' : Lookup} {tokens : List Token}
    (h : ∀ name ∈ tokens.filterMap Token.varName?, lookup name = lookup' name) :
    evaluateTokens lookup tokens = evaluateTokens lookup' tokens := by
  unfold evaluateTokens
  rw [foldlM_step_congr h]

theorem mem_variableNames (f : Formula) (name : String) :
    name ∈ f.variableNames ↔ name ∈ f.tokens.filterMap Token.varName? := by
  unfold variableNames
  rw [Std.ExtTreeSet.mem_ofList, List.contains_iff_mem]

theorem evaluate_congr {lookup lookup' : Lookup} {f : Formula}
    (h : ∀ name ∈ f.variableNames, lookup name = lookup' name) :
    f.evaluate lookup = f.evaluate lookup' :=
  evaluateTokens_congr fun name hname => h name ((f.mem_variableNames name).mpr hname)

end Formula

namespace Content

theorem mem_references (content : Content) (v : String) :
    v ∈ content.references ↔ ∃ f, content = .formula f ∧ v ∈ f.variableNames := by
  cases content <;> simp [references]

/-- A content has the same value wherever its references have. -/
theorem evaluate_congr {lookup lookup' : Formula.Lookup} {content : Content}
    (h : ∀ name ∈ content.references, lookup name = lookup' name) :
    content.evaluate lookup = content.evaluate lookup' := by
  cases content with
  | number | text => rfl
  | formula f => simp only [evaluate, Formula.evaluate_congr (f := f) h]

theorem references_eq_empty_of_isEmpty {content : Content} (h : content.isEmpty = true) :
    content.references = ∅ := by
  cases content with
  | text => rfl
  | number | formula => simp [isEmpty] at h

end Content

end Worksheet
