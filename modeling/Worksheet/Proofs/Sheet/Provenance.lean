import Worksheet.Proofs.Formula.Evaluation
import Worksheet.Proofs.Sheet.History

/-! # Where errors come from

    A formula fails as soon as one of its variables has no number, and it fails
    for no other reason than this or a division by zero.  So an error spreads to
    every cell that depends on it, and it can be traced back: as long as a cell
    reports that a variable holds an error, the reason of this error is part of
    its own, and the cell of the variable is the next one to look at.  The trace
    is finite and ends where the error arose, at a division by zero, at a cell
    that is not there, or at a text. -/

namespace Worksheet

/-! ### Failures of a formula -/

namespace Formula

open Expression

variable {f : Formula} {lookup : Lookup} {err : EvaluationError}

/-- A formula is evaluated as a tree whose variables are its own. -/
theorem exists_tree (f : Formula) (lookup : Lookup) : ∃ e : Expression,
    f.evaluate lookup = e.evaluate lookup ∧
    ∀ name, .var name ∈ e.postorder ↔ name ∈ f.variableNames := by
  obtain ⟨e, hunique⟩ := exists_isParse_iff f.checked
  have hparse : IsParse f.tokens e := (hunique e).mpr rfl
  refine ⟨e, evaluateTokens_eq_evaluate hparse lookup, fun name => ?_⟩
  rw [mem_variableNames, ← hparse.2, ← filterMap_postorder, List.mem_filterMap]
  constructor
  · exact fun hnode => ⟨.var name, hnode, rfl⟩
  · rintro ⟨node, hnode, hname⟩
    cases node with
    | var other => rwa [← Option.some.inj hname]
    | number | group | binary => exact nomatch hname

/-- A variable without a number leaves the formula without a value. -/
theorem exists_failure {name : String} {reason : LookupError} (hname : name ∈ f.variableNames)
    (hreason : lookup name = .error reason) :
    ∃ err, (f.evaluate lookup).result = .error err := by
  obtain ⟨e, heq, hvars⟩ := f.exists_tree lookup
  have hfault : fault? lookup (.var name) = some (.ofLookup name reason) := by
    rw [fault?, hreason]
  -- Some node fails, be it this one or one in front of it.
  have hsome : (e.postorder.findSome? (fault? lookup)).isSome = true :=
    List.findSome?_isSome_iff.mpr ⟨.var name, (hvars name).mpr hname, by rw [hfault]; rfl⟩
  obtain ⟨err, herr⟩ := Option.isSome_iff_exists.mp hsome
  rw [heq]
  exact ⟨err, ((evaluate_follows lookup e).error_iff err).mpr herr⟩

/-- A formula without a value has a variable without a number, or divides by zero. -/
theorem failure_cases (h : (f.evaluate lookup).result = .error err) :
    err = .divisionByZero ∨
    ∃ name ∈ f.variableNames, ∃ reason, lookup name = .error reason ∧
      err = .ofLookup name reason := by
  obtain ⟨e, heq, hvars⟩ := f.exists_tree lookup
  rw [heq, (evaluate_follows lookup e).error_iff] at h
  obtain ⟨node, hnode, hfault⟩ := List.exists_of_findSome?_eq_some h
  cases node with
  | number | group => simp [fault?] at hfault
  | var name =>
    rw [fault?] at hfault
    split at hfault
    · simp at hfault
    · next reason hreason =>
      exact .inr ⟨name, (hvars name).mp hnode, reason, hreason, (Option.some.inj hfault).symm⟩
  | binary op left right =>
    simp only [fault?] at hfault
    exact .inl (by grind)

end Formula

namespace Sheet

open Relation

/-! ### Errors of cells -/

/-- The reason of the error that the cell called `name` holds. -/
def reason? (cells : Std.ExtTreeMap String Cell) (name : String) : Option String :=
  match cells[name]? with
  | some ⟨_, .error cause⟩ => some cause.message
  | _ => none

/-- The cell `c` fails because its variable `d` holds an error, and says so. -/
structure PassesOn (cells : Std.ExtTreeMap String Cell) (c d : String) : Prop where
  refers : Refers (contents cells) d c
  reason : ∃ reason, reason? cells d = some reason ∧
    reason? cells c = some ("variable \"" ++ d ++ "\" holds an error (" ++ reason ++ ")")

/-- The error of the cell `c` arises in the cell itself. -/
inductive ArisesIn (cells : Std.ExtTreeMap String Cell) (c : String) : Prop where
  | division (reason : reason? cells c = some "division by zero")
  | missing (v : String) (refers : Refers (contents cells) v c) (missing : v ∉ cells)
      (reason : reason? cells c = some ("variable \"" ++ v ++ "\" has no value"))
  | text (v value : String) (refers : Refers (contents cells) v c)
      (text : (contents cells)[v]? = some (.text value))
      (reason : reason? cells c = some ("variable \"" ++ v ++ "\" does not hold a number"))

variable {cells : Std.ExtTreeMap String Cell} {c v : String}

theorem reason?_eq_some_iff {reason : String} : reason? cells c = some reason ↔
    ∃ cell cause, cells[c]? = some cell ∧ cell.value = .error cause ∧ cause.message = reason := by
  unfold reason?
  split
  · next content cause hcell => simp [hcell]
  · next hother =>
    simp only [reduceCtorEq, false_iff, not_exists, not_and]
    rintro ⟨content, value⟩ cause hcell rfl
    exact absurd hcell (hother content cause)

/-- Why a name has no number. -/
theorem lookup_cases {reason : LookupError} (h : lookup cells v = .error reason) :
    (v ∉ cells ∧ reason = .undefined) ∨
    ∃ cell, cells[v]? = some cell ∧
      ((∃ text, cell.value = .text text ∧ reason = .notNumeric) ∨
        ∃ cause, cell.value = .error cause ∧ reason = .failed cause) := by
  unfold lookup at h
  split at h
  · next cell hcell =>
    refine .inr ⟨cell, hcell, ?_⟩
    cases hvalue : cell.value with
    | number value => simp [hvalue, Value.toNumber] at h
    | text value => exact .inl ⟨value, rfl, by simpa [hvalue, Value.toNumber, eq_comm] using h⟩
    | error cause => exact .inr ⟨cause, rfl, by simpa [hvalue, Value.toNumber, eq_comm] using h⟩
  · next hnone =>
    have hout : v ∉ cells := by simp [← Std.ExtTreeMap.isSome_getElem?_iff_mem, hnone]
    exact .inl ⟨hout, (Except.error.inj h).symm⟩

/-- A name that is not stored, or is stored with a text or an error, has no number. -/
theorem exists_lookup_error (h : v ∉ cells ∨ ∃ cell, cells[v]? = some cell ∧
    ((∃ text, cell.value = .text text) ∨ cell.value.isError = true)) :
    ∃ reason, lookup cells v = .error reason := by
  rcases h with hout | ⟨cell, hcell, ⟨text, htext⟩ | herror⟩
  · exact ⟨.undefined, by simp [lookup, Std.ExtTreeMap.getElem?_eq_none hout]⟩
  · exact ⟨.notNumeric, by simp [lookup, hcell, htext, Value.toNumber]⟩
  · cases hvalue : cell.value with
    | number | text => simp [hvalue, Value.isError] at herror
    | error cause => exact ⟨.failed cause, by simp [lookup, hcell, hvalue, Value.toNumber]⟩

/-! ### Errors spread -/

/-- A formula with a variable that has no number holds an error. -/
theorem Current.reason?_of_refers (h : Current cells) (hrefers : Refers (contents cells) v c)
    {reason : LookupError} (hreason : lookup cells v = .error reason) :
    ∃ shown, reason? cells c = some shown := by
  obtain ⟨f, hf, hv⟩ := hrefers
  obtain ⟨cell, hcell, hcontent⟩ : ∃ cell, cells[c]? = some cell ∧ cell.content = .formula f := by
    simpa using hf
  obtain ⟨err, herr⟩ := Formula.exists_failure hv hreason
  have hvalue : cell.value = .error err := by
    rw [h c cell hcell, hcontent, Content.evaluate, herr, Value.ofResult]
  exact ⟨err.message, reason?_eq_some_iff.mpr ⟨cell, err, hcell, hvalue, rfl⟩⟩

/-- An error is the reason for errors in all cells that depend on it. -/
theorem Current.reason?_of_transGen (h : Current cells) {shown : String}
    (hshown : reason? cells c = some shown) {d : String}
    (hway : TransGen (Refers (contents cells)) c d) : ∃ shown', reason? cells d = some shown' := by
  have hnext : ∀ {a b shown}, reason? cells a = some shown → Refers (contents cells) a b →
      ∃ shown', reason? cells b = some shown' := by
    intro a b shown hshown hrefers
    obtain ⟨cell, cause, hcell, hvalue, -⟩ := reason?_eq_some_iff.mp hshown
    have hlookup : lookup cells a = .error (.failed cause) := by
      simp [lookup, hcell, hvalue, Value.toNumber]
    exact h.reason?_of_refers hrefers hlookup
  induction hway with
  | single hrefers => exact hnext hshown hrefers
  | tail _ hrefers ih =>
    obtain ⟨shown', hshown'⟩ := ih
    exact hnext hshown' hrefers

/-! ### Errors are traced back -/

/-- Only formulas have errors, each the one that its evaluation gives. -/
theorem Current.exists_formula (h : Current cells) {cell : Cell} {cause : EvaluationError}
    (hcell : cells[c]? = some cell) (hvalue : cell.value = .error cause) :
    ∃ f, cell.content = .formula f ∧ (f.evaluate (lookup cells)).result = .error cause := by
  have hcurrent := h c cell hcell
  rw [hvalue] at hcurrent
  cases hcontent : cell.content with
  | number | text => simp [hcontent, Content.evaluate] at hcurrent
  | formula f =>
    rw [hcontent, Content.evaluate] at hcurrent
    refine ⟨f, rfl, ?_⟩
    cases hresult : (f.evaluate (lookup cells)).result with
    | ok value => simp [hresult, Value.ofResult] at hcurrent
    | error other => simpa [hresult, Value.ofResult, eq_comm] using hcurrent

/-- Only texts have texts as values. -/
theorem Current.content_of_text (h : Current cells) {cell : Cell} {value : String}
    (hcell : cells[c]? = some cell) (hvalue : cell.value = .text value) :
    cell.content = .text value := by
  have hcurrent := h c cell hcell
  rw [hvalue] at hcurrent
  cases hcontent : cell.content with
  | number => simp [hcontent, Content.evaluate] at hcurrent
  | text => simpa [hcontent, Content.evaluate, eq_comm] using hcurrent
  | formula f =>
    rw [hcontent, Content.evaluate] at hcurrent
    cases hresult : (f.evaluate (lookup cells)).result <;>
      simp [hresult, Value.ofResult] at hcurrent

/-- The reason of the variable's cell stands inside the new one. -/
theorem message_failed (name : String) (cause : EvaluationError) :
    (EvaluationError.failed name cause).message =
      "variable \"" ++ name ++ "\" holds an error (" ++ cause.message ++ ")" := by
  have hwords : "\" holds an error (" = "\" " ++ "holds an error (" := rfl
  simp only [EvaluationError.message, aboutVariable, hwords, String.append_assoc]

/-- An error arises in its cell, or it is the error of a variable passed on. -/
theorem Current.arisesIn_or_passesOn (h : Current cells) {cell : Cell} {cause : EvaluationError}
    (hcell : cells[c]? = some cell) (hvalue : cell.value = .error cause) :
    ArisesIn cells c ∨ ∃ d cell' cause', cause = .failed d cause' ∧ PassesOn cells c d ∧
      cells[d]? = some cell' ∧ cell'.value = .error cause' := by
  have hshown : reason? cells c = some cause.message :=
    reason?_eq_some_iff.mpr ⟨cell, cause, hcell, hvalue, rfl⟩
  obtain ⟨f, hcontent, hresult⟩ := h.exists_formula hcell hvalue
  rcases Formula.failure_cases hresult with rfl | ⟨v, hv, reason, hreason, rfl⟩
  · exact .inl (.division hshown)
  · have hrefers : Refers (contents cells) v c := ⟨f, by simp [hcell, hcontent], hv⟩
    rcases lookup_cases hreason with ⟨hout, rfl⟩ | ⟨cell', hcell', ⟨text, htext, rfl⟩ |
      ⟨cause', hcause', rfl⟩⟩
    · refine .inl (.missing v hrefers hout (hshown.trans ?_))
      simp [EvaluationError.ofLookup, EvaluationError.message, aboutVariable, String.append_assoc]
    · have hstored : (contents cells)[v]? = some (.text text) := by
        simp [hcell', h.content_of_text hcell' htext]
      refine .inl (.text v text hrefers hstored (hshown.trans ?_))
      simp [EvaluationError.ofLookup, EvaluationError.message, aboutVariable, String.append_assoc]
    · have hshown' : reason? cells v = some cause'.message :=
        reason?_eq_some_iff.mpr ⟨cell', cause', hcell', hcause', rfl⟩
      refine .inr ⟨v, cell', cause', rfl, ⟨hrefers, cause'.message, hshown', hshown.trans ?_⟩,
        hcell', hcause'⟩
      rw [EvaluationError.ofLookup, message_failed]

/-- Every error can be traced back to the cell in which it arose. -/
theorem Current.exists_trace (h : Current cells) {cell : Cell} {cause : EvaluationError}
    (hcell : cells[c]? = some cell) (hvalue : cell.value = .error cause) :
    ∃ rest, List.IsChain (PassesOn cells) (c :: rest) ∧
      ArisesIn cells ((c :: rest).getLast (List.cons_ne_nil c rest)) := by
  -- The error of the next cell is a part of this one, which ends the trace.
  induction cause generalizing c cell with
  | divisionByZero | malformed | reported | undefined | notNumeric =>
    rcases h.arisesIn_or_passesOn hcell hvalue with harises | ⟨d, _, _, hcause, -⟩
    · exact ⟨[], List.isChain_singleton c, harises⟩
    · exact nomatch hcause
  | failed name cause ih =>
    rcases h.arisesIn_or_passesOn hcell hvalue with harises | ⟨d, cell', cause', hcause, hpasses,
      hcell', hvalue'⟩
    · exact ⟨[], List.isChain_singleton c, harises⟩
    · obtain ⟨rfl, rfl⟩ := EvaluationError.failed.inj hcause
      obtain ⟨rest, hchain, harises⟩ := ih hcell' hvalue'
      refine ⟨name :: rest, List.isChain_cons_cons.mpr ⟨hpasses, hchain⟩, ?_⟩
      rwa [List.getLast_cons_cons]

theorem Current.reason?_ne_malformed (h : Current cells) {shown : String}
    (hshown : reason? cells c = some shown) : shown ≠ EvaluationError.malformed.message := by
  obtain ⟨cell, cause, hcell, hvalue, rfl⟩ := reason?_eq_some_iff.mp hshown
  obtain ⟨f, -, hresult⟩ := h.exists_formula hcell hvalue
  obtain ⟨e, heq, -⟩ := f.exists_tree (lookup cells)
  rw [heq] at hresult
  exact Formula.Expression.message_of_evaluate hresult

/-- **Provenance of errors**: after any history, a formula with a variable that
    is not stored, or is stored with a text or an error as its value, holds an
    error, and so do all cells that depend on a cell with an error.  From every
    cell with an error a finite chain leads, each cell a variable of the one
    before and its reason wrapped in the reason of that one, to the cell in
    which the error arose: by a division by zero, or because of a variable that
    is not stored or that holds a text.  Nowhere is an expression malformed. -/
theorem errors_after (rules : NameRules) (version : String) (history : List Operation) :
    let s := (new rules version).after history
    (∀ c v, Refers (contents s.cells) v c →
      (v ∉ s.cells ∨ ∃ cell, s.cells[v]? = some cell ∧
        ((∃ text, cell.value = .text text) ∨ cell.value.isError = true)) →
      ∃ shown, reason? s.cells c = some shown) ∧
    (∀ c d shown, reason? s.cells c = some shown → TransGen (Refers (contents s.cells)) c d →
      ∃ shown', reason? s.cells d = some shown') ∧
    (∀ c shown, reason? s.cells c = some shown →
      ∃ rest, List.IsChain (PassesOn s.cells) (c :: rest) ∧
        ArisesIn s.cells ((c :: rest).getLast (List.cons_ne_nil c rest))) ∧
    (∀ c shown, reason? s.cells c = some shown → shown ≠ "malformed expression") := by
  intro s
  have h : Current s.cells := (coherent_after rules version history).current
  refine ⟨fun c v hrefers hwithout => ?_, fun c d shown hshown => h.reason?_of_transGen hshown,
    fun c shown hshown => ?_, fun c shown => h.reason?_ne_malformed⟩
  · obtain ⟨reason, hreason⟩ := exists_lookup_error hwithout
    exact h.reason?_of_refers hrefers hreason
  · obtain ⟨cell, cause, hcell, hvalue, -⟩ := reason?_eq_some_iff.mp hshown
    exact h.exists_trace hcell hvalue

end Sheet

end Worksheet
