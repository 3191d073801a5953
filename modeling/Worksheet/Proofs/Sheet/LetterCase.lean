import Worksheet.Proofs.Formula.LetterCase
import Worksheet.Proofs.Sheet.History
import Worksheet.Settings.Basic

/-! # The case of letters does not matter

    Settings may ask for names in upper case.  Then two users who enter the same
    into the same cells, but differ in the case of the letters in names and
    formulas, see the same sheet after every step: each of their calls succeeds
    with the same cells evaluated, or fails for the same reason.  Only the raw
    texts that errors quote can tell the two apart.

    Other inputs than formulas are kept as they are, so the case of their letters
    does matter. -/

namespace Worksheet

/-- The error with the raw texts that it quotes in upper case. -/
def SheetError.inUpper : SheetError → SheetError
  | .invalidName name => .invalidName name.toUpper
  | .formula cause => .formula cause.inUpper
  | e => e

/-- The rules of settings that ask for upper case bring names to upper case. -/
theorem Settings.normalize_eq_toUpper {settings : Settings} (h : settings.uppercaseNames = true)
    (raw : String) : settings.rules.normalize raw = raw.toUpper :=
  if_pos h

/-- A change of one cell that is asked for. -/
inductive Call where
  | enter (name input : String)
  | clear (name : String)

/-- The calls differ at most in the case of letters: in the name of the cell, and
    in the input if that begins with the formula marker. -/
inductive Call.SameLetters : Call → Call → Prop where
  | enter {name name' : String} (hname : name'.toUpper = name.toUpper) (input : String) :
      SameLetters (.enter name input) (.enter name' input)
  | enterFormula {name name' input input' : String} (hname : name'.toUpper = name.toUpper)
      (hmarker : input.toList.head? = some Content.formulaMarker)
      (hinput : input'.toUpper = input.toUpper) :
      SameLetters (.enter name input) (.enter name' input')
  | clear {name name' : String} (hname : name'.toUpper = name.toUpper) :
      SameLetters (.clear name) (.clear name')

/-- The outcomes leave the same sheet, and they succeed with the same result or
    fail with errors that differ at most in the case of the raw texts in them. -/
inductive Outcome.Alike {α : Type} : Outcome α → Outcome α → Prop where
  | ok (sheet : Sheet) (a : α) : Alike ⟨sheet, .ok a⟩ ⟨sheet, .ok a⟩
  | error (sheet : Sheet) {e e' : SheetError} (h : e'.inUpper = e.inUpper) :
      Alike ⟨sheet, .error e⟩ ⟨sheet, .error e'⟩

variable {α : Type} {rules : NameRules}

theorem Outcome.Alike.refl (o : Outcome α) : o.Alike o := by
  obtain ⟨sheet, e | a⟩ := o
  · exact .error sheet rfl
  · exact .ok sheet a

theorem Outcome.Alike.sheet_eq {o o' : Outcome α} (h : o.Alike o') : o'.sheet = o.sheet := by
  cases h <;> rfl

namespace Sheet

variable {s : Sheet} {c c' : Call} {calls calls' : List Call}

/-- What comes of a call. -/
def call (s : Sheet) : Call → Outcome (Std.ExtTreeSet String)
  | .enter name input => s.enter name input
  | .clear name => s.clear name

/-- What comes of calls one after the other, each on the sheet that the one before
    has left. -/
def run (s : Sheet) : List Call → List (Outcome (Std.ExtTreeSet String))
  | [] => []
  | c :: calls => s.call c :: (s.call c).sheet.run calls

/-! ### Names and inputs -/

/-- Names that differ in case only are the same cell, or both are refused. -/
theorem legalName_cases (hrules : ∀ raw, rules.normalize raw = raw.toUpper) {name name' : String}
    (h : name'.toUpper = name.toUpper) :
    (∃ cell, legalName rules name = .ok cell ∧ legalName rules name' = .ok cell) ∨
      legalName rules name = .error (.invalidName name) ∧
        legalName rules name' = .error (.invalidName name') := by
  have hsame : rules.normalize name' = rules.normalize name := by rw [hrules, hrules, h]
  cases hlegal : isLegal rules (rules.normalize name) with
  | true =>
    refine .inl ⟨_, legalName_of_isLegal hlegal, ?_⟩
    rw [← hsame] at hlegal ⊢
    exact legalName_of_isLegal hlegal
  | false =>
    refine .inr ⟨legalName_of_not_isLegal hlegal, ?_⟩
    rw [← hsame] at hlegal
    exact legalName_of_not_isLegal hlegal

/-- The formula marker has no other case. -/
theorem head?_eq_formulaMarker {input input' : String} (h : input'.toUpper = input.toUpper)
    (hmarker : input.toList.head? = some Content.formulaMarker) :
    input'.toList.head? = some Content.formulaMarker := by
  have hupper := congrArg (fun text : String => text.toList.head?) h
  simp only [toList_toUpper, List.head?_map, hmarker] at hupper
  obtain ⟨c, hc, hcupper⟩ := Option.map_eq_some_iff.mp hupper
  have hmark : Content.formulaMarker.toUpper = Content.formulaMarker := by decide
  rw [hmark, toUpper_eq_iff (by decide)] at hcupper
  rw [hc, hcupper]

/-- Formulas that differ in case only give the same content, or are refused alike. -/
theorem ofInput_mapError_eq (hrules : ∀ raw, rules.normalize raw = raw.toUpper)
    {input input' : String} (h : input'.toUpper = input.toUpper)
    (hmarker : input.toList.head? = some Content.formulaMarker) :
    (Content.ofInput rules input').mapError FormulaError.inUpper =
      (Content.ofInput rules input).mapError FormulaError.inUpper := by
  rw [← Content.ofInput_toUpper hrules hmarker,
    ← Content.ofInput_toUpper hrules (head?_eq_formulaMarker h hmarker), h]

/-! ### One call -/

theorem alike_enter (hrules : ∀ raw, s.rules.normalize raw = raw.toUpper)
    {name name' input input' : String} (hname : name'.toUpper = name.toUpper)
    (hinput : (Content.ofInput s.rules input').mapError FormulaError.inUpper =
      (Content.ofInput s.rules input).mapError FormulaError.inUpper) :
    (s.enter name input).Alike (s.enter name' input') := by
  unfold enter
  rcases legalName_cases hrules hname with ⟨cell, hcell, hcell'⟩ | ⟨hcell, hcell'⟩
  · rw [hcell, hcell']
    dsimp only
    cases hcontent : Content.ofInput s.rules input with
    | ok content =>
      rw [hcontent] at hinput
      rw [mapError_eq_ok_iff.mp hinput]
      exact .refl _
    | error e =>
      cases hcontent' : Content.ofInput s.rules input' with
      | ok content' =>
        rw [hcontent, hcontent'] at hinput
        exact nomatch hinput
      | error e' =>
        rw [hcontent, hcontent'] at hinput
        exact .error s (congrArg SheetError.formula (Except.error.inj hinput))
  · rw [hcell, hcell']
    exact .error s (congrArg SheetError.invalidName hname)

theorem alike_clear (hrules : ∀ raw, s.rules.normalize raw = raw.toUpper) {name name' : String}
    (hname : name'.toUpper = name.toUpper) : (s.clear name).Alike (s.clear name') := by
  unfold clear
  rcases legalName_cases hrules hname with ⟨cell, hcell, hcell'⟩ | ⟨hcell, hcell'⟩
  · rw [hcell, hcell']
    exact .refl _
  · rw [hcell, hcell']
    exact .error s (congrArg SheetError.invalidName hname)

/-- Calls on the same sheet that differ in case only have outcomes that are alike. -/
theorem alike_call (hrules : ∀ raw, s.rules.normalize raw = raw.toUpper)
    (h : c.SameLetters c') : (s.call c).Alike (s.call c') := by
  cases h with
  | enter hname input => exact alike_enter hrules hname rfl
  | enterFormula hname hmarker hinput =>
    exact alike_enter hrules hname (ofInput_mapError_eq hrules hinput hmarker)
  | clear hname => exact alike_clear hrules hname

theorem rules_call (s : Sheet) (c : Call) : (s.call c).sheet.rules = s.rules := by
  cases c with
  | enter name input => exact rules_perform s (.enter name input)
  | clear name => exact rules_perform s (.clear name)

/-! ### Runs -/

/-- **Letter case is irrelevant**: if the rules bring names to upper case, calls
    that differ in case only have outcomes that are alike, one after the other, so
    the sheets are the same after every call. -/
theorem run_alike (hrules : ∀ raw, s.rules.normalize raw = raw.toUpper)
    (h : List.Forall₂ Call.SameLetters calls calls') :
    List.Forall₂ Outcome.Alike (s.run calls) (s.run calls') := by
  induction h generalizing s with
  | nil => exact .nil
  | @cons c c' calls calls' hcall _ ih =>
    have halike : (s.call c).Alike (s.call c') := alike_call hrules hcall
    -- The next calls meet the same sheet again, with the same rules.
    have hrest := @ih (s.call c).sheet (by rwa [rules_call])
    refine .cons halike ?_
    rwa [halike.sheet_eq]

/-- A variable and an exponent in the other case, a text under a name in the other
    case, a name and a formula that are refused, and a cell that is emptied. -/
theorem run_alike_mixed_case :
    let s := new (Settings.rules ⟨"v1", true, none⟩) "v1"
    List.Forall₂ Outcome.Alike
      (s.run [.enter "a1" "=b2*1e3+x1", .enter "B2" "Text", .enter "c" "=1", .enter "C1" "=$1e999a",
        .clear "a1"])
      (s.run [.enter "A1" "=B2*1E3+X1", .enter "b2" "Text", .enter "C" "=1", .enter "c1" "=$1E999A",
        .clear "A1"]) := by
  intro s
  apply run_alike (Settings.normalize_eq_toUpper rfl)
  apply List.Forall₂.cons (.enterFormula (by cbv) (by decide) (by cbv))
  apply List.Forall₂.cons (.enter (by cbv) "Text")
  apply List.Forall₂.cons (.enter (by cbv) "=1")
  apply List.Forall₂.cons (.enterFormula (by cbv) (by decide) (by cbv))
  exact .cons (.clear (by cbv)) .nil

end Sheet

end Worksheet
