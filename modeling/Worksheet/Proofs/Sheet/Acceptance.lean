import Worksheet.Proofs.Sheet.History

/-! # What a sheet accepts

    Two statements about operations on a sheet with any history.

      • Whether an input is accepted can be told before anything is changed:
        the name has to be legal, the input has to be well formed, and no
        variable of a new formula may be the edited cell or depend on it.
      • An operation that fails leaves the sheet as it was.

    The check for cycles runs over the graph with the new references already in
    place.  A way from the edited cell to another cell never needs an edge into
    the edited cell, and only such edges are replaced, so the ways are the same
    before and after. -/

namespace Worksheet.Sheet

open Relation Dependency

variable {s : Sheet}

/-! ### Ways from the edited cell -/

/-- The content is a formula with a variable that is `cell` itself or depends on
    it, directly or through other cells. -/
def LeadsBack (held : Std.ExtTreeMap String Content) (cell : String) (content : Content) : Prop :=
  ∃ f, content = .formula f ∧ ∃ v ∈ f.variableNames, v = cell ∨ TransGen (Refers held) cell v

theorem leadsBack_iff (held : Std.ExtTreeMap String Content) (cell : String) (content : Content) :
    LeadsBack held cell content ↔
      ∃ v ∈ content.references, ReflTransGen (Refers held) cell v := by
  simp only [LeadsBack, Content.mem_references, reflTransGen_iff_eq_or_transGen]
  constructor
  · rintro ⟨f, hf, v, hv, hway⟩
    exact ⟨v, ⟨f, hf, hv⟩, hway⟩
  · rintro ⟨v, ⟨f, hf, hv⟩, hway⟩
    exact ⟨f, hf, v, hv, hway⟩

/-- Relations that agree away from `cell` have the same ways from `cell`. -/
theorem reflTransGen_of_same {R R' : String → String → Prop} {cell : String}
    (hsame : ∀ v c, c ≠ cell → R v c → R' v c) {c : String} (h : ReflTransGen R cell c) :
    ReflTransGen R' cell c := by
  induction h with
  | refl => exact .refl
  | @tail b c _ hbc ih =>
    -- A way that comes back to its start may begin there.
    by_cases hc : c = cell
    · rw [hc]
    · exact ih.tail (hsame b c hc hbc)

/-- A new content of `cell` changes no way from there. -/
theorem reflTransGen_put_iff (held : Std.ExtTreeMap String Content) (cell : String)
    (content : Content) (c : String) :
    ReflTransGen (Refers (put held cell content)) cell c ↔ ReflTransGen (Refers held) cell c := by
  constructor
  · refine reflTransGen_of_same fun a d hd had => ?_
    simpa [refers_put, hd] using had
  · refine reflTransGen_of_same fun a d hd had => ?_
    simpa [refers_put, hd] using had

/-- A new content closes a cycle exactly if it leads back to its cell. -/
theorem transGen_put_iff (held : Std.ExtTreeMap String Content) (cell : String)
    (content : Content) : TransGen (Refers (put held cell content)) cell cell ↔
      LeadsBack held cell content := by
  rw [leadsBack_iff]
  constructor
  · intro hcycle
    obtain ⟨v, hway, hlast⟩ := TransGen.tail'_iff.mp hcycle
    have hv : v ∈ content.references := by simpa [refers_put] using hlast
    exact ⟨v, hv, (reflTransGen_put_iff held cell content v).mp hway⟩
  · rintro ⟨v, hv, hway⟩
    have hlast : Refers (put held cell content) v cell := by simpa [refers_put] using hv
    exact TransGen.tail' ((reflTransGen_put_iff held cell content v).mpr hway) hlast

/-! ### The outcome of an edit -/

/-- A content is refused exactly if it leads back to its cell, and then nothing
    changes. -/
theorem Coherent.commit_outcome (h : s.Coherent) (cell : String) (content : Content) :
    (LeadsBack (contents s.cells) cell content ∧
      s.commit cell content = ⟨s, .error (.circular cell)⟩) ∨
    (¬ LeadsBack (contents s.cells) cell content ∧
      ∃ evaluated, (s.commit cell content).result = .ok evaluated) := by
  have hcases := h.commit_cases cell content
  rw [transGen_put_iff] at hcases
  rcases hcases with hback | ⟨hfree, order, -, heq⟩
  · exact .inl hback
  · exact .inr ⟨hfree, .ofList order, by rw [heq]⟩

/-- What comes of entering an input: one of three refusals, which change
    nothing, or its content is accepted. -/
theorem Coherent.enter_outcome (h : s.Coherent) (name input : String) :
    let cell := s.rules.normalize name
    (isLegal s.rules cell = false ∧ s.enter name input = ⟨s, .error (.invalidName name)⟩) ∨
    (isLegal s.rules cell = true ∧ ∃ e, Content.ofInput s.rules input = .error e ∧
      s.enter name input = ⟨s, .error (.formula e)⟩) ∨
    (isLegal s.rules cell = true ∧ ∃ content, Content.ofInput s.rules input = .ok content ∧
      ((LeadsBack (contents s.cells) cell content ∧
        s.enter name input = ⟨s, .error (.circular cell)⟩) ∨
      (¬ LeadsBack (contents s.cells) cell content ∧
        ∃ evaluated, (s.enter name input).result = .ok evaluated))) := by
  intro cell
  rcases s.enter_cases name input with hname | hform | ⟨hlegal, content, hinput, heq⟩
  · exact .inl hname
  · exact .inr (.inl hform)
  · rw [heq]
    exact .inr (.inr ⟨hlegal, content, hinput, h.commit_outcome cell content⟩)

/-- Clearing fails only because of the name, since nothing leads back from an
    empty cell. -/
theorem Coherent.clear_outcome (h : s.Coherent) (name : String) :
    let cell := s.rules.normalize name
    (isLegal s.rules cell = false ∧ s.clear name = ⟨s, .error (.invalidName name)⟩) ∨
    (isLegal s.rules cell = true ∧ ∃ evaluated, (s.clear name).result = .ok evaluated) := by
  intro cell
  rcases s.clear_cases name with hname | ⟨hlegal, heq⟩
  · exact .inl hname
  · rcases h.commit_outcome cell .empty with ⟨⟨f, hf, -⟩, -⟩ | ⟨-, hok⟩
    · exact nomatch hf
    · exact .inr ⟨hlegal, by rw [heq]; exact hok⟩

/-! ### One reason at a time -/

theorem Coherent.enter_invalidName_iff (h : s.Coherent) (name input shown : String) :
    (s.enter name input).result = .error (.invalidName shown) ↔
      isLegal s.rules (s.rules.normalize name) = false ∧ shown = name := by
  rcases h.enter_outcome name input with ⟨hlegal, heq⟩ | ⟨hlegal, e, -, heq⟩ |
    ⟨hlegal, content, -, ⟨-, heq⟩ | ⟨-, evaluated, heq⟩⟩
  · simp [heq, hlegal, eq_comm]
  all_goals simp [heq, hlegal]

theorem Coherent.enter_formula_iff (h : s.Coherent) (name input : String) (e : FormulaError) :
    (s.enter name input).result = .error (.formula e) ↔
      isLegal s.rules (s.rules.normalize name) = true ∧
        Content.ofInput s.rules input = .error e := by
  rcases h.enter_outcome name input with ⟨hlegal, heq⟩ | ⟨hlegal, e, hinput, heq⟩ |
    ⟨hlegal, content, hinput, ⟨-, heq⟩ | ⟨-, evaluated, heq⟩⟩
  · simp [heq, hlegal]
  all_goals simp [heq, hlegal, hinput]

theorem Coherent.enter_circular_iff (h : s.Coherent) (name input shown : String) :
    (s.enter name input).result = .error (.circular shown) ↔
      isLegal s.rules (s.rules.normalize name) = true ∧ shown = s.rules.normalize name ∧
        ∃ content, Content.ofInput s.rules input = .ok content ∧
          LeadsBack (contents s.cells) (s.rules.normalize name) content := by
  rcases h.enter_outcome name input with ⟨hlegal, heq⟩ | ⟨hlegal, e, hinput, heq⟩ |
    ⟨hlegal, content, hinput, ⟨hback, heq⟩ | ⟨hfree, evaluated, heq⟩⟩
  · simp [heq, hlegal]
  · simp [heq, hinput]
  · simp [heq, hlegal, hinput, hback, eq_comm]
  · simp [heq, hinput, hfree]

theorem Coherent.enter_ok_iff (h : s.Coherent) (name input : String) :
    (∃ evaluated, (s.enter name input).result = .ok evaluated) ↔
      isLegal s.rules (s.rules.normalize name) = true ∧
        ∃ content, Content.ofInput s.rules input = .ok content ∧
          ¬ LeadsBack (contents s.cells) (s.rules.normalize name) content := by
  rcases h.enter_outcome name input with ⟨hlegal, heq⟩ | ⟨hlegal, e, hinput, heq⟩ |
    ⟨hlegal, content, hinput, ⟨hback, heq⟩ | ⟨hfree, evaluated, heq⟩⟩
  · simp [heq, hlegal]
  · simp [heq, hinput]
  · simp [heq, hinput, hback]
  · simp [heq, hlegal, hinput, hfree]

/-- Numbers and texts lead nowhere, so they are accepted under every legal name. -/
theorem Coherent.enter_ok_of_plain (h : s.Coherent) {rules : NameRules} {name input : String}
    {content : Content} (hrules : s.rules = rules)
    (hlegal : isLegal rules (rules.normalize name) = true)
    (hinput : Content.ofInput rules input = .ok content) (hplain : ∀ f, content ≠ .formula f) :
    ∃ evaluated, (s.enter name input).result = .ok evaluated := by
  rw [h.enter_ok_iff, hrules]
  exact ⟨hlegal, content, hinput, fun ⟨f, hf, _⟩ => hplain f hf⟩

theorem Coherent.clear_ok_iff (h : s.Coherent) (name : String) :
    (∃ evaluated, (s.clear name).result = .ok evaluated) ↔
      isLegal s.rules (s.rules.normalize name) = true := by
  rcases h.clear_outcome name with ⟨hlegal, heq⟩ | ⟨hlegal, evaluated, heq⟩
  all_goals simp [heq, hlegal]

/-- **What is accepted**: after any history, an input is refused because of its
    name, because of its form, or because its formula leads back to the edited
    cell over the references held before, in this order and for no other
    reason.  Numbers and texts lead nowhere, so they are always accepted under a
    legal name, and so is clearing. -/
theorem enter_result_iff (rules : NameRules) (version : String) (history : List Operation)
    (name input : String) :
    let s := (new rules version).after history
    let cell := rules.normalize name
    let result := (s.enter name input).result
    (∀ shown, result = .error (.invalidName shown) ↔ isLegal rules cell = false ∧ shown = name) ∧
    (∀ e, result = .error (.formula e) ↔
      isLegal rules cell = true ∧ Content.ofInput rules input = .error e) ∧
    (∀ shown, result = .error (.circular shown) ↔ isLegal rules cell = true ∧ shown = cell ∧
      ∃ content, Content.ofInput rules input = .ok content ∧
        LeadsBack (contents s.cells) cell content) ∧
    ((∃ evaluated, result = .ok evaluated) ↔ isLegal rules cell = true ∧
      ∃ content, Content.ofInput rules input = .ok content ∧
        ¬ LeadsBack (contents s.cells) cell content) ∧
    (isLegal rules cell = true → ∀ content, Content.ofInput rules input = .ok content →
      (∀ f, content ≠ .formula f) → ∃ evaluated, result = .ok evaluated) ∧
    ((∃ evaluated, (s.clear name).result = .ok evaluated) ↔ isLegal rules cell = true) := by
  intro s cell result
  have h : s.Coherent := coherent_after rules version history
  have hrules : s.rules = rules := rules_after _ history
  have hok := h.enter_ok_iff name input
  have hclear := h.clear_ok_iff name
  rw [hrules] at hok hclear
  refine ⟨fun shown => ?_, fun e => ?_, fun shown => ?_, hok, ?_, hclear⟩
  · rw [h.enter_invalidName_iff, hrules]
  · rw [h.enter_formula_iff, hrules]
  · rw [h.enter_circular_iff, hrules]
  · intro hlegal content hinput hplain
    exact hok.mpr ⟨hlegal, content, hinput, fun ⟨f, hf, _⟩ => hplain f hf⟩

/-! ### Failures change nothing -/

theorem Coherent.enter_sheet_of_error (h : s.Coherent) {name input : String} {e : SheetError}
    (herror : (s.enter name input).result = .error e) : (s.enter name input).sheet = s := by
  rcases h.enter_outcome name input with ⟨-, heq⟩ | ⟨-, e, -, heq⟩ |
    ⟨-, content, -, ⟨-, heq⟩ | ⟨-, evaluated, hok⟩⟩
  · rw [heq]
  · rw [heq]
  · rw [heq]
  · rw [hok] at herror
    exact nomatch herror

theorem Coherent.clear_sheet_of_error (h : s.Coherent) {name : String} {e : SheetError}
    (herror : (s.clear name).result = .error e) : (s.clear name).sheet = s := by
  rcases h.clear_outcome name with ⟨-, heq⟩ | ⟨-, evaluated, hok⟩
  · rw [heq]
  · rw [hok] at herror
    exact nomatch herror

/-- Records are entered into another sheet, so it does not matter which of them
    is refused. -/
theorem load_sheet_of_error {read : FileReader} {path : String} {e : SheetError}
    (herror : (s.load read path).result = .error e) : (s.load read path).sheet = s := by
  unfold load at herror ⊢
  split
  · rfl
  · next loaded hloaded =>
    rw [hloaded] at herror
    exact nomatch herror

theorem afterWriting_sheet_of_error {path : String} {written : Except FileError Unit}
    {e : SheetError} (herror : (s.afterWriting path written).result = .error e) :
    (s.afterWriting path written).sheet = s := by
  cases written with
  | error cause => rfl
  | ok _ => exact nomatch herror

theorem saveAs_sheet_of_error {files : Files} {path : String} {e : SheetError}
    (herror : (s.saveAs files path).2.result = .error e) :
    (s.saveAs files path).2.sheet = s := by
  unfold saveAs at herror ⊢
  split
  · rfl
  · next written hwritten =>
    rw [hwritten] at herror
    exact nomatch herror

theorem save_sheet_of_error {files : Files} {e : SheetError}
    (herror : (s.save files).2.result = .error e) : (s.save files).2.sheet = s := by
  unfold save at herror ⊢
  split
  · rfl
  · next path hpath =>
    simp only [hpath] at herror
    exact saveAs_sheet_of_error herror

/-- **Failures change nothing**: after any history, an operation that fails
    leaves the whole sheet as it was: contents and values, both directions of
    the edges and their number, version, file and the mark for changes.  A file
    may fail to be written for any reason. -/
theorem sheet_of_error (rules : NameRules) (version : String) (history : List Operation) :
    let s := (new rules version).after history
    (∀ name input e, (s.enter name input).result = .error e → (s.enter name input).sheet = s) ∧
    (∀ name e, (s.clear name).result = .error e → (s.clear name).sheet = s) ∧
    (∀ read path e, (s.load read path).result = .error e → (s.load read path).sheet = s) ∧
    (∀ files e, (s.save files).2.result = .error e → (s.save files).2.sheet = s) ∧
    (∀ files path e, (s.saveAs files path).2.result = .error e →
      (s.saveAs files path).2.sheet = s) ∧
    (∀ path written e, (s.afterWriting path written).result = .error e →
      (s.afterWriting path written).sheet = s) := by
  intro s
  have h : s.Coherent := coherent_after rules version history
  exact ⟨fun _ _ _ => h.enter_sheet_of_error, fun _ _ => h.clear_sheet_of_error,
    fun _ _ _ => load_sheet_of_error, fun _ _ => save_sheet_of_error,
    fun _ _ _ => saveAs_sheet_of_error, fun _ _ _ => afterWriting_sheet_of_error⟩

end Worksheet.Sheet
