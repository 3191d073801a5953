import Worksheet.Proofs.Except
import Worksheet.Proofs.Sheet.Coherence

/-! # Histories

    A history is a list of operations on a sheet that starts empty.  Each of
    them leaves the store alone, commits one content, or takes over a sheet that
    records were entered into.  So what the empty sheet has and every commit
    keeps, holds after every history, whichever of its operations failed.

    Coherence is such an invariant.  The two main statements say what that means
    for the values of a sheet and for its graph. -/

namespace Worksheet.Sheet

open Relation

/-- An operation that may change a sheet.  Operations on files bring along the
    files that they find. -/
inductive Operation where
  | enter (name input : String)
  | clear (name : String)
  | load (read : FileReader) (path : String)
  | save (files : Files)
  | saveAs (files : Files) (path : String)
  | setPath (path : String)

/-- The sheet after an operation, successful or not. -/
def perform (s : Sheet) : Operation → Sheet
  | .enter name input => (s.enter name input).sheet
  | .clear name => (s.clear name).sheet
  | .load read path => (s.load read path).sheet
  | .save files => (s.save files).2.sheet
  | .saveAs files path => (s.saveAs files path).2.sheet
  | .setPath path => s.setPath path

/-- The sheet after a history. -/
def after (s : Sheet) (history : List Operation) : Sheet :=
  history.foldl perform s

variable {s t : Sheet}

/-! ### What an operation does -/

theorem legalName_of_isLegal {rules : NameRules} {name : String}
    (h : isLegal rules (rules.normalize name) = true) :
    legalName rules name = .ok (rules.normalize name) := by
  simp [legalName, h]

theorem legalName_of_not_isLegal {rules : NameRules} {name : String}
    (h : isLegal rules (rules.normalize name) = false) :
    legalName rules name = .error (.invalidName name) := by
  simp [legalName, h]

/-- Entering is committing, once the name and the input have been accepted. -/
theorem enter_cases (s : Sheet) (name input : String) :
    let cell := s.rules.normalize name
    (isLegal s.rules cell = false ∧ s.enter name input = ⟨s, .error (.invalidName name)⟩) ∨
    (isLegal s.rules cell = true ∧ ∃ e, Content.ofInput s.rules input = .error e ∧
      s.enter name input = ⟨s, .error (.formula e)⟩) ∨
    (isLegal s.rules cell = true ∧ ∃ content, Content.ofInput s.rules input = .ok content ∧
      s.enter name input = s.commit cell content) := by
  intro cell
  unfold enter
  cases hlegal : isLegal s.rules cell with
  | false =>
    rw [legalName_of_not_isLegal hlegal]
    exact .inl ⟨rfl, rfl⟩
  | true =>
    rw [legalName_of_isLegal hlegal]
    cases Content.ofInput s.rules input with
    | error e => exact .inr (.inl ⟨rfl, e, rfl, rfl⟩)
    | ok content => exact .inr (.inr ⟨rfl, content, rfl, rfl⟩)

/-- What is accepted has been committed. -/
theorem enter_eq_commit_of_ok {name input : String} {evaluated : Std.ExtTreeSet String}
    (hok : (s.enter name input).result = .ok evaluated) :
    isLegal s.rules (s.rules.normalize name) = true ∧
    ∃ content, Content.ofInput s.rules input = .ok content ∧
      s.enter name input = s.commit (s.rules.normalize name) content := by
  rcases s.enter_cases name input with ⟨-, heq⟩ | ⟨-, e, -, heq⟩ | hcommit
  · rw [heq] at hok
    exact nomatch hok
  · rw [heq] at hok
    exact nomatch hok
  · exact hcommit

/-- An input under a legal name is committed as the content that it is read as. -/
theorem enter_eq_commit {rules : NameRules} {name input : String} {content : Content}
    (hrules : s.rules = rules) (hlegal : isLegal rules (rules.normalize name) = true)
    (hinput : Content.ofInput rules input = .ok content) :
    s.enter name input = s.commit (rules.normalize name) content := by
  subst hrules
  rw [Sheet.enter, legalName_of_isLegal hlegal, hinput]

/-- What is held once an input has been accepted. -/
theorem contents_enter {rules : NameRules} {name input : String} {content : Content}
    {evaluated : Std.ExtTreeSet String} (hrules : s.rules = rules)
    (hlegal : isLegal rules (rules.normalize name) = true)
    (hinput : Content.ofInput rules input = .ok content)
    (hok : (s.enter name input).result = .ok evaluated) :
    contents (s.enter name input).sheet.cells =
      put (contents s.cells) (rules.normalize name) content := by
  rw [enter_eq_commit hrules hlegal hinput] at hok ⊢
  exact contents_commit hok

theorem clear_cases (s : Sheet) (name : String) :
    let cell := s.rules.normalize name
    (isLegal s.rules cell = false ∧ s.clear name = ⟨s, .error (.invalidName name)⟩) ∨
    (isLegal s.rules cell = true ∧ s.clear name = s.commit cell .empty) := by
  intro cell
  unfold clear
  cases hlegal : isLegal s.rules cell with
  | false =>
    rw [legalName_of_not_isLegal hlegal]
    exact .inl ⟨rfl, rfl⟩
  | true =>
    rw [legalName_of_isLegal hlegal]
    exact .inr ⟨rfl, rfl⟩

@[simp] theorem rules_commit (s : Sheet) (name : String) (content : Content) :
    (s.commit name content).sheet.rules = s.rules := by
  unfold commit
  dsimp only
  split <;> rfl

@[simp] theorem version_commit (s : Sheet) (name : String) (content : Content) :
    (s.commit name content).sheet.version = s.version := by
  unfold commit
  dsimp only
  split <;> rfl

@[simp] theorem path_commit (s : Sheet) (name : String) (content : Content) :
    (s.commit name content).sheet.path = s.path := by
  unfold commit
  dsimp only
  split <;> rfl

/-- The sheets differ at most in their file and in the mark for changes. -/
structure SameStore (s t : Sheet) : Prop where
  rules : t.rules = s.rules
  version : t.version = s.version
  cells : t.cells = s.cells
  graph : t.graph = s.graph

theorem SameStore.refl (s : Sheet) : SameStore s s :=
  ⟨rfl, rfl, rfl, rfl⟩

theorem sameStore_afterWriting (s : Sheet) (path : String) (written : Except FileError Unit) :
    SameStore s (s.afterWriting path written).sheet := by
  cases written <;> exact ⟨rfl, rfl, rfl, rfl⟩

theorem sameStore_saveAs (s : Sheet) (files : Files) (path : String) :
    SameStore s (s.saveAs files path).2.sheet := by
  unfold saveAs
  split
  · exact sameStore_afterWriting s path _
  · exact sameStore_afterWriting s path _

theorem sameStore_save (s : Sheet) (files : Files) : SameStore s (s.save files).2.sheet := by
  unfold save
  split
  · exact .refl s
  · exact sameStore_saveAs s files _

/-- Loading changes nothing, or it takes over what records make of an empty sheet. -/
theorem load_cases (s : Sheet) (read : FileReader) (path : String) :
    (s.load read path).sheet = s ∨
    ∃ records loaded, (new s.rules s.version).enterRecords records = .ok loaded ∧
      (s.load read path).sheet =
        { s with
          cells := loaded.cells
          graph := loaded.graph
          path := some path
          modified := false } := by
  unfold load
  split
  · exact .inl rfl
  · next loaded hloaded =>
    obtain ⟨saved, -, hsaved⟩ := exists_of_bind_eq_ok hloaded
    unfold ofSaved at hsaved
    split at hsaved
    · exact .inr ⟨saved.records, loaded, hsaved, rfl⟩
    · exact nomatch hsaved

/-- **What an operation does.**  It leaves the store alone, it commits what an
    input is read as under a legal name, or it loads records. -/
theorem perform_cases (s : Sheet) (operation : Operation) :
    SameStore s (s.perform operation) ∨
    (∃ name input content, isLegal s.rules (s.rules.normalize name) = true ∧
      Content.ofInput s.rules input = .ok content ∧
      s.perform operation = (s.commit (s.rules.normalize name) content).sheet) ∨
    (∃ records loaded path, (new s.rules s.version).enterRecords records = .ok loaded ∧
      s.perform operation =
        { s with
          cells := loaded.cells
          graph := loaded.graph
          path := some path
          modified := false }) := by
  cases operation with
  | enter name input =>
    rw [perform]
    rcases s.enter_cases name input with ⟨-, heq⟩ | ⟨-, e, -, heq⟩ | ⟨hlegal, content, hinput, heq⟩
    · rw [heq]
      exact .inl (.refl s)
    · rw [heq]
      exact .inl (.refl s)
    · exact .inr (.inl ⟨name, input, content, hlegal, hinput, by rw [heq]⟩)
  | clear name =>
    rw [perform]
    rcases s.clear_cases name with ⟨-, heq⟩ | ⟨hlegal, heq⟩
    · rw [heq]
      exact .inl (.refl s)
    · -- Empty input is entered as the empty content.
      exact .inr (.inl ⟨name, "", .empty, hlegal, rfl, by rw [heq]⟩)
  | load read path =>
    rw [perform]
    rcases s.load_cases read path with heq | ⟨records, loaded, hloaded, heq⟩
    · rw [heq]
      exact .inl (.refl s)
    · exact .inr (.inr ⟨records, loaded, path, hloaded, heq⟩)
  | save files => exact .inl (sameStore_save s files)
  | saveAs files path => exact .inl (sameStore_saveAs s files path)
  | setPath path => exact .inl ⟨rfl, rfl, rfl, rfl⟩

theorem rules_perform (s : Sheet) (operation : Operation) :
    (s.perform operation).rules = s.rules := by
  rcases s.perform_cases operation with hsame | ⟨_, _, _, -, -, heq⟩ | ⟨_, _, _, -, heq⟩
  · exact hsame.rules
  · rw [heq, rules_commit]
  · rw [heq]

theorem version_perform (s : Sheet) (operation : Operation) :
    (s.perform operation).version = s.version := by
  rcases s.perform_cases operation with hsame | ⟨_, _, _, -, -, heq⟩ | ⟨_, _, _, -, heq⟩
  · exact hsame.version
  · rw [heq, version_commit]
  · rw [heq]

theorem rules_after (s : Sheet) (history : List Operation) :
    (s.after history).rules = s.rules := by
  induction history generalizing s with
  | nil => rfl
  | cons operation history ih => exact (ih (s.perform operation)).trans (rules_perform s operation)

theorem version_after (s : Sheet) (history : List Operation) :
    (s.after history).version = s.version := by
  induction history generalizing s with
  | nil => rfl
  | cons operation history ih =>
    exact (ih (s.perform operation)).trans (version_perform s operation)

/-! ### Invariants -/

/-- A property of the store that the empty sheet has and that every commit
    keeps. -/
structure Invariant (P : Sheet → Prop) : Prop where
  same : ∀ {s t : Sheet}, SameStore s t → P s → P t
  new : ∀ rules version, P (Sheet.new rules version)
  commit : ∀ {s : Sheet} {name input : String} {content : Content}, P s →
    isLegal s.rules (s.rules.normalize name) = true →
    Content.ofInput s.rules input = .ok content →
    P (s.commit (s.rules.normalize name) content).sheet

namespace Invariant

variable {P : Sheet → Prop}

theorem enter (h : Invariant P) (hs : P s) (name input : String) :
    P (s.enter name input).sheet := by
  rcases s.enter_cases name input with ⟨-, heq⟩ | ⟨-, e, -, heq⟩ | ⟨hlegal, content, hinput, heq⟩
  · rwa [heq]
  · rwa [heq]
  · rw [heq]
    exact h.commit hs hlegal hinput

theorem enterRecords (h : Invariant P) (hs : P s) {records : List Record} {loaded : Sheet}
    (hloaded : s.enterRecords records = .ok loaded) :
    P loaded ∧ loaded.rules = s.rules ∧ loaded.version = s.version := by
  induction records generalizing s with
  | nil =>
    obtain rfl := Except.ok.inj hloaded
    exact ⟨hs, rfl, rfl⟩
  | cons record rest ih =>
    unfold Sheet.enterRecords at hloaded
    dsimp only at hloaded
    split at hloaded
    · exact nomatch hloaded
    · obtain ⟨hkept, hrules, hversion⟩ := ih (h.enter hs record.name record.input) hloaded
      refine ⟨hkept, hrules.trans ?_, hversion.trans ?_⟩
      · exact rules_perform s (.enter record.name record.input)
      · exact version_perform s (.enter record.name record.input)

theorem perform (h : Invariant P) (hs : P s) (operation : Operation) :
    P (s.perform operation) := by
  rcases s.perform_cases operation with
    hsame | ⟨name, input, content, hlegal, hinput, heq⟩ | ⟨records, loaded, path, hloaded, heq⟩
  · exact h.same hsame hs
  · rw [heq]
    exact h.commit hs hlegal hinput
  · obtain ⟨hkept, hrules, hversion⟩ := h.enterRecords (h.new s.rules s.version) hloaded
    rw [heq]
    exact h.same ⟨hrules.symm, hversion.symm, rfl, rfl⟩ hkept

/-- An invariant holds after every history. -/
theorem after (h : Invariant P) (rules : NameRules) (version : String)
    (history : List Operation) : P ((Sheet.new rules version).after history) := by
  suffices hall : ∀ s, P s → P (s.after history) from hall _ (h.new rules version)
  induction history with
  | nil => exact fun _ hs => hs
  | cons operation history ih => exact fun s hs => ih (s.perform operation) (h.perform hs operation)

end Invariant

/-! ### Coherence -/

theorem invariant_coherent : Invariant Coherent where
  same hsame h := h.congr hsame.rules hsame.cells hsame.graph
  new := coherent_new
  commit h hlegal _ := h.commit hlegal _

theorem coherent_after (rules : NameRules) (version : String) (history : List Operation) :
    ((new rules version).after history).Coherent :=
  invariant_coherent.after rules version history

/-- **No stale value**: after any history every cell has the value that its
    content evaluates to, given the values that all the others have. -/
theorem current_after (rules : NameRules) (version : String) (history : List Operation) :
    Current ((new rules version).after history).cells :=
  (coherent_after rules version history).current

/-- **The store and the graph**: after any history the edges are the variables
    of the stored formulas, no cell depends on itself, the names are legal and
    no cell is stored empty. -/
theorem store_and_graph_after (rules : NameRules) (version : String) (history : List Operation) :
    let s := (new rules version).after history
    (∃ edges, s.graph.Represents edges ∧
      ∀ v c, (v, c) ∈ edges ↔
        ∃ cell f, s.cells[c]? = some cell ∧ cell.content = .formula f ∧ v ∈ f.variableNames) ∧
    (∀ c, ¬ TransGen s.graph.Edge c c) ∧
    (∀ name ∈ s.cells, Name.isCell name = true ∧ rules.isValid name = true) ∧
    (∀ (name : String) (cell : Cell), s.cells[name]? = some cell → cell.content ≠ .text "") := by
  intro s
  have h : s.Coherent := coherent_after rules version history
  obtain ⟨edges, hrepresents, hedges⟩ := h.graph
  refine ⟨⟨edges, hrepresents, ?_⟩, ?_, ?_, ?_⟩
  · intro v c
    rw [hedges]
    simp only [Refers, getElem?_contents, Option.map_eq_some_iff]
    grind
  · rw [edge_eq_refers hrepresents hedges]
    exact h.acyclic
  · intro name hname
    have hlegal := h.legal name hname
    rwa [show s.rules = rules from rules_after _ history, isLegal, Bool.and_eq_true] at hlegal
  · intro name cell hcell htext
    have hfilled := h.filled name cell hcell
    rw [htext] at hfilled
    simp [Content.isEmpty] at hfilled

end Worksheet.Sheet
