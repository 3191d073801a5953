import Worksheet.Proofs.SavedSheet.FirstFault
import Worksheet.Proofs.Sheet.RecordOrder

/-! # Kinds of values in files

    A value is written as a formula, as a number, in quotes, or not at all, and
    a file that is read gives an input for each value.  The quotes are no part of
    this input.  So a sheet that loads the file does not see them, and tells from
    the input alone whether a cell gets a formula, a number or a text.  For what
    is written without quotes this makes no difference.  For what is written in
    quotes it does: the cell gets the text exactly if the text, entered by hand,
    would be a text. -/

namespace Worksheet.Sheet

open Relation
open SavedSheet (IsRecordLine HasParts Gives HoldsRecord unescape)
open Content (formulaMarker IsPlain)

variable {s : Sheet} {rules : NameRules} {records : List Record} {record : Record}
  {read : FileReader} {path text name input : String} {value raw : List Char}

/-! ### What an input is held as -/

/-- What is held for an input, by the kind of the input. -/
structure IsHeldFor (rules : NameRules) (raw : List Char) (held : Option Content) : Prop where
  number : ∀ value, Number.ofText? (Text.trim raw) = some value → held = some (.number value)
  formula : ∀ rest, raw = formulaMarker :: rest →
    ∃ f, (Formula.parse rules (String.ofList rest)).result = .ok f ∧ held = some (.formula f)
  plain : IsPlain (String.ofList raw) → held = stored (.text (String.ofList raw))

/-- What is stored for a text is the text or nothing. -/
theorem eq_text_of_stored {value : String} {content : Content}
    (h : stored (.text value) = some content) : content = .text value := by
  unfold stored at h
  split at h
  · exact nomatch h
  · exact (Option.some.inj h).symm

theorem isHeldFor_stored {content : Content}
    (h : Content.ofInput rules (String.ofList raw) = .ok content) :
    IsHeldFor rules raw (stored content) where
  number number hnumber := by
    have hentered : Content.ofInput rules (String.ofList raw) = .ok (.number number) :=
      Content.ofInput_of_number (by rwa [String.toList_ofList])
    obtain rfl := Except.ok.inj (h.symm.trans hentered)
    rfl
  formula rest hraw := by
    rw [Content.ofInput_of_formulaMarker (by rw [String.toList_ofList, hraw])] at h
    cases hf : (Formula.parse rules (String.ofList rest)).result with
    | error e =>
      rw [hf] at h
      exact nomatch h
    | ok f =>
      rw [hf] at h
      obtain rfl := Except.ok.inj h
      exact ⟨f, rfl, rfl⟩
  plain hplain := by
    obtain rfl := Except.ok.inj (h.symm.trans (Content.ofInput_of_isPlain hplain))
    rfl

theorem isPlain_empty : IsPlain "" :=
  ⟨by decide, by decide⟩

/-- Only a plain input is held as its own text. -/
theorem IsHeldFor.eq_text_iff {held : Option Content} (h : IsHeldFor rules raw held) :
    held = stored (.text (String.ofList raw)) ↔ IsPlain (String.ofList raw) := by
  refine ⟨fun heq => ?_, h.plain⟩
  rcases Content.input_cases (String.ofList raw) with ⟨number, hnumber⟩ | ⟨rest, hrest⟩ | hplain
  · rw [String.toList_ofList] at hnumber
    exact nomatch eq_text_of_stored (heq.symm.trans (h.number number hnumber))
  · rw [String.toList_ofList] at hrest
    obtain ⟨f, -, hf⟩ := h.formula rest hrest
    exact nomatch eq_text_of_stored (heq.symm.trans hf)
  · exact hplain

/-! ### Loading records -/

/-- What a loaded sheet holds for a record. -/
theorem exists_held_of_load (hread : read.text path = .ok text)
    (hparse : SavedSheet.parse text = .ok ⟨s.version, records⟩)
    (hnames : (records.map fun record => s.rules.normalize record.name).Nodup)
    (hok : (s.load read path).result = .ok ()) (hrecord : record ∈ records) :
    ∃ content, Content.ofInput s.rules record.input = .ok content ∧
      (contents (s.load read path).sheet.cells)[s.rules.normalize record.name]? =
        stored content := by
  obtain ⟨loaded, hloaded⟩ := (load_ok_iff_enterRecords hread hparse).mp hok
  obtain ⟨haccepted, -, hheld⟩ := of_enterRecords_new hloaded
  obtain ⟨content, hinput⟩ := (haccepted record hrecord).wellFormed
  refine ⟨content, hinput, ?_⟩
  rw [load_of_parse hread hparse rfl, hloaded]
  dsimp only
  rw [hheld, recordContents, getElem?_foldl_putRecord hnames hrecord hinput]

/-- Without formulas nothing is refused but a name. -/
theorem load_ok_of_no_formula (hread : read.text path = .ok text)
    (hparse : SavedSheet.parse text = .ok ⟨s.version, records⟩)
    (hnames : (records.map fun record => s.rules.normalize record.name).Nodup)
    (haccepted : ∀ record ∈ records, IsAccepted s.rules record)
    (hnone : ∀ record ∈ records, ∀ f, Content.ofInput s.rules record.input ≠ .ok (.formula f)) :
    (s.load read path).result = .ok () := by
  have hacyclic : ∀ c, ¬ TransGen (RecordRefers s.rules records) c c := by
    intro c hcycle
    obtain ⟨v, ⟨record, hrecord, -, f, hf, -⟩, -⟩ := TransGen.head'_iff.mp hcycle
    exact hnone record hrecord f hf
  have hentered := (enterRecords_new_ok_iff s.rules s.version hnames).mpr ⟨haccepted, hacyclic⟩
  exact (load_ok_iff_enterRecords hread hparse).mpr hentered

/-- A single record that is no formula is loaded. -/
theorem load_ok_of_single {content : Content} (hread : read.text path = .ok text)
    (hparse : SavedSheet.parse text = .ok ⟨s.version, [record]⟩)
    (hlegal : isLegal s.rules (s.rules.normalize record.name) = true)
    (hinput : Content.ofInput s.rules record.input = .ok content)
    (hcontent : ∀ f, content ≠ .formula f) : (s.load read path).result = .ok () := by
  refine load_ok_of_no_formula hread hparse (List.nodup_singleton _) ?_ ?_
  · exact List.forall_mem_singleton.mpr ⟨hlegal, content, hinput⟩
  · refine List.forall_mem_singleton.mpr fun f hf => hcontent f ?_
    exact Except.ok.inj (hinput.symm.trans hf)

/-- Entering fails with a formula error only if the input is malformed. -/
theorem ofInput_of_enter_formula {e : FormulaError}
    (h : (s.enter name input).result = .error (.formula e)) :
    Content.ofInput s.rules input = .error e := by
  rcases s.enter_cases name input with ⟨-, heq⟩ | ⟨-, found, hinput, heq⟩ | ⟨-, content, -, heq⟩
  · rw [heq] at h
    cases h
  · rw [heq] at h
    cases h
    exact hinput
  · -- A content that is refused is refused as circular.
    rw [heq, commit] at h
    dsimp only at h
    split at h <;> cases h

/-- What begins with the formula marker only can be malformed. -/
theorem exists_formula_of_ofInput {e : FormulaError} (h : Content.ofInput rules input = .error e) :
    ∃ rest, input.toList = formulaMarker :: rest ∧
      (Formula.parse rules (String.ofList rest)).result = .error e := by
  rcases Content.input_cases input with ⟨number, hnumber⟩ | ⟨rest, hrest⟩ | hplain
  · exact nomatch h.symm.trans (Content.ofInput_of_number hnumber)
  · rw [Content.ofInput_of_formulaMarker hrest] at h
    cases hf : (Formula.parse rules (String.ofList rest)).result with
    | error found =>
      rw [hf] at h
      cases h
      exact ⟨rest, hrest, hf⟩
    | ok f =>
      rw [hf] at h
      exact nomatch h
  · exact nomatch h.symm.trans (Content.ofInput_of_isPlain hplain)

/-! ### Written values -/

/-- A line of the text has this value for this name, as they are written. -/
def IsWritten (text name : String) (value : List Char) : Prop :=
  ∃ line ∈ Text.lines text.toList, IsRecordLine line ∧ HasParts line name.toList value

/-- A value that is written in an accepted text gives the input of a record. -/
theorem IsWritten.exists_record {saved : SavedSheet} (h : IsWritten text name value)
    (hparse : SavedSheet.parse text = .ok saved) :
    ∃ input, Gives value input ∧ ⟨name, input⟩ ∈ saved.records := by
  obtain ⟨line, hmem, hline, hparts⟩ := h
  -- Without a name or an input the line would be malformed.
  have hname : name.toList ≠ [] := by
    intro hempty
    rw [hempty] at hparts
    exact SavedSheet.not_isMalformed_of_parse hparse hmem (.noName hline hparts)
  have hvalue : ∃ input, Gives value input := by
    by_contra hnone
    exact SavedSheet.not_isMalformed_of_parse hparse hmem
      (.badValue hline hparts hname (not_exists.mp hnone))
  obtain ⟨input, hinput⟩ := hvalue
  have hrecord := HoldsRecord.intro hline hparts hname hinput
  rw [String.ofList_toList] at hrecord
  exact ⟨input, hinput, (SavedSheet.mem_records_iff hparse).mpr ⟨line, hmem, hrecord⟩⟩

theorem IsWritten.trim_eq (h : IsWritten text name value) : Text.trim value = value := by
  obtain ⟨line, -, -, front, back, -, -, -, rfl⟩ := h
  exact Text.trim_trim back

/-- A record of an accepted text has been written. -/
theorem exists_isWritten {saved : SavedSheet} (hparse : SavedSheet.parse text = .ok saved)
    (hrecord : record ∈ saved.records) :
    ∃ value, IsWritten text record.name value ∧ Gives value record.input := by
  obtain ⟨line, hmem, hholds⟩ := (SavedSheet.mem_records_iff hparse).mp hrecord
  obtain ⟨hline, hparts, hname, hvalue⟩ := hholds
  refine ⟨_, ⟨line, hmem, hline, ?_⟩, hvalue⟩
  rwa [String.toList_ofList]

/-- A line that holds a record has a value for its name. -/
theorem isWritten_of_line {line : List Char} (hmem : line ∈ Text.lines text.toList)
    (hread : SavedSheet.readLine line = .ok (.record record))
    (hparts : HasParts line name.toList value) : IsWritten text name value := by
  cases SavedSheet.readLine_eq_record_iff.mp hread with
  | intro hline => exact ⟨line, hmem, hline, hparts⟩

/-- What a loaded sheet holds for a written value is told from its input. -/
theorem IsWritten.isHeldFor (h : IsWritten text name value) (hgives : Gives value input)
    (hread : read.text path = .ok text)
    (hparse : SavedSheet.parse text = .ok ⟨s.version, records⟩)
    (hnames : (records.map fun record => s.rules.normalize record.name).Nodup)
    (hok : (s.load read path).result = .ok ()) :
    IsHeldFor s.rules input.toList
      (contents (s.load read path).sheet.cells)[s.rules.normalize name]? := by
  obtain ⟨found, hfound, hrecord⟩ := h.exists_record hparse
  obtain rfl := hfound.unique hgives h.trim_eq
  obtain ⟨content, hinput, hheld⟩ := exists_held_of_load hread hparse hnames hok hrecord
  rw [hheld]
  exact isHeldFor_stored (by rwa [String.ofList_toList])

/-- An input begins with the formula marker because the value does, or what is
    escaped in its quotes. -/
theorem eq_or_quoted_of_gives {rest : List Char} (h : Gives value input)
    (hinput : input.toList = formulaMarker :: rest) :
    value = formulaMarker :: rest ∨
      ∃ quoted, value = '"' :: quoted ++ ['"'] ∧ unescape quoted = formulaMarker :: rest := by
  cases h with
  | nothing => exact nomatch hinput
  | quoted hvalue => exact .inr ⟨_, hvalue, by rwa [String.toList_ofList] at hinput⟩
  | formula | number => exact .inl (by rwa [String.toList_ofList] at hinput)

/-- **Written kinds**: after a file with records for different cells has been
    loaded, what was written as a formula is held as this formula, a number as
    this number, and for nothing nothing is held.  What was written in quotes is
    held as if it had been entered without them: as the text between the quotes
    exactly if this is plain, and otherwise as a number or a formula.  If a
    formula is the reason that the file cannot be loaded, it was written as one or
    stands in quotes. -/
theorem load_written_kinds (hread : read.text path = .ok text)
    (hparse : SavedSheet.parse text = .ok ⟨s.version, records⟩)
    (hnames : (records.map fun record => s.rules.normalize record.name).Nodup) :
    ((s.load read path).result = .ok () → ∀ name value, IsWritten text name value →
      let held := (contents (s.load read path).sheet.cells)[s.rules.normalize name]?
      (value = [] → held = none) ∧
      (∀ number, Number.ofText? value = some number → held = some (.number number)) ∧
      (∀ rest, value = formulaMarker :: rest →
        ∃ f, (Formula.parse s.rules (String.ofList rest)).result = .ok f ∧
          held = some (.formula f)) ∧
      ∀ quoted, value = '"' :: quoted ++ ['"'] →
        IsHeldFor s.rules (unescape quoted) held ∧
        (held = stored (.text (String.ofList (unescape quoted))) ↔
          IsPlain (String.ofList (unescape quoted)))) ∧
    ∀ name e, (s.load read path).result = .error (.load name (.formula e)) →
      ∃ value rest, IsWritten text name value ∧
        (value = formulaMarker :: rest ∨
          ∃ quoted, value = '"' :: quoted ++ ['"'] ∧ unescape quoted = formulaMarker :: rest) ∧
        (Formula.parse s.rules (String.ofList rest)).result = .error e := by
  constructor
  · intro hok name value hwritten held
    have hheld : ∀ input, Gives value input → IsHeldFor s.rules input.toList held :=
      fun input hgives => hwritten.isHeldFor hgives hread hparse hnames hok
    refine ⟨fun hvalue => ?_, fun number hnumber => ?_, fun rest hvalue => ?_,
      fun quoted hvalue => ?_⟩
    · exact (hheld "" (.nothing hvalue)).plain isPlain_empty
    · have hgives : Gives value (String.ofList value) :=
        .number (Option.isSome_of_eq_some hnumber)
      apply (hheld _ hgives).number
      rwa [String.toList_ofList, hwritten.trim_eq]
    · have hgives : Gives value (String.ofList value) := .formula (by rw [hvalue, List.head?_cons])
      apply (hheld _ hgives).formula
      rw [String.toList_ofList, hvalue]
    · have hquoted := hheld _ (.quoted hvalue)
      rw [String.toList_ofList] at hquoted
      exact ⟨hquoted, hquoted.eq_text_iff⟩
  · intro name e herror
    have hrefused := (load_error_iff_enterRecords hread hparse).mp herror
    obtain ⟨record, hrecord, t, cause, hrules, hcause, heq⟩ :=
      exists_refused_of_enterRecords hrefused
    obtain ⟨rfl, rfl⟩ := SheetError.load.inj heq
    have hinput := ofInput_of_enter_formula hcause
    rw [hrules] at hinput
    obtain ⟨rest, hrest, hformula⟩ := exists_formula_of_ofInput hinput
    -- The record that is refused has been written, and its input begins with the marker.
    obtain ⟨value, hwritten, hgives⟩ := exists_isWritten hparse hrecord
    exact ⟨value, rest, hwritten, eq_or_quoted_of_gives hgives hrest, hformula⟩

/-- A text in quotes that is held as a text. -/
theorem load_written_kinds_plain :
    let text := "@version default\nA1: \"4 2\"\n"
    let records : List Record := [⟨"A1", "4 2"⟩]
    let outcome := plain.load (fun _ => .ok (.text text)) "sheet"
    SavedSheet.parse text = .ok ⟨plain.version, records⟩ ∧
      (records.map fun record => plain.rules.normalize record.name).Nodup ∧
      outcome.result = .ok () ∧
      (contents outcome.sheet.cells)["A1"]? = some (.text "4 2") := by
  intro text records outcome
  have hread : FileReader.text (fun _ => .ok (.text text)) "sheet" = .ok text := rfl
  have hparse : SavedSheet.parse text = .ok ⟨plain.version, records⟩ := by decide +kernel
  have hnames : (records.map fun record => plain.rules.normalize record.name).Nodup := by decide
  have hentered : Content.ofInput plain.rules "4 2" = .ok (.text "4 2") := by decide +kernel
  have hok : outcome.result = .ok () := load_ok_of_single hread hparse (by decide) hentered nofun
  have hline : SavedSheet.readLine "A1: \"4 2\"".toList = .ok (.record ⟨"A1", "4 2"⟩) := by
    decide +kernel
  have hwritten : IsWritten text "A1" "\"4 2\"".toList :=
    isWritten_of_line (by decide +kernel) hline
      ⟨"A1".toList, " \"4 2\"".toList, by decide +kernel, by decide, by decide, by decide⟩
  obtain ⟨-, -, -, hquoted⟩ := (load_written_kinds hread hparse hnames).1 hok _ _ hwritten
  exact ⟨hparse, hnames, hok, (hquoted "4 2".toList (by decide)).2.mpr ⟨by decide +kernel, by decide⟩⟩

/-- Quotes do not make a text of what they enclose: a number in them is loaded as
    a number, and what is no formula makes the load fail. -/
theorem load_quoted_number_and_formula :
    let number := "@version default\nA1: \"42\"\n"
    let formula := "@version default\nA1: \"=1+\"\n"
    let load (text : String) := plain.load (fun _ => .ok (.text text)) "sheet"
    (IsWritten number "A1" "\"42\"".toList ∧ (load number).result = .ok () ∧
      (contents (load number).sheet.cells)["A1"]? = some (.number 42)) ∧
    IsWritten formula "A1" "\"=1+\"".toList ∧
      (load formula).result = .error (.load "A1" (.formula (.invalidEnd "+"))) := by
  intro number formula load
  have hnumber : FileReader.text (fun _ => .ok (.text number)) "sheet" = .ok number := rfl
  have hformula : FileReader.text (fun _ => .ok (.text formula)) "sheet" = .ok formula := rfl
  have hparseNumber : SavedSheet.parse number = .ok ⟨plain.version, [⟨"A1", "42"⟩]⟩ := by
    decide +kernel
  have hparseFormula : SavedSheet.parse formula = .ok ⟨plain.version, [⟨"A1", "=1+"⟩]⟩ := by
    decide +kernel
  have hentered : Content.ofInput plain.rules "42" = .ok (.number 42) := by decide +kernel
  have hok : (load number).result = .ok () :=
    load_ok_of_single hnumber hparseNumber (by decide) hentered nofun
  have hlineNumber : SavedSheet.readLine "A1: \"42\"".toList = .ok (.record ⟨"A1", "42"⟩) := by
    decide +kernel
  have hlineFormula : SavedSheet.readLine "A1: \"=1+\"".toList =
      .ok (.record ⟨"A1", "=1+"⟩) := by
    decide +kernel
  refine ⟨⟨?_, hok, ?_⟩, ?_, ?_⟩
  · exact isWritten_of_line (by decide +kernel) hlineNumber
      ⟨"A1".toList, " \"42\"".toList, by decide +kernel, by decide, by decide, by decide⟩
  · obtain ⟨content, hinput, hheld⟩ := exists_held_of_load hnumber hparseNumber
      (List.nodup_singleton _) hok List.mem_cons_self
    obtain rfl := Except.ok.inj (hinput.symm.trans hentered)
    exact hheld
  · exact isWritten_of_line (by decide +kernel) hlineFormula
      ⟨"A1".toList, " \"=1+\"".toList, by decide +kernel, by decide, by decide, by decide⟩
  · have hrefused : Content.ofInput plain.rules "=1+" = .error (.invalidEnd "+") := by
      decide +kernel
    have henter : (plain.enter "A1" "=1+").result = .error (.formula (.invalidEnd "+")) :=
      ((coherent_new _ _).enter_formula_iff _ _ _).mpr ⟨by decide, hrefused⟩
    exact (load_error_iff_enterRecords hformula hparseFormula).mpr
      (enterRecords_cons_of_error henter)

end Worksheet.Sheet
