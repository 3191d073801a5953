import Worksheet.Proofs.SavedSheet.LineForms
import Worksheet.SavedSheet.Writer

/-! # Saved sheets are read back

    What is written for a version and some cells is read as this version and
    one record for each cell, in order.  The three kinds of lines are told apart
    by how they begin: a comment by its mark, the version by its own, and a
    record by the letter of a cell name.  A text may contain anything, since it
    is escaped to one line, and behind the first colon of a record nothing is
    taken for a name. -/

namespace Worksheet.SavedSheet

/-! ### Escaped text -/

theorem unescape_cons_of_ne {c : Char} (h : c ≠ '\\') (cs : List Char) :
    unescape (c :: cs) = c :: unescape cs := by
  cases cs with
  | nil => rfl
  | cons d cs => rw [unescape, if_neg h]

/-- An escaped text is read as the text itself, and what stands behind it is read
    on its own, since no escape is left open. -/
theorem unescape_escape_append (cs rest : List Char) :
    unescape (escape cs ++ rest) = cs ++ unescape rest := by
  induction cs with
  | nil => rfl
  | cons c cs ih =>
    have hcons : escape (c :: cs) ++ rest = escapeChar c ++ (escape cs ++ rest) := by
      rw [escape, List.flatMap_cons, List.append_assoc, escape]
    by_cases hbackslash : c = '\\'
    · subst hbackslash
      simp [hcons, escapeChar, unescape, unescapeChar, ih]
    by_cases hquote : c = '"'
    · subst hquote
      simp [hcons, escapeChar, unescape, unescapeChar, ih]
    by_cases hnewline : c = '\n'
    · subst hnewline
      simp [hcons, escapeChar, unescape, unescapeChar, ih]
    · have hplain : escapeChar c = [c] := by simp [escapeChar, hbackslash, hquote, hnewline]
      rw [hcons, hplain, List.singleton_append, unescape_cons_of_ne hbackslash, ih,
        List.cons_append]

/-- Escaping loses nothing. -/
theorem unescape_escape (cs : List Char) : unescape (escape cs) = cs := by
  have h := unescape_escape_append cs []
  rwa [unescape, List.append_nil, List.append_nil] at h

/-- An escaped text stands on one line. -/
theorem newline_not_mem_escape (cs : List Char) : '\n' ∉ escape cs := by
  intro h
  obtain ⟨c, -, hc⟩ := List.mem_flatMap.mp h
  unfold escapeChar at hc
  split at hc
  · exact absurd hc (by decide)
  · split at hc
    · exact absurd hc (by decide)
    · split at hc
      · exact absurd hc (by decide)
      · next hother => exact hother (List.mem_singleton.mp hc).symm

/-! ### Values -/

variable {content : Content}

theorem toList_writeValue_text (value : String) :
    (writeValue (.text value)).toList = '"' :: escape value.toList ++ ['"'] := by
  simp [writeValue]

/-- A saved value is trimmed to itself. -/
theorem trim_writeValue (h : content.IsWritable) :
    Text.trim (writeValue content).toList = (writeValue content).toList := by
  cases content with
  | number value =>
    exact Text.trim_eq_self_of_not_isBlank fun _ => Content.not_isBlank_of_mem_canonical h
  | formula f =>
    exact Text.trim_eq_self_of_not_isBlank fun _ => Content.not_isBlank_of_mem_input_formula h
  | text value =>
    have hquote : Text.isBlank '"' = false := by decide
    rw [toList_writeValue_text]
    apply Text.trim_eq_self
    · intro c hc
      rw [← Option.some.inj hc, hquote]
    · intro c hc
      rw [List.getLast?_concat] at hc
      rw [← Option.some.inj hc, hquote]

/-- **Values read back**: a saved value gives the input of its content. -/
theorem gives_writeValue (h : content.IsWritable) :
    Gives (writeValue content).toList content.input := by
  cases content with
  | number value =>
    have hread := Number.ofText?_canonical h
    have hgives : Gives (Number.canonical value).toList _ := .number (by rw [hread]; rfl)
    rwa [String.ofList_toList] at hgives
  | text value =>
    have hgives : Gives (writeValue (.text value)).toList _ :=
      .quoted (toList_writeValue_text value)
    rwa [unescape_escape, String.ofList_toList] at hgives
  | formula f =>
    have hgives : Gives (Content.input (.formula f)).toList _ :=
      .formula (by rw [Content.toList_input_formula, List.head?_cons])
    rwa [String.ofList_toList] at hgives

/-- A saved value stands on one line. -/
theorem newline_not_mem_writeValue (h : content.IsWritable) :
    '\n' ∉ (writeValue content).toList := by
  have hblank : Text.isBlank '\n' = true := by decide
  intro hnewline
  cases content with
  | number value =>
    rw [Content.not_isBlank_of_mem_canonical h hnewline] at hblank
    exact nomatch hblank
  | formula f =>
    rw [Content.not_isBlank_of_mem_input_formula h hnewline] at hblank
    exact nomatch hblank
  | text value =>
    rw [toList_writeValue_text] at hnewline
    simp [newline_not_mem_escape] at hnewline

/-! ### Lines -/

/-- The line of a cell. -/
def recordLine (cell : String × Content) : String :=
  cell.1 ++ ": " ++ writeValue cell.2

theorem readLine_heading : readLine heading.toList = .ok .skipped := by
  decide

/-- The version is held as it is, if it has no blanks at its ends. -/
theorem holdsVersion_version {version : String} (h : Text.trim version.toList = version.toList) :
    HoldsVersion (versionMark ++ " " ++ version).toList version := by
  by_cases hempty : version = ""
  · -- The blank behind the mark is at the end of the line then.
    subst hempty
    exact ⟨[], by decide, rfl, by decide⟩
  · have hline : (versionMark ++ " " ++ version).toList =
        versionMark.toList ++ [' '] ++ version.toList := by
      simp
    have htrim : Text.trim (versionMark.toList ++ [' '] ++ version.toList) =
        versionMark.toList ++ [' '] ++ version.toList :=
      Text.trim_append_eq_self (show _ = some '@' by decide) (by decide)
        (mt String.toList_eq_nil_iff.mp hempty) h
    refine ⟨' ' :: version.toList, ?_, by simp [Text.isBlank], ?_⟩
    · rw [hline, htrim, List.append_assoc, List.singleton_append]
    · rw [Text.trim_cons_of_isBlank (by decide), h, String.ofList_toList]

theorem toList_eq_letters_append_number (name : String) :
    name.toList = Name.letters name ++ Name.number name :=
  List.takeWhile_append_dropWhile.symm

/-- A cell name begins with a letter. -/
theorem exists_cons_of_isCell {name : String} (h : Name.isCell name = true) :
    ∃ c cs, name.toList = c :: cs ∧ c.isAlpha = true := by
  simp only [Name.isCell, Bool.and_eq_true, decide_eq_true_eq] at h
  obtain ⟨c, cs, hcons⟩ := List.exists_cons_of_ne_nil h.1.1
  refine ⟨c, cs ++ Name.number name, ?_, ?_⟩
  · rw [toList_eq_letters_append_number, hcons, List.cons_append]
  · exact List.mem_takeWhile_imp (hcons ▸ List.mem_cons_self : c ∈ Name.letters name)

/-- A cell name has letters and digits only. -/
theorem isPart_of_isCell {name : String} (h : Name.isCell name = true) {c : Char}
    (hc : c ∈ name.toList) : Name.isPart c = true := by
  simp only [Name.isCell, Bool.and_eq_true, List.all_eq_true] at h
  rw [toList_eq_letters_append_number] at hc
  rcases List.mem_append.mp hc with hc | hc
  · have halpha : c.isAlpha = true := List.mem_takeWhile_imp hc
    simp [Name.isPart, Char.isAlphanum, halpha]
  · exact Formula.isPart_of_isDigit (h.2 c hc)

theorem writeValue_ne_nil (h : content.IsWritable) : (writeValue content).toList ≠ [] := by
  intro hnil
  cases content with
  | number value =>
    have hread := Number.ofText?_canonical h
    have hcanonical : (Number.canonical value).toList = [] := hnil
    rw [hcanonical] at hread
    exact nomatch hread
  | text value => simp [toList_writeValue_text] at hnil
  | formula f =>
    have hinput : (Content.input (.formula f)).toList = [] := hnil
    rw [Content.toList_input_formula] at hinput
    exact nomatch hinput

theorem toList_recordLine (name : String) (content : Content) :
    (recordLine (name, content)).toList =
      name.toList ++ [':', ' '] ++ (writeValue content).toList := by
  simp [recordLine]

theorem trim_recordLine {name : String} (hname : Name.isCell name = true)
    (h : content.IsWritable) :
    Text.trim (recordLine (name, content)).toList = (recordLine (name, content)).toList := by
  obtain ⟨first, others, hcons, -⟩ := exists_cons_of_isCell hname
  have hblank : Text.isBlank first = false :=
    Formula.not_isBlank_of_isPart (isPart_of_isCell hname (by simp [hcons]))
  rw [toList_recordLine]
  exact Text.trim_append_eq_self (by simp [hcons]) hblank (writeValue_ne_nil h)
    (trim_writeValue h)

/-- The letter that begins a record begins neither a comment nor the line of the
    version. -/
theorem isRecordLine_recordLine {name : String} (hname : Name.isCell name = true)
    (h : content.IsWritable) : IsRecordLine (recordLine (name, content)).toList := by
  obtain ⟨first, others, hcons, hfirst⟩ := exists_cons_of_isCell hname
  have hline : Text.trim (recordLine (name, content)).toList =
      first :: (others ++ [':', ' '] ++ (writeValue content).toList) := by
    rw [trim_recordLine hname h, toList_recordLine, hcons]
    rfl
  constructor
  · rw [IsSkipped, hline]
    rintro (hnil | hcomment)
    · exact absurd hnil (List.cons_ne_nil _ _)
    · obtain rfl := Option.some.inj hcomment
      exact absurd hfirst (by decide)
  · rintro tag ⟨rest, hmark, -, -⟩
    have hother : first = '@' := (List.cons.inj (hline.symm.trans hmark)).1
    subst hother
    exact absurd hfirst (by decide)

/-- **Records read back**: the line of a cell holds its name and the input of its
    content.  The name has no colon, so it ends at the first one. -/
theorem holdsRecord_recordLine {name : String} (hname : Name.isCell name = true)
    (h : content.IsWritable) :
    HoldsRecord (recordLine (name, content)).toList ⟨name, content.input⟩ := by
  have hcolon : ':' ∉ name.toList :=
    fun hmem => absurd (isPart_of_isCell hname hmem) (by decide)
  have htrim : Text.trim name.toList = name.toList :=
    Text.trim_eq_self_of_not_isBlank fun c hc =>
      Formula.not_isBlank_of_isPart (isPart_of_isCell hname hc)
  have hvalue : Text.trim (' ' :: (writeValue content).toList) = (writeValue content).toList := by
    rw [Text.trim_cons_of_isBlank (by decide), trim_writeValue h]
  have hparts : HasParts (recordLine (name, content)).toList name.toList
      (writeValue content).toList := by
    refine ⟨name.toList, ' ' :: (writeValue content).toList, ?_, hcolon, htrim, hvalue⟩
    rw [trim_recordLine hname h, toList_recordLine, List.append_assoc]
    rfl
  have hne : name.toList ≠ [] := by
    obtain ⟨first, others, hcons, -⟩ := exists_cons_of_isCell hname
    rw [hcons]
    exact List.cons_ne_nil first others
  have hholds := HoldsRecord.intro (isRecordLine_recordLine hname h) hparts hne
    (gives_writeValue h)
  rwa [String.ofList_toList] at hholds

/-! ### The whole file -/

variable {version : String} {cells : List (String × Content)}

/-- The lines of the records are read as records. -/
theorem readLines_recordLines (h : ∀ cell ∈ cells, Name.isCell cell.1 = true ∧ cell.2.IsWritable)
    (number : Nat) :
    readLines number (some version) (cells.map (fun cell => (recordLine cell).toList) ++ [[]]) =
      .ok ⟨version, cells.map fun cell => ⟨cell.1, cell.2.input⟩⟩ := by
  induction cells generalizing number with
  | nil => rfl
  | cons cell cells ih =>
    obtain ⟨hname, hwritable⟩ := h cell (by simp)
    have hrest := ih (fun other hother => h other (List.mem_cons_of_mem _ hother)) (number + 1)
    have hline := readLine_of_holdsRecord (holdsRecord_recordLine hname hwritable)
    rw [List.map_cons, List.cons_append, readLines, hline]
    dsimp only
    rw [hrest]
    rfl

theorem newline_not_mem_recordLine {cell : String × Content} (hname : Name.isCell cell.1 = true)
    (h : cell.2.IsWritable) : '\n' ∉ (recordLine cell).toList := by
  intro hnewline
  have hmem : '\n' ∈ cell.1.toList := by
    simpa [recordLine, newline_not_mem_writeValue h] using hnewline
  exact absurd (isPart_of_isCell hname hmem) (by decide)

/-- **Saved sheets read back**: a version without blanks at its ends and
    without a line feed, and cells under cell names, are read as they were
    written. -/
theorem parse_write (htrim : Text.trim version.toList = version.toList)
    (hline : '\n' ∉ version.toList)
    (h : ∀ cell ∈ cells, Name.isCell cell.1 = true ∧ cell.2.IsWritable) :
    parse (write version cells) =
      .ok ⟨version, cells.map fun cell => ⟨cell.1, cell.2.input⟩⟩ := by
  have hlines : (write version cells).toList =
      (heading.toList :: (versionMark ++ " " ++ version).toList ::
        cells.map fun cell => (recordLine cell).toList).flatMap (· ++ ['\n']) := by
    simp [write, recordLine, List.flatMap_map, Function.comp_def]
  have hsplit : Text.split '\n' (write version cells).toList =
      (heading.toList :: (versionMark ++ " " ++ version).toList ::
        cells.map fun cell => (recordLine cell).toList) ++ [[]] := by
    rw [hlines]
    apply Text.split_flatMap
    intro line hmem
    simp only [List.mem_cons, List.mem_map] at hmem
    rcases hmem with rfl | rfl | ⟨cell, hcell, rfl⟩
    · decide
    · simp [versionMark, hline]
    · exact newline_not_mem_recordLine (h cell hcell).1 (h cell hcell).2
  rw [parse, hsplit, List.cons_append, List.cons_append, readLines, readLine_heading]
  dsimp only
  rw [readLines, readLine_of_holdsVersion (holdsVersion_version htrim)]
  exact readLines_recordLines h _

end Worksheet.SavedSheet
