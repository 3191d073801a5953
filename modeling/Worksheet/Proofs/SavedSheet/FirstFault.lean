import Worksheet.Proofs.SavedSheet.LineForms
import Worksheet.Proofs.SavedSheet.Lines
import Worksheet.Proofs.Text.Lines

/-! # Saved sheets are judged line by line

    A text is accepted if none of its lines is malformed and exactly one of them
    holds the version, and its records are those of its lines.  Otherwise it is
    the first line at fault that is reported, or the lack of a version if there
    is no such line.  A line is at fault by what stands in it or, if it holds the
    version, by a version that a line before it holds.  So nothing behind the
    first line at fault makes a difference. -/

namespace Worksheet.SavedSheet

variable {line : List Char} {lines front before : List (List Char)} {number : Nat}
  {tag : String} {tags : List String} {record : Record} {records : List Record}
  {fault : Fault} {e : ParseError}

/-! ### The lines of a text -/

theorem readLine_congr {other : List Char} (h : Text.trim line = Text.trim other) :
    readLine line = readLine other := by
  unfold readLine
  rw [h]

/-- Neither the carriage returns at the ends of lines count, nor a line behind the
    last line feed that is empty. -/
theorem readLines_linesOfParts (number : Nat) (version : Option String)
    (parts : List (List Char)) :
    readLines number version (Text.linesOfParts parts) = readLines number version parts := by
  induction parts generalizing number version with
  | nil => rfl
  | cons part parts ih =>
    cases parts with
    | nil =>
      rw [Text.linesOfParts]
      split
      · next hempty =>
        subst hempty
        cases version <;> rfl
      · rfl
    | cons next parts =>
      rw [Text.linesOfParts, readLines, readLines, readLine_congr (Text.trim_withoutReturn part)]
      simp only [ih]

theorem parse_eq_readLines (text : String) :
    parse text = readLines 1 none (Text.lines text.toList) :=
  (readLines_linesOfParts 1 none _).symm

/-! ### What lines say together -/

/-- The lines say these versions and these records, each in the order of the lines
    and one for each line that holds one, and none of the lines is malformed. -/
inductive Say : List (List Char) → List String → List Record → Prop where
  | nil : Say [] [] []
  | skipped {line : List Char} {lines : List (List Char)} {tags : List String}
      {records : List Record} (hline : IsSkipped line) (hrest : Say lines tags records) :
      Say (line :: lines) tags records
  | version {line : List Char} {lines : List (List Char)} {tag : String} {tags : List String}
      {records : List Record} (hline : HoldsVersion line tag) (hrest : Say lines tags records) :
      Say (line :: lines) (tag :: tags) records
  | record {line : List Char} {lines : List (List Char)} {tags : List String} {record : Record}
      {records : List Record} (hline : HoldsRecord line record) (hrest : Say lines tags records) :
      Say (line :: lines) tags (record :: records)

theorem lineVersion?_eq_some_iff : lineVersion? line = some tag ↔ HoldsVersion line tag := by
  rw [← readLine_eq_version_iff, lineVersion?]
  split
  · next found hline => simp [hline]
  · next hother => simpa using hother tag

theorem lineRecord?_eq_some_iff : lineRecord? line = some record ↔ HoldsRecord line record := by
  rw [← readLine_eq_record_iff, lineRecord?]
  split
  · next found hline => simp [hline]
  · next hother => simpa using hother record

theorem IsSkipped.lineVersion? (h : IsSkipped line) : lineVersion? line = none := by
  rw [SavedSheet.lineVersion?, readLine_of_isSkipped h]

theorem IsSkipped.lineRecord? (h : IsSkipped line) : lineRecord? line = none := by
  rw [SavedSheet.lineRecord?, readLine_of_isSkipped h]

theorem HoldsVersion.lineRecord? (h : HoldsVersion line tag) : lineRecord? line = none := by
  rw [SavedSheet.lineRecord?, readLine_of_holdsVersion h]

theorem HoldsRecord.lineVersion? (h : HoldsRecord line record) : lineVersion? line = none := by
  rw [SavedSheet.lineVersion?, readLine_of_holdsRecord h]

theorem say_iff : Say lines tags records ↔
    (∀ line ∈ lines, ∃ said, readLine line = .ok said) ∧
      lines.filterMap lineVersion? = tags ∧ lines.filterMap lineRecord? = records := by
  constructor
  · intro h
    induction h with
    | nil => exact ⟨List.forall_mem_nil _, rfl, rfl⟩
    | skipped hline _ ih =>
      rw [List.forall_mem_cons, List.filterMap_cons_none hline.lineVersion?,
        List.filterMap_cons_none hline.lineRecord?]
      exact ⟨⟨⟨_, readLine_of_isSkipped hline⟩, ih.1⟩, ih.2⟩
    | version hline _ ih =>
      rw [List.forall_mem_cons, List.filterMap_cons_some (lineVersion?_eq_some_iff.mpr hline),
        List.filterMap_cons_none hline.lineRecord?, ih.2.1]
      exact ⟨⟨⟨_, readLine_of_holdsVersion hline⟩, ih.1⟩, rfl, ih.2.2⟩
    | record hline _ ih =>
      rw [List.forall_mem_cons, List.filterMap_cons_none hline.lineVersion?,
        List.filterMap_cons_some (lineRecord?_eq_some_iff.mpr hline), ih.2.2]
      exact ⟨⟨⟨_, readLine_of_holdsRecord hline⟩, ih.1⟩, ih.2.1, rfl⟩
  · rintro ⟨hall, rfl, rfl⟩
    induction lines with
    | nil => exact .nil
    | cons line lines ih =>
      obtain ⟨⟨said, hsaid⟩, hrest⟩ := List.forall_mem_cons.mp hall
      rcases line_cases line with hline | ⟨tag, hline⟩ | ⟨record, hline⟩ | ⟨fault, hline⟩
      · rw [List.filterMap_cons_none hline.lineVersion?,
          List.filterMap_cons_none hline.lineRecord?]
        exact .skipped hline (ih hrest)
      · rw [List.filterMap_cons_some (lineVersion?_eq_some_iff.mpr hline),
          List.filterMap_cons_none hline.lineRecord?]
        exact .version hline (ih hrest)
      · rw [List.filterMap_cons_none hline.lineVersion?,
          List.filterMap_cons_some (lineRecord?_eq_some_iff.mpr hline)]
        exact .record hline (ih hrest)
      · exact nomatch hsaid.symm.trans (readLine_of_isMalformed hline)

/-- Lines say what their parts say, one after the other. -/
theorem say_append_iff {back : List (List Char)} : Say (front ++ back) tags records ↔
    ∃ tags₁ records₁ tags₂ records₂, Say front tags₁ records₁ ∧ Say back tags₂ records₂ ∧
      tags₁ ++ tags₂ = tags ∧ records₁ ++ records₂ = records := by
  simp only [say_iff, List.forall_mem_append, List.filterMap_append]
  constructor
  · rintro ⟨⟨hfront, hback⟩, htags, hrecords⟩
    exact ⟨_, _, _, _, ⟨hfront, rfl, rfl⟩, ⟨hback, rfl, rfl⟩, htags, hrecords⟩
  · rintro ⟨_, _, _, _, ⟨hfront, rfl, rfl⟩, ⟨hback, rfl, rfl⟩, htags, hrecords⟩
    exact ⟨⟨hfront, hback⟩, htags, hrecords⟩

/-- **Acceptance**: a text is accepted for what its lines say, if they say one
    version. -/
theorem parse_eq_ok_iff {text : String} {saved : SavedSheet} :
    parse text = .ok saved ↔ Say (Text.lines text.toList) [saved.version] saved.records := by
  rw [parse_eq_readLines, readLines_eq_ok_iff, say_iff, Option.toList_none, List.nil_append]

/-- The records of an accepted text are those that its lines hold. -/
theorem mem_records_iff {text : String} {saved : SavedSheet} (h : parse text = .ok saved) :
    record ∈ saved.records ↔ ∃ line ∈ Text.lines text.toList, HoldsRecord line record := by
  obtain ⟨-, -, hrecords⟩ := say_iff.mp (parse_eq_ok_iff.mp h)
  rw [← hrecords, List.mem_filterMap]
  simp only [lineRecord?_eq_some_iff]

/-- The version of an accepted text stands on one of its lines. -/
theorem exists_holdsVersion_of_parse {text : String} {saved : SavedSheet}
    (h : parse text = .ok saved) :
    ∃ line ∈ Text.lines text.toList, HoldsVersion line saved.version := by
  obtain ⟨-, htags, -⟩ := say_iff.mp (parse_eq_ok_iff.mp h)
  have hmem : saved.version ∈ (Text.lines text.toList).filterMap lineVersion? := by
    rw [htags, List.mem_singleton]
  obtain ⟨line, hline, hversion⟩ := List.mem_filterMap.mp hmem
  exact ⟨line, hline, lineVersion?_eq_some_iff.mp hversion⟩

/-- No line of an accepted text is malformed. -/
theorem not_isMalformed_of_parse {text : String} {saved : SavedSheet} (h : parse text = .ok saved)
    (hline : line ∈ Text.lines text.toList) : ¬ IsMalformed line fault := by
  obtain ⟨hall, -, -⟩ := say_iff.mp (parse_eq_ok_iff.mp h)
  obtain ⟨said, hsaid⟩ := hall line hline
  exact fun hfault => nomatch hsaid.symm.trans (readLine_of_isMalformed hfault)

/-! ### Lines at fault -/

/-- What is wrong with a line behind the lines `before`: it is malformed, or it
    holds the version and another one did so before. -/
inductive IsAtFault (before : List (List Char)) (line : List Char) : Fault → Prop where
  | malformed {fault : Fault} (h : IsMalformed line fault) : IsAtFault before line fault
  | duplicateVersion {earlier : List Char} {tag other : String} (hmem : earlier ∈ before)
      (hearlier : HoldsVersion earlier other) (h : HoldsVersion line tag) :
      IsAtFault before line .duplicateVersion

/-- Line `number`, counted from 1, is at fault. -/
def FaultAt (lines : List (List Char)) (number : Nat) (fault : Fault) : Prop :=
  ∃ before line after, lines = before ++ line :: after ∧ number = before.length + 1 ∧
    IsAtFault before line fault

/-- No line is at fault. -/
def Faultless (lines : List (List Char)) : Prop :=
  ∀ number fault, ¬ FaultAt lines number fault

theorem faultless_nil : Faultless [] := by
  rintro number fault ⟨before, line, after, hlines, -⟩
  exact List.append_ne_nil_of_right_ne_nil before (List.cons_ne_nil line after) hlines.symm

/-- A line at fault stays at fault whatever is behind it. -/
theorem FaultAt.of_take (h : FaultAt lines number fault) {others : List (List Char)}
    (hsame : others.take number = lines.take number) : FaultAt others number fault := by
  obtain ⟨before, line, after, rfl, rfl, hfault⟩ := h
  rw [List.append_cons, List.take_left' (by simp)] at hsame
  refine ⟨before, line, others.drop (before.length + 1), ?_, rfl, hfault⟩
  rw [List.append_cons, ← hsame, List.take_append_drop]

theorem faultAt_concat_iff : FaultAt (lines ++ [line]) number fault ↔
    FaultAt lines number fault ∨ number = lines.length + 1 ∧ IsAtFault lines line fault := by
  constructor
  · rintro ⟨before, found, after, hlines, rfl, hfault⟩
    rcases List.eq_nil_or_concat' after with rfl | ⟨after, last, rfl⟩
    · obtain ⟨rfl, hfound⟩ := List.append_inj' hlines rfl
      obtain rfl := (List.cons.inj hfound).1
      exact .inr ⟨rfl, hfault⟩
    · rw [← List.cons_append, ← List.append_assoc] at hlines
      obtain ⟨rfl, -⟩ := List.append_inj' hlines rfl
      exact .inl ⟨before, found, after, rfl, rfl, hfault⟩
  · rintro (⟨before, found, after, rfl, rfl, hfault⟩ | ⟨rfl, hfault⟩)
    · exact ⟨before, found, after ++ [line], by simp, rfl, hfault⟩
    · exact ⟨lines, line, [], rfl, rfl, hfault⟩

theorem faultless_concat_iff : Faultless (lines ++ [line]) ↔
    Faultless lines ∧ ∀ fault, ¬ IsAtFault lines line fault := by
  simp only [Faultless, faultAt_concat_iff, not_or, forall_and]
  refine and_congr_right fun _ => ⟨fun h fault hfault => ?_, fun h number fault hfault => ?_⟩
  · exact h _ fault ⟨rfl, hfault⟩
  · exact h fault hfault.2

/-- Either no line is at fault, or there is a first one. -/
theorem faultless_or_first (lines : List (List Char)) : Faultless lines ∨
    ∃ before line after fault, lines = before ++ line :: after ∧ Faultless before ∧
      IsAtFault before line fault := by
  induction lines using List.reverseRecOn with
  | nil => exact .inl faultless_nil
  | append_singleton lines last ih =>
    rcases ih with hclean | ⟨before, line, after, fault, rfl, hbefore, hfault⟩
    · by_cases hlast : ∃ fault, IsAtFault lines last fault
      · obtain ⟨fault, hfault⟩ := hlast
        exact .inr ⟨lines, last, [], fault, rfl, hclean, hfault⟩
      · exact .inl (faultless_concat_iff.mpr ⟨hclean, not_exists.mp hlast⟩)
    · exact .inr ⟨before, line, after ++ [last], fault, by simp, hbefore, hfault⟩

/-! ### Reading up to the first fault -/

/-- The version that was read with the lines `before`. -/
def versionOf (before : List (List Char)) : Option String :=
  before.findSome? lineVersion?

theorem versionOf_concat (before : List (List Char)) (line : List Char) :
    versionOf (before ++ [line]) = (versionOf before).or (lineVersion? line) := by
  rw [versionOf, List.findSome?_append, List.findSome?_singleton, ← versionOf]

theorem isSome_versionOf_iff :
    (versionOf before).isSome = true ↔ ∃ line ∈ before, ∃ tag, HoldsVersion line tag := by
  rw [versionOf, List.findSome?_isSome_iff]
  simp only [Option.isSome_iff_exists, lineVersion?_eq_some_iff]

theorem versionOf_eq_none_iff :
    versionOf before = none ↔ ∀ line ∈ before, ∀ tag, ¬ HoldsVersion line tag := by
  rw [← Option.not_isSome_iff_eq_none, isSome_versionOf_iff]
  push Not
  rfl

/-- A line at fault is reported, whatever comes behind it. -/
theorem readLines_of_isAtFault (h : IsAtFault before line fault) (rest : List (List Char)) :
    readLines number (versionOf before) (line :: rest) = .error ⟨number, fault⟩ := by
  cases h with
  | malformed hline => rw [readLines, readLine_of_isMalformed hline]
  | duplicateVersion hmem hearlier hline =>
    have hversion := isSome_versionOf_iff.mpr ⟨_, hmem, _, hearlier⟩
    rw [readLines, readLine_of_holdsVersion hline]
    exact if_pos hversion

/-- Behind a line that is not at fault reading goes on. -/
theorem readLines_cons_eq_error_iff (h : ∀ fault, ¬ IsAtFault before line fault)
    (rest : List (List Char)) :
    readLines number (versionOf before) (line :: rest) = .error e ↔
      readLines (number + 1) (versionOf (before ++ [line])) rest = .error e := by
  rw [versionOf_concat]
  rcases line_cases line with hline | ⟨tag, hline⟩ | ⟨record, hline⟩ | ⟨fault, hline⟩
  · rw [readLines, readLine_of_isSkipped hline, hline.lineVersion?, Option.or_none]
  · have hnone : versionOf before = none := by
      rw [versionOf_eq_none_iff]
      exact fun earlier hmem other hearlier => h _ (.duplicateVersion hmem hearlier hline)
    rw [hnone, readLines, readLine_of_holdsVersion hline, lineVersion?_eq_some_iff.mpr hline]
    rfl
  · rw [readLines, readLine_of_holdsRecord hline, hline.lineVersion?, Option.or_none]
    dsimp only
    cases readLines (number + 1) (versionOf before) rest with
    | error found => rfl
    | ok saved =>
      constructor
      · intro heq
        cases heq
      · intro heq
        cases heq
  · exact absurd (.malformed hline) (h fault)

/-- Behind lines that are not at fault reading goes on. -/
theorem readLines_append_eq_error_iff (h : Faultless front) (rest : List (List Char)) :
    readLines 1 none (front ++ rest) = .error e ↔
      readLines (front.length + 1) (versionOf front) rest = .error e := by
  -- The last line of the front is taken over to the rest, where it is read first.
  induction front using List.reverseRecOn generalizing rest with
  | nil => rfl
  | append_singleton front line ih =>
    obtain ⟨hfront, hline⟩ := faultless_concat_iff.mp h
    rw [List.append_assoc, List.singleton_append, ih hfront, readLines_cons_eq_error_iff hline,
      List.length_append, List.length_singleton]

theorem readLines_of_first (h : Faultless before) (hfault : IsAtFault before line fault)
    (after : List (List Char)) :
    readLines 1 none (before ++ line :: after) = .error ⟨before.length + 1, fault⟩ :=
  (readLines_append_eq_error_iff h _).mpr (readLines_of_isAtFault hfault after)

/-- Without a fault in the lines, only the version can be missing. -/
theorem readLines_eq_error_iff_of_faultless (h : Faultless lines) :
    readLines 1 none lines = .error e ↔
      e = ⟨1, .missingVersion⟩ ∧ ∀ line ∈ lines, ∀ tag, ¬ HoldsVersion line tag := by
  have hend := readLines_append_eq_error_iff (e := e) h []
  rw [List.append_nil] at hend
  rw [hend, ← versionOf_eq_none_iff]
  cases versionOf lines with
  | none => simp [readLines, eq_comm]
  | some tag => simp [readLines]

/-! ### The fault that is reported -/

theorem IsAtFault.ne_missingVersion (h : IsAtFault before line fault) : fault ≠ .missingVersion := by
  rintro rfl
  cases h with
  | malformed hline => exact nomatch hline

/-- No line before the first line at fault is at fault. -/
theorem not_faultAt_of_faultless (h : Faultless before) {rest : List (List Char)}
    (hnumber : number ≤ before.length) : ¬ FaultAt (before ++ rest) number fault := by
  intro hfault
  refine h number fault (hfault.of_take ?_)
  rw [List.take_append_of_le_length hnumber]

/-- **Rejection for a line**: the first line at fault is reported, with what is
    wrong with it. -/
theorem parse_eq_error_iff {text : String} (h : fault ≠ .missingVersion) :
    parse text = .error ⟨number, fault⟩ ↔
      FaultAt (Text.lines text.toList) number fault ∧
        ∀ earlier < number, ∀ other, ¬ FaultAt (Text.lines text.toList) earlier other := by
  rw [parse_eq_readLines]
  generalize Text.lines text.toList = lines
  rcases faultless_or_first lines with hclean | ⟨before, line, after, found, rfl, hbefore, hfound⟩
  · rw [readLines_eq_error_iff_of_faultless hclean]
    refine iff_of_false (fun herror => ?_) fun herror => hclean _ _ herror.1
    exact h (congrArg ParseError.fault herror.1)
  · have hread := readLines_of_first hbefore hfound after
    have hat : FaultAt (before ++ line :: after) (before.length + 1) found :=
      ⟨before, line, after, rfl, rfl, hfound⟩
    have hearlier : ∀ earlier < before.length + 1, ∀ other,
        ¬ FaultAt (before ++ line :: after) earlier other :=
      fun earlier hlt other => not_faultAt_of_faultless hbefore (Nat.le_of_lt_succ hlt)
    rw [hread]
    constructor
    · intro heq
      cases heq
      exact ⟨hat, hearlier⟩
    · rintro ⟨hfault, hfirst⟩
      have hnumber : number = before.length + 1 := by
        refine le_antisymm (Nat.le_of_not_lt fun hlt => ?_) (Nat.le_of_not_lt fun hlt => ?_)
        · exact hfirst _ hlt _ hat
        · exact hearlier _ hlt _ hfault
      subst hnumber
      -- The line is the same, and what is read from it is one fault.
      obtain ⟨others, same, rest, hlines, hlength, hsame⟩ := hfault
      obtain ⟨rfl, htail⟩ := List.append_inj hlines (by omega)
      obtain ⟨rfl, -⟩ := List.cons.inj htail
      rw [← hread, readLines_of_first hbefore hsame]

/-- **Rejection for want of a version**: it is reported if no line is at fault and
    none holds the version. -/
theorem parse_eq_missingVersion_iff {text : String} :
    parse text = .error ⟨number, .missingVersion⟩ ↔
      number = 1 ∧ Faultless (Text.lines text.toList) ∧
        ∀ line ∈ Text.lines text.toList, ∀ tag, ¬ HoldsVersion line tag := by
  rw [parse_eq_readLines]
  generalize Text.lines text.toList = lines
  rcases faultless_or_first lines with hclean | ⟨before, line, after, found, rfl, hbefore, hfound⟩
  · rw [readLines_eq_error_iff_of_faultless hclean]
    simp [hclean]
  · rw [readLines_of_first hbefore hfound]
    refine iff_of_false (fun heq => ?_) fun hclean => ?_
    · exact hfound.ne_missingVersion (congrArg ParseError.fault (Except.error.inj heq))
    · exact hclean.2.1 _ _ ⟨before, line, after, rfl, rfl, hfound⟩

/-- **Lines count one by one**: a text of whole lines and what follows it are
    accepted together if their lines say one version together, and then the
    records are those of the former followed by those of the latter.  A text that
    is rejected for a line is rejected for the first line at fault, and any text
    that begins with the same lines is rejected alike.  For want of a version a
    text is rejected if there is no other fault and none of its lines holds a
    version. -/
theorem parse_line_by_line :
    (∀ (front back : String) (saved : SavedSheet), Text.IsWhole front.toList →
      (parse (front ++ back) = .ok saved ↔ ∃ tags₁ records₁ tags₂ records₂,
        Say (Text.lines front.toList) tags₁ records₁ ∧
        Say (Text.lines back.toList) tags₂ records₂ ∧
        tags₁ ++ tags₂ = [saved.version] ∧ records₁ ++ records₂ = saved.records)) ∧
    (∀ (text : String) (number : Nat) (fault : Fault), fault ≠ .missingVersion →
      (parse text = .error ⟨number, fault⟩ ↔
        FaultAt (Text.lines text.toList) number fault ∧
          ∀ earlier < number, ∀ other, ¬ FaultAt (Text.lines text.toList) earlier other) ∧
      (parse text = .error ⟨number, fault⟩ → ∀ text' : String,
        (Text.lines text'.toList).take number = (Text.lines text.toList).take number →
          parse text' = .error ⟨number, fault⟩)) ∧
    ∀ (text : String) (number : Nat), parse text = .error ⟨number, .missingVersion⟩ ↔
      number = 1 ∧ Faultless (Text.lines text.toList) ∧
        ∀ line ∈ Text.lines text.toList, ∀ tag, ¬ HoldsVersion line tag := by
  refine ⟨fun front back saved hwhole => ?_, fun text number fault hfault => ⟨?_, ?_⟩,
    fun text number => parse_eq_missingVersion_iff⟩
  · rw [parse_eq_ok_iff, String.toList_append, Text.lines_append hwhole, say_append_iff]
  · exact parse_eq_error_iff hfault
  · intro herror text' hsame
    obtain ⟨hat, hearlier⟩ := (parse_eq_error_iff hfault).mp herror
    refine (parse_eq_error_iff hfault).mpr ⟨hat.of_take hsame, fun earlier hlt other hother => ?_⟩
    -- The earlier lines are the same as well.
    refine hearlier earlier hlt other (hother.of_take ?_)
    rw [← Nat.min_eq_left hlt.le, ← List.take_take, ← List.take_take, hsame]

end Worksheet.SavedSheet
