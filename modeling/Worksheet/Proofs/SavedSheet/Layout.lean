import Worksheet.Proofs.SavedSheet.FirstFault

/-! # The layout of a saved sheet

    A saved sheet can be laid out in many ways.  Lines may be put in that are
    blank or comments, lines may be ended by a carriage return and a line feed,
    and blanks may stand at both ends of a line, around the first colon of a
    record, and between the mark of the version and the version.  None of this
    changes what is read, and a text that is rejected is rejected for the same
    fault, on the line where the faulty line has come to stand.

    A blank in front of the colon matters in one place: a record with the mark of
    the version for its name would become a line that holds the version. -/

namespace Worksheet.SavedSheet

variable {line front back value cs : List Char} {lines lines' : List (List Char)}
  {text text' : List Char} {move : Nat → Nat} {tag : String} {number : Nat}

/-! ### Layouts -/

/-- Between `front` and `back`, which are a line together, blanks do not count. -/
inductive IsGap : List Char → List Char → Prop where
  /-- In front of the line. -/
  | first {front back : List Char} (hfront : ∀ c ∈ front, Text.isBlank c = true) :
      IsGap front back
  /-- At the end of the line. -/
  | last {front back : List Char} (hback : ∀ c ∈ back, Text.isBlank c = true) :
      IsGap front back
  /-- Between the name of a record and the colon. -/
  | beforeColon {front blanks value : List Char}
      (hline : IsRecordLine (front ++ blanks ++ ':' :: value)) (hcolon : ':' ∉ front)
      (hblanks : ∀ c ∈ blanks, Text.isBlank c = true)
      (hname : Text.trim front ≠ versionMark.toList) : IsGap front (blanks ++ ':' :: value)
  /-- Between the colon and the value of a record. -/
  | behindColon {front blanks value : List Char}
      (hline : IsRecordLine (front ++ ':' :: (blanks ++ value))) (hcolon : ':' ∉ front)
      (hblanks : ∀ c ∈ blanks, Text.isBlank c = true) : IsGap (front ++ ':' :: blanks) value
  /-- Between the mark of the version and the version. -/
  | tag {left blanks rest : List Char} {tag : String}
      (hline : HoldsVersion (left ++ versionMark.toList ++ (blanks ++ rest)) tag)
      (hleft : ∀ c ∈ left, Text.isBlank c = true)
      (hblanks : ∀ c ∈ blanks, Text.isBlank c = true) :
      IsGap (left ++ versionMark.toList ++ blanks) rest

/-- The number of a line once another line is put in behind `count` lines. -/
def pushed (count number : Nat) : Nat :=
  if number ≤ count then number else number + 1

/-- The second text is the first one with its layout changed in one place, and the
    lines have the numbers that the function gives. -/
inductive Relayout : List Char → List Char → (Nat → Nat) → Prop where
  /-- A blank is put into a line. -/
  | blank {before front back after : List Char} {c : Char} (hbefore : Text.IsWhole before)
      (hfront : '\n' ∉ front) (hback : '\n' ∉ back) (hafter : ∀ d, after.head? = some d → d = '\n')
      (hgap : IsGap front back) (hblank : Text.isBlank c = true) (hc : c ≠ '\n') :
      Relayout (before ++ (front ++ back ++ after)) (before ++ (front ++ c :: back ++ after)) id
  /-- A line is ended by a carriage return as well. -/
  | carriageReturn {before after : List Char} :
      Relayout (before ++ '\n' :: after) (before ++ '\r' :: '\n' :: after) id
  /-- A line is put in that is skipped. -/
  | insert {before line after : List Char} (hbefore : Text.IsWhole before) (hline : '\n' ∉ line)
      (hskipped : IsSkipped line) :
      Relayout (before ++ after) (before ++ (line ++ '\n' :: after)) (pushed (before.count '\n'))
  /-- A line is put behind the last one that is skipped. -/
  | append {text line : List Char} (hline : '\n' ∉ line) (hskipped : IsSkipped line) :
      Relayout text (text ++ '\n' :: line) (pushed (text.count '\n' + 1))
  /-- A line is put behind the last line feed that is skipped. -/
  | appendUnended {text line : List Char} (htext : Text.IsWhole text) (hline : '\n' ∉ line)
      (hskipped : IsSkipped line) : Relayout text (text ++ line) id

/-- The second text is the first one in another layout, and the lines of the first
    text have the numbers in the second that the function gives. -/
inductive Relaid : List Char → List Char → (Nat → Nat) → Prop where
  | refl (text : List Char) : Relaid text text id
  | step {text text' text'' : List Char} {move move' : Nat → Nat} (h : Relaid text text' move)
      (hstep : Relayout text' text'' move') : Relaid text text'' (move' ∘ move)

/-! ### Around the colon of a record -/

theorem HoldsRecord.isRecordLine {record : Record} (h : HoldsRecord line record) :
    IsRecordLine line := by
  cases h with
  | intro hline => exact hline

theorem isSkipped_append_iff (front value : List Char) :
    IsSkipped (front ++ ':' :: value) ↔ (Text.trim front).head? = some '#' := by
  rw [IsSkipped, Text.trim_append_cons (by decide), List.head?_append, Text.head?_trim]
  cases (Text.trimLeft front).head? <;> simp

/-- A line with a colon holds the version if the mark and a blank stand in front of
    the colon. -/
theorem holdsVersion_append_iff (front value : List Char) :
    (∃ tag, HoldsVersion (front ++ ':' :: value) tag) ↔
      ∃ c rest, Text.isBlank c = true ∧
        Text.trimLeft front = versionMark.toList ++ c :: rest := by
  constructor
  · rintro ⟨tag, rest, hline, hblank, -⟩
    rw [Text.trim_append_cons (by decide)] at hline
    rcases List.append_eq_append_iff.mp hline with ⟨more, hmark, hrest⟩ | ⟨more, hfront, hrest⟩
    · cases more with
      | nil =>
        rw [List.nil_append] at hrest
        rw [← hrest] at hblank
        -- The colon is no blank.
        exact nomatch hblank
      | cons c more =>
        -- The colon would be in the mark.
        obtain ⟨rfl, -⟩ := List.cons.inj hrest
        have hmem : ':' ∈ versionMark.toList := by simp [hmark]
        exact absurd hmem (by decide)
    · cases more with
      | nil =>
        rw [hrest] at hblank
        exact nomatch hblank
      | cons c more =>
        rw [hrest] at hblank
        exact ⟨c, more, hblank, hfront⟩
  · rintro ⟨c, rest, hc, hfront⟩
    refine ⟨_, c :: rest ++ ':' :: Text.trimRight value, ?_, hc, rfl⟩
    rw [Text.trim_append_cons (by decide), hfront, List.append_assoc]

/-- Blanks behind a name matter only if the name is the mark of the version. -/
theorem trimLeft_eq_mark_iff (h : Text.trim front ≠ versionMark.toList) :
    (∃ c rest, Text.isBlank c = true ∧ Text.trimLeft front = versionMark.toList ++ c :: rest) ↔
      ∃ c rest, Text.isBlank c = true ∧ Text.trim front = versionMark.toList ++ c :: rest := by
  -- What is taken off at the right are blanks.
  have hsplit : Text.trim front ++ (Text.trimLeft front).rtakeWhile Text.isBlank =
      Text.trimLeft front := List.rdropWhile_append_rtakeWhile
  have hblanks : ∀ c ∈ (Text.trimLeft front).rtakeWhile Text.isBlank, Text.isBlank c = true :=
    fun c hc => List.mem_rtakeWhile_imp hc
  rw [← hsplit]
  generalize (Text.trimLeft front).rtakeWhile Text.isBlank = blanks at hblanks
  constructor
  · rintro ⟨c, rest, hc, hfront⟩
    rcases List.append_eq_append_iff.mp hfront with ⟨more, hmark, hrest⟩ | ⟨more, hname, hrest⟩
    · cases more with
      | nil =>
        rw [List.append_nil] at hmark
        exact absurd hmark.symm h
      | cons d more =>
        -- A character of the mark would be blank.
        have hd : Text.isBlank d = true := hblanks d (by simp [hrest])
        have hmem : d ∈ versionMark.toList := by simp [hmark]
        have hnone : versionMark.toList.any Text.isBlank = false := by rfl
        exact absurd hd (List.any_eq_false.mp hnone d hmem)
    · cases more with
      | nil =>
        rw [List.append_nil] at hname
        exact absurd hname h
      | cons d more =>
        obtain ⟨rfl, -⟩ := List.cons.inj hrest
        exact ⟨c, more, hc, hname⟩
  · rintro ⟨c, rest, hc, hname⟩
    exact ⟨c, rest ++ blanks, hc, by rw [hname, List.append_assoc, List.cons_append]⟩

theorem isRecordLine_append_iff (front value : List Char) :
    IsRecordLine (front ++ ':' :: value) ↔
      (Text.trim front).head? ≠ some '#' ∧ ¬ ∃ c rest, Text.isBlank c = true ∧
        Text.trimLeft front = versionMark.toList ++ c :: rest := by
  rw [IsRecordLine, isSkipped_append_iff, ← not_exists, holdsVersion_append_iff]

/-- What a record line says depends on its trimmed name and its trimmed value. -/
theorem readLine_append (hline : IsRecordLine (front ++ ':' :: value)) (hcolon : ':' ∉ front) :
    readLine (front ++ ':' :: value) = .record <$>
      if Text.trim front = [] then .error .noName
      else (fun input => ⟨String.ofList (Text.trim front), input⟩) <$>
        readValue (Text.trim value) := by
  have hleft : ':' ∉ Text.trimLeft front :=
    fun hmem => hcolon ((List.dropWhile_sublist Text.isBlank).subset hmem)
  have hvalue : readValue (Text.trimRight value) = readValue (Text.trim value) := by
    rw [readValue, readValue, Text.trim_trimRight, Text.trim_trim]
  rw [readLine_of_isRecordLine hline, Text.trim_append_cons (by decide), readRecord_append hleft,
    Text.trim_trimLeft, hvalue]

/-! ### Behind the mark of the version -/

theorem trim_mark_append {left : List Char} (h : ∀ c ∈ left, Text.isBlank c = true)
    (rest : List Char) : Text.trim (left ++ versionMark.toList ++ rest) =
      versionMark.toList ++ Text.trimRight rest := by
  have hmark : versionMark.toList ++ rest = versionMark.toList.dropLast ++ 'n' :: rest := by
    rfl
  rw [List.append_assoc, Text.trim_blanks_append h, hmark, Text.trim_append_cons (by decide)]
  rfl

/-- A text that begins with a blank, or is empty, does so when its end is taken
    off. -/
theorem head?_trimRight_all (h : cs.head?.all Text.isBlank = true) :
    (Text.trimRight cs).head?.all Text.isBlank = true := by
  obtain ⟨blanks, hblanks⟩ : Text.trimRight cs <+: cs := List.rdropWhile_prefix Text.isBlank cs
  cases hright : Text.trimRight cs with
  | nil => rfl
  | cons c rest =>
    rw [hright] at hblanks
    rw [← hblanks] at h
    exact h

/-- A line holds the same version with one more blank behind the mark. -/
theorem HoldsVersion.blank {left blanks rest : List Char} {c : Char}
    (h : HoldsVersion (left ++ versionMark.toList ++ (blanks ++ rest)) tag)
    (hleft : ∀ c ∈ left, Text.isBlank c = true) (hblanks : ∀ c ∈ blanks, Text.isBlank c = true)
    (hc : Text.isBlank c = true) :
    HoldsVersion (left ++ versionMark.toList ++ (blanks ++ c :: rest)) tag := by
  obtain ⟨found, hfound, -, rfl⟩ := h
  rw [trim_mark_append hleft] at hfound
  obtain rfl := List.append_cancel_left hfound
  refine ⟨_, trim_mark_append hleft _, head?_trimRight_all ?_, ?_⟩
  · cases blanks with
    | nil => exact hc
    | cons d blanks => exact hblanks d List.mem_cons_self
  · rw [Text.trim_trimRight, Text.trim_trimRight, Text.trim_blanks_append hblanks,
      Text.trim_blanks_append hblanks, Text.trim_cons_of_isBlank hc]

/-! ### One line -/

/-- **Blanks**: a blank in a gap does not change what a line says. -/
theorem IsGap.readLine_eq (h : IsGap front back) {c : Char} (hc : Text.isBlank c = true) :
    readLine (front ++ c :: back) = readLine (front ++ back) := by
  cases h with
  | first hfront =>
    apply readLine_congr
    rw [Text.trim_blanks_append hfront, Text.trim_blanks_append hfront,
      Text.trim_cons_of_isBlank hc]
  | last hback =>
    apply readLine_congr
    have hcback : ∀ d ∈ c :: back, Text.isBlank d = true := List.forall_mem_cons.mpr ⟨hc, hback⟩
    rw [Text.trim_append_blanks hcback, Text.trim_append_blanks hback]
  | @beforeColon _ blanks value hline hcolon hblanks hname =>
    have hmore : ∀ d ∈ c :: blanks, Text.isBlank d = true :=
      List.forall_mem_cons.mpr ⟨hc, hblanks⟩
    have hfront : ':' ∉ front ++ blanks := by
      rw [List.mem_append, not_or]
      exact ⟨hcolon, fun hmem => absurd (hblanks _ hmem) (by decide)⟩
    have hfront' : ':' ∉ front ++ c :: blanks := by
      rw [List.mem_append, not_or]
      exact ⟨hcolon, fun hmem => absurd (hmore _ hmem) (by decide)⟩
    have htrim := Text.trim_append_blanks hblanks front
    have htrim' := Text.trim_append_blanks hmore front
    -- With the blank the line is a record line still.
    have hline' : IsRecordLine ((front ++ c :: blanks) ++ ':' :: value) := by
      rw [isRecordLine_append_iff, trimLeft_eq_mark_iff (by rwa [htrim]), htrim] at hline
      rwa [isRecordLine_append_iff, trimLeft_eq_mark_iff (by rwa [htrim']), htrim']
    have hread := readLine_append hline hfront
    have hread' := readLine_append hline' hfront'
    rw [htrim] at hread
    rw [htrim', ← hread] at hread'
    simpa using hread'
  | @behindColon front blanks _ hline hcolon hblanks =>
    have hmore : ∀ d ∈ blanks ++ [c], Text.isBlank d = true := by
      rw [List.forall_mem_append]
      exact ⟨hblanks, by simpa using hc⟩
    -- What stands in front of the colon decides what the line is.
    have hline' : IsRecordLine (front ++ ':' :: (blanks ++ [c] ++ back)) :=
      (isRecordLine_append_iff front _).mpr ((isRecordLine_append_iff front _).mp hline)
    have hread := readLine_append hline hcolon
    have hread' := readLine_append hline' hcolon
    rw [Text.trim_blanks_append hblanks] at hread
    rw [Text.trim_blanks_append hmore, ← hread] at hread'
    simpa using hread'
  | @tag left blanks _ tag hline hleft hblanks =>
    have hline' := hline.blank hleft hblanks hc
    have hread := (readLine_of_holdsVersion hline').trans (readLine_of_holdsVersion hline).symm
    simpa using hread

/-- A record may have the mark of the version for its name, but with a blank in
    front of the colon its line holds a version. -/
example : readLine "@version:=A1".toList = .ok (.record ⟨"@version", "=A1"⟩) ∧
    readLine "@version :=A1".toList = .ok (.version ":=A1") := by decide +kernel

/-! ### Lines -/

/-- The lines after a change of the layout: one of them is spelled otherwise and
    says the same, or one is put in that is skipped. -/
inductive Respelled : List (List Char) → List (List Char) → (Nat → Nat) → Prop where
  | line {before after : List (List Char)} {line line' : List Char}
      (h : readLine line' = readLine line) :
      Respelled (before ++ line :: after) (before ++ line' :: after) id
  | skipped {before after : List (List Char)} {line : List Char} (h : IsSkipped line) :
      Respelled (before ++ after) (before ++ line :: after) (pushed before.length)

/-- The error for a text whose lines have other numbers.  The lack of a version is
    not an error of a line. -/
def ParseError.moved (move : Nat → Nat) (e : ParseError) : ParseError :=
  if e.fault = .missingVersion then e else ⟨move e.line, e.fault⟩

theorem moved_id (e : ParseError) : e.moved id = e := by
  unfold ParseError.moved
  split <;> rfl

theorem moved_moved (move move' : Nat → Nat) (e : ParseError) :
    (e.moved move).moved move' = e.moved (move' ∘ move) := by
  by_cases h : e.fault = .missingVersion <;> simp [ParseError.moved, h]

/-- No line lacks the version. -/
theorem readLine_ne_missingVersion (line : List Char) :
    readLine line ≠ .error .missingVersion := by
  intro h
  have hline : IsMalformed line .missingVersion := readLine_eq_iff.mp h
  exact nomatch hline

/-- One more line in front of lines that are read with their faults moved. -/
theorem readLines_cons_moved {number' : Nat} (hmove : move number = number')
    (hrest : ∀ version, readLines (number' + 1) version lines' =
      (readLines (number + 1) version lines).mapError (ParseError.moved move))
    (version : Option String) (line : List Char) : readLines number' version (line :: lines') =
      (readLines number version (line :: lines)).mapError (ParseError.moved move) := by
  subst hmove
  rw [readLines, readLines]
  cases hline : readLine line with
  | error fault =>
    have hfault : fault ≠ .missingVersion := by
      rintro rfl
      exact readLine_ne_missingVersion line hline
    simp [Except.mapError, ParseError.moved, hfault]
  | ok said =>
    cases said with
    | skipped => exact hrest version
    | version tag =>
      cases version with
      | none => exact hrest (some tag)
      | some found => simp [Except.mapError, ParseError.moved]
    | record value =>
      simp only [hrest]
      cases readLines (number + 1) version lines <;> rfl

/-- Reading from the next number on, errors are on lines with the next numbers. -/
theorem readLines_succ {count : Nat} (h : count < number) (version : Option String)
    (lines : List (List Char)) : readLines (number + 1) version lines =
      (readLines number version lines).mapError (ParseError.moved (pushed count)) := by
  induction lines generalizing number version with
  | nil => cases version <;> rfl
  | cons line lines ih =>
    have hpushed : pushed count number = number + 1 := if_neg (Nat.not_le.mpr h)
    apply readLines_cons_moved hpushed
    intro version
    exact ih (Nat.lt_succ_of_lt h) version

/-- A line that is skipped moves the errors behind it. -/
theorem readLines_insert (h : IsSkipped line) (number : Nat) (version : Option String)
    (before after : List (List Char)) :
    readLines (number + 1) version (before ++ line :: after) =
      (readLines (number + 1) version (before ++ after)).mapError
        (ParseError.moved (pushed (number + before.length))) := by
  induction before generalizing number version with
  | nil =>
    rw [List.nil_append, List.nil_append, readLines, readLine_of_isSkipped h]
    exact readLines_succ (Nat.lt_succ_self number) version after
  | cons first before ih =>
    have hcount : number + (first :: before).length = number + 1 + before.length := by
      rw [List.length_cons]
      omega
    have hpushed : pushed (number + 1 + before.length) (number + 1) = number + 1 :=
      if_pos (Nat.le_add_right _ _)
    rw [hcount, List.cons_append, List.cons_append]
    exact readLines_cons_moved hpushed (fun version => ih (number + 1) version) version first

/-- Lines that say the same are read alike. -/
theorem readLines_replace {line' : List Char} (h : readLine line' = readLine line) (number : Nat)
    (version : Option String) (before after : List (List Char)) :
    readLines number version (before ++ line' :: after) =
      readLines number version (before ++ line :: after) := by
  induction before generalizing number version with
  | nil => rw [List.nil_append, List.nil_append, readLines, readLines, h]
  | cons first before ih => simp only [List.cons_append, readLines, ih]

theorem Respelled.readLines_eq (h : Respelled lines lines' move) :
    readLines 1 none lines' = (readLines 1 none lines).mapError (ParseError.moved move) := by
  cases h with
  | @line before after line line' h =>
    have hid : ParseError.moved id = id := funext moved_id
    rw [readLines_replace h, hid]
    cases readLines 1 none (before ++ line :: after) <;> rfl
  | @skipped before after line h =>
    have hinsert := readLines_insert h 0 none before after
    rwa [Nat.zero_add, Nat.zero_add] at hinsert

/-! ### Texts -/

/-- The end of a line that is not in the line. -/
theorem exists_split_eq {after : List Char} (h : ∀ d, after.head? = some d → d = '\n') :
    ∃ parts, ∀ line, '\n' ∉ line → Text.split '\n' (line ++ after) = line :: parts := by
  cases after with
  | nil =>
    refine ⟨[], fun line hline => ?_⟩
    rw [List.append_nil, Text.split_of_notMem hline]
  | cons d rest =>
    obtain rfl := h d rfl
    exact ⟨_, fun line hline => Text.split_append hline rest⟩

/-- A blank in a gap of a line. -/
theorem respelled_of_isGap {before after : List Char} {c : Char} (hbefore : Text.IsWhole before)
    (hfront : '\n' ∉ front) (hback : '\n' ∉ back) (hafter : ∀ d, after.head? = some d → d = '\n')
    (hgap : IsGap front back) (hblank : Text.isBlank c = true) (hc : c ≠ '\n') :
    Respelled (Text.split '\n' (before ++ (front ++ back ++ after)))
      (Text.split '\n' (before ++ (front ++ c :: back ++ after))) id := by
  obtain ⟨parts, -, hparts⟩ := hbefore.exists_parts
  obtain ⟨later, hlater⟩ := exists_split_eq hafter
  have hline : '\n' ∉ front ++ back := by simp [hfront, hback]
  have hline' : '\n' ∉ front ++ c :: back := by simp [hfront, hback, Ne.symm hc]
  rw [hparts, hparts, hlater _ hline, hlater _ hline']
  exact .line (hgap.readLine_eq hblank)

/-- The lines of a text are respelled when its layout is changed. -/
theorem Relayout.respelled (h : Relayout text text' move) :
    Respelled (Text.split '\n' text) (Text.split '\n' text') move := by
  cases h with
  | blank hbefore hfront hback hafter hgap hblank hc =>
    exact respelled_of_isGap hbefore hfront hback hafter hgap hblank hc
  | @carriageReturn before after =>
    -- The carriage return is a blank at the end of its line.
    obtain ⟨front, line, rfl, hfront, hline⟩ := Text.exists_isWhole_append before
    have hnewline : ∀ d, ('\n' :: after).head? = some d → d = '\n' :=
      fun d hd => (Option.some.inj hd).symm
    have hreturn := respelled_of_isGap (c := '\r') hfront hline List.not_mem_nil hnewline
      (.last (List.forall_mem_nil _)) (by decide) (by decide)
    simpa using hreturn
  | @insert before line after hbefore hline hskipped =>
    obtain ⟨parts, hlength, hparts⟩ := hbefore.exists_parts
    rw [hparts, hparts, Text.split_append hline, ← hlength]
    exact .skipped hskipped
  | @append _ line hline hskipped =>
    have hadd : Respelled (Text.split '\n' text ++ []) (Text.split '\n' text ++ [line])
        (pushed (Text.split '\n' text).length) := .skipped hskipped
    rwa [List.append_nil, Text.length_split, ← Text.split_of_notMem hline,
      ← Text.split_append_cons] at hadd
  | @appendUnended _ line htext hline hskipped =>
    obtain ⟨parts, -, hparts⟩ := htext.exists_parts
    have hend := hparts []
    rw [List.append_nil, Text.split_nil] at hend
    rw [hparts, hend, Text.split_of_notMem hline]
    -- The empty line behind the last line feed is skipped as well.
    have hempty : IsSkipped [] := .inl rfl
    exact .line ((readLine_of_isSkipped hskipped).trans (readLine_of_isSkipped hempty).symm)

/-- Lines in another layout say the same, with their faults on the lines that have
    moved. -/
theorem Relaid.readLines_eq (h : Relaid text text' move) :
    readLines 1 none (Text.split '\n' text') =
      (readLines 1 none (Text.split '\n' text)).mapError (ParseError.moved move) := by
  induction h with
  | refl =>
    have hid : ParseError.moved id = id := funext moved_id
    rw [hid]
    cases readLines 1 none (Text.split '\n' text) <;> rfl
  | @step text' text'' move move' h hstep ih =>
    rw [hstep.respelled.readLines_eq, ih]
    cases readLines 1 none (Text.split '\n' text) with
    | error e => exact congrArg Except.error (moved_moved move move' e)
    | ok saved => rfl

/-- The error of a text in another layout, seen from the new text. -/
theorem mapError_moved_eq_error_iff {result : Except ParseError SavedSheet} {fault : Fault} :
    result.mapError (ParseError.moved move) = .error ⟨number, fault⟩ ↔
      ∃ earlier, result = .error ⟨earlier, fault⟩ ∧
        number = if fault = .missingVersion then earlier else move earlier := by
  cases result with
  | ok saved => simp [Except.mapError]
  | error e =>
    obtain ⟨earlier, found⟩ := e
    simp only [Except.mapError, ParseError.moved, Except.error.injEq, ParseError.mk.injEq]
    by_cases h : found = .missingVersion <;> grind

/-- **Layouts are read alike**: a text in another layout is accepted for the same
    version and the same records, and is rejected for the same fault, on the line
    where the faulty line has come to stand.  The lack of a version stays on the
    first line. -/
theorem parse_of_relaid {text text' : String} (h : Relaid text.toList text'.toList move) :
    (∀ saved, parse text' = .ok saved ↔ parse text = .ok saved) ∧
    (∀ number' fault, fault ≠ .missingVersion → (parse text' = .error ⟨number', fault⟩ ↔
      ∃ number, parse text = .error ⟨number, fault⟩ ∧ number' = move number)) ∧
    ∀ number', parse text' = .error ⟨number', .missingVersion⟩ ↔
      number' = 1 ∧ parse text = .error ⟨1, .missingVersion⟩ := by
  have hread : parse text' = (parse text).mapError (ParseError.moved move) := h.readLines_eq
  refine ⟨fun saved => ?_, fun number' fault hfault => ?_, fun number' => ?_⟩
  · rw [hread]
    exact mapError_eq_ok_iff
  · rw [hread, mapError_moved_eq_error_iff]
    simp only [if_neg hfault]
  · rw [hread, mapError_moved_eq_error_iff]
    simp only [if_true]
    constructor
    · rintro ⟨number, hmissing, rfl⟩
      have hone : number' = 1 := (parse_eq_missingVersion_iff.mp hmissing).1
      exact ⟨hone, hone ▸ hmissing⟩
    · rintro ⟨rfl, hmissing⟩
      exact ⟨1, hmissing, rfl⟩

/-- A line without a colon, behind a comment, a version set off from its mark, a
    line with a carriage return and a record with a blank in front of its colon. -/
theorem parse_of_spaced_lines :
    Relaid "@version 1\na:\"x: y\"\nb".toList "# c\n@version  1\r\na :\"x: y\"\nb".toList
        (id ∘ id ∘ id ∘ pushed 0 ∘ id) ∧
      parse "# c\n@version  1\r\na :\"x: y\"\nb" = .error ⟨4, .noSeparator⟩ := by
  have hcomment : Relayout "@version 1\na:\"x: y\"\nb".toList
      "# c\n@version 1\na:\"x: y\"\nb".toList (pushed 0) :=
    @Relayout.insert [] "# c".toList "@version 1\na:\"x: y\"\nb".toList (.inl rfl) (by decide)
      (.inr (by decide))
  have htag : Relayout "# c\n@version 1\na:\"x: y\"\nb".toList
      "# c\n@version  1\na:\"x: y\"\nb".toList id := by
    have hversion : HoldsVersion ([] ++ versionMark.toList ++ ([] ++ " 1".toList)) "1" :=
      ⟨" 1".toList, by decide +kernel, by decide +kernel, by decide +kernel⟩
    have hgap : IsGap ("".toList ++ versionMark.toList ++ "".toList) " 1".toList :=
      .tag hversion (List.forall_mem_nil _) (List.forall_mem_nil _)
    exact @Relayout.blank "# c\n".toList _ _ "\na:\"x: y\"\nb".toList ' ' (.inr rfl) (by decide)
      (by decide) (by rintro d ⟨⟩; rfl) hgap (by decide) (by decide)
  have hreturn : Relayout "# c\n@version  1\na:\"x: y\"\nb".toList
      "# c\n@version  1\r\na:\"x: y\"\nb".toList id :=
    @Relayout.carriageReturn "# c\n@version  1".toList "a:\"x: y\"\nb".toList
  have hcolon : Relayout "# c\n@version  1\r\na:\"x: y\"\nb".toList
      "# c\n@version  1\r\na :\"x: y\"\nb".toList id := by
    have hrecord : HoldsRecord ("a".toList ++ [] ++ ':' :: "\"x: y\"".toList) ⟨"a", "x: y"⟩ :=
      readLine_eq_record_iff.mp (by decide +kernel)
    have hgap : IsGap "a".toList ([] ++ ':' :: "\"x: y\"".toList) :=
      .beforeColon hrecord.isRecordLine (by decide) (List.forall_mem_nil _) (by decide)
    exact @Relayout.blank "# c\n@version  1\r\n".toList _ _ "\nb".toList ' ' (.inr rfl) (by decide)
      (by decide) (by rintro d ⟨⟩; rfl) hgap (by decide) (by decide)
  have hrelaid := ((((Relaid.refl _).step hcomment).step htag).step hreturn).step hcolon
  refine ⟨hrelaid, ?_⟩
  rw [(parse_of_relaid hrelaid).2.1 4 .noSeparator (by decide)]
  exact ⟨3, by decide +kernel, rfl⟩

end Worksheet.SavedSheet
