import Worksheet.Proofs.Cell.Input
import Worksheet.SavedSheet.Reader

/-! # What a single line of a saved sheet can be

    Four forms, without regard to the blanks around a line: one that is skipped,
    one that holds the version, one that holds a record, and a malformed one.
    The forms are described by what stands in the line, not by how it is read,
    and each of the results of reading a line is then one of the forms.  A line
    has exactly one of them, as it has one result. -/

namespace Worksheet.SavedSheet

variable {line front value cs : List Char} {tag input : String} {record : Record} {fault : Fault}

/-! ### The forms -/

/-- The line is blank or a comment. -/
def IsSkipped (line : List Char) : Prop :=
  Text.trim line = [] ∨ (Text.trim line).head? = some '#'

/-- The line holds the version `tag`: behind the mark there is nothing, or a blank
    and then the version. -/
def HoldsVersion (line : List Char) (tag : String) : Prop :=
  ∃ rest, Text.trim line = versionMark.toList ++ rest ∧
    rest.head?.all Text.isBlank = true ∧ tag = String.ofList (Text.trim rest)

/-- The line is neither skipped nor holds the version. -/
def IsRecordLine (line : List Char) : Prop :=
  ¬ IsSkipped line ∧ ∀ tag, ¬ HoldsVersion line tag

/-- The name stands in front of the first colon and the value behind it, both
    perhaps with blanks around them. -/
def HasParts (line name value : List Char) : Prop :=
  ∃ front back, Text.trim line = front ++ ':' :: back ∧ ':' ∉ front ∧
    Text.trim front = name ∧ Text.trim back = value

/-- What has to be entered for a value: the value itself if it is nothing, a
    formula or a finite number, and what is escaped if it stands in quotes. -/
inductive Gives (value : List Char) : String → Prop where
  | nothing (h : value = []) : Gives value ""
  | formula (h : value.head? = some Content.formulaMarker) : Gives value (String.ofList value)
  | quoted {text : List Char} (h : value = '"' :: text ++ ['"']) :
      Gives value (String.ofList (unescape text))
  | number (h : (Number.ofText? value).isSome = true) : Gives value (String.ofList value)

/-- The line holds a record. -/
inductive HoldsRecord (line : List Char) : Record → Prop where
  | intro {name value : List Char} {input : String} (hline : IsRecordLine line)
      (hparts : HasParts line name value) (hname : name ≠ []) (hvalue : Gives value input) :
      HoldsRecord line ⟨String.ofList name, input⟩

/-- The line should hold a record and does not. -/
inductive IsMalformed (line : List Char) : Fault → Prop where
  | noSeparator (hline : IsRecordLine line) (hcolon : ':' ∉ Text.trim line) :
      IsMalformed line .noSeparator
  | noName {value : List Char} (hline : IsRecordLine line) (hparts : HasParts line [] value) :
      IsMalformed line .noName
  | badValue {name value : List Char} (hline : IsRecordLine line)
      (hparts : HasParts line name value) (hname : name ≠ [])
      (hvalue : ∀ input, ¬ Gives value input) :
      IsMalformed line (.badValue (String.ofList value))

/-! ### Versions -/

theorem versionTag?_mark_append (rest : List Char) :
    versionTag? (versionMark.toList ++ rest) =
      if rest.head?.all Text.isBlank then some (String.ofList (Text.trim rest)) else none := by
  unfold versionTag?
  -- What the mark is does not matter here.
  generalize versionMark.toList = mark
  dsimp only
  rw [if_pos (List.isPrefixOf_iff_prefix.mpr (List.prefix_append mark rest)), List.drop_left]
  cases rest with
  | nil => rw [if_pos (by simp)]; rfl
  | cons c rest => rfl

theorem versionTag?_trim_eq_some_iff :
    versionTag? (Text.trim line) = some tag ↔ HoldsVersion line tag := by
  constructor
  · intro h
    have hmark : versionMark.toList.isPrefixOf (Text.trim line) = true := by
      by_contra hmark
      rw [versionTag?, if_neg hmark] at h
      exact nomatch h
    obtain ⟨rest, hrest⟩ := List.isPrefixOf_iff_prefix.mp hmark
    rw [← hrest, versionTag?_mark_append] at h
    split at h
    · next hblank => exact ⟨rest, hrest.symm, hblank, (Option.some.inj h).symm⟩
    · exact nomatch h
  · rintro ⟨rest, hline, hblank, rfl⟩
    rw [hline, versionTag?_mark_append, if_pos hblank]

/-- The mark of the version is not the mark of a comment. -/
theorem HoldsVersion.not_isSkipped (h : HoldsVersion line tag) : ¬ IsSkipped line := by
  obtain ⟨rest, hline, -, -⟩ := h
  rw [IsSkipped, hline]
  rintro (hnil | hcomment)
  · exact absurd (List.append_eq_nil_iff.mp hnil).1 (by decide)
  · rw [List.head?_append_of_ne_nil _ (by decide)] at hcomment
    exact absurd hcomment (by decide)

/-! ### Values -/

theorem betweenQuotes?_eq_some_iff {text : List Char} :
    betweenQuotes? value = some text ↔ value = '"' :: text ++ ['"'] := by
  constructor
  · intro h
    unfold betweenQuotes? at h
    split at h
    · next rest =>
      split at h
      · next hlast =>
        obtain ⟨front, rfl⟩ := List.getLast?_eq_some_iff.mp hlast
        rw [List.dropLast_concat, Option.some.injEq] at h
        rw [h, List.cons_append]
      · exact nomatch h
    · exact nomatch h
  · rintro rfl
    simp [betweenQuotes?]

theorem Gives.readValue (h : Gives (Text.trim cs) input) : readValue cs = .ok input := by
  unfold SavedSheet.readValue
  dsimp only
  cases h with
  | nothing hnil => rw [if_pos (.inl hnil), hnil]
  | formula hmarker => rw [if_pos (.inr hmarker)]
  | quoted hquoted =>
    have hplain : ¬ (Text.trim cs = [] ∨ (Text.trim cs).head? = some Content.formulaMarker) := by
      rw [hquoted]
      simp [Content.formulaMarker]
    rw [if_neg hplain]
    rw [betweenQuotes?_eq_some_iff.mpr hquoted]
  | number hnumber =>
    have hquotes : betweenQuotes? (Text.trim cs) = none := by
      rw [Option.eq_none_iff_forall_ne_some]
      intro text hquoted
      -- No number begins with a quote.
      rw [betweenQuotes?_eq_some_iff.mp hquoted, List.cons_append,
        Content.ofText?_cons_eq_none (by decide) (by decide)] at hnumber
      exact nomatch hnumber
    rw [hquotes]
    dsimp only
    rw [if_pos hnumber, ite_self]

/-- A value has one form, if there are no blanks around it. -/
theorem Gives.unique {other : String} (h : Gives value input) (hother : Gives value other)
    (htrim : Text.trim value = value) : input = other := by
  rw [← htrim] at h hother
  exact Except.ok.inj (h.readValue.symm.trans hother.readValue)

theorem readValue_of_not_gives (h : ∀ input, ¬ Gives (Text.trim cs) input) :
    readValue cs = .error (.badValue (String.ofList (Text.trim cs))) := by
  have hplain : ¬ (Text.trim cs = [] ∨ (Text.trim cs).head? = some Content.formulaMarker) := by
    rintro (hnil | hmarker)
    · exact h _ (.nothing hnil)
    · exact h _ (.formula hmarker)
  have hquotes : betweenQuotes? (Text.trim cs) = none := by
    rw [Option.eq_none_iff_forall_ne_some]
    exact fun text hquoted => h _ (.quoted (betweenQuotes?_eq_some_iff.mp hquoted))
  rw [readValue, if_neg hplain, hquotes]
  exact if_neg fun hnumber => h _ (.number hnumber)

/-! ### Records -/

theorem readRecord_of_notMem (h : ':' ∉ line) : readRecord line = .error .noSeparator := by
  have hnone : line.dropWhile (fun c => decide (c ≠ ':')) = [] := by
    rw [List.dropWhile_eq_nil_iff]
    intro c hc
    rw [decide_eq_true_iff]
    rintro rfl
    exact h hc
  rw [readRecord, hnone]

/-- The name is what stands in front of the first colon. -/
theorem readRecord_append (h : ':' ∉ front) (back : List Char) :
    readRecord (front ++ ':' :: back) =
      if Text.trim front = [] then .error .noName
      else (fun input => ⟨String.ofList (Text.trim front), input⟩) <$> readValue back := by
  have hcolon : ∀ c ∈ front, decide (c ≠ ':') = true := by
    intro c hc
    rw [decide_eq_true_iff]
    rintro rfl
    exact h hc
  unfold readRecord
  rw [List.dropWhile_append_of_pos hcolon, List.takeWhile_append_of_pos hcolon,
    List.dropWhile_cons_of_neg (by simp), List.takeWhile_cons_of_neg (by simp), List.append_nil]
  rfl

/-! ### Reading a line -/

theorem readLine_of_isSkipped (h : IsSkipped line) : readLine line = .ok .skipped :=
  if_pos h

theorem readLine_of_holdsVersion (h : HoldsVersion line tag) :
    readLine line = .ok (.version tag) := by
  refine (if_neg h.not_isSkipped).trans ?_
  rw [versionTag?_trim_eq_some_iff.mpr h]

theorem readLine_of_isRecordLine (h : IsRecordLine line) :
    readLine line = .record <$> readRecord (Text.trim line) := by
  have hversion : versionTag? (Text.trim line) = none := by
    rw [Option.eq_none_iff_forall_ne_some]
    exact fun tag htag => h.2 tag (versionTag?_trim_eq_some_iff.mp htag)
  refine (if_neg h.1).trans ?_
  rw [hversion]

theorem readLine_of_holdsRecord (h : HoldsRecord line record) :
    readLine line = .ok (.record record) := by
  obtain ⟨hline, ⟨front, back, htrim, hcolon, rfl, rfl⟩, hname, hvalue⟩ := h
  rw [readLine_of_isRecordLine hline, htrim, readRecord_append hcolon, if_neg hname,
    hvalue.readValue]
  rfl

theorem readLine_of_isMalformed (h : IsMalformed line fault) : readLine line = .error fault := by
  cases h with
  | noSeparator hline hcolon =>
    rw [readLine_of_isRecordLine hline, readRecord_of_notMem hcolon]
    rfl
  | noName hline hparts =>
    obtain ⟨front, back, htrim, hcolon, hname, -⟩ := hparts
    rw [readLine_of_isRecordLine hline, htrim, readRecord_append hcolon, if_pos hname]
    rfl
  | badValue hline hparts hname hvalue =>
    obtain ⟨front, back, htrim, hcolon, rfl, rfl⟩ := hparts
    rw [readLine_of_isRecordLine hline, htrim, readRecord_append hcolon, if_neg hname,
      readValue_of_not_gives hvalue]
    rfl

/-- Every line has one of the forms. -/
theorem line_cases (line : List Char) :
    IsSkipped line ∨ (∃ tag, HoldsVersion line tag) ∨ (∃ record, HoldsRecord line record) ∨
      ∃ fault, IsMalformed line fault := by
  by_cases hskipped : IsSkipped line
  · exact .inl hskipped
  by_cases hversion : ∃ tag, HoldsVersion line tag
  · exact .inr (.inl hversion)
  have hline : IsRecordLine line := ⟨hskipped, not_exists.mp hversion⟩
  refine .inr (.inr ?_)
  by_cases hcolon : ':' ∈ Text.trim line
  · obtain ⟨front, back, htrim, hfront⟩ := List.eq_append_cons_of_mem hcolon
    by_cases hname : Text.trim front = []
    · exact .inr ⟨_, .noName hline ⟨front, back, htrim, hfront, hname, rfl⟩⟩
    · have hparts : HasParts line (Text.trim front) (Text.trim back) :=
        ⟨front, back, htrim, hfront, rfl, rfl⟩
      by_cases hvalue : ∃ input, Gives (Text.trim back) input
      · obtain ⟨input, hinput⟩ := hvalue
        exact .inl ⟨_, .intro hline hparts hname hinput⟩
      · exact .inr ⟨_, .badValue hline hparts hname (not_exists.mp hvalue)⟩
  · exact .inr ⟨_, .noSeparator hline hcolon⟩

/-- The form of a line that is read with this result. -/
def HasForm (line : List Char) : Except Fault Line → Prop
  | .ok .skipped => IsSkipped line
  | .ok (.version tag) => HoldsVersion line tag
  | .ok (.record record) => HoldsRecord line record
  | .error fault => IsMalformed line fault

/-- **Forms and results**: a line is read with a result exactly if it has the
    form that goes with the result. -/
theorem readLine_eq_iff {result : Except Fault Line} :
    readLine line = result ↔ HasForm line result := by
  constructor
  · rintro rfl
    rcases line_cases line with hline | ⟨tag, hline⟩ | ⟨record, hline⟩ | ⟨fault, hline⟩
    · rwa [readLine_of_isSkipped hline]
    · rwa [readLine_of_holdsVersion hline]
    · rwa [readLine_of_holdsRecord hline]
    · rwa [readLine_of_isMalformed hline]
  · intro hform
    match result with
    | .ok .skipped => exact readLine_of_isSkipped hform
    | .ok (.version tag) => exact readLine_of_holdsVersion hform
    | .ok (.record record) => exact readLine_of_holdsRecord hform
    | .error fault => exact readLine_of_isMalformed hform

theorem readLine_eq_version_iff : readLine line = .ok (.version tag) ↔ HoldsVersion line tag :=
  readLine_eq_iff

theorem readLine_eq_record_iff :
    readLine line = .ok (.record record) ↔ HoldsRecord line record :=
  readLine_eq_iff

end Worksheet.SavedSheet
