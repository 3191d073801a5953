import Worksheet.Proofs.SavedSheet.FirstFault
import Worksheet.Proofs.Sheet.RecordOrder
import Worksheet.Proofs.Sheet.Reopening

/-! # Versions that can be saved

    A sheet may have any text as its version, and the version is saved as it is,
    on a line of its own.  What is read back from a line has no blank at either
    end and no line feed.  So a version that has one is lost: what is saved with
    it is either no saved sheet at all or one with another version, and a sheet
    with the same rules and the same version refuses to load it. -/

namespace Worksheet

namespace SavedSheet

/-- The version can stand on its line: it has no blank at either end and no line
    feed. -/
def FitsLine (version : String) : Prop :=
  Text.trim version.toList = version.toList ∧ '\n' ∉ version.toList

/-- Only such versions are read. -/
theorem fitsLine_of_parse {text : String} {saved : SavedSheet} (h : parse text = .ok saved) :
    FitsLine saved.version := by
  obtain ⟨line, hline, rest, htrim, -, hversion⟩ := exists_holdsVersion_of_parse h
  rw [FitsLine, hversion, String.toList_ofList]
  refine ⟨Text.trim_trim rest, fun hnewline => ?_⟩
  -- What is read of a line has been on it before it was trimmed.
  have hmem : '\n' ∈ Text.trim line := by
    rw [htrim]
    exact List.mem_append_right _ ((Text.trim_sublist rest).subset hnewline)
  exact Text.newline_notMem_of_mem_lines hline ((Text.trim_sublist line).subset hmem)

end SavedSheet

namespace Sheet

open SavedSheet (FitsLine)

variable {s target : Sheet} {read : FileReader} {path text version : String}

/-- The text is refused before any of its records is entered. -/
def RefusesText (target : Sheet) (read : FileReader) (path : String) : Prop :=
  (∃ e, (target.load read path).result = .error (.parse e)) ∨
    ∃ found, (target.load read path).result = .error (.versionMismatch target.version found)

/-- A text without the version of the sheet is refused. -/
theorem refusesText_of_not_version (hread : read.text path = .ok text)
    (hversion : ∀ saved, SavedSheet.parse text = .ok saved → saved.version ≠ target.version) :
    target.RefusesText read path := by
  have hsaved : readSaved read path = (SavedSheet.parse text).mapError .parse := by
    rw [readSaved, hread]
    rfl
  cases hparse : SavedSheet.parse text with
  | error e =>
    have hrefused : readSaved read path >>= ofSaved target.rules target.version =
        .error (.parse e) := by
      rw [hsaved, hparse]
      rfl
    exact .inl ⟨e, by rw [load, hrefused]⟩
  | ok saved =>
    have hrefused : readSaved read path >>= ofSaved target.rules target.version =
        .error (.versionMismatch target.version saved.version) := by
      rw [hsaved, hparse]
      exact if_neg (hversion saved hparse)
    exact .inr ⟨saved.version, by rw [load, hrefused]⟩

/-- A text with the version of the sheet is not refused, whatever becomes of its
    records. -/
theorem not_refusesText_of_version {records : List Record} (hread : read.text path = .ok text)
    (hparse : SavedSheet.parse text = .ok ⟨target.version, records⟩) :
    ¬ target.RefusesText read path := by
  rintro (⟨e, he⟩ | ⟨found, he⟩)
  · obtain ⟨name, cause, heq⟩ := exists_load_of_error hread hparse he
    exact nomatch heq
  · obtain ⟨name, cause, heq⟩ := exists_load_of_error hread hparse he
    exact nomatch heq

/-- **Versions that can be saved**: a sheet with any history is read back, with
    its version and with one record for each stored cell, if the version fits its
    line, and otherwise nothing is read that has its version.  In the latter case
    a sheet with the same rules and the same version refuses the text, in the
    former it does not, and loads it if the rules leave normal forms alone. -/
theorem load_savedText_iff_fitsLine (rules : NameRules) (version : String)
    (history : List Operation) :
    let s := (new rules version).after history
    (FitsLine version → SavedSheet.parse s.savedText = .ok ⟨version, s.records⟩) ∧
    (∀ saved, SavedSheet.parse s.savedText = .ok saved → saved.version = version →
      FitsLine version) ∧
    ∀ (target : Sheet) (read : FileReader) (path : String), target.rules = rules →
      target.version = version → read.text path = .ok s.savedText →
      (target.RefusesText read path ↔ ¬ FitsLine version) ∧
      ((∀ name, rules.normalize (rules.normalize name) = rules.normalize name) →
        ((target.load read path).result = .ok () ↔ FitsLine version)) := by
  intro s
  have h : s.Coherent := coherent_after rules version history
  have hentered : s.Entered := invariant_entered.after rules version history
  have hrules : s.rules = rules := rules_after _ history
  have hversion : s.version = version := version_after _ history
  have hparse : FitsLine version → SavedSheet.parse s.savedText = .ok ⟨version, s.records⟩ := by
    intro hfits
    rw [← hversion] at hfits ⊢
    exact h.parse_savedText hentered hfits.1 hfits.2
  have hfits : ∀ saved, SavedSheet.parse s.savedText = .ok saved → saved.version = version →
      FitsLine version :=
    fun saved hsaved heq => heq ▸ SavedSheet.fitsLine_of_parse hsaved
  refine ⟨hparse, hfits, ?_⟩
  rintro target read path rfl rfl hread
  have hrefuses : target.RefusesText read path ↔ ¬ FitsLine target.version := by
    constructor
    · exact fun hrefused hline => not_refusesText_of_version hread (hparse hline) hrefused
    · exact fun hline => refusesText_of_not_version hread
        fun saved hsaved heq => hline (hfits saved hsaved heq)
  refine ⟨hrefuses, fun hnormal => ⟨fun hok => ?_, fun hline => ?_⟩⟩
  · by_contra hline
    rcases hrefuses.mpr hline with ⟨e, he⟩ | ⟨found, he⟩
    · exact nomatch hok.symm.trans he
    · exact nomatch hok.symm.trans he
  · obtain ⟨loaded, hloaded, -⟩ := h.enterRecords_records hentered (by rwa [hrules])
    rw [hrules, hversion] at hloaded
    rw [load_of_enterRecords hread (hparse hline) rfl hloaded]

/-- A blank in front of the version is lost, and what follows a line feed in it is
    read as a line of its own, as a record or as a fault. -/
theorem savedText_not_read_back :
    let blank := new .plain " v"
    let record := new .plain "v\nA1: 1"
    let fault := new .plain "v\nw"
    SavedSheet.parse blank.savedText = .ok ⟨"v", []⟩ ∧
      (blank.load (fun _ => .ok (.text blank.savedText)) "sheet").result =
        .error (.versionMismatch " v" "v") ∧
      record.records = [] ∧ SavedSheet.parse record.savedText = .ok ⟨"v", [⟨"A1", "1"⟩]⟩ ∧
      SavedSheet.parse fault.savedText = .error ⟨3, .noSeparator⟩ := by
  decide +kernel

end Sheet

end Worksheet
