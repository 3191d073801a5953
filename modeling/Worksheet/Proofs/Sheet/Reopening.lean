import Worksheet.Proofs.Formula.LetterCase
import Worksheet.Proofs.SavedSheet.RoundTrip
import Worksheet.Proofs.Sheet.Batch
import Worksheet.Proofs.Sheet.Listing
import Worksheet.Proofs.Sheet.Replay
import Worksheet.Settings.Basic

/-! # Saving and opening again

    A sheet with any history is saved as a text that is read back record by
    record, and loading these records gives the very cells and edges.  Two
    things carry this over from the text to the sheet.

      • Whatever a sheet stores has once been entered: every name is a normal
        form and every content came from an input.  So the name and the input
        that are saved are entered as this name and this content again.
      • The records agree with the contents of the sheet, which are free of
        cycles, so it does not matter that a cell may be saved before those it
        refers to. -/

namespace Worksheet.Sheet

open Relation

variable {s : Sheet}

/-! ### What is stored has been entered -/

/-- Every stored name is a normal form, and every stored content has an input. -/
def Entered (s : Sheet) : Prop :=
  ∀ (name : String) (cell : Cell), s.cells[name]? = some cell →
    (∃ raw, s.rules.normalize raw = name) ∧
    ∃ input, Content.ofInput s.rules input = .ok cell.content

/-- What is stored after a commit is the new content or was stored before. -/
theorem content_of_commit {name c : String} {content : Content} {cell : Cell}
    (h : (s.commit name content).sheet.cells[c]? = some cell) :
    (c = name ∧ cell.content = content) ∨
      ∃ former, s.cells[c]? = some former ∧ former.content = cell.content := by
  unfold commit at h
  dsimp only at h
  split at h
  · exact .inr ⟨cell, h, rfl⟩
  · next order _ =>
    have hput : (put (contents s.cells) name content)[c]? = some cell.content := by
      rw [← contents_place, ← contents_foldl_recalculate (order.drop 1), getElem?_contents, h,
        Option.map_some]
    rw [getElem?_put] at hput
    split at hput
    · next hc =>
      split at hput
      · exact nomatch hput
      · exact .inl ⟨hc, (Option.some.inj hput).symm⟩
    · rw [getElem?_contents, Option.map_eq_some_iff] at hput
      exact .inr hput

theorem invariant_entered : Invariant Entered where
  same hsame h := by
    unfold Entered
    rw [hsame.rules, hsame.cells]
    exact h
  new rules version name cell hcell := by
    simp [new] at hcell
  commit := by
    intro s name input content h _ hinput c cell hcell
    rw [rules_commit]
    rcases content_of_commit hcell with ⟨rfl, hcontent⟩ | ⟨former, hformer, hcontent⟩
    · exact ⟨⟨name, rfl⟩, input, by rw [hcontent]; exact hinput⟩
    · rw [← hcontent]
      exact h c former hformer

/-! ### Records -/

/-- What the sheet holds, in listing order. -/
def entries (s : Sheet) : List (String × Content) :=
  s.sortedNames.filterMap fun name => s.cells[name]?.map fun cell => (name, cell.content)

/-- The records that the sheet is saved as. -/
def records (s : Sheet) : List Record :=
  s.entries.map fun entry => ⟨entry.1, entry.2.input⟩

theorem entries_eq (s : Sheet) :
    s.entries = s.listedCells.map fun (name, cell) => (name, cell.content) := by
  rw [listedCells, List.map_filterMap]
  simp only [Option.map_map]
  rfl

theorem mem_entries {name : String} {content : Content} :
    (name, content) ∈ s.entries ↔ ∃ cell, s.cells[name]? = some cell ∧ cell.content = content := by
  rw [entries_eq, List.mem_map]
  constructor
  · rintro ⟨⟨name, cell⟩, hlisted, heq⟩
    obtain ⟨rfl, rfl⟩ := Prod.mk.inj heq
    exact ⟨cell, (s.mem_listedCells name cell).mp hlisted, rfl⟩
  · rintro ⟨cell, hcell, rfl⟩
    exact ⟨(name, cell), (s.mem_listedCells name cell).mpr hcell, rfl⟩

/-- There is one record for each stored cell. -/
theorem map_name_records (s : Sheet) : s.records.map Record.name = s.sortedNames := by
  rw [records, entries_eq, List.map_map, List.map_map, ← map_name_listedCells]
  rfl

theorem mem_records {record : Record} (h : record ∈ s.records) :
    ∃ cell, s.cells[record.name]? = some cell ∧ record.input = cell.content.input := by
  obtain ⟨⟨name, content⟩, hentry, rfl⟩ := List.mem_map.mp h
  obtain ⟨cell, hcell, rfl⟩ := mem_entries.mp hentry
  exact ⟨cell, hcell, rfl⟩

/-! ### Saving and loading -/

/-- What is saved is read back as the records. -/
theorem Coherent.parse_savedText (h : s.Coherent) (hentered : s.Entered)
    (htrim : Text.trim s.version.toList = s.version.toList) (hline : '\n' ∉ s.version.toList) :
    SavedSheet.parse s.savedText = .ok ⟨s.version, s.records⟩ := by
  refine SavedSheet.parse_write htrim hline fun ⟨name, content⟩ hentry => ?_
  obtain ⟨cell, hcell, rfl⟩ := mem_entries.mp hentry
  obtain ⟨-, input, hinput⟩ := hentered name cell hcell
  have hlegal := h.legal name (Std.ExtTreeMap.isSome_getElem?_iff_mem.mp (by simp [hcell]))
  rw [isLegal, Bool.and_eq_true] at hlegal
  exact ⟨hlegal.1, Content.isWritable_of_ofInput hinput⟩

/-- Each record is entered as the cell that it was saved for. -/
theorem Coherent.agreesWith (h : s.Coherent) (hentered : s.Entered)
    (hnormal : ∀ name, s.rules.normalize (s.rules.normalize name) = s.rules.normalize name)
    {record : Record} (hrecord : record ∈ s.records) :
    s.rules.normalize record.name = record.name ∧
      AgreesWith s.rules (contents s.cells) record := by
  obtain ⟨cell, hcell, hinput⟩ := mem_records hrecord
  obtain ⟨⟨raw, hraw⟩, input, hentry⟩ := hentered record.name cell hcell
  have hname : s.rules.normalize record.name = record.name := by rw [← hraw, hnormal]
  have hfilled := h.filled record.name cell hcell
  refine ⟨hname, ?_, cell.content, ?_, ?_⟩
  · rw [hname]
    exact h.legal record.name (Std.ExtTreeMap.isSome_getElem?_iff_mem.mp (by simp [hcell]))
  · rw [hinput]
    exact Content.ofInput_input hnormal hentry
  · simp [hname, hcell, stored, hfilled]

/-- Entering the records into an empty sheet gives the cells and edges again. -/
theorem Coherent.enterRecords_records (h : s.Coherent) (hentered : s.Entered)
    (hnormal : ∀ name, s.rules.normalize (s.rules.normalize name) = s.rules.normalize name) :
    ∃ loaded, (new s.rules s.version).enterRecords s.records = .ok loaded ∧
      loaded.cells = s.cells ∧ loaded.graph = s.graph := by
  have hempty : (new s.rules s.version).Coherent := coherent_new s.rules s.version
  have hpart : IsPart (contents (new s.rules s.version).cells) (contents s.cells) := by
    intro c content hc
    simp [new] at hc
  obtain ⟨loaded, hloaded, hcontents⟩ := hempty.enterRecords_of_agree h.acyclic hpart
    fun record hrecord => (h.agreesWith hentered hnormal hrecord).2
  have hnames : s.records.map (fun record => s.rules.normalize record.name) = s.sortedNames := by
    rw [← s.map_name_records]
    exact List.map_congr_left fun record hrecord => (h.agreesWith hentered hnormal hrecord).1
  have hheld : contents loaded.cells = contents s.cells := by
    apply Std.ExtTreeMap.ext_getElem?
    intro c
    rw [hcontents]
    split
    · rfl
    · next hout =>
      have hnone : c ∉ s.cells := by
        rw [← mem_sortedNames, ← hnames]
        exact hout
      simp [new, Std.ExtTreeMap.getElem?_eq_none hnone]
  have hcoherent := (invariant_coherent.enterRecords hempty hloaded).1
  exact ⟨loaded, hloaded, h.cells_eq hcoherent hheld, h.graph_eq hcoherent hheld⟩

/-- A file is loaded if it has the version of the sheet and its records are all
    accepted. -/
theorem load_of_enterRecords {read : FileReader} {path text : String} {saved : SavedSheet}
    {loaded : Sheet} (hread : read.text path = .ok text)
    (hparse : SavedSheet.parse text = .ok saved) (hversion : saved.version = s.version)
    (hloaded : (new s.rules s.version).enterRecords saved.records = .ok loaded) :
    s.load read path =
      ⟨{ s with
          cells := loaded.cells
          graph := loaded.graph
          path := some path
          modified := false }, .ok ()⟩ := by
  rw [load_of_parse hread hparse hversion, hloaded]

/-- Opening the saved text gives a sheet that has the file as its own and is
    otherwise the same. -/
theorem Coherent.openFile_savedText (h : s.Coherent) (hentered : s.Entered)
    (hnormal : ∀ name, s.rules.normalize (s.rules.normalize name) = s.rules.normalize name)
    (htrim : Text.trim s.version.toList = s.version.toList) (hline : '\n' ∉ s.version.toList)
    {read : FileReader} {path : String} (hread : read.text path = .ok s.savedText) :
    openFile read path s.rules s.version = .ok { s with path := some path, modified := false } := by
  have hparse := h.parse_savedText hentered htrim hline
  obtain ⟨loaded, hloaded, hcells, hgraph⟩ := h.enterRecords_records hentered hnormal
  have hload : (new s.rules s.version).load read path = _ :=
    load_of_enterRecords hread hparse rfl hloaded
  rw [openFile, hload, ← hcells, ← hgraph]
  rfl

/-- Normal forms are left alone by the rules of any settings. -/
theorem normalize_normalize (settings : Settings) (name : String) :
    settings.rules.normalize (settings.rules.normalize name) = settings.rules.normalize name := by
  unfold Settings.rules
  dsimp only
  split
  · exact toUpper_toUpper name
  · rfl

/-- **Saving and opening again**: if normal forms are left alone by the rules,
    and the version has neither blanks at its ends nor a line feed, then after
    any history the saved text is read as the version and one record for each
    stored cell, in listing order, and loading it into a sheet with the same
    rules and version succeeds and gives the same cells and edges.  Saving the
    loaded sheet gives the same text. -/
theorem load_savedText (rules : NameRules) (version : String) (history : List Operation)
    (hnormal : ∀ name, rules.normalize (rules.normalize name) = rules.normalize name)
    (htrim : Text.trim version.toList = version.toList) (hline : '\n' ∉ version.toList) :
    let s := (new rules version).after history
    SavedSheet.parse s.savedText = .ok ⟨version, s.records⟩ ∧
    s.records.map Record.name = s.sortedNames ∧
    s.sortedNames.Nodup ∧ (∀ name, name ∈ s.sortedNames ↔ name ∈ s.cells) ∧
    (∀ record ∈ s.records, ∃ cell, s.cells[record.name]? = some cell ∧
      record.input = cell.content.input) ∧
    ∀ (target : Sheet) (read : FileReader) (path : String), target.rules = rules →
      target.version = version → read.text path = .ok s.savedText →
      target.load read path =
        ⟨{ target with
            cells := s.cells
            graph := s.graph
            path := some path
            modified := false }, .ok ()⟩ ∧
      (target.load read path).sheet.savedText = s.savedText := by
  intro s
  have h : s.Coherent := coherent_after rules version history
  have hentered : s.Entered := invariant_entered.after rules version history
  have hrules : s.rules = rules := rules_after _ history
  have hversion : s.version = version := version_after _ history
  have hparse : SavedSheet.parse s.savedText = .ok ⟨version, s.records⟩ := by
    rw [← hversion] at htrim hline ⊢
    exact h.parse_savedText hentered htrim hline
  refine ⟨hparse, s.map_name_records, s.nodup_sortedNames, s.mem_sortedNames,
    fun record => mem_records, ?_⟩
  intro target read path htargetRules htargetVersion hread
  obtain ⟨loaded, hloaded, hcells, hgraph⟩ :=
    h.enterRecords_records hentered (by rwa [hrules])
  rw [hrules, hversion, ← htargetRules, ← htargetVersion] at hloaded
  have hload := load_of_enterRecords hread hparse htargetVersion.symm hloaded
  rw [hcells, hgraph] at hload
  refine ⟨hload, ?_⟩
  rw [hload]
  simp only [savedText, sortedNames, names, hversion, htargetVersion]

/-- A cell is saved in front of the one that it refers to, and a text has all
    the marks of the file in it. -/
theorem load_savedText_marks :
    let version := "v 1"
    let rules := Settings.rules ⟨version, true, none⟩
    let s := (new rules version).after
      [.enter "b2" "0.5", .enter "A1" "=b2/(1-B2)", .enter "a2" " \"@version\": =\\n#\n"]
    (∀ name, rules.normalize (rules.normalize name) = rules.normalize name) ∧
      Text.trim version.toList = version.toList ∧ '\n' ∉ version.toList ∧
      (new rules version).load (fun _ => .ok (.text s.savedText)) "sheet" =
        ⟨⟨rules, version, s.cells, s.graph, some "sheet", false⟩, .ok ()⟩ := by
  intro version rules
  have hnormal := normalize_normalize ⟨version, true, none⟩
  have htrim : Text.trim version.toList = version.toList := by decide
  have hline : '\n' ∉ version.toList := by decide
  have h := load_savedText rules version
    [.enter "b2" "0.5", .enter "A1" "=b2/(1-B2)", .enter "a2" " \"@version\": =\\n#\n"]
    hnormal htrim hline
  -- The sheet is not evaluated here.
  generalize (new rules version).after _ = s at h ⊢
  obtain ⟨-, -, -, -, -, hload⟩ := h
  obtain ⟨hsame, -⟩ := hload (new rules version) (fun _ => .ok (.text s.savedText)) "sheet"
    rfl rfl rfl
  exact ⟨hnormal, htrim, hline, hsame⟩

end Worksheet.Sheet
