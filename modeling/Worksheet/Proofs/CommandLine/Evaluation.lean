import Worksheet.CommandLine.Run
import Worksheet.Proofs.Except
import Worksheet.Proofs.Files.Writing
import Worksheet.Proofs.Sheet.Listing
import Worksheet.Proofs.Sheet.Reopening

/-! # What a run evaluates

    A run opens a sheet, sets cells in it and lists it, and after that it may save
    it.  Each of these steps is taken if those before it have succeeded.

      • The sheet of a run has a history, so it has all that holds after every
        history.
      • Listing cannot fail: every stored name is its own normal form and legal, so
        looking it up finds the cell that is stored under it.
      • So it is settled whether the run succeeds up to saving once the cells are
        set, and behind that only writing can fail.

    Files are read and written here on any file system, of which a tree of files is
    one. -/

namespace Worksheet.CommandLine

open Sheet

/-! ### The settings of a run -/

/-- The settings under which a request is run. -/
def Request.settings (request : Request) (read : FileReader) (userPath : Option String) :
    Settings :=
  (Settings.load read request.config userPath).1

/-- What is shown of the warnings about these settings. -/
def Request.warnings (request : Request) (read : FileReader) (userPath : Option String) :
    String :=
  String.join ((Settings.load read request.config userPath).2.map warningLine)

variable {read : FileReader} {settings : Settings} {request : Request} {s t : Sheet}

/-! ### The sheet of a run -/

/-- The history that assignments make: their contents are entered one after the
    other. -/
def entering (assignments : List (String × String)) : List Operation :=
  assignments.map fun (cell, content) => .enter cell content

/-- Where all assignments are accepted, they have been entered. -/
theorem eq_after_of_assign {assignments : List (String × String)}
    (h : assign s assignments = .ok t) : t = s.after (entering assignments) := by
  induction assignments generalizing s with
  | nil => exact (Except.ok.inj h).symm
  | cons first rest ih =>
    unfold assign at h
    dsimp only at h
    split at h
    · exact nomatch h
    · exact ih h

/-- A run begins with an empty sheet or with one that is loaded into it. -/
theorem eq_after_of_openSheet {file : Option String} (h : openSheet read settings file = .ok s) :
    ∃ history, s = (Sheet.new settings.rules settings.version).after history := by
  cases file with
  | none => exact ⟨[], (Except.ok.inj h).symm⟩
  | some path =>
    refine ⟨[.load read path], ?_⟩
    unfold openSheet openFile at h
    dsimp only at h
    cases hresult : ((Sheet.new settings.rules settings.version).load read path).result with
    | error e =>
      rw [hresult] at h
      exact nomatch h
    | ok _ =>
      rw [hresult] at h
      exact (Except.ok.inj h).symm

/-- A run gets to a sheet if neither opening nor setting fails. -/
theorem evaluate_eq_ok_iff :
    evaluate read settings request = .ok s ↔
      ∃ opened, openSheet read settings request.file = .ok opened ∧
        assign opened request.assignments = .ok s := by
  unfold evaluate
  constructor
  · intro h
    exact exists_of_bind_eq_ok h
  · intro ⟨opened, hopen, hassign⟩
    rw [hopen]
    exact hassign

/-- The sheet of a run has a history. -/
theorem eq_after_of_evaluate (h : evaluate read settings request = .ok s) :
    ∃ history, s = (Sheet.new settings.rules settings.version).after history := by
  obtain ⟨opened, hopen, hassign⟩ := evaluate_eq_ok_iff.mp h
  obtain ⟨history, rfl⟩ := eq_after_of_openSheet hopen
  refine ⟨history ++ entering request.assignments, ?_⟩
  rw [eq_after_of_assign hassign, after, after, after, List.foldl_append]

/-! ### Listing -/

/-- The line that shows a cell with its value. -/
def shownLine (entry : String × Cell) : String :=
  line (entry.1 ++ "\t" ++ entry.2.value.display)

/-- What the sheet of a run is listed as. -/
def listed (s : Sheet) : String :=
  String.join (s.listedCells.map shownLine)

/-- Stored names are normal forms and legal, so looking one up finds its own cell. -/
theorem displayOf_stored (h : s.Coherent) (hentered : s.Entered)
    (hnormal : ∀ name, s.rules.normalize (s.rules.normalize name) = s.rules.normalize name)
    {name : String} {cell : Cell} (hcell : s.cells[name]? = some cell) :
    s.displayOf name = .ok cell.value.display := by
  have hlegal := h.legal name (Std.ExtTreeMap.isSome_getElem?_iff_mem.mp (by simp [hcell]))
  obtain ⟨⟨raw, rfl⟩, -⟩ := hentered name cell hcell
  rw [← hnormal raw] at hlegal
  have hvalue : s.valueOf (s.rules.normalize raw) = .ok cell.value := by
    simp only [valueOf, legalName_of_isLegal hlegal, hnormal, bind, Except.bind, hcell]
  rw [displayOf, hvalue]
  rfl

/-- Lines that could all be made are all printed. -/
theorem printLines_ok (lines : List String) :
    printLines (lines.map .ok) = ⟨String.join lines, .ok ()⟩ := by
  induction lines with
  | nil => rfl
  | cons first rest ih => rw [List.map_cons, printLines, ih, String.join_cons]

/-- **Listing never fails**: the listing of a run's sheet shows every stored cell
    once, with its own value. -/
theorem listing_of_evaluate (hevaluate : evaluate read settings request = .ok s) :
    (∀ name cell, s.cells[name]? = some cell → s.displayOf name = .ok cell.value.display) ∧
      listing s = ⟨listed s, .ok ()⟩ := by
  obtain ⟨history, hs⟩ := eq_after_of_evaluate hevaluate
  have hrules := rules_after (Sheet.new settings.rules settings.version) history
  rw [← hs] at hrules
  have hdisplay : ∀ name cell, s.cells[name]? = some cell →
      s.displayOf name = .ok cell.value.display := by
    intro name cell hcell
    apply displayOf_stored
    · rw [hs]
      exact coherent_after settings.rules settings.version history
    · rw [hs]
      exact invariant_entered.after settings.rules settings.version history
    · rw [hrules]
      exact normalize_normalize settings
    · exact hcell
  have hlines : s.sortedNames.map (cellLine s) = (s.listedCells.map shownLine).map .ok := by
    rw [← map_name_listedCells, List.map_map, List.map_map]
    apply List.map_congr_left
    -- What is listed under a name is what looking the name up finds.
    intro ⟨name, cell⟩ hlisted
    have hcell := (s.mem_listedCells name cell).mp hlisted
    show cellLine s name = _
    rw [cellLine, hdisplay name cell hcell]
    rfl
  refine ⟨hdisplay, ?_⟩
  rw [listing, hlines, printLines_ok, listed]

/-! ### Plans -/

variable {userPath : Option String} {arguments : List String}

/-- A run on which something fails before the sheet is listed is over then. -/
theorem ofArguments_of_error {failure : Failure} (hparse : parse arguments = .ok (.run request))
    (hevaluate : evaluate read (request.settings read userPath) request = .error failure) :
    Plan.ofArguments read userPath arguments =
      .finish ⟨1, "", request.warnings read userPath ++ errorLine failure.message⟩ := by
  unfold Request.settings at hevaluate
  unfold Plan.ofArguments
  rw [hparse]
  dsimp only [Plan.ofRequest]
  rw [hevaluate]
  rfl

/-- Once the cells are set, they are listed, and it only remains to save the sheet
    if that is asked for. -/
theorem ofArguments_of_evaluate (hparse : parse arguments = .ok (.run request))
    (hevaluate : evaluate read (request.settings read userPath) request = .ok s) :
    Plan.ofArguments read userPath arguments =
      match request.output with
      | none => .finish ⟨0, listed s, request.warnings read userPath⟩
      | some path => .save s path ⟨0, listed s, request.warnings read userPath⟩ := by
  obtain ⟨-, hlisting⟩ := listing_of_evaluate hevaluate
  unfold Request.settings at hevaluate
  unfold Plan.ofArguments
  rw [hparse]
  dsimp only [Plan.ofRequest]
  rw [hevaluate]
  dsimp only
  cases request.output with
  | none =>
    rw [hlisting]
    rfl
  | some path =>
    rw [hlisting]
    rfl

/-! ### Runs on any file system -/

/-- A run on any file system, where `read` tells what is at a path, and `write` what
    comes of writing a text to a path and how the file system is then. -/
def runOn {σ : Type} (read : FileReader) (write : String → String → Except FileError Unit × σ)
    (before : σ) (userPath : Option String) (arguments : List String) : σ × Report :=
  match Plan.ofArguments read userPath arguments with
  | .finish report => (before, report)
  | .save s path report =>
    let (written, after) := write path s.savedText
    (after, report.afterSaving path (s.afterWriting path written).result)

/-- Writing to a tree of files, which stays as it is if that fails. -/
def writing (files : Files) (path text : String) : Except FileError Unit × Files :=
  match files.write path text with
  | .error e => (.error e, files)
  | .ok written => (.ok (), written)

theorem run_eq_runOn (files : Files) (userPath : Option String) (arguments : List String) :
    run files userPath arguments =
      runOn files.read (writing files) files userPath arguments := by
  unfold run runOn
  cases Plan.ofArguments files.read userPath arguments with
  | finish report => rfl
  | save s path report =>
    dsimp only [saveAs, writing]
    cases files.write path s.savedText <;> rfl

/-- A tree of files is a file system. -/
def treeOfFiles : FileSystem Files where
  read := Files.read
  write := writing
  read_of_write {before path text} h := by
    unfold writing at h ⊢
    cases hwrite : before.write path text with
    | error e =>
      rw [hwrite] at h
      exact nomatch h
    | ok written => exact Files.read_of_write hwrite

/-- A run on a file system that is in the state `before`. -/
def runIn {σ : Type} (system : FileSystem σ) (before : σ) (userPath : Option String)
    (arguments : List String) : σ × Report :=
  runOn (system.read before) (system.write before) before userPath arguments

variable {σ : Type}

/-- The report after saving has the listing still, and fails if writing does. -/
theorem report_afterSaving (s : Sheet) (path : String) (written : Except FileError Unit)
    {report : Report} (hcode : report.code = 0) :
    let saved := report.afterSaving path (s.afterWriting path written).result
    saved.output = report.output ∧ (saved.code = 1 ↔ ∃ e, written = .error e) ∧
      (saved.code = 0 ∨ saved.code = 1) := by
  cases written with
  | error e => exact ⟨rfl, ⟨fun _ => ⟨e, rfl⟩, fun _ => rfl⟩, .inr rfl⟩
  | ok _ => simp [Sheet.afterWriting, Report.afterSaving, hcode]

/-- Once the cells are set, they are listed, and only saving can fail. -/
theorem runOn_of_evaluate (hparse : parse arguments = .ok (.run request))
    (hevaluate : evaluate read (request.settings read userPath) request = .ok s)
    (write : String → String → Except FileError Unit × σ) (before : σ) :
    let after := runOn read write before userPath arguments
    after.2.output = listed s ∧
    after.1 = (request.output.map fun path => (write path s.savedText).2).getD before ∧
    (after.2.code = 1 ↔
      ∃ path e, request.output = some path ∧ (write path s.savedText).1 = .error e) ∧
    (after.2.code = 0 ∨ after.2.code = 1) := by
  intro after
  have hplan := ofArguments_of_evaluate hparse hevaluate
  have hafter : after = runOn read write before userPath arguments := rfl
  rw [runOn, hplan] at hafter
  cases houtput : request.output with
  | none =>
    rw [houtput] at hafter
    rw [hafter]
    exact ⟨rfl, rfl, by simp, .inl rfl⟩
  | some path =>
    rw [houtput] at hafter
    dsimp only at hafter
    -- The report up to saving is one of success.
    have hzero : (Report.mk 0 (listed s) (request.warnings read userPath)).code = 0 := rfl
    obtain ⟨hlisted, hfails, hcode⟩ := report_afterSaving s path (write path s.savedText).1 hzero
    rw [hafter]
    exact ⟨hlisted, rfl, by simpa using hfails, hcode⟩

/-- Once the cells are set, a run succeeds if what is to be saved can be written. -/
theorem code_eq_zero_iff (hparse : parse arguments = .ok (.run request))
    (hevaluate : evaluate read (request.settings read userPath) request = .ok s)
    (write : String → String → Except FileError Unit × σ) (before : σ) :
    (runOn read write before userPath arguments).2.code = 0 ↔
      ∀ path, request.output = some path → (write path s.savedText).1 = .ok () := by
  obtain ⟨-, -, hfails, hcode⟩ := runOn_of_evaluate hparse hevaluate write before
  constructor
  · intro hzero path houtput
    cases hwritten : (write path s.savedText).1 with
    | ok _ => rfl
    | error e =>
      have hone := hfails.mpr ⟨path, e, houtput, hwritten⟩
      exact absurd (hzero.symm.trans hone) (by decide)
  · intro hwritten
    rcases hcode with hzero | hone
    · exact hzero
    · obtain ⟨path, e, houtput, hfailed⟩ := hfails.mp hone
      exact nomatch (hwritten path houtput).symm.trans hfailed

/-- A run that succeeds has set its cells. -/
theorem exists_evaluate_of_code {write : String → String → Except FileError Unit × σ} {before : σ}
    (hparse : parse arguments = .ok (.run request))
    (hcode : (runOn read write before userPath arguments).2.code = 0) :
    ∃ s, evaluate read (request.settings read userPath) request = .ok s := by
  cases hevaluate : evaluate read (request.settings read userPath) request with
  | error failure =>
    rw [runOn, ofArguments_of_error hparse hevaluate] at hcode
    exact nomatch hcode
  | ok s => exact ⟨s, rfl⟩

end Worksheet.CommandLine
