import Worksheet.Proofs.CommandLine.Evaluation

/-! # All or nothing

    A run shows nothing and writes nothing before all its cells are set.  There are
    three things that can stop it until then: arguments that are not understood, a
    file that cannot be opened, and an assignment that the sheet refuses.  Behind
    them nothing fails but saving.

      • Setting the cells fails exactly if one of the assignments is refused by the
        sheet that those before it have left.
      • So a run that is not stopped gets to its sheet, and lists it, since a
        listing never fails.

    Whatever the file system, a run that is stopped leaves it as it was. -/

namespace Worksheet.CommandLine

open Sheet

variable {read : FileReader} {userPath : Option String} {arguments : List String}
  {settings : Settings} {request : Request} {s : Sheet} {assignments : List (String × String)}

/-! ### What stops a run -/

/-- One of the assignments is refused, after those before it have been accepted. -/
inductive Refuses : Sheet → List (String × String) → Prop where
  | now {s : Sheet} {cell content : String} {rest : List (String × String)} {cause : SheetError}
      (h : (s.enter cell content).result = .error cause) : Refuses s ((cell, content) :: rest)
  | later {s : Sheet} {cell content : String} {rest : List (String × String)}
      {evaluated : Std.ExtTreeSet String} (hok : (s.enter cell content).result = .ok evaluated)
      (h : Refuses (s.enter cell content).sheet rest) : Refuses s ((cell, content) :: rest)

/-- What stops a run before it lists its sheet. -/
inductive Stops (read : FileReader) (userPath : Option String) (arguments : List String) :
    Prop where
  /-- The arguments are not understood. -/
  | rejected {e : ArgumentError} (h : parse arguments = .error e)
  /-- The file cannot be opened. -/
  | unopened {request : Request} {path : String} {cause : SheetError}
      (hparse : parse arguments = .ok (.run request)) (hfile : request.file = some path)
      (h : Sheet.openFile read path (request.settings read userPath).rules
        (request.settings read userPath).version = .error cause)
  /-- The sheet refuses an assignment. -/
  | refused {request : Request} {opened : Sheet} (hparse : parse arguments = .ok (.run request))
      (hopen : openSheet read (request.settings read userPath) request.file = .ok opened)
      (h : Refuses opened request.assignments)

/-! ### The steps up to the listing -/

/-- Opening fails exactly if there is a file and it cannot be opened. -/
theorem openSheet_error_iff {file : Option String} :
    (∃ failure, openSheet read settings file = .error failure) ↔
      ∃ path cause, file = some path ∧
        Sheet.openFile read path settings.rules settings.version = .error cause := by
  unfold openSheet
  cases file with
  | none => simp
  | some path =>
    cases hresult : Sheet.openFile read path settings.rules settings.version <;>
      simp [Except.mapError, hresult]

/-- Setting the cells fails exactly if an assignment is refused. -/
theorem assign_error_iff :
    (∃ failure, assign s assignments = .error failure) ↔ Refuses s assignments := by
  constructor
  · -- Along the assignments, with the sheet that each of them finds.
    rintro ⟨failure, h⟩
    induction assignments generalizing s with
    | nil => exact nomatch h
    | cons first rest ih =>
      obtain ⟨cell, content⟩ := first
      unfold assign at h
      dsimp only at h
      split at h
      · next cause hcause => exact .now hcause
      · next evaluated hok => exact .later hok (ih h)
  · intro h
    induction h with
    | now hcause =>
      unfold assign
      dsimp only
      rw [hcause]
      exact ⟨_, rfl⟩
    | later hok _ ih =>
      unfold assign
      dsimp only
      rw [hok]
      exact ih

/-- A run fails before it lists its sheet exactly if it cannot open its file or set
    its cells. -/
theorem evaluate_error_iff :
    (∃ failure, evaluate read settings request = .error failure) ↔
      (∃ path cause, request.file = some path ∧
        Sheet.openFile read path settings.rules settings.version = .error cause) ∨
      ∃ opened, openSheet read settings request.file = .ok opened ∧
        Refuses opened request.assignments := by
  rw [← openSheet_error_iff]
  simp only [← assign_error_iff]
  unfold evaluate
  cases openSheet read settings request.file with
  | error failure => simp [bind, Except.bind]
  | ok opened => simp [bind, Except.bind]

/-- With arguments that are understood, what stops a run is a failure up to its
    listing. -/
theorem stops_iff (hparse : parse arguments = .ok (.run request)) :
    Stops read userPath arguments ↔
      ∃ failure, evaluate read (request.settings read userPath) request = .error failure := by
  rw [evaluate_error_iff]
  constructor
  · intro h
    cases h with
    | rejected h => exact nomatch hparse.symm.trans h
    | unopened hparse' hfile h =>
      -- The arguments ask for one thing only, so this request is the given one.
      obtain rfl := Invocation.run.inj (Except.ok.inj (hparse.symm.trans hparse'))
      exact .inl ⟨_, _, hfile, h⟩
    | refused hparse' hopen h =>
      obtain rfl := Invocation.run.inj (Except.ok.inj (hparse.symm.trans hparse'))
      exact .inr ⟨_, hopen, h⟩
  · rintro (⟨path, cause, hfile, h⟩ | ⟨opened, hopen, h⟩)
    · exact .unopened hparse hfile h
    · exact .refused hparse hopen h

/-! ### Whole runs -/

variable {σ : Type}

/-- A run that is stopped has printed nothing and does not write. -/
theorem runOn_of_stops (h : Stops read userPath arguments)
    (write : String → String → Except FileError Unit × σ) (before : σ) :
    ∃ messages, runOn read write before userPath arguments = (before, ⟨1, "", messages⟩) := by
  have hplan : ∃ messages,
      Plan.ofArguments read userPath arguments = .finish ⟨1, "", messages⟩ := by
    cases hparse : parse arguments with
    | error e =>
      unfold Plan.ofArguments
      rw [hparse]
      exact ⟨_, rfl⟩
    | ok invocation =>
      cases invocation with
      | help =>
        cases h with
        | rejected h => exact nomatch hparse.symm.trans h
        | unopened hparse' => exact nomatch hparse.symm.trans hparse'
        | refused hparse' => exact nomatch hparse.symm.trans hparse'
      | run request =>
        obtain ⟨failure, hevaluate⟩ := (stops_iff hparse).mp h
        exact ⟨_, ofArguments_of_error hparse hevaluate⟩
  obtain ⟨messages, hplan⟩ := hplan
  refine ⟨messages, ?_⟩
  rw [runOn, hplan]

/-- **All or nothing**: unless help is asked for, a run that is stopped before its
    listing, by its arguments, its file or one of its assignments, exits with 1,
    prints nothing and leaves the file system as it was.  A run that is not stopped
    has all assignments entered, and prints one line for each cell that is stored
    then, in listing order and with the value of this very cell; looking a listed
    cell up does not fail.  Such a run exits with 1 if there is a path to save to and
    writing there fails, and otherwise with 0.  All this holds on any file system, and
    a tree of files is one. -/
theorem run_all_or_nothing (userPath : Option String) {arguments : List String}
    (hhelp : parse arguments ≠ .ok .help) :
    (∀ files, run files userPath arguments =
      runOn files.read (writing files) files userPath arguments) ∧
    ∀ {σ : Type} (read : FileReader) (write : String → String → Except FileError Unit × σ)
        (before : σ),
      let after := runOn read write before userPath arguments
      (Stops read userPath arguments →
        after.1 = before ∧ after.2.code = 1 ∧ after.2.output = "") ∧
      (¬ Stops read userPath arguments → ∃ request opened,
        parse arguments = .ok (.run request) ∧
        openSheet read (request.settings read userPath) request.file = .ok opened ∧
        let s := opened.after (entering request.assignments)
        (∃ shown : List (String × Cell),
          shown.Pairwise (fun a b => Name.compare a.1 b.1 = .lt) ∧
          (∀ name cell, (name, cell) ∈ shown ↔ s.cells[name]? = some cell) ∧
          after.2.output = String.join
            (shown.map fun entry => line (entry.1 ++ "\t" ++ entry.2.value.display))) ∧
        (∀ name cell, s.cells[name]? = some cell → s.displayOf name = .ok cell.value.display) ∧
        after.1 = (request.output.map fun path => (write path s.savedText).2).getD before ∧
        (after.2.code = 1 ↔
          ∃ path e, request.output = some path ∧ (write path s.savedText).1 = .error e) ∧
        (after.2.code = 0 ∨ after.2.code = 1)) := by
  refine ⟨fun files => run_eq_runOn files userPath arguments, ?_⟩
  intro σ read write before after
  constructor
  · intro hstops
    obtain ⟨messages, hrun⟩ := runOn_of_stops hstops write before
    have hafter : after = (before, ⟨1, "", messages⟩) := hrun
    rw [hafter]
    exact ⟨rfl, rfl, rfl⟩
  · intro hstops
    cases hparse : parse arguments with
    | error e => exact absurd (.rejected hparse) hstops
    | ok invocation =>
      cases invocation with
      | help => exact absurd hparse hhelp
      | run request =>
        -- What stops a run is all that can fail before its listing, so this one has a sheet.
        rw [stops_iff hparse] at hstops
        obtain ⟨s, hevaluate⟩ := exists_ok_of_not_error hstops
        obtain ⟨opened, hopen, hassign⟩ := evaluate_eq_ok_iff.mp hevaluate
        obtain ⟨hdisplay, -⟩ := listing_of_evaluate hevaluate
        obtain ⟨houtput, hfiles, hfails, hcode⟩ := runOn_of_evaluate hparse hevaluate write before
        obtain rfl := eq_after_of_assign hassign
        refine ⟨request, opened, rfl, hopen, ⟨_, ?_, ?_, houtput⟩, hdisplay, hfiles, hfails, hcode⟩
        · exact pairwise_listedCells _
        · exact mem_listedCells _

/-- Two cells that refer to each other: the second assignment is refused, and what
    was to be saved is not written. -/
theorem run_all_or_nothing_cycle :
    let arguments := ["-s", "A1==B1", "-s", "B1==A1", "-o", "sheet"]
    let after := run .empty none arguments
    parse arguments ≠ .ok .help ∧
      parse arguments = .ok (.run ⟨none, [("A1", "=B1"), ("B1", "=A1")], some "sheet", none⟩) ∧
      after.1 = .empty ∧ after.2.code = 1 ∧ after.2.output = "" := by
  intro arguments after
  have hparse : parse arguments =
      .ok (.run ⟨none, [("A1", "=B1"), ("B1", "=A1")], some "sheet", none⟩) := by
    rfl
  have hhelp : parse arguments ≠ .ok .help := by
    rw [hparse]
    exact nofun
  have hstops : Stops Files.empty.read none arguments := by
    let opened := Sheet.new Settings.default.rules Settings.default.version
    have hfirst : ∃ evaluated, (opened.enter "A1" "=B1").result = .ok evaluated := ⟨_, by cbv⟩
    obtain ⟨evaluated, hfirst⟩ := hfirst
    -- By then A1 refers to B1.
    have hsecond : ((opened.enter "A1" "=B1").sheet.enter "B1" "=A1").result =
        .error (.circular "B1") := by cbv
    have hrefuses : Refuses opened [("A1", "=B1"), ("B1", "=A1")] := .later hfirst (.now hsecond)
    exact .refused hparse rfl hrefuses
  obtain ⟨hrun, hany⟩ := run_all_or_nothing none hhelp
  obtain ⟨hstopped, -⟩ := hany Files.empty.read (writing .empty) Files.empty
  have hafter : after = _ := hrun .empty
  rw [hafter]
  exact ⟨hhelp, hparse, hstopped hstops⟩

end Worksheet.CommandLine
