import Worksheet.Proofs.CommandLine.Arguments
import Worksheet.Proofs.CommandLine.Evaluation
import Worksheet.Proofs.Settings.Version

/-! # Opening on the command line what was saved there

    A run that saves its sheet can be taken up by another one: opening the saved
    file under the same settings lists the same cells, and saving again writes
    the same text.

      • The sheet of a run has a history, so it has all that holds after every
        history.
      • The settings bring the side conditions of saving and opening: their
        rules leave normal forms alone, and their versions have no blank.
      • What is written to a path is read there, so the second run finds the
        text that the first one has saved.  This is all that is asked of the
        file system. -/

namespace Worksheet.CommandLine

open Sheet

variable {read : FileReader} {settings : Settings} {request : Request} {s : Sheet}
  {path : String}

/-- Arguments that do nothing but open the file at `path`, under the settings in
    the file `config` if there is one, and save to `copy` if that is given. -/
def reopening (config : Option String) (path : String) (copy : Option String) : List String :=
  config.toList.flatMap (fun file => ["-c", file]) ++
    path :: copy.toList.flatMap fun file => ["-o", file]

theorem parse_reopening (config copy : Option String) (hpath : path.toList.head? ≠ some '-') :
    parse (reopening config path copy) = .ok (.run ⟨some path, [], copy, config⟩) := by
  have hopen (config : Option String) :
      parseFrom ⟨none, [], none, config⟩ (path :: copy.toList.flatMap fun file => ["-o", file]) =
        .ok (.run ⟨some path, [], copy, config⟩) := by
    rw [parseFrom_file rfl hpath]
    cases copy <;> rfl
  cases config with
  | none => exact hopen none
  | some file => exact hopen (some file)

/-- The sheet of a run is opened from its saved text as the same sheet, apart from
    its file. -/
theorem evaluate_reopened (hevaluate : evaluate read settings request = .ok s)
    (hblank : ∀ c ∈ settings.version.toList, Text.isBlank c = false)
    {later : FileReader} (hread : later.text path = .ok s.savedText) (config copy : Option String) :
    evaluate later settings ⟨some path, [], copy, config⟩ =
      .ok { s with path := some path, modified := false } := by
  obtain ⟨history, rfl⟩ := eq_after_of_evaluate hevaluate
  have hcoherent := coherent_after settings.rules settings.version history
  have hentered := invariant_entered.after settings.rules settings.version history
  have hrules := rules_after (Sheet.new settings.rules settings.version) history
  have hversion := version_after (Sheet.new settings.rules settings.version) history
  generalize (Sheet.new settings.rules settings.version).after history = s at *
  have hopen : openFile later path settings.rules settings.version =
      .ok { s with path := some path, modified := false } := by
    rw [← show s.rules = settings.rules from hrules,
      ← show s.version = settings.version from hversion]
    apply hcoherent.openFile_savedText hentered
    · rw [hrules]
      exact normalize_normalize settings
    · rw [hversion]
      exact Text.trim_eq_self_of_not_isBlank hblank
    · rw [hversion]
      exact fun hline => absurd (hblank _ hline) (by decide)
    · exact hread
  refine evaluate_eq_ok_iff.mpr ⟨{ s with path := some path, modified := false }, ?_, rfl⟩
  rw [openSheet, hopen]
  rfl

/-- A run that saves its sheet and succeeds has listed the sheet, and its text is
    read where it was saved. -/
theorem exists_saved_of_code {σ : Type} {system : FileSystem σ} {before : σ}
    {userPath : Option String} {arguments : List String}
    (hparse : parse arguments = .ok (.run request)) (houtput : request.output = some path)
    (hcode : (runIn system before userPath arguments).2.code = 0) :
    ∃ s, evaluate (system.read before) (request.settings (system.read before) userPath) request =
        .ok s ∧
      (runIn system before userPath arguments).2.output = listed s ∧
      system.read (runIn system before userPath arguments).1 path = .ok (.text s.savedText) := by
  obtain ⟨s, hevaluate⟩ := exists_evaluate_of_code hparse hcode
  obtain ⟨hlisted, hafter, -⟩ := runOn_of_evaluate hparse hevaluate (system.write before) before
  have hwritten := (code_eq_zero_iff hparse hevaluate _ _).mp hcode path houtput
  rw [houtput] at hafter
  have hstate : (runIn system before userPath arguments).1 =
      (system.write before path s.savedText).2 := hafter
  refine ⟨s, hevaluate, hlisted, ?_⟩
  rw [hstate]
  exact system.read_of_write hwritten

/-- **Opening again what was saved**: a run has saved its sheet to a path that does
    not look like an option, and has succeeded.  If the file is still the same
    and the settings come out the same, then any run that only opens it succeeds,
    changes no file, and prints the same lines.  A run that also saves it to
    another path prints them too, and writes the very text of the file there; it
    succeeds if that can be written, and then the text is read there.  All this
    holds on any file system on which what has been written is read back. -/
theorem run_reopening {σ : Type} (system : FileSystem σ) {before later : σ}
    {userPath laterUserPath : Option String} {arguments : List String} {request : Request}
    {path : String} (hparse : parse arguments = .ok (.run request))
    (houtput : request.output = some path) (hpath : path.toList.head? ≠ some '-')
    (hcode : (runIn system before userPath arguments).2.code = 0)
    (hfile : system.read later path =
      system.read (runIn system before userPath arguments).1 path)
    (hsettings : request.settings (system.read later) laterUserPath =
      request.settings (system.read before) userPath) :
    let printed := (runIn system before userPath arguments).2.output
    (∀ copy, parse (reopening request.config path copy) =
      .ok (.run ⟨some path, [], copy, request.config⟩)) ∧
    ∃ text, system.read later path = .ok (.text text) ∧
      (∀ again, parse again = .ok (.run ⟨some path, [], none, request.config⟩) →
        let after := runIn system later laterUserPath again
        after.1 = later ∧ after.2.code = 0 ∧ after.2.output = printed) ∧
      ∀ copy again, parse again = .ok (.run ⟨some path, [], some copy, request.config⟩) →
        let after := runIn system later laterUserPath again
        after.1 = (system.write later copy text).2 ∧
        after.2.output = printed ∧
        (after.2.code = 0 ↔ (system.write later copy text).1 = .ok ()) ∧
        (after.2.code = 0 → system.read after.1 copy = .ok (.text text)) := by
  intro printed
  obtain ⟨s, hevaluate, hprinted, hsaved⟩ := exists_saved_of_code hparse houtput hcode
  have hprinted : listed s = printed := hprinted.symm
  have hread : system.read later path = .ok (.text s.savedText) := hfile.trans hsaved
  have htext : (system.read later).text path = .ok s.savedText := by
    rw [FileReader.text, hread]
    rfl
  have hblank := Settings.not_isBlank_of_load (system.read before) request.config userPath
  have hagain (copy : Option String) :
      evaluate (system.read later) (request.settings (system.read later) laterUserPath)
          ⟨some path, [], copy, request.config⟩ =
        .ok { s with path := some path, modified := false } := by
    rw [hsettings]
    exact evaluate_reopened hevaluate hblank htext request.config copy
  refine ⟨fun copy => parse_reopening request.config copy hpath, s.savedText, hread, ?_, ?_⟩
  · intro again hparse after
    obtain ⟨hlisted, hstate, -⟩ := runOn_of_evaluate hparse (hagain none) (system.write later) later
    have hzero := (code_eq_zero_iff hparse (hagain none) (system.write later) later).mpr nofun
    exact ⟨hstate, hzero, hlisted.trans hprinted⟩
  · intro copy again hparse after
    obtain ⟨hlisted, hstate, -⟩ :=
      runOn_of_evaluate hparse (hagain (some copy)) (system.write later) later
    -- The file of a sheet and its mark for changes are not saved.
    have hstate : after.1 = (system.write later copy s.savedText).2 := hstate
    have hzero : after.2.code = 0 ↔ (system.write later copy s.savedText).1 = .ok () := by
      refine (code_eq_zero_iff hparse (hagain (some copy)) (system.write later) later).trans ?_
      constructor
      · intro hwritten
        exact hwritten copy rfl
      · intro hwritten other hother
        obtain rfl : copy = other := Option.some.inj hother
        exact hwritten
    refine ⟨hstate, hlisted.trans hprinted, hzero, ?_⟩
    intro hcode
    rw [hstate]
    exact system.read_of_write (hzero.mp hcode)

/-- A text with marks of the file in it is set and saved at a path from the root,
    outside the working directory.  The file is opened from there, and the sheet is
    saved once more in the working directory. -/
theorem run_reopening_marks :
    let files : Files := ⟨.ofList [("home", Node.directory), ("tmp", .directory)], "home"⟩
    let arguments := ["-s", "A1=\"\\n: ", "-o", "/tmp/sheet"]
    let first := run files none arguments
    let after := run first.1 none (reopening none "/tmp/sheet" (some "copy"))
    parse arguments = .ok (.run ⟨none, [("A1", "\"\\n: ")], some "/tmp/sheet", none⟩) ∧
      "/tmp/sheet".toList.head? ≠ some '-' ∧ first.2.code = 0 ∧
      after.2.code = 0 ∧ after.2.output = first.2.output ∧
      after.1.read "copy" = first.1.read "/tmp/sheet" := by
  intro files arguments first after
  let request : Request := ⟨none, [("A1", "\"\\n: ")], some "/tmp/sheet", none⟩
  have hparse : parse arguments = .ok (.run request) := by rfl
  have hpath : "/tmp/sheet".toList.head? ≠ some '-' := by decide
  have hfirst : first = runIn treeOfFiles files none arguments := run_eq_runOn files none arguments
  have hafter : after = runIn treeOfFiles first.1 none _ := run_eq_runOn first.1 none _
  obtain ⟨s, hevaluate⟩ : ∃ s,
      evaluate files.read (request.settings files.read none) request = .ok s := by
    let opened := Sheet.new Settings.default.rules Settings.default.version
    obtain ⟨evaluated, hentered⟩ : ∃ evaluated, (opened.enter "A1" "\"\\n: ").result =
        .ok evaluated := ⟨_, by cbv⟩
    have hassign : assign opened [("A1", "\"\\n: ")] =
        .ok (opened.enter "A1" "\"\\n: ").sheet := by
      unfold assign
      dsimp only
      rw [hentered]
      rfl
    exact ⟨_, evaluate_eq_ok_iff.mpr ⟨opened, rfl, hassign⟩⟩
  obtain ⟨saved, hsaved⟩ : ∃ saved, files.write "/tmp/sheet" s.savedText = .ok saved :=
    ⟨_, Files.write_eq_ok_iff.mpr ⟨by decide, "tmp/sheet", by cbv, by cbv, rfl⟩⟩
  obtain ⟨emptied, hemptied⟩ : ∃ emptied, files.write "copy" "" = .ok emptied :=
    ⟨_, Files.write_eq_ok_iff.mpr ⟨by decide, "home/copy", by cbv, by cbv, rfl⟩⟩
  have hwriting : writing files "/tmp/sheet" s.savedText = (.ok (), saved) := by
    rw [writing, hsaved]
  have hcode : (runIn treeOfFiles files none arguments).2.code = 0 := by
    apply (code_eq_zero_iff hparse hevaluate _ _).mpr
    intro path hpath
    obtain rfl : "/tmp/sheet" = path := Option.some.inj hpath
    exact congrArg Prod.fst hwriting
  have hstate : (runIn treeOfFiles files none arguments).1 = saved := by
    obtain ⟨-, hstate, -⟩ := runOn_of_evaluate hparse hevaluate (writing files) files
    exact hstate.trans (congrArg Prod.snd hwriting)
  have hsettings (later : FileReader) :
      request.settings later none = request.settings files.read none := rfl
  obtain ⟨hreopening, text, hread, -, hcopy⟩ :=
    run_reopening treeOfFiles hparse rfl hpath hcode rfl (hsettings _)
  obtain ⟨-, hprinted, hzero, hwritten⟩ := hcopy "copy" _ (hreopening (some "copy"))
  have hcopied : (writing (runIn treeOfFiles files none arguments).1 "copy" text).1 = .ok () := by
    -- What could be written before the first run still can be.
    obtain ⟨again, hagain⟩ := Files.exists_write_of_write hsaved hemptied text
    rw [hstate, writing, hagain]
  rw [hafter, hfirst]
  have hdone := hzero.mpr hcopied
  exact ⟨hparse, hpath, hcode, hdone, hprinted, (hwritten hdone).trans hread.symm⟩

end Worksheet.CommandLine
