import Worksheet.SavedSheet.Reader

/-! # What the lines of a saved sheet say together

    A saved sheet is read line by line, and what a line says does not depend on
    the lines around it.  The whole is accepted exactly if every line says
    something and one of them, wherever it stands, says the version.  So the
    order of the lines matters for the order of the records only. -/

namespace Worksheet.SavedSheet

/-- The version that a line says. -/
def lineVersion? (line : List Char) : Option String :=
  match readLine line with
  | .ok (.version tag) => some tag
  | _ => none

/-- The record that a line says. -/
def lineRecord? (line : List Char) : Option Record :=
  match readLine line with
  | .ok (.record value) => some value
  | _ => none

/-- Lines are accepted for what they say one by one. -/
theorem readLines_eq_ok_iff (number : Nat) (version : Option String) (lines : List (List Char))
    (saved : SavedSheet) : readLines number version lines = .ok saved ↔
      (∀ line ∈ lines, ∃ said, readLine line = .ok said) ∧
      version.toList ++ lines.filterMap lineVersion? = [saved.version] ∧
      lines.filterMap lineRecord? = saved.records := by
  induction lines generalizing number version saved with
  | nil =>
    obtain ⟨tag, records⟩ := saved
    cases version with
    | none => simp [readLines]
    | some found => simp [readLines]
  | cons line lines ih =>
    cases hline : readLine line with
    | error fault => simp [readLines, hline]
    | ok said =>
      have hrest : (∀ other ∈ line :: lines, ∃ said, readLine other = .ok said) ↔
          ∀ other ∈ lines, ∃ said, readLine other = .ok said := by
        simp [hline]
      rw [hrest]
      cases said with
      | skipped =>
        have hversion : lineVersion? line = none := by simp [lineVersion?, hline]
        have hrecord : lineRecord? line = none := by simp [lineRecord?, hline]
        rw [readLines, hline, List.filterMap_cons_none hversion, List.filterMap_cons_none hrecord]
        exact ih (number + 1) version saved
      | version tag =>
        have hversion : lineVersion? line = some tag := by simp [lineVersion?, hline]
        have hrecord : lineRecord? line = none := by simp [lineRecord?, hline]
        rw [readLines, hline, List.filterMap_cons_some hversion, List.filterMap_cons_none hrecord]
        cases version with
        | none => exact ih (number + 1) (some tag) saved
        | some found =>
          -- Two versions are never one.
          simp
      | record value =>
        have hversion : lineVersion? line = none := by simp [lineVersion?, hline]
        have hrecord : lineRecord? line = some value := by simp [lineRecord?, hline]
        rw [readLines, hline, List.filterMap_cons_none hversion, List.filterMap_cons_some hrecord]
        constructor
        · intro hread
          cases hlines : readLines (number + 1) version lines with
          | error e =>
            rw [hlines] at hread
            exact nomatch hread
          | ok later =>
            rw [hlines] at hread
            obtain rfl := Except.ok.inj hread
            obtain ⟨hall, hversions, hrecords⟩ := (ih (number + 1) version later).mp hlines
            exact ⟨hall, hversions, by rw [hrecords]⟩
        · rintro ⟨hall, hversions, hrecords⟩
          have hlines := (ih (number + 1) version ⟨saved.version, lines.filterMap lineRecord?⟩).mpr
            ⟨hall, hversions, rfl⟩
          dsimp only
          rw [hlines]
          show Except.ok ⟨saved.version, value :: lines.filterMap lineRecord?⟩ = .ok saved
          rw [hrecords]

/-- Lines in another order say the same version and the same records, in
    another order. -/
theorem parse_of_perm {text text' : String} {saved : SavedSheet}
    (hlines : (Text.split '\n' text'.toList).Perm (Text.split '\n' text.toList))
    (h : parse text = .ok saved) :
    ∃ records, parse text' = .ok ⟨saved.version, records⟩ ∧ records.Perm saved.records := by
  obtain ⟨hall, hversions, hrecords⟩ := (readLines_eq_ok_iff 1 none _ saved).mp h
  refine ⟨_, (readLines_eq_ok_iff 1 none _ ⟨saved.version, _⟩).mpr ⟨?_, ?_, rfl⟩, ?_⟩
  · exact fun line hline => hall line (hlines.mem_iff.mp hline)
  · -- A list of one version has one order only.
    have hone : (Text.split '\n' text.toList).filterMap lineVersion? = [saved.version] := hversions
    have hperm := hlines.filterMap lineVersion?
    rw [hone, List.perm_singleton] at hperm
    exact hperm
  · rw [← hrecords]
    exact hlines.filterMap lineRecord?

end Worksheet.SavedSheet
