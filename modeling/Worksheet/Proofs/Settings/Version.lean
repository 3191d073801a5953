import Worksheet.Settings.Basic

/-! # Versions that settings give

    A version stands on a line of a saved sheet, and blanks around it are not
    read back.  The settings let only versions through that have no blank at
    all, and so has the version they give where a file gives none. -/

namespace Worksheet.Settings

/-- What is chosen has been read from the value, or it is the default. -/
theorem choose_cases {α β : Type} (value : Option α) (read : α → Except Warning β) (default : β) :
    (choose value read default).1 = default ∨
      ∃ a, value = some a ∧ read a = .ok (choose value read default).1 := by
  cases value with
  | none => exact .inl rfl
  | some a =>
    rw [choose]
    cases hread : read a with
    | error w => exact .inl rfl
    | ok b => exact .inr ⟨a, rfl, hread⟩

theorem not_isBlank_of_versionOf {tag version : String} (h : versionOf tag = .ok version) :
    ∀ c ∈ version.toList, Text.isBlank c = false := by
  unfold versionOf at h
  dsimp only at h
  split at h
  · exact nomatch h
  · next hblank =>
    obtain rfl := Except.ok.inj h
    intro c hc
    rw [String.toList_ofList] at hc
    rw [Bool.eq_false_iff]
    exact fun hc' => hblank (.inr (List.any_eq_true.mpr ⟨c, hc, hc'⟩))

theorem not_isBlank_default : ∀ c ∈ default.version.toList, Text.isBlank c = false := by
  simp [default, Sheet.defaultVersion, Text.isBlank]

theorem not_isBlank_of_ofDocument (d : Document) :
    ∀ c ∈ (ofDocument d).1.version.toList, Text.isBlank c = false := by
  show ∀ c ∈ (choose d.version versionOf default.version).1.toList, Text.isBlank c = false
  rcases choose_cases d.version versionOf default.version with hdefault | ⟨tag, -, hread⟩
  · rw [hdefault]
    exact not_isBlank_default
  · exact not_isBlank_of_versionOf hread

/-- **Versions have no blanks**: the version that is loaded has none, whatever
    the settings file holds. -/
theorem not_isBlank_of_load (read : FileReader) (path userPath : Option String) :
    ∀ c ∈ (load read path userPath).1.version.toList, Text.isBlank c = false := by
  unfold load
  split
  · exact not_isBlank_default
  · split
    · exact not_isBlank_of_ofDocument _
    · exact not_isBlank_default

end Worksheet.Settings
