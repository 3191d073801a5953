import Worksheet.Proofs.Sheet.Acceptance

/-! # Entering records

    Records are entered one after the other, and the order of a saved sheet is
    not the order of the references.  It need not be: if the records agree with
    contents that are free of cycles, what has been entered at any point is a
    part of these contents, and so is free of cycles too.  Hence every record is
    accepted, and once all are entered nothing is missing. -/

namespace Worksheet.Sheet

open Relation

variable {s : Sheet} {held part : Std.ExtTreeMap String Content}

/-- All that `part` holds is held by `held` as well. -/
def IsPart (part held : Std.ExtTreeMap String Content) : Prop :=
  ∀ (c : String) (content : Content), part[c]? = some content → held[c]? = some content

/-- Fewer contents have fewer references. -/
theorem IsPart.refers (h : IsPart part held) {v c : String} (hr : Refers part v c) :
    Refers held v c := by
  obtain ⟨f, hf, hv⟩ := hr
  exact ⟨f, h c _ hf, hv⟩

/-- What a cell that holds `content` is seen to hold: nothing if it is empty. -/
def stored (content : Content) : Option Content :=
  if content.isEmpty then none else some content

/-- Entering the record gives its cell what it holds in `held`. -/
structure AgreesWith (rules : NameRules) (held : Std.ExtTreeMap String Content)
    (record : Record) : Prop where
  legal : isLegal rules (rules.normalize record.name) = true
  content : ∃ content, Content.ofInput rules record.input = .ok content ∧
    held[rules.normalize record.name]? = stored content

/-- The record is accepted, and what is held then is still a part of the
    contents that it agrees with. -/
theorem Coherent.enter_of_agrees (h : s.Coherent)
    (hacyclic : ∀ c, ¬ TransGen (Refers held) c c) (hpart : IsPart (contents s.cells) held)
    {record : Record} (hagrees : AgreesWith s.rules held record) :
    (∃ evaluated, (s.enter record.name record.input).result = .ok evaluated) ∧
    ∀ c : String, (contents (s.enter record.name record.input).sheet.cells)[c]? =
      if c = s.rules.normalize record.name then held[c]? else (contents s.cells)[c]? := by
  obtain ⟨content, hinput, hheld⟩ := hagrees.content
  have henter := enter_eq_commit rfl hagrees.legal hinput
  have hput : IsPart (put (contents s.cells) (s.rules.normalize record.name) content) held := by
    intro c other hother
    rw [getElem?_put] at hother
    split at hother
    · next hc => rw [hc, hheld]; exact hother
    · exact hpart c other hother
  rcases h.commit_cases (s.rules.normalize record.name) content with
    ⟨hcycle, -⟩ | ⟨-, order, -, heq⟩
  · exact absurd (TransGen.mono (fun _ _ => hput.refers) _ _ hcycle) (hacyclic _)
  · rw [henter, heq]
    refine ⟨⟨_, rfl⟩, fun c => ?_⟩
    dsimp only
    rw [contents_foldl_recalculate, contents_place, getElem?_put]
    split
    · next hc => rw [hc, hheld]; rfl
    · rfl

/-- **Records in any order**: records that agree with contents free of cycles
    are all accepted, and fill in exactly their own cells. -/
theorem Coherent.enterRecords_of_agree (h : s.Coherent)
    (hacyclic : ∀ c, ¬ TransGen (Refers held) c c) (hpart : IsPart (contents s.cells) held)
    {records : List Record} (hagree : ∀ record ∈ records, AgreesWith s.rules held record) :
    ∃ loaded, s.enterRecords records = .ok loaded ∧
      ∀ c : String, (contents loaded.cells)[c]? =
        if c ∈ records.map (fun record => s.rules.normalize record.name) then held[c]?
        else (contents s.cells)[c]? := by
  induction records generalizing s with
  | nil => exact ⟨s, rfl, by simp⟩
  | cons record records ih =>
    obtain ⟨⟨evaluated, haccepted⟩, hcontents⟩ :=
      h.enter_of_agrees hacyclic hpart (hagree record (by simp))
    have hrules : (s.enter record.name record.input).sheet.rules = s.rules :=
      rules_perform s (.enter record.name record.input)
    have hcoherent := invariant_coherent.enter h record.name record.input
    have hpart' : IsPart (contents (s.enter record.name record.input).sheet.cells) held := by
      intro c content hc
      rw [hcontents] at hc
      split at hc
      · exact hc
      · exact hpart c content hc
    obtain ⟨loaded, hloaded, hfinal⟩ := ih hcoherent hpart' (by
      rw [hrules]
      exact fun other hother => hagree other (List.mem_cons_of_mem _ hother))
    refine ⟨loaded, ?_, fun c => ?_⟩
    · simp only [Sheet.enterRecords, haccepted]
      exact hloaded
    · rw [hfinal, hcontents, hrules, List.map_cons]
      by_cases hfirst : c = s.rules.normalize record.name
      · simp [hfirst]
      · simp [hfirst]

/-- A file with the version of the sheet is loaded by entering its records into
    an empty sheet with the same rules. -/
theorem load_of_parse {read : FileReader} {path text : String} {saved : SavedSheet}
    (hread : read.text path = .ok text) (hparse : SavedSheet.parse text = .ok saved)
    (hversion : saved.version = s.version) :
    s.load read path =
      match (new s.rules s.version).enterRecords saved.records with
      | .error e => ⟨s, .error e⟩
      | .ok loaded =>
        ⟨{ s with
            cells := loaded.cells
            graph := loaded.graph
            path := some path
            modified := false }, .ok ()⟩ := by
  have hsaved : readSaved read path = .ok saved := by
    rw [readSaved, hread]
    show (SavedSheet.parse text).mapError SheetError.parse = .ok saved
    rw [hparse]
    rfl
  have hboth : readSaved read path >>= ofSaved s.rules s.version =
      (new s.rules s.version).enterRecords saved.records := by
    rw [hsaved]
    show ofSaved s.rules s.version saved = _
    rw [ofSaved, if_pos hversion]
  rewrite [load, hboth]
  cases (new s.rules s.version).enterRecords saved.records <;> rfl

end Worksheet.Sheet
