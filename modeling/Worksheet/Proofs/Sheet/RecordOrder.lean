import Worksheet.Proofs.SavedSheet.Lines
import Worksheet.Proofs.Sheet.Batch
import Worksheet.Proofs.Sheet.Replay

/-! # The order of records

    A sheet is loaded by entering records one after the other, each with a check
    for cycles and a recalculation of its own, and on the way formulas may refer
    to cells that are still missing.  If no two records are for the same cell,
    none of this shows in the end.

      • The records are accepted if each of them is, taken by itself, and if all
        their references together are free of cycles.  A cycle that is there in
        the end is found when its last record is entered, and none is found
        before that.
      • What is held then does not depend on the order, and what is held
        determines the values and the edges. -/

namespace Worksheet.Sheet

open Relation

/-! ### What records hold -/

/-- What is held after a record has been entered over `held`. -/
def putRecord (rules : NameRules) (held : Std.ExtTreeMap String Content) (record : Record) :
    Std.ExtTreeMap String Content :=
  match Content.ofInput rules record.input with
  | .ok content => put held (rules.normalize record.name) content
  | .error _ => held

/-- What is held after records have been entered into an empty sheet. -/
def recordContents (rules : NameRules) (records : List Record) : Std.ExtTreeMap String Content :=
  records.foldl (putRecord rules) ∅

/-- The names under which records are entered. -/
def recordNames (rules : NameRules) (records : List Record) : List String :=
  records.map fun record => rules.normalize record.name

/-- A record for `c` has a formula with the variable `v`. -/
def RecordRefers (rules : NameRules) (records : List Record) (v c : String) : Prop :=
  ∃ record ∈ records, rules.normalize record.name = c ∧
    ∃ f, Content.ofInput rules record.input = .ok (.formula f) ∧ v ∈ f.variableNames

/-- Taken by itself, the record is accepted. -/
structure IsAccepted (rules : NameRules) (record : Record) : Prop where
  legal : isLegal rules (rules.normalize record.name) = true
  wellFormed : ∃ content, Content.ofInput rules record.input = .ok content

variable {rules : NameRules} {records records' : List Record} {held : Std.ExtTreeMap String Content}
  {record : Record} {content : Content} {c : String}

theorem putRecord_of_ofInput (h : Content.ofInput rules record.input = .ok content) :
    putRecord rules held record = put held (rules.normalize record.name) content := by
  rw [putRecord, h]

/-- A record changes its own cell only. -/
theorem getElem?_putRecord_of_ne (h : c ≠ rules.normalize record.name) :
    (putRecord rules held record)[c]? = held[c]? := by
  unfold putRecord
  split
  · rw [getElem?_put, if_neg h]
  · rfl

theorem getElem?_foldl_putRecord_of_notMem (h : c ∉ recordNames rules records) :
    (records.foldl (putRecord rules) held)[c]? = held[c]? := by
  induction records generalizing held with
  | nil => rfl
  | cons record records ih =>
    obtain ⟨hfirst, hlater⟩ : c ≠ rules.normalize record.name ∧ c ∉ recordNames rules records := by
      simpa [recordNames] using h
    rw [List.foldl_cons, ih hlater, getElem?_putRecord_of_ne hfirst]

/-- Each record is held in the end, if no other is for the same cell. -/
theorem getElem?_foldl_putRecord (hnames : (recordNames rules records).Nodup)
    (hrecord : record ∈ records) (hinput : Content.ofInput rules record.input = .ok content) :
    (records.foldl (putRecord rules) held)[rules.normalize record.name]? = stored content := by
  induction records generalizing held with
  | nil => exact nomatch hrecord
  | cons first records ih =>
    obtain ⟨hfirst, hlater⟩ := List.nodup_cons.mp hnames
    rw [List.foldl_cons]
    rcases List.mem_cons.mp hrecord with rfl | hrecord
    · rw [getElem?_foldl_putRecord_of_notMem hfirst, putRecord_of_ofInput hinput, getElem?_put,
        if_pos rfl, stored]
    · exact ih hlater hrecord

/-- The references that are held are those of the records. -/
theorem refers_recordContents (hnames : (recordNames rules records).Nodup)
    (haccepted : ∀ record ∈ records, IsAccepted rules record) :
    Refers (recordContents rules records) = RecordRefers rules records := by
  funext v c
  apply propext
  constructor
  · rintro ⟨f, hf, hv⟩
    have hc : c ∈ recordNames rules records := by
      by_contra hout
      rw [recordContents, getElem?_foldl_putRecord_of_notMem hout] at hf
      simp at hf
    obtain ⟨record, hrecord, rfl⟩ := List.mem_map.mp hc
    obtain ⟨content, hinput⟩ := (haccepted record hrecord).wellFormed
    rw [recordContents, getElem?_foldl_putRecord hnames hrecord hinput, stored] at hf
    split at hf
    · exact nomatch hf
    · obtain rfl := Option.some.inj hf
      exact ⟨record, hrecord, rfl, f, hinput, hv⟩
  · rintro ⟨record, hrecord, rfl, f, hinput, hv⟩
    refine ⟨f, ?_, hv⟩
    rw [recordContents, getElem?_foldl_putRecord hnames hrecord hinput]
    rfl

/-- What is held does not depend on the order of the records. -/
theorem recordContents_perm (hnames : (recordNames rules records).Nodup)
    (haccepted : ∀ record ∈ records, IsAccepted rules record) (hperm : records'.Perm records) :
    recordContents rules records' = recordContents rules records := by
  have hsame : (recordNames rules records').Perm (recordNames rules records) := hperm.map _
  apply Std.ExtTreeMap.ext_getElem?
  intro c
  by_cases hc : c ∈ recordNames rules records
  · obtain ⟨record, hrecord, rfl⟩ := List.mem_map.mp hc
    obtain ⟨content, hinput⟩ := (haccepted record hrecord).wellFormed
    rw [recordContents, recordContents, getElem?_foldl_putRecord hnames hrecord hinput,
      getElem?_foldl_putRecord (hsame.nodup_iff.mpr hnames) (hperm.mem_iff.mpr hrecord) hinput]
  · have hc' : c ∉ recordNames rules records' := mt hsame.mem_iff.mp hc
    rw [recordContents, recordContents, getElem?_foldl_putRecord_of_notMem hc,
      getElem?_foldl_putRecord_of_notMem hc']

theorem recordRefers_perm (hperm : records'.Perm records) :
    RecordRefers rules records' = RecordRefers rules records := by
  funext v c
  simp only [RecordRefers, hperm.mem_iff]

/-! ### Entering records -/

variable {s t : Sheet}

/-- What is accepted is put into its cell. -/
theorem of_enter_ok {name input : String} {evaluated : Std.ExtTreeSet String}
    (hok : (s.enter name input).result = .ok evaluated) :
    isLegal s.rules (s.rules.normalize name) = true ∧
    ∃ content, Content.ofInput s.rules input = .ok content ∧
      contents (s.enter name input).sheet.cells =
        put (contents s.cells) (s.rules.normalize name) content := by
  obtain ⟨hlegal, content, hinput, heq⟩ := enter_eq_commit_of_ok hok
  rw [heq] at hok ⊢
  exact ⟨hlegal, content, hinput, contents_commit hok⟩

/-- If all records have been entered, each of them is acceptable by itself, and
    together they are what is held. -/
theorem of_enterRecords_ok {loaded : Sheet} (h : s.enterRecords records = .ok loaded) :
    (∀ record ∈ records, IsAccepted s.rules record) ∧
      contents loaded.cells = records.foldl (putRecord s.rules) (contents s.cells) := by
  induction records generalizing s with
  | nil =>
    obtain rfl := Except.ok.inj h
    exact ⟨List.forall_mem_nil _, rfl⟩
  | cons record records ih =>
    unfold enterRecords at h
    dsimp only at h
    split at h
    · exact nomatch h
    · next evaluated hok =>
      obtain ⟨hlegal, content, hinput, hcontents⟩ := of_enter_ok hok
      have hrules : (s.enter record.name record.input).sheet.rules = s.rules :=
        rules_perform s (.enter record.name record.input)
      obtain ⟨haccepted, hheld⟩ := ih h
      rw [hrules] at haccepted hheld
      refine ⟨List.forall_mem_cons.mpr ⟨⟨hlegal, content, hinput⟩, haccepted⟩, ?_⟩
      rw [hheld, hcontents, List.foldl_cons, putRecord_of_ofInput hinput]

/-- The first record that is refused is the reason given. -/
theorem enterRecords_cons_of_error {cause : SheetError}
    (h : (s.enter record.name record.input).result = .error cause) :
    s.enterRecords (record :: records) = .error (.load record.name cause) := by
  simp only [enterRecords, h]

/-- If records cannot be entered, it is because of one of them. -/
theorem exists_refused_of_enterRecords {e : SheetError} (h : s.enterRecords records = .error e) :
    ∃ record ∈ records, ∃ (t : Sheet) (cause : SheetError), t.rules = s.rules ∧
      (t.enter record.name record.input).result = .error cause ∧ e = .load record.name cause := by
  induction records generalizing s with
  | nil => exact nomatch h
  | cons record records ih =>
    unfold enterRecords at h
    dsimp only at h
    split at h
    · next cause hcause =>
      exact ⟨record, List.mem_cons_self, s, cause, rfl, hcause, (Except.error.inj h).symm⟩
    · obtain ⟨other, hother, t, cause, hrules, hcause, he⟩ := ih h
      have hsame : (s.enter record.name record.input).sheet.rules = s.rules :=
        rules_perform s (.enter record.name record.input)
      exact ⟨other, List.mem_cons_of_mem _ hother, t, cause, hrules.trans hsame, hcause, he⟩

/-- Records that have been entered into an empty sheet are what it holds. -/
theorem of_enterRecords_new {version : String} {loaded : Sheet}
    (h : (new rules version).enterRecords records = .ok loaded) :
    (∀ record ∈ records, IsAccepted rules record) ∧ loaded.Coherent ∧
      contents loaded.cells = recordContents rules records := by
  obtain ⟨haccepted, hheld⟩ := of_enterRecords_ok h
  have hcoherent := (invariant_coherent.enterRecords (coherent_new rules version) h).1
  have hnone : contents (new rules version).cells = ∅ := contents_empty
  rw [hnone] at hheld
  exact ⟨haccepted, hcoherent, hheld⟩

/-- Records for different cells are entered into an empty sheet exactly if each
    is acceptable by itself and their references together have no cycle. -/
theorem enterRecords_new_ok_iff (rules : NameRules) (version : String)
    (hnames : (recordNames rules records).Nodup) :
    (∃ loaded, (new rules version).enterRecords records = .ok loaded) ↔
      (∀ record ∈ records, IsAccepted rules record) ∧
        ∀ c, ¬ TransGen (RecordRefers rules records) c c := by
  constructor
  · rintro ⟨loaded, hloaded⟩
    obtain ⟨haccepted, hcoherent, hheld⟩ := of_enterRecords_new hloaded
    refine ⟨haccepted, ?_⟩
    -- The references of the loaded sheet are those of the records.
    rw [← refers_recordContents hnames haccepted, ← hheld]
    exact hcoherent.acyclic
  · rintro ⟨haccepted, hacyclic⟩
    rw [← refers_recordContents hnames haccepted] at hacyclic
    have hpart : IsPart (contents (new rules version).cells) (recordContents rules records) := by
      intro c content hc
      simp [new] at hc
    have hagree : ∀ record ∈ records, AgreesWith rules (recordContents rules records) record := by
      intro record hrecord
      obtain ⟨hlegal, content, hinput⟩ := haccepted record hrecord
      exact ⟨hlegal, content, hinput, getElem?_foldl_putRecord hnames hrecord hinput⟩
    obtain ⟨loaded, hloaded, -⟩ :=
      (coherent_new rules version).enterRecords_of_agree hacyclic hpart hagree
    exact ⟨loaded, hloaded⟩

/-- Records for different cells give the same cells and edges in every order. -/
theorem enterRecords_new_perm {version : String} {loaded loaded' : Sheet}
    (hnames : (recordNames rules records).Nodup) (hperm : records'.Perm records)
    (h : (new rules version).enterRecords records = .ok loaded)
    (h' : (new rules version).enterRecords records' = .ok loaded') :
    loaded'.cells = loaded.cells ∧ loaded'.graph = loaded.graph := by
  obtain ⟨haccepted, hcoherent, hheld⟩ := of_enterRecords_new h
  obtain ⟨-, hcoherent', hheld'⟩ := of_enterRecords_new h'
  have hsame : contents loaded'.cells = contents loaded.cells := by
    rw [hheld, hheld', recordContents_perm hnames haccepted hperm]
  exact ⟨hcoherent.cells_eq hcoherent' hsame, hcoherent.graph_eq hcoherent' hsame⟩

/-! ### Loading -/

variable {read read' : FileReader} {path path' text text' : String}

theorem load_ok_iff_enterRecords (hread : read.text path = .ok text)
    (hparse : SavedSheet.parse text = .ok ⟨s.version, records⟩) :
    (s.load read path).result = .ok () ↔
      ∃ loaded, (new s.rules s.version).enterRecords records = .ok loaded := by
  rw [load_of_parse hread hparse rfl]
  cases (new s.rules s.version).enterRecords records with
  | error e => simp
  | ok loaded => simp

theorem load_error_iff_enterRecords {e : SheetError} (hread : read.text path = .ok text)
    (hparse : SavedSheet.parse text = .ok ⟨s.version, records⟩) :
    (s.load read path).result = .error e ↔
      (new s.rules s.version).enterRecords records = .error e := by
  rw [load_of_parse hread hparse rfl]
  cases (new s.rules s.version).enterRecords records with
  | error found => simp
  | ok loaded => simp

/-- A file with the version of the sheet can only be refused for one of its
    records. -/
theorem exists_load_of_error {e : SheetError} (hread : read.text path = .ok text)
    (hparse : SavedSheet.parse text = .ok ⟨s.version, records⟩)
    (h : (s.load read path).result = .error e) : ∃ name cause, e = .load name cause := by
  have hrefused := (load_error_iff_enterRecords hread hparse).mp h
  obtain ⟨record, -, -, cause, -, -, he⟩ := exists_refused_of_enterRecords hrefused
  exact ⟨record.name, cause, he⟩

/-- **Records in any order**: a file with records for different cells is loaded
    exactly if every name is legal, every input is well formed and the
    references of all formulas together have no cycle.  The same records in
    another order are then loaded as well, and give the same cells and edges;
    and a file whose lines are in another order has the same records in another
    order. -/
theorem load_ok_iff (hread : read.text path = .ok text)
    (hparse : SavedSheet.parse text = .ok ⟨s.version, records⟩)
    (hnames : (records.map fun record => s.rules.normalize record.name).Nodup) :
    ((s.load read path).result = .ok () ↔
      (∀ record ∈ records, isLegal s.rules (s.rules.normalize record.name) = true) ∧
      (∀ record ∈ records, ∃ content, Content.ofInput s.rules record.input = .ok content) ∧
      ∀ c, ¬ TransGen (RecordRefers s.rules records) c c) ∧
    (∀ read' path' text' records', read'.text path' = .ok text' →
      SavedSheet.parse text' = .ok ⟨s.version, records'⟩ → records'.Perm records →
      ((s.load read' path').result = .ok () ↔ (s.load read path).result = .ok ()) ∧
      ((s.load read path).result = .ok () →
        (s.load read' path').sheet.cells = (s.load read path).sheet.cells ∧
        (s.load read' path').sheet.graph = (s.load read path).sheet.graph)) ∧
    (∀ text', (Text.split '\n' text'.toList).Perm (Text.split '\n' text.toList) →
      ∃ records', SavedSheet.parse text' = .ok ⟨s.version, records'⟩ ∧
        records'.Perm records) := by
  have hok := (load_ok_iff_enterRecords hread hparse).trans
    (enterRecords_new_ok_iff s.rules s.version hnames)
  refine ⟨?_, ?_, fun text' hlines => SavedSheet.parse_of_perm hlines hparse⟩
  · rw [hok, ← and_assoc, ← forall₂_and]
    refine and_congr_left' (forall₂_congr fun record _ => ?_)
    exact ⟨fun h => ⟨h.legal, h.wellFormed⟩, fun h => ⟨h.1, h.2⟩⟩
  · intro read' path' text' records' hread' hparse' hperm
    have hnames' : (recordNames s.rules records').Nodup := (hperm.map _).nodup_iff.mpr hnames
    have hok' := (load_ok_iff_enterRecords hread' hparse').trans
      (enterRecords_new_ok_iff s.rules s.version hnames')
    have hsame : (s.load read' path').result = .ok () ↔ (s.load read path).result = .ok () := by
      rw [hok, hok', recordRefers_perm hperm]
      simp only [hperm.mem_iff]
    refine ⟨hsame, fun hloads => ?_⟩
    obtain ⟨loaded, hloaded⟩ := (load_ok_iff_enterRecords hread hparse).mp hloads
    obtain ⟨loaded', hloaded'⟩ := (load_ok_iff_enterRecords hread' hparse').mp (hsame.mpr hloads)
    have hequal := enterRecords_new_perm hnames hperm hloaded hloaded'
    rw [load_of_parse hread hparse rfl, load_of_parse hread' hparse' rfl, hloaded, hloaded']
    exact hequal

/-- A formula may stand in front of the cell that it refers to. -/
theorem load_ok_iff_forward :
    let s := new .plain "1"
    let read : FileReader := fun _ => .ok (.text "A1: =B1*2\n@version 1\nB1: 3\n")
    let records : List Record := [⟨"A1", "=B1*2"⟩, ⟨"B1", "3"⟩]
    SavedSheet.parse "A1: =B1*2\n@version 1\nB1: 3\n" = .ok ⟨s.version, records⟩ ∧
      (records.map fun record => s.rules.normalize record.name).Nodup ∧
      (s.load read "sheet").result = .ok () := by
  intro s read records
  have hread : read.text "sheet" = .ok "A1: =B1*2\n@version 1\nB1: 3\n" := rfl
  have hparse : SavedSheet.parse "A1: =B1*2\n@version 1\nB1: 3\n" = .ok ⟨s.version, records⟩ := by
    decide +kernel
  have hnames : (records.map fun record => s.rules.normalize record.name).Nodup := by decide
  have hformula : Content.ofInput s.rules "=B1*2" =
      .ok (.formula ⟨[.var "B1", .operator .mul, .number 2], rfl⟩) := by
    decide +kernel
  have hnumber : Content.ofInput s.rules "3" = .ok (.number 3) := by decide +kernel
  -- The only reference is from the first record to the second.
  have honly : ∀ v c, RecordRefers s.rules records v c → v = "B1" ∧ c = "A1" := by
    rintro v c ⟨record, hrecord, rfl, f, hf, hv⟩
    rcases List.mem_pair.mp hrecord with rfl | rfl
    · obtain rfl := Content.formula.inj (Except.ok.inj (hformula.symm.trans hf))
      rw [Formula.mem_variableNames] at hv
      exact ⟨List.mem_singleton.mp hv, rfl⟩
    · exact nomatch hnumber.symm.trans hf
  have hacyclic : ∀ c, ¬ TransGen (RecordRefers s.rules records) c c := by
    intro c hcycle
    obtain ⟨v, hfirst, -⟩ := TransGen.head'_iff.mp hcycle
    obtain ⟨w, -, hlast⟩ := TransGen.tail'_iff.mp hcycle
    exact absurd ((honly c v hfirst).1.symm.trans (honly w c hlast).2) (by decide)
  refine ⟨hparse, hnames, (load_ok_iff hread hparse hnames).1.mpr ⟨?_, ?_, hacyclic⟩⟩
  · decide
  · intro record hrecord
    rcases List.mem_pair.mp hrecord with rfl | rfl
    · exact ⟨_, hformula⟩
    · exact ⟨_, hnumber⟩

end Worksheet.Sheet
