import Worksheet.Proofs.Cell.References
import Worksheet.Sheet.Edit

/-! # Contents, references and current values

    Recalculation changes values only: what the cells hold, and so the
    references between them, stay as they are.  A value is *current* if it is
    what the content evaluates to over the very cells that surround it.  An
    edit leaves some values stale; evaluating the stale cells again, each after
    those it refers to, makes all values current. -/

namespace Worksheet.Sheet

/-- What the cells hold, without the values. -/
def contents (cells : Std.ExtTreeMap String Cell) : Std.ExtTreeMap String Content :=
  cells.map fun _ cell => cell.content

/-- The contents after the cell called `name` has got a new one. -/
def put (held : Std.ExtTreeMap String Content) (name : String) (content : Content) :
    Std.ExtTreeMap String Content :=
  if content.isEmpty then held.erase name else held.insert name content

/-- The cell `c` holds a formula with the variable `v`. -/
def Refers (held : Std.ExtTreeMap String Content) (v c : String) : Prop :=
  ∃ f : Formula, held[c]? = some (.formula f) ∧ v ∈ f.variableNames

/-- Every cell outside `stale` has the value that its content evaluates to. -/
def CurrentExcept (cells : Std.ExtTreeMap String Cell) (stale : List String) : Prop :=
  ∀ (name : String) (cell : Cell), cells[name]? = some cell → name ∉ stale →
    cell.value = cell.content.evaluate (lookup cells)

/-- Every cell has the value that its content evaluates to, given the values of
    all the others. -/
def Current (cells : Std.ExtTreeMap String Cell) : Prop :=
  ∀ (name : String) (cell : Cell), cells[name]? = some cell →
    cell.value = cell.content.evaluate (lookup cells)

variable {cells cells' : Std.ExtTreeMap String Cell} {held : Std.ExtTreeMap String Content}

/-! ### Contents -/

@[simp] theorem getElem?_contents (cells : Std.ExtTreeMap String Cell) (name : String) :
    (contents cells)[name]? = cells[name]?.map Cell.content :=
  Std.ExtTreeMap.getElem?_map

@[simp] theorem contents_empty : contents ∅ = ∅ := by
  apply Std.ExtTreeMap.ext_getElem?
  simp

theorem getElem?_put (held : Std.ExtTreeMap String Content) (name : String) (content : Content)
    (c : String) : (put held name content)[c]? =
      if c = name then (if content.isEmpty then none else some content) else held[c]? := by
  unfold put
  split
  · rw [Std.ExtTreeMap.getElem?_erase]
    grind [Std.compare_eq_iff_eq]
  · rw [Std.ExtTreeMap.getElem?_insert]
    grind [Std.compare_eq_iff_eq]

/-- What is held after a put is the new content or was held before. -/
theorem held_of_put {name c : String} {content stored : Content}
    (h : (put held name content)[c]? = some stored) :
    (c = name ∧ stored.isEmpty = false) ∨ held[c]? = some stored := by
  rw [getElem?_put] at h
  split at h
  · next hc =>
    split at h
    · simp at h
    · next hempty =>
      rw [← Option.some.inj h]
      exact .inl ⟨hc, by simpa using hempty⟩
  · exact .inr h

/-- A cell refers to the references of its content. -/
theorem refers_iff (held : Std.ExtTreeMap String Content) (v c : String) :
    Refers held v c ↔ ∃ content : Content, held[c]? = some content ∧ v ∈ content.references := by
  simp only [Content.mem_references]
  constructor
  · rintro ⟨f, hf, hv⟩
    exact ⟨.formula f, hf, f, rfl, hv⟩
  · rintro ⟨content, hcontent, f, rfl, hv⟩
    exact ⟨f, hcontent, hv⟩

/-- A new content brings its own references and leaves those of other cells alone. -/
theorem refers_put (held : Std.ExtTreeMap String Content) (name : String) (content : Content)
    (v c : String) : Refers (put held name content) v c ↔
      (c ≠ name ∧ Refers held v c) ∨ (c = name ∧ v ∈ content.references) := by
  simp only [refers_iff, getElem?_put]
  by_cases hc : c = name
  · by_cases hempty : content.isEmpty = true
    · simp [hc, hempty, Content.references_eq_empty_of_isEmpty hempty]
    · simp [hc, hempty]
  · simp [hc]

/-! ### Lookups -/

theorem lookup_congr {v : String} (h : cells'[v]? = cells[v]?) :
    lookup cells' v = lookup cells v := by
  simp only [lookup, h]

/-- The value of a cell stays current while nothing it refers to changes. -/
theorem evaluate_eq_of_not_refers {name c : String} {cell : Cell} (hcell : cells[c]? = some cell)
    (hname : ¬ Refers (contents cells) name c)
    (hothers : ∀ v, v ≠ name → cells'[v]? = cells[v]?) :
    cell.content.evaluate (lookup cells') = cell.content.evaluate (lookup cells) := by
  apply Content.evaluate_congr
  intro v hv
  apply lookup_congr
  apply hothers
  rintro rfl
  exact hname ((refers_iff _ v c).mpr ⟨cell.content, by simp [hcell], hv⟩)

/-! ### Recalculation -/

theorem getElem?_recalculate (cells : Std.ExtTreeMap String Cell) (name c : String) :
    (recalculate cells name)[c]? =
      if c = name then cells[c]?.map (Cell.recalculate (lookup cells)) else cells[c]? := by
  unfold recalculate
  split
  · next cell hcell =>
    rw [Std.ExtTreeMap.getElem?_insert]
    grind [Std.compare_eq_iff_eq]
  · next hnone =>
    grind

@[simp] theorem contents_recalculate (cells : Std.ExtTreeMap String Cell) (name : String) :
    contents (recalculate cells name) = contents cells := by
  apply Std.ExtTreeMap.ext_getElem?
  intro c
  rw [getElem?_contents, getElem?_contents, getElem?_recalculate]
  split
  · cases cells[c]? <;> rfl
  · rfl

@[simp] theorem contents_foldl_recalculate (order : List String)
    (cells : Std.ExtTreeMap String Cell) :
    contents (order.foldl recalculate cells) = contents cells := by
  induction order generalizing cells with
  | nil => rfl
  | cons name order ih => rw [List.foldl_cons, ih, contents_recalculate]

theorem getElem?_foldl_recalculate {order : List String} {c : String} (h : c ∉ order)
    (cells : Std.ExtTreeMap String Cell) : (order.foldl recalculate cells)[c]? = cells[c]? := by
  induction order generalizing cells with
  | nil => rfl
  | cons name order ih =>
    obtain ⟨hname, hrest⟩ : c ≠ name ∧ c ∉ order := by simpa using h
    rw [List.foldl_cons, ih hrest, getElem?_recalculate, if_neg hname]

theorem getElem?_place (cells : Std.ExtTreeMap String Cell) (name : String) (content : Content)
    (c : String) : (place cells name content)[c]? =
      if c = name then
        (if content.isEmpty then none else some (Cell.ofContent (lookup cells) content))
      else cells[c]? := by
  unfold place
  split
  · rw [Std.ExtTreeMap.getElem?_erase]
    grind [Std.compare_eq_iff_eq]
  · rw [Std.ExtTreeMap.getElem?_insert]
    grind [Std.compare_eq_iff_eq]

@[simp] theorem contents_place (cells : Std.ExtTreeMap String Cell) (name : String)
    (content : Content) :
    contents (place cells name content) = put (contents cells) name content := by
  apply Std.ExtTreeMap.ext_getElem?
  intro c
  rw [getElem?_contents, getElem?_place, getElem?_put, getElem?_contents]
  grind [Cell.ofContent]

/-- A content that is accepted takes the place of the former one, and no other
    content changes. -/
theorem contents_commit {s : Sheet} {name : String} {content : Content}
    {evaluated : Std.ExtTreeSet String} (hok : (s.commit name content).result = .ok evaluated) :
    contents (s.commit name content).sheet.cells = put (contents s.cells) name content := by
  unfold commit at hok ⊢
  dsimp only at hok ⊢
  split at hok
  · exact nomatch hok
  · simp only [contents_foldl_recalculate, contents_place]

/-! ### Making values current -/

/-- Evaluating a stale cell makes its value current and no other value stale,
    if the cells that refer to it are stale anyway. -/
theorem CurrentExcept.recalculate {name : String} {stale : List String}
    (h : CurrentExcept cells (name :: stale)) (hself : ¬ Refers (contents cells) name name)
    (hreferrers : ∀ c, Refers (contents cells) name c → c ∈ stale) :
    CurrentExcept (recalculate cells name) stale := by
  intro c cell hcell hfresh
  have hothers : ∀ v, v ≠ name → (Sheet.recalculate cells name)[v]? = cells[v]? := by
    intro v hv
    rw [getElem?_recalculate, if_neg hv]
  by_cases hc : c = name
  · subst hc
    rw [getElem?_recalculate, if_pos rfl] at hcell
    obtain ⟨former, hformer, rfl⟩ := Option.map_eq_some_iff.mp hcell
    exact (evaluate_eq_of_not_refers hformer hself hothers).symm
  · rw [hothers c hc] at hcell
    have hvalue := h c cell hcell (by simp [hc, hfresh])
    rw [hvalue, evaluate_eq_of_not_refers hcell (fun hr => hfresh (hreferrers c hr)) hothers]

/-- Evaluating all stale cells, each after those it refers to, makes every
    value current. -/
theorem CurrentExcept.foldl_recalculate {order : List String} (h : CurrentExcept cells order)
    (hself : ∀ c ∈ order, ¬ Refers (contents cells) c c)
    (horder : ∀ before name after, order = before ++ name :: after →
      ∀ c, Refers (contents cells) name c → c ∈ after) :
    Current (order.foldl Sheet.recalculate cells) := by
  -- The stale cells are always those still to come.
  induction order generalizing cells with
  | nil => exact fun name cell hcell => h name cell hcell (by simp)
  | cons name order ih =>
    have hnext := h.recalculate (hself name (by simp)) (horder [] name order rfl)
    refine ih hnext ?_ ?_
    · intro c hc
      rw [contents_recalculate]
      exact hself c (List.mem_cons_of_mem _ hc)
    · intro before other after hsplit c hc
      rw [contents_recalculate] at hc
      exact horder (name :: before) other after (by rw [hsplit, List.cons_append]) c hc

/-- After a new content has been placed, only cells that refer to the edited
    one are stale. -/
theorem Current.place {name : String} {content : Content} {stale : List String}
    (h : Current cells) (hself : ¬ Refers (put (contents cells) name content) name name)
    (hreferrers : ∀ c, Refers (put (contents cells) name content) name c → c ∈ stale) :
    CurrentExcept (place cells name content) stale := by
  intro c cell hcell hfresh
  have hothers : ∀ v, v ≠ name → (Sheet.place cells name content)[v]? = cells[v]? := by
    intro v hv
    rw [getElem?_place, if_neg hv]
  have hrefers : ¬ Refers (put (contents cells) name content) name c := by
    by_cases hc : c = name
    · rwa [hc]
    · exact fun hr => hfresh (hreferrers c hr)
  -- The new content is evaluated over the old cells, but it does not refer to its own.
  rw [← contents_place] at hrefers
  have hsame := evaluate_eq_of_not_refers hcell hrefers fun v hv => (hothers v hv).symm
  rw [← hsame]
  by_cases hc : c = name
  · rw [hc, getElem?_place, if_pos rfl] at hcell
    split at hcell
    · simp at hcell
    · rw [← Option.some.inj hcell, Cell.ofContent]
  · rw [hothers c hc] at hcell
    exact h c cell hcell

end Worksheet.Sheet
