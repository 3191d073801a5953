import Worksheet.Proofs.Formula.Lexeme

/-! # Every text is cut into runs

    The runs of a text are what a reader would cut it into.  Nothing is lost:
    they make up the text.  Each is blank space, a lexeme of some shape that no
    longer beginning of the remaining text has, or the unrecognized text up to
    the next place where blank space or a shape begins.

    Shapes are described here by what their texts look like, not by how they are
    found.  Whether something begins at a place is asked about the whole
    remaining text, so a run depends on what follows it. -/

namespace Worksheet.Formula

/-! ### Shapes -/

/-- The texts of each shape.  Unrecognized text is text without a shape. -/
def Shape.Fits : Shape → List Char → Prop
  | .leftParen, cs => cs = ['(']
  | .rightParen, cs => cs = [')']
  | .operator, cs => ∃ c, cs = [c] ∧ isOperatorSymbol c = true
  | .var, cs => ∃ c parts, cs = c :: parts ∧ Name.isStart c = true ∧
      ∀ d ∈ parts, Name.isPart d = true
  | .number, cs => Number.IsNumeral cs
  | .unrecognized, _ => False

/-- Blank space begins here, or text of some shape. -/
def Begins (cs : List Char) : Prop :=
  (∃ c, cs.head? = some c ∧ Text.isBlank c = true) ∨
    ∃ (shape : Shape) (front : List Char), front <+: cs ∧ shape.Fits front

/-- What a run is in front of `rest`. -/
inductive IsRun (rest : List Char) : Run → Prop
  /-- Blank space. -/
  | blank {text : List Char} : text ≠ [] → (∀ c ∈ text, Text.isBlank c = true) →
    IsRun rest ⟨none, text⟩
  /-- The longest text of its shape that the remaining text begins with. -/
  | recognized {shape : Shape} {text : List Char} : shape.Fits text →
    (∀ longer, longer <+: text ++ rest → shape.Fits longer → longer.length ≤ text.length) →
    IsRun rest ⟨some shape, text⟩
  /-- Text within which nothing begins, up to where something does. -/
  | unrecognized {text : List Char} : text ≠ [] →
    (∀ i < text.length, ¬ Begins ((text ++ rest).drop i)) → rest = [] ∨ Begins rest →
    IsRun rest ⟨some .unrecognized, text⟩

variable {c : Char} {cs text rest : List Char} {shape : Shape} {run : Run}

theorem Shape.Fits.ne_nil (h : shape.Fits text) : text ≠ [] := by
  cases shape with
  | leftParen | rightParen => rw [show text = _ from h]; simp
  | operator => obtain ⟨c, rfl, -⟩ := h; simp
  | var => obtain ⟨c, parts, rfl, -⟩ := h; simp
  | number => exact Number.IsNumeral.ne_nil h
  | unrecognized => exact h.elim

/-- There is no blank in the text of a shape. -/
theorem Shape.Fits.not_isBlank (h : shape.Fits text) (hc : c ∈ text) : Text.isBlank c = false := by
  cases shape with
  | leftParen =>
    rw [show text = _ from h, List.mem_singleton] at hc
    rw [hc]
    decide
  | rightParen =>
    rw [show text = _ from h, List.mem_singleton] at hc
    rw [hc]
    decide
  | operator =>
    obtain ⟨d, rfl, hd⟩ := h
    rw [List.mem_singleton.mp hc]
    rw [isOperatorSymbol_iff] at hd
    rcases hd with rfl | rfl | rfl | rfl <;> decide
  | var =>
    obtain ⟨d, parts, rfl, hstart, hparts⟩ := h
    rcases List.mem_cons.mp hc with rfl | hc
    · exact not_isBlank_of_isPart (isPart_of_isStart hstart)
    · exact not_isBlank_of_isPart (hparts c hc)
  | number =>
    rcases Number.IsNumeral.mem h hc with hdigit | rfl | hmark | hsign
    · exact not_isBlank_of_isPart (isPart_of_isDigit hdigit)
    · decide
    · simp only [Number.isExponentMark, Bool.or_eq_true, decide_eq_true_eq] at hmark
      rcases hmark with rfl | rfl <;> decide
    · simp only [Number.isSign, Bool.or_eq_true, decide_eq_true_eq] at hsign
      rcases hsign with rfl | rfl <;> decide
  | unrecognized => exact h.elim

/-- Text of some shape begins with a symbol, as a variable or as a numeral. -/
theorem Shape.Fits.starts {front : List Char} (h : shape.Fits front) (hfront : front <+: c :: cs) :
    isSymbol c = true ∨ Name.isStart c = true ∨ Number.numeralLength (c :: cs) ≠ 0 := by
  cases shape with
  | leftParen =>
    rw [show front = _ from h] at hfront
    rw [← (List.cons_prefix_cons.mp hfront).1]
    exact .inl rfl
  | rightParen =>
    rw [show front = _ from h] at hfront
    rw [← (List.cons_prefix_cons.mp hfront).1]
    exact .inl rfl
  | operator =>
    obtain ⟨d, rfl, hd⟩ := h
    rw [← (List.cons_prefix_cons.mp hfront).1]
    exact .inl (by simp [isSymbol, hd])
  | var =>
    obtain ⟨d, parts, rfl, hstart, -⟩ := h
    rw [← (List.cons_prefix_cons.mp hfront).1]
    exact .inr (.inl hstart)
  | number =>
    have hle := Number.IsNumeral.length_le h hfront
    have hpos := List.length_pos_iff.mpr (Number.IsNumeral.ne_nil h)
    exact .inr (.inr (by omega))
  | unrecognized => exact h.elim

/-! ### What is recognized -/

/-- A symbol is a run on its own. -/
theorem exists_recognize_of_isSymbol (h : isSymbol c = true) (cs : List Char) :
    ∃ shape : Shape, recognize c cs = some (some shape, 0) ∧ shape.Fits [c] ∧
      ∀ text, shape.Fits text → text.length = 1 := by
  have hoperator : ∀ text, Shape.operator.Fits text → text.length = 1 := by
    rintro text ⟨d, rfl, -⟩
    rfl
  rcases (isSymbol_iff c).mp h with rfl | rfl | rfl | rfl | rfl | rfl
  · exact ⟨.leftParen, rfl, rfl, fun text htext => congrArg List.length htext⟩
  · exact ⟨.rightParen, rfl, rfl, fun text htext => congrArg List.length htext⟩
  all_goals exact ⟨.operator, rfl, ⟨_, rfl, by decide⟩, hoperator⟩

/-- A run that is recognized is blank, or the longest text of its shape. -/
theorem recognize_cases {shape? : Option Shape} {n : Nat} (h : recognize c cs = some (shape?, n)) :
    (shape? = none ∧ Text.isBlank c = true ∧ n = (cs.takeWhile Text.isBlank).length) ∨
    ∃ shape : Shape, shape? = some shape ∧ shape.Fits (c :: cs.take n) ∧
      ∀ longer, longer <+: c :: cs → shape.Fits longer → longer.length ≤ n + 1 := by
  by_cases hsymbol : isSymbol c = true
  · obtain ⟨shape, hrecognize, hfits, hlength⟩ := exists_recognize_of_isSymbol hsymbol cs
    rw [hrecognize] at h
    obtain ⟨rfl, rfl⟩ := Prod.mk.inj (Option.some.inj h)
    exact .inr ⟨shape, rfl, hfits, fun longer _ hlonger => (hlength longer hlonger).le⟩
  · -- Without a symbol it is a name, a numeral or blank space.
    rw [recognize_of_not_isSymbol (Bool.eq_false_iff.mpr hsymbol)] at h
    split at h
    · next hstart =>
      obtain ⟨rfl, rfl⟩ := Prod.mk.inj (Option.some.inj h)
      refine .inr ⟨.var, rfl, ⟨c, _, rfl, hstart, ?_⟩, ?_⟩
      · intro d hd
        rw [← List.prefix_iff_eq_take.mp (List.takeWhile_prefix Name.isPart)] at hd
        exact List.mem_takeWhile_imp hd
      · -- All of a longer name would have been taken.
        rintro longer hfront ⟨d, parts, rfl, -, hparts⟩
        obtain ⟨-, rest, rfl⟩ := List.cons_prefix_cons.mp hfront
        rw [List.takeWhile_append_of_pos hparts, List.length_append, List.length_cons]
        omega
    · split at h
      · next n' hlength =>
        obtain ⟨rfl, rfl⟩ := Prod.mk.inj (Option.some.inj h)
        refine .inr ⟨.number, rfl, ?_, fun longer hfront hlonger => ?_⟩
        · have hnumeral := Number.isNumeral_take (show Number.numeralLength (c :: cs) ≠ 0 by omega)
          rwa [hlength, List.take_succ_cons] at hnumeral
        · exact (Number.IsNumeral.length_le hlonger hfront).trans_eq hlength
      · split at h
        · next hblank =>
          obtain ⟨rfl, rfl⟩ := Prod.mk.inj (Option.some.inj h)
          exact .inl ⟨rfl, hblank, rfl⟩
        · exact nomatch h

/-- Where nothing is recognized, no shape begins and no blank space. -/
theorem not_begins_of_recognize (h : recognize c cs = none) : ¬ Begins (c :: cs) := by
  have hsymbol : isSymbol c = false := by
    rw [Bool.eq_false_iff]
    intro hsymbol
    obtain ⟨shape, hrecognize, -⟩ := exists_recognize_of_isSymbol hsymbol cs
    exact nomatch h.symm.trans hrecognize
  rw [recognize_of_not_isSymbol hsymbol] at h
  split at h
  · exact nomatch h
  · next hstart =>
    split at h
    · exact nomatch h
    · next hlength =>
      split at h
      · exact nomatch h
      · next hblank =>
        rintro (⟨d, hd, hdblank⟩ | ⟨shape, front, hfront, hfits⟩)
        · exact hblank (Option.some.inj hd ▸ hdblank)
        · rcases hfits.starts hfront with hc | hc | hc
          · rw [hc] at hsymbol
            exact nomatch hsymbol
          · exact hstart hc
          · exact hc hlength

theorem begins_iff (c : Char) (cs : List Char) :
    Begins (c :: cs) ↔ (recognize c cs).isSome = true := by
  constructor
  · intro h
    rw [Option.isSome_iff_ne_none]
    exact fun hnone => not_begins_of_recognize hnone h
  · intro h
    obtain ⟨⟨shape?, n⟩, hrecognize⟩ := Option.isSome_iff_exists.mp h
    rcases recognize_cases hrecognize with ⟨-, hblank, -⟩ | ⟨shape, -, hfits, -⟩
    · exact .inl ⟨c, rfl, hblank⟩
    · exact .inr ⟨shape, c :: cs.take n, List.take_prefix (n + 1) (c :: cs), hfits⟩

/-- Nothing begins in front of the place that stray characters lead to. -/
theorem not_begins_of_lt_strayLength {i : Nat} (h : i < strayLength cs) :
    ¬ Begins (cs.drop i) := by
  induction cs generalizing i with
  | nil => exact absurd h (Nat.not_lt_zero i)
  | cons c cs ih =>
    rw [strayLength] at h
    split at h
    · exact absurd h (Nat.not_lt_zero i)
    · next hnone =>
      cases i with
      | zero =>
        rw [List.drop_zero, begins_iff]
        exact hnone
      | succ i => exact ih (by omega)

/-- Stray characters lead to the end or to a place where something begins. -/
theorem begins_drop_strayLength (cs : List Char) :
    cs.drop (strayLength cs) = [] ∨ Begins (cs.drop (strayLength cs)) := by
  induction cs with
  | nil => exact .inl rfl
  | cons c cs ih =>
    rw [strayLength]
    split
    · next hsome => exact .inr ((begins_iff c cs).mpr hsome)
    · exact ih

/-! ### One run -/

/-- The run at the front of a text is what a run should be. -/
theorem isRun_nextRun (c : Char) (cs : List Char) :
    IsRun (cs.drop (nextRun c cs).2) ⟨(nextRun c cs).1, c :: cs.take (nextRun c cs).2⟩ := by
  unfold nextRun
  cases hrecognize : recognize c cs with
  | none =>
    -- Nothing begins at `c`, nor at the stray characters behind it.
    refine .unrecognized (List.cons_ne_nil _ _) (fun i hi => ?_) (begins_drop_strayLength cs)
    rw [Option.getD_none, List.length_cons, List.length_take] at hi
    rw [Option.getD_none, List.cons_append, List.take_append_drop]
    cases i with
    | zero => exact not_begins_of_recognize hrecognize
    | succ i =>
      rw [List.drop_succ_cons]
      exact not_begins_of_lt_strayLength (by omega)
  | some next =>
    obtain ⟨shape?, n⟩ := next
    rcases recognize_cases hrecognize with ⟨rfl, hblank, rfl⟩ | ⟨shape, rfl, hfits, hlongest⟩
    · refine .blank (List.cons_ne_nil _ _) fun d hd => ?_
      rcases List.mem_cons.mp hd with rfl | hd
      · exact hblank
      · rw [Option.getD_some, ← List.prefix_iff_eq_take.mp (List.takeWhile_prefix _)] at hd
        exact List.mem_takeWhile_imp hd
    · refine .recognized hfits fun longer hfront hlonger => ?_
      rw [Option.getD_some, List.cons_append, List.take_append_drop] at hfront
      have hbound := hfront.length_le
      have hlength := hlongest longer hfront hlonger
      rw [List.length_cons] at hbound
      rw [Option.getD_some, List.length_cons, List.length_take]
      omega

/-- Where something begins, the next run is no unrecognized one. -/
theorem nextRun_ne_unrecognized (h : Begins (c :: cs)) :
    (nextRun c cs).1 ≠ some .unrecognized := by
  obtain ⟨⟨shape?, n⟩, hrecognize⟩ := Option.isSome_iff_exists.mp ((begins_iff c cs).mp h)
  rw [nextRun, hrecognize, Option.getD_some]
  rcases recognize_cases hrecognize with ⟨rfl, -⟩ | ⟨shape, rfl, hfits, -⟩
  · simp
  · intro hshape
    rw [Option.some.inj hshape] at hfits
    exact hfits

theorem IsRun.ne_nil (h : IsRun rest run) : run.text ≠ [] := by
  cases h with
  | blank hne | unrecognized hne => exact hne
  | recognized hfits => exact hfits.ne_nil

/-- There is no blank in a lexeme. -/
theorem IsRun.not_isBlank (h : IsRun rest run) (hshape : run.shape ≠ none) :
    ∀ c ∈ run.text, Text.isBlank c = false := by
  intro c hc
  cases h with
  | blank => exact absurd rfl hshape
  | recognized hfits => exact hfits.not_isBlank hc
  | @unrecognized text _ hnone _ =>
    rw [Bool.eq_false_iff]
    intro hblank
    -- Blank space would begin within the run.
    obtain ⟨before, after, rfl⟩ := List.append_of_mem hc
    refine hnone before.length (by simp) (.inl ⟨c, ?_, hblank⟩)
    rw [List.append_assoc, List.drop_left]
    rfl

/-- Unrecognized text goes on up to the end or to where something begins. -/
theorem IsRun.begins (h : IsRun rest run) (hshape : run.shape = some .unrecognized) :
    rest = [] ∨ Begins rest := by
  cases h with
  | blank => exact nomatch hshape
  | recognized hfits =>
    rw [Option.some.inj hshape] at hfits
    exact hfits.elim
  | unrecognized _ _ hnext => exact hnext

/-! ### All runs -/

theorem flatMap_runs (cs : List Char) : (runs cs).flatMap Run.text = cs := by
  fun_induction runs cs with
  | case1 => rfl
  | case2 c cs next ih =>
    rw [List.flatMap_cons, ih]
    exact congrArg (c :: ·) (List.take_append_drop next.2 cs)

/-- From some run on, the runs of a text are the runs of what is left. -/
theorem exists_of_runs_eq_append {after : List Run} (before : List Run)
    (h : runs cs = before ++ run :: after) : ∃ d ds, runs (d :: ds) = run :: after := by
  revert before
  fun_induction runs cs with
  | case1 => simp
  | case2 c cs next ih =>
    intro before h
    cases before with
    -- The run at the front is that of the whole text.
    | nil => exact ⟨c, cs, by rw [runs]; exact h⟩
    | cons first before => exact ih before (List.cons.inj h).2

/-- Every run is what a run should be in front of the runs behind it, and no two
    unrecognized ones follow each other. -/
theorem isRun_of_runs_eq_append {before after : List Run} (h : runs cs = before ++ run :: after) :
    IsRun (after.flatMap Run.text) run ∧ (run.shape = some .unrecognized →
      ∀ next, after.head? = some next → next.shape ≠ some .unrecognized) := by
  obtain ⟨d, ds, hruns⟩ := exists_of_runs_eq_append before h
  rw [runs] at hruns
  obtain ⟨rfl, rfl⟩ := List.cons.inj hruns
  have hrun := isRun_nextRun d ds
  rw [flatMap_runs]
  refine ⟨hrun, fun hshape next hnext => ?_⟩
  generalize ds.drop (nextRun d ds).2 = rest at hrun hnext
  cases rest with
  | nil =>
    rw [runs] at hnext
    cases hnext
  | cons e es =>
    have hbegins : Begins (e :: es) := (hrun.begins hshape).resolve_left (List.cons_ne_nil e es)
    rw [runs] at hnext
    rw [← Option.some.inj hnext]
    exact nextRun_ne_unrecognized hbegins

/-- A lexeme is a run in front of the runs behind it. -/
theorem exists_isRun_of_mem_tokenize {text : String} {lexeme : Lexeme}
    (h : lexeme ∈ tokenize text) :
    ∃ rest, IsRun rest ⟨some lexeme.shape, lexeme.text.toList⟩ := by
  obtain ⟨run, hrun, hof⟩ := List.mem_filterMap.mp h
  obtain ⟨shape, hshape, rfl⟩ := Option.map_eq_some_iff.mp hof
  obtain ⟨before, after, hsplit⟩ := List.append_of_mem hrun
  refine ⟨after.flatMap Run.text, ?_⟩
  rw [String.toList_ofList, ← hshape]
  exact (isRun_of_runs_eq_append hsplit).1

/-- A lexeme is unrecognized or a text of its shape. -/
theorem fits_of_mem_tokenize {text : String} {lexeme : Lexeme} (h : lexeme ∈ tokenize text) :
    lexeme.shape = .unrecognized ∨ lexeme.shape.Fits lexeme.text.toList := by
  obtain ⟨rest, hrun⟩ := exists_isRun_of_mem_tokenize h
  generalize hsame : (⟨some lexeme.shape, lexeme.text.toList⟩ : Run) = run at hrun
  cases hrun with
  | blank => simp at hsame
  | recognized hfits =>
    simp only [Run.mk.injEq, Option.some.injEq] at hsame
    rw [hsame.1, hsame.2]
    exact .inr hfits
  | unrecognized =>
    simp only [Run.mk.injEq, Option.some.injEq] at hsame
    exact .inl hsame.1

theorem length_runs_le (cs : List Char) : (runs cs).length ≤ cs.length := by
  fun_induction runs cs with
  | case1 => exact Nat.le_refl _
  | case2 c cs next ih =>
    rw [List.length_drop] at ih
    rw [List.length_cons, List.length_cons]
    omega

/-- **Maximal munch**: every text is made up of runs, and its lexemes are the
    runs that are not blank.  No lexeme is empty or has a blank in it.  A lexeme
    of a shape is the longest text of this shape at its place.  Nothing begins
    within an unrecognized lexeme, and it is followed by blank space, a lexeme of
    a shape or the end. -/
theorem tokenize_maximal_munch (text : String) : ∃ pieces : List Run,
    pieces.flatMap Run.text = text.toList ∧
    tokenize text = pieces.filterMap Run.lexeme? ∧
    pieces.length ≤ text.length ∧
    (∀ lexeme ∈ tokenize text, lexeme.text ≠ "" ∧
      ∀ c ∈ lexeme.text.toList, Text.isBlank c = false) ∧
    ∀ before run after, pieces = before ++ run :: after →
      IsRun (after.flatMap Run.text) run ∧ (run.shape = some .unrecognized →
        ∀ next, after.head? = some next → next.shape ≠ some .unrecognized) := by
  refine ⟨runs text.toList, flatMap_runs _, rfl, ?_, ?_, ?_⟩
  · exact length_runs_le _
  · intro lexeme hlexeme
    obtain ⟨rest, hrun⟩ := exists_isRun_of_mem_tokenize hlexeme
    refine ⟨fun hempty => hrun.ne_nil ?_, hrun.not_isBlank (by simp)⟩
    rw [hempty]
    rfl
  · exact fun before run after hsplit => isRun_of_runs_eq_append hsplit

end Worksheet.Formula
