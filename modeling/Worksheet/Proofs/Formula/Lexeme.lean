import Worksheet.Formula.Lexeme
import Worksheet.Proofs.Number.Canonical

/-! # Where lexemes end

    A lexeme takes as many characters as it can, so whether a name or a number
    ends where its text ends depends on what follows.  A blank, an operator and
    a closing parenthesis are borders: with one of them behind it, or nothing,
    a variable or a canonical number is recognized to its last character.
    Blanks between lexemes do not matter. -/

namespace Worksheet.Formula

open Number (Positional)

/-! ### Characters -/

/-- Does `c` end the number or variable in front of it? -/
def isBorder (c : Char) : Bool :=
  Text.isBlank c || c = ')' || isOperatorSymbol c

theorem isOperatorSymbol_iff (c : Char) :
    isOperatorSymbol c = true ↔ c = '+' ∨ c = '-' ∨ c = '*' ∨ c = '/' := by
  simp [isOperatorSymbol, or_assoc]

theorem isPart_of_isStart {c : Char} (h : Name.isStart c = true) : Name.isPart c = true := by
  simp only [Name.isStart, Name.isPart, Char.isAlphanum, Bool.or_eq_true] at h ⊢
  exact h.imp_left .inl

theorem isPart_of_isDigit {c : Char} (h : c.isDigit = true) : Name.isPart c = true := by
  simp [Name.isPart, Char.isAlphanum, h]

/-- The characters of names, by their code points. -/
theorem toNat_of_isPart {c : Char} (h : Name.isPart c = true) :
    (48 ≤ c.toNat ∧ c.toNat ≤ 57) ∨ (65 ≤ c.toNat ∧ c.toNat ≤ 90) ∨ c.toNat = 95 ∨
      (97 ≤ c.toNat ∧ c.toNat ≤ 122) := by
  simp only [Name.isPart, Char.isAlphanum, Char.isAlpha, Char.isUpper, Char.isLower, Char.isDigit,
    Bool.or_eq_true, Bool.and_eq_true, decide_eq_true_eq, UInt32.le_iff_toNat_le, ge_iff_le] at h
  change (((65 ≤ c.toNat ∧ c.toNat ≤ 90) ∨ (97 ≤ c.toNat ∧ c.toNat ≤ 122)) ∨
    (48 ≤ c.toNat ∧ c.toNat ≤ 57)) ∨ c = '_' at h
  rcases h with ((h | h) | h) | rfl
  · omega
  · omega
  · omega
  · decide

theorem not_isPart_of_isBlank {c : Char} (h : Text.isBlank c = true) : Name.isPart c = false := by
  rw [Bool.eq_false_iff]
  intro hpart
  have hrange := toNat_of_isPart hpart
  simp only [Text.isBlank, Bool.or_eq_true, Bool.and_eq_true, decide_eq_true_eq, beq_iff_eq] at h
  omega

theorem not_isBlank_of_isPart {c : Char} (h : Name.isPart c = true) : Text.isBlank c = false := by
  rw [Bool.eq_false_iff]
  intro hblank
  rw [not_isPart_of_isBlank hblank] at h
  exact nomatch h

theorem not_isStart_of_isDigit {c : Char} (h : c.isDigit = true) : Name.isStart c = false := by
  rw [Bool.eq_false_iff]
  intro hstart
  simp only [Name.isStart, Char.isAlpha, Char.isUpper, Char.isLower, Char.isDigit, Bool.or_eq_true,
    Bool.and_eq_true, decide_eq_true_eq, UInt32.le_iff_toNat_le, ge_iff_le] at h hstart
  change 48 ≤ c.toNat ∧ c.toNat ≤ 57 at h
  change ((65 ≤ c.toNat ∧ c.toNat ≤ 90) ∨ (97 ≤ c.toNat ∧ c.toNat ≤ 122)) ∨ c = '_' at hstart
  rcases hstart with (hstart | hstart) | rfl
  · omega
  · omega
  · exact absurd h (by decide)

/-- Neither a name nor a numeral goes on with a border. -/
theorem not_isPart_of_isBorder {c : Char} (h : isBorder c = true) :
    Name.isPart c = false ∧ c ≠ '.' := by
  simp only [isBorder, Bool.or_eq_true, decide_eq_true_eq, isOperatorSymbol_iff] at h
  rcases h with (hblank | rfl) | rfl | rfl | rfl | rfl
  · refine ⟨not_isPart_of_isBlank hblank, ?_⟩
    rintro rfl
    exact absurd hblank (by decide)
  all_goals decide

/-- What may stand behind a number or a variable. -/
def StartsWithBorder (rest : List Char) : Prop :=
  ∀ c, rest.head? = some c → isBorder c = true

theorem StartsWithBorder.endsNumeral {rest : List Char} (h : StartsWithBorder rest) :
    Number.EndsNumeral rest := by
  intro c hc
  obtain ⟨hpart, hpoint⟩ := not_isPart_of_isBorder (h c hc)
  refine ⟨?_, hpoint, ?_⟩
  · rw [Bool.eq_false_iff]
    intro hdigit
    rw [isPart_of_isDigit hdigit] at hpart
    exact nomatch hpart
  · rw [Bool.eq_false_iff]
    intro hmark
    simp only [Number.isExponentMark, Bool.or_eq_true, decide_eq_true_eq] at hmark
    rcases hmark with rfl | rfl
    · exact absurd hpart (by decide)
    · exact absurd hpart (by decide)

/-! ### Runs -/

/-- Is `c` a lexeme on its own? -/
def isSymbol (c : Char) : Bool :=
  c = '(' || c = ')' || isOperatorSymbol c

theorem isSymbol_iff (c : Char) : isSymbol c = true ↔
    c = '(' ∨ c = ')' ∨ c = '+' ∨ c = '-' ∨ c = '*' ∨ c = '/' := by
  simp [isSymbol, isOperatorSymbol_iff, or_assoc]

theorem not_isSymbol_of_isPart {c : Char} (h : Name.isPart c = true) : isSymbol c = false := by
  rw [Bool.eq_false_iff, Ne, isSymbol_iff]
  rintro (rfl | rfl | rfl | rfl | rfl | rfl) <;> exact absurd h (by decide)

theorem not_isSymbol_of_isBlank {c : Char} (h : Text.isBlank c = true) : isSymbol c = false := by
  rw [Bool.eq_false_iff, Ne, isSymbol_iff]
  rintro (rfl | rfl | rfl | rfl | rfl | rfl) <;> exact absurd h (by decide)

/-- What begins with no symbol is a variable, a numeral or blank space. -/
theorem recognize_of_not_isSymbol {c : Char} (h : isSymbol c = false) (cs : List Char) :
    recognize c cs =
      if Name.isStart c then some (some .var, (cs.takeWhile Name.isPart).length)
      else
        match Number.numeralLength (c :: cs) with
        | n + 1 => some (some .number, n)
        | 0 => if Text.isBlank c then some (none, (cs.takeWhile Text.isBlank).length) else none := by
  simp only [isSymbol, Bool.or_eq_false_iff, decide_eq_false_iff_not] at h
  obtain ⟨⟨hopen, hclose⟩, hoperator⟩ := h
  have hword : ¬ isOperatorSymbol c = true := by simp [hoperator]
  exact (if_neg hopen).trans ((if_neg hclose).trans (if_neg hword))

theorem recognize_var {c : Char} {cs rest : List Char} (hc : Name.isStart c = true)
    (hcs : ∀ d ∈ cs, Name.isPart d = true) (hrest : StartsWithBorder rest) :
    recognize c (cs ++ rest) = some (some .var, cs.length) := by
  have hends : rest.takeWhile Name.isPart = [] := by
    cases rest with
    | nil => rfl
    | cons d rest => rw [List.takeWhile_cons_of_neg (by simp [not_isPart_of_isBorder (hrest d rfl)])]
  rw [recognize_of_not_isSymbol (not_isSymbol_of_isPart (isPart_of_isStart hc)), if_pos hc,
    List.takeWhile_append_of_pos hcs, hends, List.append_nil]

theorem recognize_number {p : Positional} {c : Char} {cs rest : List Char} (hp : p.text = c :: cs)
    (hc : c.isDigit = true) (hrest : StartsWithBorder rest) :
    recognize c (cs ++ rest) = some (some .number, cs.length) := by
  have hlength := p.numeralLength_text_append hrest.endsNumeral
  rw [hp, List.cons_append, List.length_cons] at hlength
  rw [recognize_of_not_isSymbol (not_isSymbol_of_isPart (isPart_of_isDigit hc)),
    if_neg (by simp [not_isStart_of_isDigit hc]), hlength]

theorem recognize_blank {c : Char} (h : Text.isBlank c = true) (cs : List Char) :
    recognize c cs = some (none, (cs.takeWhile Text.isBlank).length) := by
  have hstart : ¬ Name.isStart c = true := by
    intro hstart
    have hpart := not_isPart_of_isBlank h
    rw [isPart_of_isStart hstart] at hpart
    exact nomatch hpart
  have hborder : StartsWithBorder (c :: cs) := by
    intro d hd
    rw [← Option.some.inj hd]
    simp [isBorder, h]
  rw [recognize_of_not_isSymbol (not_isSymbol_of_isBlank h), if_neg hstart,
    Number.numeralLength_eq_zero hborder.endsNumeral]
  dsimp only
  rw [if_pos h]

/-- The lexemes of a text. -/
def lexemes (cs : List Char) : List Lexeme :=
  (runs cs).filterMap Run.lexeme?

theorem lexemes_of_recognize {c : Char} {cs rest : List Char} {shape : Shape}
    (h : recognize c (cs ++ rest) = some (some shape, cs.length)) :
    lexemes (c :: cs ++ rest) = ⟨shape, String.ofList (c :: cs)⟩ :: lexemes rest := by
  unfold lexemes
  rw [List.cons_append, runs, nextRun, h]
  simp [Run.lexeme?]

/-- Blanks in front of a text do not change its lexemes. -/
theorem lexemes_trimLeft (cs : List Char) : lexemes (Text.trimLeft cs) = lexemes cs := by
  cases cs with
  | nil => rfl
  | cons c cs =>
    unfold Text.trimLeft
    by_cases hc : Text.isBlank c = true
    · have hdrop : cs.drop (cs.takeWhile Text.isBlank).length = cs.dropWhile Text.isBlank := calc
        _ = (cs.takeWhile Text.isBlank ++ cs.dropWhile Text.isBlank).drop
              (cs.takeWhile Text.isBlank).length := by rw [List.takeWhile_append_dropWhile]
        _ = cs.dropWhile Text.isBlank := List.drop_left
      unfold lexemes
      rw [List.dropWhile_cons_of_pos hc, runs, nextRun, recognize_blank hc]
      simp [Run.lexeme?, hdrop]
    · rw [List.dropWhile_cons_of_neg hc]

theorem lexemes_gap_append {gap : List Char} (h : ∀ c ∈ gap, Text.isBlank c = true)
    (cs : List Char) : lexemes (gap ++ cs) = lexemes cs := by
  have htrim : Text.trimLeft (gap ++ cs) = Text.trimLeft cs := List.dropWhile_append_of_pos h
  rw [← lexemes_trimLeft (gap ++ cs), htrim, lexemes_trimLeft]

end Worksheet.Formula
