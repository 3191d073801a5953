import Mathlib
import Worksheet.Proofs.Cell.Input
import Worksheet.Proofs.Formula.Viability

/-! # The case of letters in formulas

    Cutting a text into runs never depends on the case of a letter: variables
    take letters of both cases, the mark of an exponent may be either, and no
    other character is exchanged for a letter.  So the runs of a text in upper
    case are its runs in upper case, and they write the same numbers.

    With rules that bring names to upper case, variables have the same normal form
    as well.  Then a text and the same text in upper case are the same formula, or
    are refused alike: the errors differ only in the raw texts that they quote. -/

namespace Worksheet

open Text (isBlank)

variable {c d : Char} {cs : List Char} {text : String} {rules : NameRules}

/-! ### Characters -/

/-- Bringing a character to upper case changes a letter to a letter, or nothing. -/
theorem toUpper_cases (c : Char) : c.toUpper = c ∨ c.isAlpha = true ∧ c.toUpper.isAlpha = true := by
  by_cases hlower : c.isLower = true
  · have halpha : c.isAlpha = true := by simp [Char.isAlpha, hlower]
    exact .inr ⟨halpha, by rwa [Char.isAlpha_toUpper_eq_isAlpha]⟩
  · exact .inl (Char.toUpper_eq_of_not_isLower hlower)

/-- What is no letter does not come from another character. -/
theorem toUpper_eq_iff (h : d.isAlpha = false) : c.toUpper = d ↔ c = d := by
  rcases toUpper_cases c with hsame | ⟨halpha, hupper⟩
  · rw [hsame]
  · constructor
    · rintro rfl
      rw [hupper] at h
      exact nomatch h
    · rintro rfl
      rw [halpha] at h
      exact nomatch h

/-- A test that is not passed by letters has the same outcome in upper case. -/
theorem test_toUpper {p : Char → Bool} (h : ∀ c, c.isAlpha = true → p c = false) (c : Char) :
    p c.toUpper = p c := by
  rcases toUpper_cases c with hsame | ⟨halpha, hupper⟩
  · rw [hsame]
  · rw [h c halpha, h c.toUpper hupper]

theorem not_isDigit_of_isAlpha (h : c.isAlpha = true) : c.isDigit = false := by
  by_contra hdigit
  have hstart := Formula.not_isStart_of_isDigit (Bool.eq_true_of_not_eq_false hdigit)
  simp [Name.isStart, h] at hstart

theorem isDigit_toUpper (c : Char) : c.toUpper.isDigit = c.isDigit :=
  test_toUpper (fun _ halpha => not_isDigit_of_isAlpha halpha) c

theorem isBlank_toUpper (c : Char) : isBlank c.toUpper = isBlank c := by
  apply test_toUpper
  intro c halpha
  apply Formula.not_isBlank_of_isPart
  simp [Name.isPart, Char.isAlphanum, halpha]

theorem isStart_toUpper (c : Char) : Name.isStart c.toUpper = Name.isStart c := by
  simp [Name.isStart, toUpper_eq_iff (show '_'.isAlpha = false by decide)]

theorem isPart_toUpper (c : Char) : Name.isPart c.toUpper = Name.isPart c := by
  simp [Name.isPart, Char.isAlphanum, isDigit_toUpper,
    toUpper_eq_iff (show '_'.isAlpha = false by decide)]

theorem isOperatorSymbol_toUpper (c : Char) :
    Formula.isOperatorSymbol c.toUpper = Formula.isOperatorSymbol c := by
  apply test_toUpper
  intro c halpha
  by_contra hsymbol
  rw [Bool.not_eq_false, Formula.isOperatorSymbol_iff] at hsymbol
  rcases hsymbol with rfl | rfl | rfl | rfl <;> exact absurd halpha (by decide)

namespace Number

theorem isSign_toUpper (c : Char) : isSign c.toUpper = isSign c := by
  apply test_toUpper
  intro c halpha
  by_contra hsign
  simp only [isSign, Bool.not_eq_false, Bool.or_eq_true, decide_eq_true_eq] at hsign
  rcases hsign with rfl | rfl <;> exact absurd halpha (by decide)

/-- Either case of the letter marks an exponent. -/
theorem isExponentMark_toUpper (c : Char) : isExponentMark c.toUpper = isExponentMark c := by
  by_cases hlower : c.isLower = true
  · have hrange : 97 ≤ c.toNat ∧ c.toNat ≤ 122 := by
      simpa [Char.isLower, UInt32.le_iff_toNat_le] using hlower
    obtain ⟨hlow, hhigh⟩ := hrange
    rw [← Char.ofNat_toNat c]
    generalize c.toNat = n at hlow hhigh
    interval_cases n <;> rfl
  · rw [Char.toUpper_eq_of_not_isLower hlower]

/-! ### Numerals -/

theorem digitRun_toUpper (cs : List Char) : digitRun (cs.map Char.toUpper) = digitRun cs := by
  have hdigit : Char.isDigit ∘ Char.toUpper = Char.isDigit := funext isDigit_toUpper
  rw [digitRun, List.takeWhile_map, hdigit, List.length_map, digitRun]

theorem mantissaLength_toUpper (cs : List Char) :
    mantissaLength (cs.map Char.toUpper) = mantissaLength cs := by
  unfold mantissaLength
  dsimp only
  rw [digitRun_toUpper, ← List.map_drop]
  cases cs.drop (digitRun cs) with
  | nil => rfl
  | cons c rest =>
    by_cases hpoint : c = '.'
    · subst hpoint
      have hupper : '.'.toUpper = '.' := by decide
      simp only [List.map_cons, hupper, digitRun_toUpper]
    · have hupper : c.toUpper ≠ '.' := fun h => hpoint ((toUpper_eq_iff (by decide)).mp h)
      simp [hpoint, hupper]

theorem signLength_toUpper (cs : List Char) : signLength (cs.map Char.toUpper) = signLength cs := by
  cases cs with
  | nil => rfl
  | cons c cs => rw [List.map_cons, signLength, isSign_toUpper, signLength]

theorem exponentLength_toUpper (cs : List Char) :
    exponentLength (cs.map Char.toUpper) = exponentLength cs := by
  cases cs with
  | nil => rfl
  | cons c cs =>
    rw [List.map_cons, exponentLength, exponentLength, signLength_toUpper, ← List.map_drop,
      digitRun_toUpper, isExponentMark_toUpper]

theorem numeralLength_toUpper (cs : List Char) :
    numeralLength (cs.map Char.toUpper) = numeralLength cs := by
  rw [numeralLength, numeralLength, mantissaLength_toUpper, ← List.map_drop, exponentLength_toUpper]

theorem naturalValue_toUpper (cs : List Char) :
    naturalValue (cs.map Char.toUpper) = naturalValue cs := by
  unfold naturalValue
  rw [List.foldl_map]
  congr 1
  funext n c
  rcases toUpper_cases c with hsame | ⟨halpha, hupper⟩
  · rw [hsame]
  · rw [not_isDigit_of_isAlpha halpha, not_isDigit_of_isAlpha hupper]
    rfl

theorem decimalPlaces_toUpper (cs : List Char) :
    decimalPlaces (cs.map Char.toUpper) = decimalPlaces cs := by
  have hpoint : (fun c : Char => decide (c ≠ '.')) ∘ Char.toUpper = fun c => decide (c ≠ '.') := by
    funext c
    simp [toUpper_eq_iff (show '.'.isAlpha = false by decide)]
  rw [decimalPlaces, List.dropWhile_map, hpoint, List.length_map, decimalPlaces]

theorem exponentValue_toUpper (cs : List Char) :
    exponentValue (cs.map Char.toUpper) = exponentValue cs := by
  have hminus : (fun c : Char => decide (c = '-')) ∘ Char.toUpper = fun c => decide (c = '-') := by
    funext c
    simp [toUpper_eq_iff (show '-'.isAlpha = false by decide)]
  rw [exponentValue, List.any_map, hminus, naturalValue_toUpper, exponentValue]

/-- A numeral writes the same number in upper case. -/
theorem ofNumeral?_toUpper (cs : List Char) :
    Decimal.ofNumeral? (cs.map Char.toUpper) = Decimal.ofNumeral? cs := by
  unfold Decimal.ofNumeral?
  dsimp only
  rw [numeralLength_toUpper, List.length_map, mantissaLength_toUpper, ← List.map_take,
    ← List.map_drop, naturalValue_toUpper, decimalPlaces_toUpper, exponentValue_toUpper]
  simp only [ne_eq, List.map_eq_nil_iff]

end Number

/-! ### Lexemes -/

theorem toList_toUpper (text : String) : text.toUpper.toList = text.toList.map Char.toUpper :=
  String.toList_map

theorem toUpper_ofList (cs : List Char) :
    (String.ofList cs).toUpper = String.ofList (cs.map Char.toUpper) := by
  rw [← String.toList_inj, toList_toUpper, String.toList_ofList, String.toList_ofList]

theorem toUpper_toUpper (text : String) : text.toUpper.toUpper = text.toUpper := by
  rw [← String.toList_inj, toList_toUpper, toList_toUpper, List.map_map]
  congr 1
  funext c
  exact Char.toUpper_toUpper_eq_toUpper c

namespace Formula

/-- The run in upper case. -/
def Run.inUpper (run : Run) : Run :=
  ⟨run.shape, run.text.map Char.toUpper⟩

/-- The lexeme in upper case. -/
def Lexeme.inUpper (lexeme : Lexeme) : Lexeme :=
  ⟨lexeme.shape, lexeme.text.toUpper⟩

theorem recognize_toUpper (c : Char) (cs : List Char) :
    recognize c.toUpper (cs.map Char.toUpper) = recognize c cs := by
  have hpart : Name.isPart ∘ Char.toUpper = Name.isPart := funext isPart_toUpper
  have hblank : isBlank ∘ Char.toUpper = isBlank := funext isBlank_toUpper
  have hnumeral : Number.numeralLength (c.toUpper :: cs.map Char.toUpper) =
      Number.numeralLength (c :: cs) := Number.numeralLength_toUpper (c :: cs)
  rw [recognize, recognize, isOperatorSymbol_toUpper, isStart_toUpper, hnumeral, isBlank_toUpper,
    List.takeWhile_map, List.takeWhile_map, hpart, hblank, List.length_map, List.length_map]
  simp only [toUpper_eq_iff (show '('.isAlpha = false by decide),
    toUpper_eq_iff (show ')'.isAlpha = false by decide)]

theorem strayLength_toUpper (cs : List Char) :
    strayLength (cs.map Char.toUpper) = strayLength cs := by
  induction cs with
  | nil => rfl
  | cons c cs ih => rw [List.map_cons, strayLength, recognize_toUpper, ih, strayLength]

/-- The runs of a text in upper case are its runs in upper case. -/
theorem runs_toUpper (cs : List Char) :
    runs (cs.map Char.toUpper) = (runs cs).map Run.inUpper := by
  fun_induction runs cs with
  | case1 => rw [List.map_nil, runs, List.map_nil]
  | case2 c cs next ih =>
    have hnext : nextRun c.toUpper (cs.map Char.toUpper) = next := by
      rw [nextRun, recognize_toUpper, strayLength_toUpper, ← nextRun]
    rw [List.map_cons, runs, hnext, ← List.map_take, ← List.map_drop, ih]
    rfl

theorem tokenize_toUpper (text : String) :
    tokenize text.toUpper = (tokenize text).map Lexeme.inUpper := by
  have hlexeme : Run.lexeme? ∘ Run.inUpper = fun run => run.lexeme?.map Lexeme.inUpper := by
    funext run
    simp [Run.lexeme?, Run.inUpper, Lexeme.inUpper, toUpper_ofList, Function.comp_def]
  rw [tokenize, tokenize, toList_toUpper, runs_toUpper, List.filterMap_map, hlexeme,
    List.map_filterMap]

end Formula

/-! ### Errors -/

/-- The error with the raw texts that it quotes in upper case. -/
def FormulaError.inUpper : FormulaError → FormulaError
  | .invalidToken text => .invalidToken text.toUpper
  | .numberOutOfRange text => .numberOutOfRange text.toUpper
  | .invalidVariable raw normalized => .invalidVariable raw.toUpper normalized
  | .rejectedVariable raw normalized => .rejectedVariable raw.toUpper normalized
  | e => e

/-- No raw text is quoted in an error of the grammar. -/
theorem Formula.inUpper_of_check {tokens : List Token} {e : FormulaError}
    (h : check tokens = .error e) : e.inUpper = e := by
  cases complaint_of_check h with
  | empty | start | ending | unclosed => rfl
  | unread _ _ _ hposition =>
    cases e with
    | expectedOperator | expectedOperand | unmatchedClose => rfl
    | _ => exact nomatch hposition

/-! ### Tokens -/

namespace Operator

theorem ofSymbol?_eq_some_iff {op : Operator} : ofSymbol? cs = some op ↔ cs = [op.symbol] := by
  constructor
  · intro h
    unfold ofSymbol? at h
    split at h <;> cases h <;> rfl
  · rintro rfl
    exact ofSymbol?_symbol op

theorem ofSymbol?_toUpper (cs : List Char) : ofSymbol? (cs.map Char.toUpper) = ofSymbol? cs := by
  ext op
  have hsymbol : op.symbol.isAlpha = false := by cases op <;> decide
  rw [ofSymbol?_eq_some_iff, ofSymbol?_eq_some_iff, List.map_eq_singleton_iff]
  simp only [toUpper_eq_iff hsymbol, exists_eq_right]

end Operator

namespace Token

/-- A lexeme in upper case becomes the same token, or is bad alike. -/
theorem ofLexeme_inUpper (hrules : ∀ raw, rules.normalize raw = raw.toUpper)
    (lexeme : Formula.Lexeme) : (ofLexeme rules lexeme.inUpper).result =
      (ofLexeme rules lexeme).result.mapError FormulaError.inUpper := by
  obtain ⟨shape, text⟩ := lexeme
  unfold ofLexeme Formula.Lexeme.inUpper
  cases shape with
  | leftParen | rightParen | unrecognized => rfl
  | operator =>
    dsimp only
    rw [toList_toUpper, Operator.ofSymbol?_toUpper]
    cases Operator.ofSymbol? text.toList <;> rfl
  | number =>
    show ofNumeral text.toUpper = (ofNumeral text).mapError FormulaError.inUpper
    unfold ofNumeral Number.ofNumeral?
    rw [toList_toUpper, Number.ofNumeral?_toUpper]
    cases Number.Decimal.ofNumeral? text.toList with
    | none => rfl
    | some d =>
      dsimp only [Option.map_some]
      split <;> rfl
  | var =>
    show (ofVariable rules text.toUpper).result =
      (ofVariable rules text).result.mapError FormulaError.inUpper
    unfold ofVariable
    rw [hrules, hrules, toUpper_toUpper]
    by_cases hshape : Name.isVariable text.toUpper = true
    · by_cases hvalid : rules.isValid text.toUpper = true
      · simp [Consultation.ask, hshape, hvalid, Except.mapError]
      · simp [Consultation.ask, Consultation.fail, hshape, hvalid, Except.mapError,
          FormulaError.inUpper]
    · simp [Consultation.ask, Consultation.fail, hshape, Except.mapError, FormulaError.inUpper]

theorem ofLexemes_inUpper (hrules : ∀ raw, rules.normalize raw = raw.toUpper)
    (lexemes : List Formula.Lexeme) :
    (ofLexemes rules (lexemes.map Formula.Lexeme.inUpper)).result =
      (ofLexemes rules lexemes).result.mapError FormulaError.inUpper := by
  induction lexemes with
  | nil => rfl
  | cons lexeme lexemes ih =>
    rw [List.map_cons, ofLexemes, ofLexemes, Consultation.result_bind_eq,
      Consultation.result_bind_eq, ofLexeme_inUpper hrules]
    cases (ofLexeme rules lexeme).result with
    | error e => rfl
    | ok token =>
      show (ofLexemes rules _ >>= _).result = ((ofLexemes rules _ >>= _).result).mapError _
      rw [Consultation.result_bind_eq, Consultation.result_bind_eq, ih]
      cases (ofLexemes rules lexemes).result <;> rfl

end Token

/-! ### Formulas -/

/-- With rules that bring names to upper case, a text in upper case is the same
    formula, or is refused alike. -/
theorem Formula.parse_toUpper (hrules : ∀ raw, rules.normalize raw = raw.toUpper) (text : String) :
    (parse rules text.toUpper).result =
      (parse rules text).result.mapError FormulaError.inUpper := by
  unfold parse
  rw [Consultation.result_bind_eq, Consultation.result_bind_eq, tokenize_toUpper,
    Token.ofLexemes_inUpper hrules]
  cases (Token.ofLexemes rules (tokenize text)).result with
  | error e => rfl
  | ok tokens =>
    show ofTokens tokens = (ofTokens tokens).mapError FormulaError.inUpper
    unfold ofTokens
    split
    · rfl
    · next e hcheck => exact congrArg Except.error (inUpper_of_check hcheck).symm

/-- What is entered behind the formula marker is read alike in both cases. -/
theorem Content.ofInput_toUpper (hrules : ∀ raw, rules.normalize raw = raw.toUpper) {raw : String}
    (h : raw.toList.head? = some formulaMarker) : ofInput rules raw.toUpper =
      (ofInput rules raw).mapError FormulaError.inUpper := by
  obtain ⟨rest, hraw⟩ : ∃ rest, raw.toList = formulaMarker :: rest := List.head?_eq_some_iff.mp h
  have hupper : raw.toUpper.toList = formulaMarker :: rest.map Char.toUpper := by
    rw [toList_toUpper, hraw]
    rfl
  rw [ofInput_of_formulaMarker hupper, ofInput_of_formulaMarker hraw, ← toUpper_ofList,
    Formula.parse_toUpper hrules]
  cases (Formula.parse rules (String.ofList rest)).result <;> rfl

end Worksheet
