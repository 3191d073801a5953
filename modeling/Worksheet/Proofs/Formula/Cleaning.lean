import Mathlib.Data.List.Forall2
import Worksheet.Proofs.Cell.References
import Worksheet.Proofs.Formula.Runs
import Worksheet.Proofs.Formula.Spelling
import Worksheet.Proofs.Number.Overflow

/-! # The leftmost bad lexeme

    A lexeme is bad if no token can be made from it, and for each bad lexeme
    there is one error.  Lexemes are cleaned from left to right, and a formula
    whose text has a bad one is refused with the error of the leftmost, however
    its grammar may look.  The name rules are asked about the variables up to
    this lexeme and about none behind it. -/

namespace Worksheet

open Number (Decimal)

/-! ### Good and bad lexemes -/

theorem Formula.exists_symbol_eq {c : Char} (h : Formula.isOperatorSymbol c = true) :
    ∃ op : Operator, op.symbol = c := by
  rw [Formula.isOperatorSymbol_iff] at h
  rcases h with rfl | rfl | rfl | rfl
  · exact ⟨.add, rfl⟩
  · exact ⟨.sub, rfl⟩
  · exact ⟨.mul, rfl⟩
  · exact ⟨.div, rfl⟩

/-- Out of range is what is rounded to infinity. -/
theorem Number.Decimal.magnitude_lt_infinity_iff (d : Decimal) :
    Number.magnitude (Number.ofMagnitude false d.nearest) < Number.infinity ↔ ¬ d.Overflows := by
  rw [Number.magnitude_ofMagnitude false d.nearest_le_infinity, ← d.nearest_eq_infinity_iff]
  exact Nat.lt_iff_le_and_ne.trans (and_iff_right d.nearest_le_infinity)

namespace Formula.Lexeme

variable {rules : NameRules} {lexeme : Lexeme} {token : Token} {e : FormulaError}

/-- No token can be made from the lexeme, for the reason given by the error. -/
inductive IsBad (rules : NameRules) : Lexeme → FormulaError → Prop
  | unrecognized {text : String} : IsBad rules ⟨.unrecognized, text⟩ (.invalidToken text)
  | overflow {text : String} {d : Decimal} : Decimal.ofNumeral? text.toList = some d →
    d.Overflows → IsBad rules ⟨.number, text⟩ (.numberOutOfRange text)
  | shapeless {raw : String} : Name.isVariable (rules.normalize raw) = false →
    IsBad rules ⟨.var, raw⟩ (.invalidVariable raw (rules.normalize raw))
  | rejected {raw : String} : Name.isVariable (rules.normalize raw) = true →
    rules.isValid (rules.normalize raw) = false →
    IsBad rules ⟨.var, raw⟩ (.rejectedVariable raw (rules.normalize raw))

/-- The token that the lexeme stands for. -/
inductive Cleans (rules : NameRules) : Lexeme → Token → Prop
  | leftParen : Cleans rules ⟨.leftParen, "("⟩ .leftParen
  | rightParen : Cleans rules ⟨.rightParen, ")"⟩ .rightParen
  | operator (op : Operator) :
    Cleans rules ⟨.operator, String.singleton op.symbol⟩ (.operator op)
  | number {text : String} {d : Decimal} : Decimal.ofNumeral? text.toList = some d →
    ¬ d.Overflows → Cleans rules ⟨.number, text⟩ (.number (Number.ofMagnitude false d.nearest))
  | var {raw : String} : Name.isVariable (rules.normalize raw) = true →
    rules.isValid (rules.normalize raw) = true →
    Cleans rules ⟨.var, raw⟩ (.var (rules.normalize raw))

/-- What the name rules are asked about a lexeme: the normal form of a variable,
    and whether it is allowed if it has the shape of a variable. -/
def queries (rules : NameRules) (lexeme : Lexeme) : List NameQuery :=
  match lexeme.shape with
  | .var =>
    .normalize lexeme.text :: if Name.isVariable (rules.normalize lexeme.text) then
      [.validate (rules.normalize lexeme.text)] else []
  | .leftParen | .rightParen | .operator | .number | .unrecognized => []

/-- Every lexeme of a text is bad or stands for a token. -/
theorem isBad_or_cleans (rules : NameRules)
    (h : lexeme.shape = .unrecognized ∨ lexeme.shape.Fits lexeme.text.toList) :
    (∃ e, lexeme.IsBad rules e) ∨ ∃ token, lexeme.Cleans rules token := by
  obtain ⟨shape, text⟩ := lexeme
  rcases h with rfl | hfits
  · exact .inl ⟨_, .unrecognized⟩
  · cases shape with
    | leftParen =>
      obtain rfl : text = "(" := String.ext hfits
      exact .inr ⟨_, .leftParen⟩
    | rightParen =>
      obtain rfl : text = ")" := String.ext hfits
      exact .inr ⟨_, .rightParen⟩
    | operator =>
      obtain ⟨c, hc, hsymbol⟩ := hfits
      obtain ⟨op, rfl⟩ := exists_symbol_eq hsymbol
      obtain rfl : text = String.singleton op.symbol :=
        String.ext (hc.trans (String.toList_singleton _).symm)
      exact .inr ⟨_, .operator op⟩
    | number =>
      obtain ⟨d, hd⟩ := Number.IsNumeral.exists_ofNumeral? hfits
      by_cases hover : d.Overflows
      · exact .inl ⟨_, .overflow hd hover⟩
      · exact .inr ⟨_, .number hd hover⟩
    | var =>
      cases hshape : Name.isVariable (rules.normalize text) with
      | false => exact .inl ⟨_, .shapeless hshape⟩
      | true =>
        cases hvalid : rules.isValid (rules.normalize text) with
        | false => exact .inl ⟨_, .rejected hshape hvalid⟩
        | true => exact .inr ⟨_, .var hshape hvalid⟩
    | unrecognized => exact hfits.elim

/-- A bad lexeme is refused with its error. -/
theorem IsBad.ofLexeme (h : lexeme.IsBad rules e) :
    Token.ofLexeme rules lexeme = ⟨lexeme.queries rules, .error e⟩ := by
  cases h with
  | unrecognized => rfl
  | overflow hd hover =>
    simp [Token.ofLexeme, Token.ofNumeral, Number.ofNumeral?, queries, hd,
      Decimal.magnitude_lt_infinity_iff, hover]
  | shapeless hshape =>
    simp [Token.ofLexeme, Token.ofVariable, queries, Consultation.ask, Consultation.fail, hshape]
  | rejected hshape hvalid =>
    simp [Token.ofLexeme, Token.ofVariable, queries, Consultation.ask, Consultation.fail, hshape,
      hvalid]

/-- Any other lexeme becomes the token it stands for. -/
theorem Cleans.ofLexeme (h : lexeme.Cleans rules token) :
    Token.ofLexeme rules lexeme = ⟨lexeme.queries rules, .ok token⟩ := by
  cases h with
  | leftParen | rightParen => rfl
  | operator op =>
    simp [Token.ofLexeme, queries, Consultation.give, Operator.ofSymbol?_symbol]
  | number hd hfinite =>
    simp [Token.ofLexeme, Token.ofNumeral, Number.ofNumeral?, queries, hd,
      Decimal.magnitude_lt_infinity_iff, hfinite]
  | var hshape hvalid =>
    simp [Token.ofLexeme, Token.ofVariable, queries, Consultation.ask, hshape, hvalid]

theorem Cleans.not_isBad (h : lexeme.Cleans rules token) : ¬ lexeme.IsBad rules e := by
  intro hbad
  have hsame := h.ofLexeme.symm.trans hbad.ofLexeme
  simp at hsame

end Formula.Lexeme

namespace Formula

/-! ### All lexemes -/

variable {rules : NameRules} {lexemes before : List Lexeme} {tokens : List Token}

/-- Lexemes that stand for tokens become these tokens, whatever follows. -/
theorem ofLexemes_append (h : List.Forall₂ (Lexeme.Cleans rules) before tokens)
    (rest : List Lexeme) : Token.ofLexemes rules (before ++ rest) =
      ⟨before.flatMap (Lexeme.queries rules) ++ (Token.ofLexemes rules rest).asked,
        (Token.ofLexemes rules rest).result.map (tokens ++ ·)⟩ := by
  induction h with
  | nil =>
    rw [List.nil_append]
    obtain ⟨asked, _ | others⟩ := Token.ofLexemes rules rest
    · rfl
    · rfl
  | @cons lexeme token before tokens hlexeme _ ih =>
    -- The questions about `lexeme` come first, and a failure behind it stays one.
    rw [List.cons_append, Token.ofLexemes, hlexeme.ofLexeme, ih]
    obtain ⟨asked, _ | others⟩ := Token.ofLexemes rules rest
    · simp [Except.map]
    · simp [Except.map]

theorem ofLexemes_of_cleans (h : List.Forall₂ (Lexeme.Cleans rules) lexemes tokens) :
    Token.ofLexemes rules lexemes = ⟨lexemes.flatMap (Lexeme.queries rules), .ok tokens⟩ := by
  have happend := ofLexemes_append h []
  simpa [Token.ofLexemes, Consultation.give, Except.map] using happend

theorem ofLexemes_of_isBad {bad : Lexeme} {e : FormulaError}
    (h : List.Forall₂ (Lexeme.Cleans rules) before tokens) (hbad : bad.IsBad rules e)
    (after : List Lexeme) : Token.ofLexemes rules (before ++ bad :: after) =
      ⟨(before ++ [bad]).flatMap (Lexeme.queries rules), .error e⟩ := by
  rw [ofLexemes_append h, Token.ofLexemes, hbad.ofLexeme]
  simp [Except.map]

/-- All lexemes stand for tokens, or there is a leftmost bad one. -/
theorem cleans_or_exists_isBad (rules : NameRules) (h : ∀ lexeme ∈ lexemes,
    lexeme.shape = .unrecognized ∨ lexeme.shape.Fits lexeme.text.toList) :
    (∃ tokens, List.Forall₂ (Lexeme.Cleans rules) lexemes tokens) ∨
    ∃ before tokens bad e after, lexemes = before ++ bad :: after ∧
      List.Forall₂ (Lexeme.Cleans rules) before tokens ∧ bad.IsBad rules e := by
  induction lexemes with
  | nil => exact .inl ⟨[], .nil⟩
  | cons lexeme rest ih =>
    rcases lexeme.isBad_or_cleans rules (h lexeme (by simp)) with ⟨e, hbad⟩ | ⟨token, hclean⟩
    · exact .inr ⟨[], [], lexeme, e, rest, rfl, .nil, hbad⟩
    · rcases ih (fun other hother => h other (List.mem_cons_of_mem _ hother)) with
        ⟨tokens, htokens⟩ | ⟨before, tokens, bad, e, after, rfl, htokens, hbad⟩
      · exact .inl ⟨token :: tokens, .cons hclean htokens⟩
      · exact .inr ⟨lexeme :: before, token :: tokens, bad, e, after, rfl,
          .cons hclean htokens, hbad⟩

theorem not_isBad_of_cleans (h : List.Forall₂ (Lexeme.Cleans rules) lexemes tokens) :
    ∀ lexeme ∈ lexemes, ∀ e, ¬ lexeme.IsBad rules e := by
  induction h with
  | nil => exact List.forall_mem_nil _
  | cons hfirst _ ih => exact List.forall_mem_cons.mpr ⟨fun e => hfirst.not_isBad, ih⟩

/-! ### The formula -/

/-- The variables among the tokens are the normal forms of those in the text. -/
theorem mem_varNames_iff (h : List.Forall₂ (Lexeme.Cleans rules) lexemes tokens) (name : String) :
    name ∈ tokens.filterMap Token.varName? ↔
      ∃ raw, ⟨.var, raw⟩ ∈ lexemes ∧ rules.normalize raw = name := by
  induction h with
  | nil => simp
  | @cons lexeme token lexemes tokens hfirst _ ih =>
    cases hfirst with
    | leftParen | rightParen | operator | number =>
      rw [List.filterMap_cons_none rfl, ih]
      simp
    | @var raw _ _ =>
      have hname : (Token.var (rules.normalize raw)).varName? = some (rules.normalize raw) := rfl
      rw [List.filterMap_cons_some hname, List.mem_cons, ih]
      simp [or_and_right, exists_or, eq_comm]

theorem ofTokens_eq_error_iff {e : FormulaError} :
    ofTokens tokens = .error e ↔ check tokens = .error e := by
  unfold ofTokens
  split
  · next h => simp [h]
  · next e' h => simp [h]

variable {text : String} {f : Formula}

theorem parse_of_isBad {bad : Lexeme} {e : FormulaError} {after : List Lexeme}
    (hsplit : tokenize text = before ++ bad :: after)
    (h : List.Forall₂ (Lexeme.Cleans rules) before tokens) (hbad : bad.IsBad rules e) :
    parse rules text = ⟨(before ++ [bad]).flatMap (Lexeme.queries rules), .error e⟩ := by
  rw [parse, hsplit, ofLexemes_of_isBad h hbad, Consultation.bind_error]

theorem parse_of_cleans (h : List.Forall₂ (Lexeme.Cleans rules) (tokenize text) tokens) :
    parse rules text = ⟨(tokenize text).flatMap (Lexeme.queries rules), ofTokens tokens⟩ := by
  rw [parse, ofLexemes_of_cleans h, Consultation.bind_ok, List.append_nil]

theorem cleans_or_exists_isBad_of_tokenize (rules : NameRules) (text : String) :
    (∃ tokens, List.Forall₂ (Lexeme.Cleans rules) (tokenize text) tokens) ∨
    ∃ before tokens bad e after, tokenize text = before ++ bad :: after ∧
      List.Forall₂ (Lexeme.Cleans rules) before tokens ∧ bad.IsBad rules e :=
  cleans_or_exists_isBad rules fun _ hlexeme => fits_of_mem_tokenize hlexeme

/-- The tokens of a formula are those that the lexemes of its text stand for. -/
theorem cleans_of_parse (h : (parse rules text).result = .ok f) :
    List.Forall₂ (Lexeme.Cleans rules) (tokenize text) f.tokens := by
  rcases cleans_or_exists_isBad_of_tokenize rules text with
    ⟨tokens, htokens⟩ | ⟨before, tokens, bad, e, after, hsplit, htokens, hbad⟩
  · rw [parse_of_cleans htokens] at h
    rwa [tokens_of_ofTokens h]
  · rw [parse_of_isBad hsplit htokens hbad] at h
    exact nomatch h

/-- **Leftmost bad lexeme**: a text with a bad lexeme is refused with the error
    of the leftmost, after the rules have been asked about the lexemes up to this
    one.  Any other text is refused exactly if the check refuses its tokens, with
    the error of the check.  The variables of a formula are the normal forms of
    those in its text, and its numbers are finite and not negative. -/
theorem parse_leftmost_bad (rules : NameRules) (text : String) :
    ((∃ lexeme ∈ tokenize text, ∃ e, lexeme.IsBad rules e) →
      ∃ before bad e after, tokenize text = before ++ bad :: after ∧
        (∀ lexeme ∈ before, ∀ e, ¬ lexeme.IsBad rules e) ∧ bad.IsBad rules e ∧
        parse rules text = ⟨(before ++ [bad]).flatMap (Lexeme.queries rules), .error e⟩) ∧
    ((∀ lexeme ∈ tokenize text, ∀ e, ¬ lexeme.IsBad rules e) →
      ∃ tokens, List.Forall₂ (Lexeme.Cleans rules) (tokenize text) tokens ∧
        (parse rules text).asked = (tokenize text).flatMap (Lexeme.queries rules) ∧
        (∀ e, (parse rules text).result = .error e ↔ check tokens = .error e) ∧
        ∀ f, (parse rules text).result = .ok f → f.tokens = tokens) ∧
    ∀ f, (parse rules text).result = .ok f →
      (∀ name, name ∈ f.variableNames ↔
        ∃ raw, ⟨.var, raw⟩ ∈ tokenize text ∧ rules.normalize raw = name) ∧
      ∀ value, .number value ∈ f.tokens →
        Number.magnitude value < Number.infinity ∧ Number.isNegative value = false := by
  refine ⟨?_, ?_, ?_⟩
  · rintro ⟨lexeme, hlexeme, e, hlexemebad⟩
    rcases cleans_or_exists_isBad_of_tokenize rules text with
      ⟨tokens, htokens⟩ | ⟨before, tokens, bad, e, after, hsplit, htokens, hbad⟩
    · -- No lexeme is bad, against the assumption.
      exact absurd hlexemebad (not_isBad_of_cleans htokens lexeme hlexeme e)
    · exact ⟨before, bad, e, after, hsplit, not_isBad_of_cleans htokens, hbad,
        parse_of_isBad hsplit htokens hbad⟩
  · intro hgood
    rcases cleans_or_exists_isBad_of_tokenize rules text with
      ⟨tokens, htokens⟩ | ⟨before, tokens, bad, e, after, hsplit, htokens, hbad⟩
    · rw [parse_of_cleans htokens]
      exact ⟨tokens, htokens, rfl, fun e => ofTokens_eq_error_iff,
        fun f hf => tokens_of_ofTokens hf⟩
    · exact absurd hbad (hgood bad (by simp [hsplit]) e)
  · intro f hf
    refine ⟨fun name => ?_, fun value hvalue => isWritable_of_parse hf _ hvalue⟩
    rw [f.mem_variableNames, mem_varNames_iff (cleans_of_parse hf)]

end Formula

end Worksheet
