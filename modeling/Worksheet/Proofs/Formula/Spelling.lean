import Worksheet.Formula.Basic
import Worksheet.Proofs.Formula.Lexeme
import Worksheet.Proofs.Formula.Parse

/-! # Spellings of a formula

    A spelling of tokens is made of their canonical texts in order, with blanks
    in front, between and behind, or without any.  In an expression a number or
    a variable is followed by a border, so the lexemes of a spelling are again
    the texts of the tokens.  Hence a formula is parsed from each of its
    spellings, under all rules that leave its variables alone. -/

namespace Worksheet

open Number (isNegative magnitude infinity)

/-! ### Tokens -/

namespace Token

open Formula

/-- The shape of the token's text. -/
def shape : Token → Shape
  | .leftParen => .leftParen
  | .rightParen => .rightParen
  | .operator _ => .operator
  | .number _ => .number
  | .var _ => .var

/-- The lexeme that the token's text is. -/
def lexeme (token : Token) : Lexeme :=
  ⟨token.shape, token.text⟩

/-- A token as it comes from the text of a formula: numbers are finite and have
    no sign, and variables have the shape of one. -/
def IsWritable : Token → Prop
  | .number value => magnitude value < infinity ∧ isNegative value = false
  | .var name => Name.isVariable name = true
  | .leftParen | .rightParen | .operator _ => True

/-- The rules leave the token as it is. -/
def IsSettled (rules : NameRules) : Token → Prop
  | .var name => rules.normalize name = name ∧ rules.isValid name = true
  | .leftParen | .rightParen | .operator _ | .number _ => True

variable {token : Token}

theorem text_number {value : Float} (h : (number value).IsWritable) :
    (number value).text.toList = (Number.positional value).text := by
  simp [text, Number.toList_canonical h.1, h.2]

theorem exists_isVariable {name : String} (h : Name.isVariable name = true) :
    ∃ c cs, name.toList = c :: cs ∧ Name.isStart c = true ∧ ∀ d ∈ cs, Name.isPart d = true := by
  unfold Name.isVariable at h
  split at h
  · cases h
  · next c cs hname =>
    rw [Bool.and_eq_true, List.all_eq_true] at h
    exact ⟨c, cs, hname, h⟩

/-- The text of a token is recognized with the token's shape, and to its end if
    something follows that ends it. -/
theorem exists_recognize (h : token.IsWritable) : ∃ c cs, token.text.toList = c :: cs ∧
    ∀ rest, (token.endsOperand = true → StartsWithBorder rest) →
      recognize c (cs ++ rest) = some (some token.shape, cs.length) := by
  cases token with
  | leftParen => exact ⟨'(', [], rfl, fun rest _ => rfl⟩
  | rightParen => exact ⟨')', [], rfl, fun rest _ => rfl⟩
  | operator op =>
    refine ⟨op.symbol, [], String.toList_singleton _, fun rest _ => ?_⟩
    cases op <;> rfl
  | number value =>
    obtain ⟨c, cs, hcons, hdigit⟩ := (Number.positional value).exists_text_eq_cons
    refine ⟨c, cs, (text_number h).trans hcons, fun rest hrest => ?_⟩
    exact recognize_number hcons hdigit (hrest rfl)
  | var name =>
    obtain ⟨c, cs, hcons, hstart, hparts⟩ := exists_isVariable h
    exact ⟨c, cs, hcons, fun rest hrest => recognize_var hstart hparts (hrest rfl)⟩

theorem lexemes_text_append (h : token.IsWritable) {rest : List Char}
    (hrest : token.endsOperand = true → StartsWithBorder rest) :
    lexemes (token.text.toList ++ rest) = token.lexeme :: lexemes rest := by
  obtain ⟨c, cs, hcons, hrecognize⟩ := exists_recognize h
  rw [hcons, lexemes_of_recognize (hrecognize rest hrest), ← hcons, String.ofList_toList, lexeme]

/-- No blank is part of a token. -/
theorem not_isBlank_of_mem_text (h : token.IsWritable) {c : Char} (hc : c ∈ token.text.toList) :
    Text.isBlank c = false := by
  cases token with
  | leftParen => rw [List.mem_singleton.mp hc]; decide
  | rightParen => rw [List.mem_singleton.mp hc]; decide
  | operator op =>
    rw [text, String.toList_singleton, List.mem_singleton] at hc
    rw [hc]
    cases op <;> decide
  | number value =>
    rw [text_number h] at hc
    rcases (Number.positional value).mem_text hc with hdigit | rfl
    · exact not_isBlank_of_isPart (isPart_of_isDigit hdigit)
    · decide
  | var name =>
    obtain ⟨d, ds, hcons, hstart, hparts⟩ := exists_isVariable h
    rw [text, hcons] at hc
    rcases List.mem_cons.mp hc with rfl | hc
    · exact not_isBlank_of_isPart (isPart_of_isStart hstart)
    · exact not_isBlank_of_isPart (hparts c hc)

/-- A token is made from its text, if the rules leave it as it is. -/
theorem result_ofLexeme_lexeme {rules : NameRules} (h : token.IsWritable)
    (hsettled : token.IsSettled rules) : (ofLexeme rules token.lexeme).result = .ok token := by
  cases token with
  | leftParen => rfl
  | rightParen => rfl
  | operator op => simp [ofLexeme, lexeme, shape, text, Operator.ofSymbol?_symbol, Consultation.give]
  | number value =>
    have hvalue : Number.ofNumeral? false (text (.number value)).toList = some value := by
      have hparts := Number.ofMagnitude_magnitude value
      rw [h.2] at hparts
      rw [text_number h, Number.ofNumeral?_positional h.1, hparts]
    simp [ofLexeme, lexeme, shape, ofNumeral, hvalue, h.1]
  | var name =>
    have hshape : Name.isVariable name = true := h
    obtain ⟨hnormal, hvalid⟩ := hsettled
    simp [ofLexeme, lexeme, shape, text, ofVariable, Consultation.ask, hnormal, hshape, hvalid]

end Token

namespace Formula

/-! ### Spellings -/

/-- `cs` has the canonical texts of the tokens in order, and apart from that
    nothing but blanks. -/
inductive Spells : List Token → List Char → Prop
  | nil {gap : List Char} : (∀ c ∈ gap, Text.isBlank c = true) → Spells [] gap
  | cons {gap rest : List Char} {token : Token} {tokens : List Token} :
    (∀ c ∈ gap, Text.isBlank c = true) → Spells tokens rest →
    Spells (token :: tokens) (gap ++ token.text.toList ++ rest)

variable {tokens : List Token} {rules : NameRules}

/-- In an expression an operand begins exactly where none has just ended. -/
def Alternates (tokens : List Token) : Prop :=
  tokens.IsChain fun token next => next.startsOperand = !token.endsOperand

theorem alternates_of_checkFrom {token : Token} {position depth : Nat}
    (h : checkFrom position depth token tokens = .ok ()) : Alternates (token :: tokens) := by
  induction tokens generalizing token position depth with
  | nil => exact .singleton token
  | cons next rest ih =>
    obtain ⟨_, -, h⟩ := exists_of_bind_eq_ok h
    obtain ⟨⟨⟩, hbetween, hrest⟩ := exists_of_bind_eq_ok h
    exact .cons_cons (startsOperand_of_checkNext hbetween) (ih hrest)

theorem alternates_of_check (h : check tokens = .ok ()) : Alternates tokens := by
  cases tokens with
  | nil => exact .nil
  | cons first rest =>
    simp only [check] at h
    split at h
    · split at h
      · exact alternates_of_checkFrom h
      · cases h
    · cases h

/-- Where no operand begins, a spelling begins with a border. -/
theorem Spells.startsWithBorder {cs : List Char} (h : Spells tokens cs)
    (hfirst : ∀ token, tokens.head? = some token → token.startsOperand = false) :
    StartsWithBorder cs := by
  intro c hc
  cases h with
  | nil hgap => simp [isBorder, hgap c (List.mem_of_head? hc)]
  | @cons gap rest token tokens hgap _ =>
    cases gap with
    | cons d gap =>
      have hd : d = c := by simpa using hc
      simp [isBorder, hgap c (by simp [hd])]
    | nil =>
      have hstarts := hfirst token rfl
      cases token with
      | rightParen =>
        have hc : ')' = c := by simpa [Token.text] using hc
        simp [isBorder, ← hc]
      | operator op =>
        have hc : op.symbol = c := by simpa [Token.text] using hc
        rw [← hc]
        cases op <;> decide
      | leftParen | number | var => simp [Token.startsOperand] at hstarts

/-- The lexemes of a spelling are the texts of the tokens. -/
theorem Spells.lexemes_eq {cs : List Char} (h : Spells tokens cs)
    (hwritable : ∀ token ∈ tokens, token.IsWritable) (halternates : Alternates tokens) :
    lexemes cs = tokens.map Token.lexeme := by
  induction h with
  | @nil gap hgap =>
    rw [← List.append_nil gap, lexemes_gap_append hgap]
    simp [lexemes, runs]
  | @cons gap rest token tokens hgap hrest ih =>
    have hborder : token.endsOperand = true → StartsWithBorder rest := by
      intro hends
      apply hrest.startsWithBorder
      intro next hnext
      obtain ⟨others, rfl⟩ := List.head?_eq_some_iff.mp hnext
      rw [(List.isChain_cons_cons.mp halternates).1, hends]
      rfl
    have hlater := ih (fun other hother => hwritable other (List.mem_cons_of_mem _ hother))
      halternates.tail
    rw [List.append_assoc, lexemes_gap_append hgap,
      Token.lexemes_text_append (hwritable token (by simp)) hborder, hlater, List.map_cons]

theorem result_ofLexemes_map_lexeme (hwritable : ∀ token ∈ tokens, token.IsWritable)
    (hsettled : ∀ token ∈ tokens, token.IsSettled rules) :
    (Token.ofLexemes rules (tokens.map Token.lexeme)).result = .ok tokens := by
  induction tokens with
  | nil => rfl
  | cons token tokens ih =>
    have htoken := Token.result_ofLexeme_lexeme (hwritable token (by simp))
      (hsettled token (by simp))
    have hrest := ih (fun other hother => hwritable other (List.mem_cons_of_mem _ hother))
      (fun other hother => hsettled other (List.mem_cons_of_mem _ hother))
    rw [List.map_cons, Token.ofLexemes, Consultation.result_bind htoken,
      Consultation.result_bind hrest]
    rfl

theorem ofTokens_tokens (f : Formula) : ofTokens f.tokens = .ok f := by
  unfold ofTokens
  split
  · rfl
  · next e he => exact nomatch f.checked.symm.trans he

theorem tokens_of_ofTokens {f : Formula} (h : ofTokens tokens = .ok f) : f.tokens = tokens := by
  unfold ofTokens at h
  split at h
  · rw [← Except.ok.inj h]
  · exact nomatch h

/-- A formula is parsed from each of its spellings. -/
theorem result_parse_of_spells {f : Formula} {text : String} (h : Spells f.tokens text.toList)
    (hwritable : ∀ token ∈ f.tokens, token.IsWritable)
    (hsettled : ∀ token ∈ f.tokens, token.IsSettled rules) :
    (parse rules text).result = .ok f := by
  have hlexemes : tokenize text = f.tokens.map Token.lexeme :=
    h.lexemes_eq hwritable (alternates_of_check f.checked)
  rw [parse, hlexemes, Consultation.result_bind (result_ofLexemes_map_lexeme hwritable hsettled)]
  exact ofTokens_tokens f

/-- The canonical text of a formula is a spelling without blanks. -/
theorem spells_text (f : Formula) : Spells f.tokens f.text.toList := by
  rw [text, String.toList_join, List.flatMap_map]
  generalize f.tokens = tokens
  induction tokens with
  | nil => exact .nil (List.forall_mem_nil _)
  | cons token tokens ih => exact .cons (List.forall_mem_nil _) ih

/-! ### What is parsed -/

theorem exists_lexeme_of_ofLexemes {lexemes : List Lexeme}
    (h : (Token.ofLexemes rules lexemes).result = .ok tokens) :
    ∀ token ∈ tokens, ∃ lexeme, (Token.ofLexeme rules lexeme).result = .ok token := by
  induction lexemes generalizing tokens with
  | nil =>
    obtain rfl := Except.ok.inj h
    exact List.forall_mem_nil _
  | cons lexeme lexemes ih =>
    obtain ⟨first, hfirst, h⟩ := Consultation.exists_of_result_bind h
    obtain ⟨rest, hrest, h⟩ := Consultation.exists_of_result_bind h
    obtain rfl := Except.ok.inj h
    intro token htoken
    rcases List.mem_cons.mp htoken with rfl | htoken
    · exact ⟨lexeme, hfirst⟩
    · exact ih hrest token htoken

theorem exists_lexeme_of_parse {f : Formula} {text : String}
    (h : (parse rules text).result = .ok f) :
    ∀ token ∈ f.tokens, ∃ lexeme, (Token.ofLexeme rules lexeme).result = .ok token := by
  obtain ⟨tokens, htokens, hf⟩ := Consultation.exists_of_result_bind h
  rw [tokens_of_ofTokens hf]
  exact exists_lexeme_of_ofLexemes htokens

end Formula

namespace Token

variable {rules : NameRules} {token : Token}

theorem number_of_ofNumeral {text : String} (h : ofNumeral text = .ok token) :
    token.varName? = none ∧ token.IsWritable := by
  unfold ofNumeral at h
  split at h
  · next x hx =>
    split at h
    · next hfinite =>
      obtain rfl := Except.ok.inj h
      obtain ⟨d, -, rfl⟩ := Option.map_eq_some_iff.mp hx
      exact ⟨rfl, hfinite, Number.isNegative_ofMagnitude false d.nearest_le_infinity⟩
    · exact nomatch h
  · exact nomatch h

theorem exists_name_of_ofVariable {raw : String}
    (h : (ofVariable rules raw).result = .ok token) :
    token = .var (rules.normalize raw) ∧ Name.isVariable (rules.normalize raw) = true ∧
      rules.isValid (rules.normalize raw) = true := by
  unfold ofVariable at h
  obtain ⟨name, hname, h⟩ := Consultation.exists_of_result_bind h
  obtain rfl := Except.ok.inj hname
  split at h
  · next hshape =>
    obtain ⟨allowed, hallowed, h⟩ := Consultation.exists_of_result_bind h
    obtain rfl := Except.ok.inj hallowed
    split at h
    · next hvalid => exact ⟨(Except.ok.inj h).symm, hshape, hvalid⟩
    · exact nomatch h
  · exact nomatch h

/-- A token is made from a lexeme without the rules, or it is a variable in
    normal form that they allow. -/
theorem ofLexeme_cases {lexeme : Formula.Lexeme}
    (h : (ofLexeme rules lexeme).result = .ok token) :
    (token.varName? = none ∧ token.IsWritable) ∨
    ∃ raw, token = .var (rules.normalize raw) ∧ Name.isVariable (rules.normalize raw) = true ∧
      rules.isValid (rules.normalize raw) = true := by
  unfold ofLexeme at h
  split at h
  · obtain rfl := Except.ok.inj h
    exact .inl ⟨rfl, trivial⟩
  · obtain rfl := Except.ok.inj h
    exact .inl ⟨rfl, trivial⟩
  · split at h
    · obtain rfl := Except.ok.inj h
      exact .inl ⟨rfl, trivial⟩
    · exact nomatch h
  · exact .inl (number_of_ofNumeral h)
  · exact .inr ⟨lexeme.text, exists_name_of_ofVariable h⟩
  · exact nomatch h

end Token

namespace Formula

variable {rules : NameRules} {f : Formula} {text : String}

/-- The tokens of a parsed formula can be written. -/
theorem isWritable_of_parse (h : (parse rules text).result = .ok f) :
    ∀ token ∈ f.tokens, token.IsWritable := by
  intro token htoken
  obtain ⟨lexeme, hlexeme⟩ := exists_lexeme_of_parse h token htoken
  rcases Token.ofLexeme_cases hlexeme with ⟨-, hwritable⟩ | ⟨raw, rfl, hshape, -⟩
  · exact hwritable
  · exact hshape

/-- Variables are in normal form, which idempotent rules leave as it is. -/
theorem isSettled_of_parse
    (hnormal : ∀ name, rules.normalize (rules.normalize name) = rules.normalize name)
    (h : (parse rules text).result = .ok f) : ∀ token ∈ f.tokens, token.IsSettled rules := by
  intro token htoken
  obtain ⟨lexeme, hlexeme⟩ := exists_lexeme_of_parse h token htoken
  rcases Token.ofLexeme_cases hlexeme with ⟨hnone, -⟩ | ⟨raw, rfl, -, hvalid⟩
  · cases token with
    | var name => exact nomatch hnone
    | leftParen | rightParen | operator | number => trivial
  · exact ⟨hnormal raw, hvalid⟩

/-- A parsed formula is parsed from its canonical text again. -/
theorem result_parse_text
    (hnormal : ∀ name, rules.normalize (rules.normalize name) = rules.normalize name)
    (h : (parse rules text).result = .ok f) : (parse rules f.text).result = .ok f :=
  result_parse_of_spells (spells_text f) (isWritable_of_parse h) (isSettled_of_parse hnormal h)

/-- There is no blank in the canonical text of a formula. -/
theorem not_isBlank_of_mem_text (h : ∀ token ∈ f.tokens, token.IsWritable) {c : Char}
    (hc : c ∈ f.text.toList) : Text.isBlank c = false := by
  rw [Formula.text, String.toList_join, List.flatMap_map] at hc
  obtain ⟨token, htoken, hc⟩ := List.mem_flatMap.mp hc
  exact Token.not_isBlank_of_mem_text (h token htoken) hc

end Formula

end Worksheet
