import Worksheet.Proofs.Formula.Parse

/-! # Derivations of formulas

    The grammar of formulas as it is usually written, with repetitions:

        expression = term { (`+` | `-`) term }
        term       = factor { (`*` | `/`) factor }
        factor     = number | variable | `(` expression `)`

    The check of a formula only compares neighbouring tokens and counts
    parentheses.  The main statement says that it accepts exactly the tokens that
    this grammar derives, and that these have one derivation only.

    A derivation and a parse tree are two views of the same tokens: a repetition
    is a list of operands, where the tree nests to the left.  That the derivation
    is unique does not follow from the tree.  It is shown for derivations with
    any tokens behind them that they cannot take up. -/

namespace Worksheet.Formula

open Expression

/-! ### The grammar -/

/-- What can be derived: the nonterminals, and the repetitions in two of them. -/
inductive Part where
  | expression
  /-- What follows the first term of an expression. -/
  | terms
  | term
  /-- What follows the first factor of a term. -/
  | factors
  | factor

/-- A derivation. -/
inductive Derivation : Part → Type where
  | number (value : Float) : Derivation .factor
  | var (name : String) : Derivation .factor
  | group (inner : Derivation .expression) : Derivation .factor
  | term (first : Derivation .factor) (others : Derivation .factors) : Derivation .term
  | noFactor : Derivation .factors
  | nextFactor (op : Operator) (tight : op.isMultiplicative = true) (next : Derivation .factor)
      (others : Derivation .factors) : Derivation .factors
  | expression (first : Derivation .term) (others : Derivation .terms) : Derivation .expression
  | noTerm : Derivation .terms
  | nextTerm (op : Operator) (loose : op.isMultiplicative = false) (next : Derivation .term)
      (others : Derivation .terms) : Derivation .terms

namespace Derivation

/-- The tokens that are derived. -/
def tokens {part : Part} : Derivation part → List Token
  | .number value => [.number value]
  | .var name => [.var name]
  | .group inner => .leftParen :: (inner.tokens ++ [.rightParen])
  | .term first others => first.tokens ++ others.tokens
  | .noFactor => []
  | .nextFactor op _ next others => .operator op :: (next.tokens ++ others.tokens)
  | .expression first others => first.tokens ++ others.tokens
  | .noTerm => []
  | .nextTerm op _ next others => .operator op :: (next.tokens ++ others.tokens)

section

variable (first : Derivation .factor) (factors : Derivation .factors) (firstTerm : Derivation .term)
  (terms : Derivation .terms) (op : Operator)

@[simp] theorem tokens_number (value : Float) : (number value).tokens = [.number value] := rfl

@[simp] theorem tokens_var (name : String) : (var name).tokens = [.var name] := rfl

@[simp] theorem tokens_group (inner : Derivation .expression) :
    (group inner).tokens = .leftParen :: (inner.tokens ++ [.rightParen]) := rfl

@[simp] theorem tokens_term : (term first factors).tokens = first.tokens ++ factors.tokens := rfl

@[simp] theorem tokens_noFactor : noFactor.tokens = [] := rfl

@[simp] theorem tokens_nextFactor (tight : op.isMultiplicative = true) :
    (nextFactor op tight first factors).tokens =
      .operator op :: (first.tokens ++ factors.tokens) := rfl

@[simp] theorem tokens_expression :
    (expression firstTerm terms).tokens = firstTerm.tokens ++ terms.tokens := rfl

@[simp] theorem tokens_noTerm : noTerm.tokens = [] := rfl

@[simp] theorem tokens_nextTerm (loose : op.isMultiplicative = false) :
    (nextTerm op loose firstTerm terms).tokens =
      .operator op :: (firstTerm.tokens ++ terms.tokens) := rfl

end

/-! ### Derivations are unique -/

/-- The tokens do not begin with an operator that goes on with `part`. -/
def Stops : Part → List Token → Prop
  | .factor, _ => True
  | .term, tokens | .factors, tokens =>
    ∀ op, tokens.head? = some (.operator op) → op.isMultiplicative = false
  | .expression, tokens | .terms, tokens => ∀ op, tokens.head? ≠ some (.operator op)

/-- What follows a term in an expression does not go on with the term. -/
theorem stops_term (others : Derivation .terms) {tokens : List Token} (h : Stops .terms tokens) :
    Stops .term (others.tokens ++ tokens) := by
  intro op hop
  cases others with
  | noTerm => exact absurd hop (h op)
  | nextTerm op' loose next others =>
    have hsame : op' = op := by simpa using hop
    rw [← hsame, loose]

/-- Tokens that begin with those of `d`, and cannot go on with them, split in no
    other way. -/
def IsOnly {part : Part} (d : Derivation part) : Prop :=
  ∀ (d' : Derivation part) (behind behind' : List Token), Stops part behind →
    Stops part behind' → d.tokens ++ behind = d'.tokens ++ behind' → d = d' ∧ behind = behind'

theorem isOnly_number (value : Float) : (number value).IsOnly := by
  intro d' behind behind' _ _ heq
  cases d' <;> simp_all

theorem isOnly_var (name : String) : (var name).IsOnly := by
  intro d' behind behind' _ _ heq
  cases d' <;> simp_all

/-- The closing parenthesis ends the expression inside. -/
theorem IsOnly.group {inner : Derivation .expression} (h : inner.IsOnly) :
    (group inner).IsOnly := by
  intro d' behind behind' _ _ heq
  cases d' with
  | number | var => simp at heq
  | group inner' =>
    simp only [tokens_group, List.cons_append, List.append_assoc, List.nil_append] at heq
    obtain ⟨rfl, hbehind⟩ := h inner' (.rightParen :: behind) (.rightParen :: behind')
      (by simp [Stops]) (by simp [Stops]) (List.cons.inj heq).2
    exact ⟨rfl, (List.cons.inj hbehind).2⟩

theorem IsOnly.term {first : Derivation .factor} {others : Derivation .factors}
    (hfirst : first.IsOnly) (hothers : others.IsOnly) : (term first others).IsOnly := by
  intro d' behind behind' hstops hstops' heq
  cases d' with
  | term first' others' =>
    simp only [tokens_term, List.append_assoc] at heq
    obtain ⟨rfl, hrest⟩ := hfirst first' _ _ trivial trivial heq
    obtain ⟨rfl, hbehind⟩ := hothers others' _ _ hstops hstops' hrest
    exact ⟨rfl, hbehind⟩

theorem isOnly_noFactor : noFactor.IsOnly := by
  intro d' behind behind' hstops _ heq
  cases d' with
  | noFactor => exact ⟨rfl, heq⟩
  | nextFactor op tight next others =>
    have hhead : behind.head? = some (.operator op) := congrArg List.head? heq
    simp [hstops op hhead] at tight

theorem IsOnly.nextFactor {op : Operator} {tight : op.isMultiplicative = true}
    {next : Derivation .factor} {others : Derivation .factors} (hnext : next.IsOnly)
    (hothers : others.IsOnly) : (nextFactor op tight next others).IsOnly := by
  intro d' behind behind' hstops hstops' heq
  cases d' with
  | noFactor =>
    have hhead : some (.operator op) = behind'.head? := congrArg List.head? heq
    simp [hstops' op hhead.symm] at tight
  | nextFactor op' tight' next' others' =>
    simp only [tokens_nextFactor, List.cons_append, List.append_assoc, List.cons.injEq,
      Token.operator.injEq] at heq
    obtain ⟨rfl, heq⟩ := heq
    obtain ⟨rfl, hrest⟩ := hnext next' _ _ trivial trivial heq
    obtain ⟨rfl, hbehind⟩ := hothers others' _ _ hstops hstops' hrest
    exact ⟨rfl, hbehind⟩

theorem IsOnly.expression {first : Derivation .term} {others : Derivation .terms}
    (hfirst : first.IsOnly) (hothers : others.IsOnly) : (expression first others).IsOnly := by
  intro d' behind behind' hstops hstops' heq
  cases d' with
  | expression first' others' =>
    simp only [tokens_expression, List.append_assoc] at heq
    obtain ⟨rfl, hrest⟩ := hfirst first' _ _ (stops_term others hstops)
      (stops_term others' hstops') heq
    obtain ⟨rfl, hbehind⟩ := hothers others' _ _ hstops hstops' hrest
    exact ⟨rfl, hbehind⟩

theorem isOnly_noTerm : noTerm.IsOnly := by
  intro d' behind behind' hstops _ heq
  cases d' with
  | noTerm => exact ⟨rfl, heq⟩
  | nextTerm op loose next others => exact absurd (congrArg List.head? heq) (hstops op)

theorem IsOnly.nextTerm {op : Operator} {loose : op.isMultiplicative = false}
    {next : Derivation .term} {others : Derivation .terms} (hnext : next.IsOnly)
    (hothers : others.IsOnly) : (nextTerm op loose next others).IsOnly := by
  intro d' behind behind' hstops hstops' heq
  cases d' with
  | noTerm => exact absurd (congrArg List.head? heq.symm) (hstops' op)
  | nextTerm op' loose' next' others' =>
    simp only [tokens_nextTerm, List.cons_append, List.append_assoc, List.cons.injEq,
      Token.operator.injEq] at heq
    obtain ⟨rfl, heq⟩ := heq
    obtain ⟨rfl, hrest⟩ := hnext next' _ _ (stops_term others hstops)
      (stops_term others' hstops') heq
    obtain ⟨rfl, hbehind⟩ := hothers others' _ _ hstops hstops' hrest
    exact ⟨rfl, hbehind⟩

theorem isOnly {part : Part} (d : Derivation part) : d.IsOnly := by
  induction d with
  | number value => exact isOnly_number value
  | var name => exact isOnly_var name
  | group _ ih => exact ih.group
  | term _ _ ihfirst ihothers => exact ihfirst.term ihothers
  | noFactor => exact isOnly_noFactor
  | nextFactor _ _ _ _ ihnext ihothers => exact ihnext.nextFactor ihothers
  | expression _ _ ihfirst ihothers => exact ihfirst.expression ihothers
  | noTerm => exact isOnly_noTerm
  | nextTerm _ _ _ _ ihnext ihothers => exact ihnext.nextTerm ihothers

/-- Tokens have at most one derivation. -/
theorem tokens_injective {d d' : Derivation .expression} (h : d.tokens = d'.tokens) : d = d' := by
  have hstops : Stops .expression [] := by simp [Stops]
  exact (d.isOnly d' [] [] hstops hstops (by rw [h])).1

/-! ### Derivations and parse trees -/

/-- A parse tree with the derived tokens: for a repetition, one that begins with
    any tree in front of it. -/
def HasTree : {part : Part} → Derivation part → Prop
  | .factor, d => ∃ e, Fits .factor e ∧ e.tokens = d.tokens
  | .term, d => ∃ e, Fits .term e ∧ e.tokens = d.tokens
  | .expression, d => ∃ e, Fits .expression e ∧ e.tokens = d.tokens
  | .factors, d => ∀ l, Fits .term l → ∃ e, Fits .term e ∧ e.tokens = l.tokens ++ d.tokens
  | .terms, d =>
    ∀ l, Fits .expression l → ∃ e, Fits .expression e ∧ e.tokens = l.tokens ++ d.tokens

/-- Each operand of a repetition nests the tree one level deeper to the left. -/
theorem hasTree {part : Part} (d : Derivation part) : d.HasTree := by
  induction d with
  | number value => exact ⟨.number value, .number value, rfl⟩
  | var name => exact ⟨.var name, .var name, rfl⟩
  | group inner ih =>
    obtain ⟨e, hfits, htokens⟩ := ih
    exact ⟨.group e, .group hfits, by rw [Expression.tokens, htokens, tokens_group]⟩
  | term first others ihfirst ihothers =>
    obtain ⟨l, hl, htokens⟩ := ihfirst
    obtain ⟨e, he, htokens'⟩ := ihothers l (.factor hl)
    exact ⟨e, he, by rw [htokens', htokens, tokens_term]⟩
  | noFactor => exact fun l hl => ⟨l, hl, (List.append_nil _).symm⟩
  | nextFactor op tight next others ihnext ihothers =>
    intro l hl
    obtain ⟨r, hr, htokens⟩ := ihnext
    obtain ⟨e, he, htokens'⟩ := ihothers (.binary op l r) (.product hl tight hr)
    exact ⟨e, he, by simp [htokens', Expression.tokens, htokens]⟩
  | expression first others ihfirst ihothers =>
    obtain ⟨l, hl, htokens⟩ := ihfirst
    obtain ⟨e, he, htokens'⟩ := ihothers l (.term hl)
    exact ⟨e, he, by rw [htokens', htokens, tokens_expression]⟩
  | noTerm => exact fun l hl => ⟨l, hl, (List.append_nil _).symm⟩
  | nextTerm op loose next others ihnext ihothers =>
    intro l hl
    obtain ⟨r, hr, htokens⟩ := ihnext
    obtain ⟨e, he, htokens'⟩ := ihothers (.binary op l r) (.sum hl loose hr)
    exact ⟨e, he, by simp [htokens', Expression.tokens, htokens]⟩

/-- One more factor at the end of a repetition. -/
theorem exists_snoc_factor (d : Derivation .factors) {op : Operator}
    (tight : op.isMultiplicative = true) (last : Derivation .factor) :
    ∃ d' : Derivation .factors, d'.tokens = d.tokens ++ .operator op :: last.tokens := by
  generalize hpart : Part.factors = part at d
  induction d with
  | noFactor => exact ⟨.nextFactor op tight last .noFactor, by simp⟩
  | nextFactor op' tight' next others _ ihothers =>
    obtain ⟨d', htokens⟩ := ihothers rfl
    exact ⟨.nextFactor op' tight' next d', by simp [htokens]⟩
  | number | var | group | term | expression | noTerm | nextTerm => exact nomatch hpart

/-- One more term at the end of a repetition. -/
theorem exists_snoc_term (d : Derivation .terms) {op : Operator}
    (loose : op.isMultiplicative = false) (last : Derivation .term) :
    ∃ d' : Derivation .terms, d'.tokens = d.tokens ++ .operator op :: last.tokens := by
  generalize hpart : Part.terms = part at d
  induction d with
  | noTerm => exact ⟨.nextTerm op loose last .noTerm, by simp⟩
  | nextTerm op' loose' next others _ ihothers =>
    obtain ⟨d', htokens⟩ := ihothers rfl
    exact ⟨.nextTerm op' loose' next d', by simp [htokens]⟩
  | number | var | group | term | expression | noFactor | nextFactor => exact nomatch hpart

end Derivation

/-- The tokens of `e` are derived from the part that belongs to the level. -/
def HasDerivation (e : Expression) : Level → Prop
  | .expression => ∃ d : Derivation .expression, d.tokens = e.tokens
  | .term => ∃ d : Derivation .term, d.tokens = e.tokens
  | .factor => ∃ d : Derivation .factor, d.tokens = e.tokens

theorem Expression.Fits.hasDerivation {level : Level} {e : Expression} (h : Fits level e) :
    HasDerivation e level := by
  induction h with
  | number value => exact ⟨.number value, rfl⟩
  | var name => exact ⟨.var name, rfl⟩
  | group _ ih =>
    obtain ⟨d, htokens⟩ := ih
    exact ⟨.group d, by rw [Derivation.tokens_group, htokens, Expression.tokens]⟩
  | factor _ ih =>
    obtain ⟨d, htokens⟩ := ih
    exact ⟨.term d .noFactor, by simp [htokens]⟩
  | product _ tight _ ihl ihr =>
    obtain ⟨d, hl⟩ := ihl
    obtain ⟨last, hr⟩ := ihr
    cases d with
    | term first others =>
      obtain ⟨others', hothers⟩ := others.exists_snoc_factor tight last
      refine ⟨.term first others', ?_⟩
      rw [Derivation.tokens_term, hothers, Expression.tokens, ← hl, ← hr, Derivation.tokens_term,
        List.append_assoc]
  | term _ ih =>
    obtain ⟨d, htokens⟩ := ih
    exact ⟨.expression d .noTerm, by simp [htokens]⟩
  | sum _ loose _ ihl ihr =>
    obtain ⟨d, hl⟩ := ihl
    obtain ⟨last, hr⟩ := ihr
    cases d with
    | expression first others =>
      obtain ⟨others', hothers⟩ := others.exists_snoc_term loose last
      refine ⟨.expression first others', ?_⟩
      rw [Derivation.tokens_expression, hothers, Expression.tokens, ← hl, ← hr,
        Derivation.tokens_expression, List.append_assoc]

/-- Tokens are derived exactly if they have a parse tree. -/
theorem exists_derivation_iff (tokens : List Token) :
    (∃ d : Derivation .expression, d.tokens = tokens) ↔ ∃ e, IsParse tokens e := by
  constructor
  · rintro ⟨d, rfl⟩
    obtain ⟨e, hfits, htokens⟩ := d.hasTree
    exact ⟨e, hfits, htokens⟩
  · rintro ⟨e, hfits, rfl⟩
    exact hfits.hasDerivation

/-- **The language of formulas**: the check accepts exactly the tokens that the
    grammar derives, and they are derived in one way only. -/
theorem check_eq_ok_iff_derivation (tokens : List Token) :
    (check tokens = .ok () ↔ ∃ d : Derivation .expression, d.tokens = tokens) ∧
      ∀ d d' : Derivation .expression, d.tokens = tokens → d'.tokens = tokens → d = d' := by
  refine ⟨?_, fun d d' hd hd' => Derivation.tokens_injective (hd.trans hd'.symm)⟩
  rw [exists_derivation_iff, check_eq_ok_iff]

end Worksheet.Formula
