import Worksheet.Formula.Grammar
import Worksheet.Proofs.Except
import Worksheet.Proofs.Formula.Expression

/-! # Parsing tokens

    The check of a formula compares neighbouring tokens and counts
    parentheses; it builds no tree.  A parser in one pass does: for each open
    parenthesis it keeps what stands in front of the next operand, a sum that
    waits for its right term and a product that waits for its right factor.

    The parser gives parse trees only, it gives every expression back from its
    tokens, and it accepts all tokens that pass the check.  So tokens that pass
    the check have exactly one parse tree. -/

namespace Worksheet.Formula

open Expression

/-! ### The parser -/

/-- A left operand and the operator behind it, if there is one. -/
abbrev Waiting := Option (Expression × Operator)

namespace Waiting

/-- The expression that is complete when `right` follows. -/
def complete (waiting : Waiting) (right : Expression) : Expression :=
  match waiting with
  | none => right
  | some (left, op) => .binary op left right

/-- The tokens read for what waits. -/
def tokens : Waiting → List Token
  | none => []
  | some (left, op) => left.tokens ++ [.operator op]

end Waiting

/-- What stands in front of the next operand within one pair of parentheses. -/
structure Frame where
  sum : Waiting
  product : Waiting

/-- What has been read so far: the parser is in front of an operand, or a term
    has ended.  The frames of the parentheses around come last. -/
inductive Reading where
  | operand (frame : Frame) (outer : List Frame)
  | ended (sum : Waiting) (last : Expression) (outer : List Frame)

/-- The frame behind an open parenthesis. -/
def Frame.empty : Frame := ⟨none, none⟩

/-- A factor has been read behind `frame`. -/
def Frame.read (frame : Frame) (factor : Expression) (outer : List Frame) : Reading :=
  .ended frame.sum (frame.product.complete factor) outer

namespace Reading

/-- Reads one token. -/
def read : Reading → Token → Option Reading
  | .operand frame outer, .number value => some (frame.read (.number value) outer)
  | .operand frame outer, .var name => some (frame.read (.var name) outer)
  | .operand frame outer, .leftParen => some (.operand .empty (frame :: outer))
  | .ended sum last outer, .operator op =>
    some (.operand (if op.isMultiplicative then ⟨sum, some (last, op)⟩
      else ⟨some (sum.complete last, op), none⟩) outer)
  | .ended sum last (frame :: outer), .rightParen =>
    some (frame.read (.group (sum.complete last)) outer)
  | _, _ => none

/-- The expression that has been read, if nothing is left open. -/
def finish : Reading → Option Expression
  | .ended sum last [] => some (sum.complete last)
  | _ => none

end Reading

/-- The expression with these tokens. -/
def Expression.parse? (tokens : List Token) : Option Expression :=
  tokens.foldlM Reading.read (.operand .empty []) >>= Reading.finish

/-! ### Every expression is parsed from its tokens -/

/-- How the parser reads an expression of each level. -/
def ReadsAs (e : Expression) : Level → Prop
  | .factor => ∀ frame outer,
    e.tokens.foldlM Reading.read (.operand frame outer) = some (frame.read e outer)
  | .term => ∀ sum outer,
    e.tokens.foldlM Reading.read (.operand ⟨sum, none⟩ outer) = some (.ended sum e outer)
  | .expression => ∀ outer, ∃ sum last, sum.complete last = e ∧
    e.tokens.foldlM Reading.read (.operand .empty outer) = some (.ended sum last outer)

theorem Expression.Fits.readsAs {level : Level} {e : Expression} (h : Fits level e) :
    ReadsAs e level := by
  induction h with
  | number value => exact fun frame outer => rfl
  | var name => exact fun frame outer => rfl
  | group _ ih =>
    intro frame outer
    obtain ⟨sum, last, hcomplete, hinner⟩ := ih (frame :: outer)
    simp [tokens, List.foldlM_append, hinner, Reading.read, hcomplete]
  | factor _ ih => exact fun sum outer => ih ⟨sum, none⟩ outer
  | @product op l r _ tight _ ihl ihr =>
    intro sum outer
    simp [tokens, List.foldlM_append, ihl sum outer, Reading.read, tight,
      ihr ⟨sum, some (l, op)⟩ outer, Frame.read, Waiting.complete]
  | term _ ih => exact fun outer => ⟨none, _, rfl, ih none outer⟩
  | @sum op l r _ loose _ ihl ihr =>
    -- The expression on the left is open at its last term until `op` is read.
    intro outer
    obtain ⟨sum, last, hcomplete, hleft⟩ := ihl outer
    refine ⟨some (l, op), r, rfl, ?_⟩
    simp [tokens, List.foldlM_append, hleft, Reading.read, loose, hcomplete,
      ihr (some (l, op)) outer]

/-- An expression is parsed from its tokens. -/
theorem parse?_tokens {e : Expression} (h : Fits .expression e) :
    parse? e.tokens = some e := by
  obtain ⟨sum, last, hcomplete, hread⟩ := h.readsAs []
  simp [parse?, hread, Reading.finish, hcomplete]

/-! ### What is parsed is a parse tree -/

namespace Reading

/-- The tokens read for the frames of open parentheses, the innermost first. -/
def outerTokens : List Frame → List Token
  | [] => []
  | frame :: outer =>
    outerTokens outer ++ frame.sum.tokens ++ frame.product.tokens ++ [.leftParen]

/-- The tokens read so far. -/
def tokens : Reading → List Token
  | .operand frame outer => outerTokens outer ++ frame.sum.tokens ++ frame.product.tokens
  | .ended sum last outer => outerTokens outer ++ sum.tokens ++ last.tokens

end Reading

/-- What waits fits the grammar at the place where it waits. -/
structure Frame.Fits (frame : Frame) : Prop where
  sum : ∀ left op, frame.sum = some (left, op) →
    Expression.Fits .expression left ∧ op.isMultiplicative = false
  product : ∀ left op, frame.product = some (left, op) →
    Expression.Fits .term left ∧ op.isMultiplicative = true

/-- All that has been read fits the grammar. -/
def Reading.Fits : Reading → Prop
  | .operand frame outer => frame.Fits ∧ ∀ other ∈ outer, other.Fits
  | .ended sum last outer =>
    (⟨sum, none⟩ : Frame).Fits ∧ Expression.Fits .term last ∧ ∀ other ∈ outer, other.Fits

theorem Frame.fits_empty : Frame.empty.Fits where
  sum := by simp [Frame.empty]
  product := by simp [Frame.empty]

/-- A sum is complete with its right term. -/
theorem Frame.Fits.complete_sum {frame : Frame} (h : frame.Fits) {term : Expression}
    (hterm : Expression.Fits .term term) :
    Expression.Fits .expression (frame.sum.complete term) := by
  cases hsum : frame.sum with
  | none => exact .term hterm
  | some waiting =>
    obtain ⟨hleft, hop⟩ := h.sum waiting.1 waiting.2 hsum
    exact .sum hleft hop hterm

/-- A product is complete with its right factor. -/
theorem Frame.Fits.complete_product {frame : Frame} (h : frame.Fits) {factor : Expression}
    (hfactor : Expression.Fits .factor factor) :
    Expression.Fits .term (frame.product.complete factor) := by
  cases hproduct : frame.product with
  | none => exact .factor hfactor
  | some waiting =>
    obtain ⟨hleft, hop⟩ := h.product waiting.1 waiting.2 hproduct
    exact .product hleft hop hfactor

theorem Frame.Fits.read {frame : Frame} (h : frame.Fits) {factor : Expression}
    (hfactor : Expression.Fits .factor factor) {outer : List Frame}
    (houter : ∀ other ∈ outer, other.Fits) : (frame.read factor outer).Fits :=
  ⟨⟨h.sum, by simp⟩, h.complete_product hfactor, houter⟩

@[simp] theorem Waiting.tokens_complete (waiting : Waiting) (right : Expression) :
    (waiting.complete right).tokens = waiting.tokens ++ right.tokens := by
  cases waiting <;> simp [Waiting.complete, Waiting.tokens, Expression.tokens]

theorem Frame.tokens_read (frame : Frame) (factor : Expression) (outer : List Frame) :
    (frame.read factor outer).tokens =
      Reading.outerTokens outer ++ frame.sum.tokens ++ frame.product.tokens ++ factor.tokens := by
  simp [Frame.read, Reading.tokens]

/-- Reading a token keeps to the grammar and adds this token. -/
theorem Reading.Fits.read {r r' : Reading} {token : Token} (h : r.Fits)
    (hread : r.read token = some r') : r'.Fits ∧ r'.tokens = r.tokens ++ [token] := by
  cases r with
  | operand frame outer =>
    obtain ⟨hframe, houter⟩ := h
    cases token with
    | number value =>
      rw [← Option.some.inj hread, Frame.tokens_read]
      exact ⟨hframe.read (.number value) houter, rfl⟩
    | var name =>
      rw [← Option.some.inj hread, Frame.tokens_read]
      exact ⟨hframe.read (.var name) houter, rfl⟩
    | leftParen =>
      rw [← Option.some.inj hread]
      refine ⟨⟨Frame.fits_empty, ?_⟩, ?_⟩
      · simpa using ⟨hframe, houter⟩
      · simp [Reading.tokens, outerTokens, Frame.empty, Waiting.tokens]
    | rightParen | operator => simp [Reading.read] at hread
  | ended sum last outer =>
    obtain ⟨hsum, hlast, houter⟩ := h
    cases token with
    | operator op =>
      rw [← Option.some.inj hread]
      cases hop : op.isMultiplicative with
      | true =>
        refine ⟨⟨⟨hsum.sum, ?_⟩, houter⟩, ?_⟩
        · intro left op' heq
          obtain ⟨rfl, rfl⟩ := Prod.mk.inj (Option.some.inj heq)
          exact ⟨hlast, hop⟩
        · simp [Reading.tokens, Waiting.tokens]
      | false =>
        refine ⟨⟨⟨?_, by simp⟩, houter⟩, ?_⟩
        · intro left op' heq
          obtain ⟨rfl, rfl⟩ := Prod.mk.inj (Option.some.inj heq)
          exact ⟨hsum.complete_sum hlast, hop⟩
        · simp [Reading.tokens, Waiting.tokens]
    | rightParen =>
      cases outer with
      | nil => simp [Reading.read] at hread
      | cons frame outer =>
        -- The group is a factor of the frame around it.
        rw [← Option.some.inj hread, Frame.tokens_read]
        have hgroup : Expression.Fits .factor (.group (sum.complete last)) :=
          .group (hsum.complete_sum hlast)
        refine ⟨(houter frame (by simp)).read hgroup ?_, ?_⟩
        · exact fun other hother => houter other (List.mem_cons_of_mem _ hother)
        · simp [Reading.tokens, outerTokens, Expression.tokens]
    | number | var | leftParen => simp [Reading.read] at hread

/-- Reading tokens keeps to the grammar and adds these tokens. -/
theorem Reading.Fits.read_all {tokens : List Token} {r r' : Reading} (h : r.Fits)
    (hread : tokens.foldlM Reading.read r = some r') :
    r'.Fits ∧ r'.tokens = r.tokens ++ tokens := by
  induction tokens generalizing r with
  | nil =>
    rw [← Option.some.inj hread]
    exact ⟨h, (List.append_nil _).symm⟩
  | cons token tokens ih =>
    obtain ⟨next, hnext, hrest⟩ := Option.bind_eq_some_iff.mp hread
    obtain ⟨hfits, htokens⟩ := h.read hnext
    obtain ⟨hfits', htokens'⟩ := ih hfits hrest
    exact ⟨hfits', by rw [htokens', htokens, List.append_assoc]; rfl⟩

/-- What is parsed is a parse tree of the tokens. -/
theorem isParse_of_parse? {tokens : List Token} {e : Expression} (h : parse? tokens = some e) :
    IsParse tokens e := by
  obtain ⟨r, hread, hfinish⟩ := Option.bind_eq_some_iff.mp h
  have hstart : (Reading.operand .empty []).Fits := ⟨Frame.fits_empty, by simp⟩
  obtain ⟨hfits, htokens⟩ := hstart.read_all hread
  cases r with
  | operand frame outer => simp [Reading.finish] at hfinish
  | ended sum last outer =>
    cases outer with
    | cons frame outer => simp [Reading.finish] at hfinish
    | nil =>
      rw [← Option.some.inj hfinish]
      refine ⟨hfits.1.complete_sum hfits.2.1, ?_⟩
      simpa [Reading.tokens, Reading.outerTokens, Frame.empty, Waiting.tokens] using htokens

/-! ### Checked tokens are parsed -/

/-- A token that may follow `token` begins an operand where none has just ended. -/
theorem startsOperand_of_checkNext {position : Nat} {token next : Token}
    (h : checkNext position token next = .ok ()) : next.startsOperand = !token.endsOperand := by
  cases hended : token.endsOperand <;> cases hnext : next.startsOperand <;>
    simp [checkNext, hended, hnext] at h ⊢

namespace Reading

/-- The number of open parentheses. -/
def depth : Reading → Nat
  | .operand _ outer | .ended _ _ outer => outer.length

/-- Is the parser in front of an operand? -/
def wantsOperand : Reading → Bool
  | .operand _ _ => true
  | .ended _ _ _ => false

/-- A token that begins an operand exactly where one is wanted is read, and the
    open parentheses are counted as in the check. -/
theorem exists_read {r : Reading} {token : Token} {position depth : Nat}
    (hwants : token.startsOperand = r.wantsOperand)
    (hdepth : depthAfter position r.depth token = .ok depth) :
    ∃ r', r.read token = some r' ∧ r'.wantsOperand = !token.endsOperand ∧ r'.depth = depth := by
  cases r with
  | operand frame outer =>
    cases token with
    | number | var | leftParen => exact ⟨_, rfl, rfl, Except.ok.inj hdepth⟩
    | rightParen | operator => simp [Token.startsOperand, wantsOperand] at hwants
  | ended sum last outer =>
    cases token with
    | operator op => exact ⟨_, rfl, rfl, Except.ok.inj hdepth⟩
    | rightParen =>
      cases outer with
      | nil => simp [depthAfter, Reading.depth] at hdepth
      | cons frame outer => exact ⟨_, rfl, rfl, Except.ok.inj hdepth⟩
    | number | var | leftParen => simp [Token.startsOperand, wantsOperand] at hwants

/-- Tokens that pass the check are read to their end, where no operand is
    wanted and no parenthesis is open. -/
theorem exists_read_all {token : Token} {rest : List Token} {r : Reading} {position : Nat}
    (hwants : token.startsOperand = r.wantsOperand)
    (hcheck : checkFrom position r.depth token rest = .ok ())
    (hlast : ((token :: rest).getLast (List.cons_ne_nil _ _)).endsOperand = true) :
    ∃ r', (token :: rest).foldlM read r = some r' ∧ r'.wantsOperand = false ∧ r'.depth = 0 := by
  induction rest generalizing token r position with
  | nil =>
    obtain ⟨depth, hdepth, hclosed⟩ := exists_of_bind_eq_ok hcheck
    obtain ⟨next, hread, hnext, rfl⟩ := exists_read hwants hdepth
    have hended : token.endsOperand = true := hlast
    refine ⟨next, by simp [hread], by rw [hnext, hended]; rfl, ?_⟩
    split at hclosed
    · assumption
    · simp at hclosed
  | cons following rest ih =>
    obtain ⟨depth, hdepth, hcheck⟩ := exists_of_bind_eq_ok hcheck
    obtain ⟨⟨⟩, hbetween, hcheck⟩ := exists_of_bind_eq_ok hcheck
    obtain ⟨next, hread, hnext, rfl⟩ := exists_read hwants hdepth
    have hwants' : following.startsOperand = next.wantsOperand := by
      rw [hnext, startsOperand_of_checkNext hbetween]
    obtain ⟨r', hrest, hr'⟩ := ih hwants' hcheck (by simpa using hlast)
    exact ⟨r', by rw [List.foldlM_cons, hread]; exact hrest, hr'⟩

end Reading

/-- Tokens that pass the check are parsed. -/
theorem exists_parse?_of_check {tokens : List Token} (h : check tokens = .ok ()) :
    ∃ e, parse? tokens = some e := by
  cases tokens with
  | nil => simp [check] at h
  | cons first rest =>
    have hends : first.startsOperand = true ∧
        ((first :: rest).getLast (List.cons_ne_nil _ _)).endsOperand = true ∧
        checkFrom 0 0 first rest = .ok () := by
      simp only [check] at h
      split at h
      · next hfirst =>
        split at h
        · next hlast => exact ⟨hfirst, hlast, h⟩
        · simp at h
      · simp at h
    obtain ⟨hfirst, hlast, hcheck⟩ := hends
    obtain ⟨r, hread, hwants, hdepth⟩ :=
      Reading.exists_read_all (r := .operand .empty []) hfirst hcheck hlast
    cases r with
    | operand => simp [Reading.wantsOperand] at hwants
    | ended sum last outer =>
      have houter : outer = [] := List.length_eq_zero_iff.mp hdepth
      exact ⟨sum.complete last, by rw [parse?, hread, houter]; rfl⟩

/-- Tokens that pass the check have exactly one parse tree. -/
theorem exists_isParse_iff {tokens : List Token} (h : check tokens = .ok ()) :
    ∃ e, ∀ e', IsParse tokens e' ↔ e' = e := by
  obtain ⟨e, hparse⟩ := exists_parse?_of_check h
  refine ⟨e, fun e' => ⟨fun ⟨hfits, htokens⟩ => ?_, ?_⟩⟩
  · have hparse' := parse?_tokens hfits
    rw [htokens, hparse] at hparse'
    exact (Option.some.inj hparse').symm
  · rintro rfl
    exact isParse_of_parse? hparse

/-! ### Parsed tokens pass the check -/

namespace Reading

/-- What the parser reads is what the check lets pass. -/
theorem checked_of_read {r r' : Reading} {token : Token} (h : r.read token = some r') :
    token.startsOperand = r.wantsOperand ∧ r'.wantsOperand = !token.endsOperand ∧
      ∀ position, depthAfter position r.depth token = .ok r'.depth := by
  cases r with
  | operand frame outer =>
    cases token with
    | number | var | leftParen =>
      obtain rfl := Option.some.inj h
      exact ⟨rfl, rfl, fun _ => rfl⟩
    | rightParen | operator => simp [read] at h
  | ended sum last outer =>
    cases token with
    | operator op =>
      obtain rfl := Option.some.inj h
      exact ⟨rfl, rfl, fun _ => rfl⟩
    | rightParen =>
      cases outer with
      | nil => simp [read] at h
      | cons frame outer =>
        obtain rfl := Option.some.inj h
        exact ⟨rfl, rfl, fun _ => rfl⟩
    | number | var | leftParen => simp [read] at h

/-- Tokens that are read to their end, with no parenthesis left open, pass the
    check from the first on, and the last one ends an operand if none is wanted
    behind it. -/
theorem checkFrom_of_read_all {token : Token} {rest : List Token} {r r' : Reading}
    (hread : (token :: rest).foldlM read r = some r') (hdone : r'.depth = 0) (position : Nat) :
    checkFrom position r.depth token rest = .ok () ∧
      r'.wantsOperand = !((token :: rest).getLast (List.cons_ne_nil _ _)).endsOperand := by
  induction rest generalizing token r position with
  | nil =>
    obtain ⟨next, hnext, hrest⟩ := Option.bind_eq_some_iff.mp hread
    obtain rfl := Option.some.inj hrest
    obtain ⟨-, hwants, hdepth⟩ := checked_of_read hnext
    refine ⟨?_, hwants⟩
    simp only [checkFrom, hdepth, hdone]
    rfl
  | cons following rest ih =>
    obtain ⟨next, hnext, hrest⟩ := Option.bind_eq_some_iff.mp hread
    obtain ⟨after, hafter, -⟩ := Option.bind_eq_some_iff.mp hrest
    obtain ⟨-, hwants, hdepth⟩ := checked_of_read hnext
    obtain ⟨hstarts, -, -⟩ := checked_of_read hafter
    -- An operand begins behind `token` exactly where the parser wants one.
    have hbetween : checkNext (position + 1) token following = .ok () := by
      rw [hwants] at hstarts
      cases hended : token.endsOperand <;> simp [checkNext, hended, hstarts]
    obtain ⟨hcheck, hlast⟩ := ih hrest (position + 1)
    refine ⟨?_, by rw [hlast, List.getLast_cons_cons]⟩
    simp only [checkFrom, hdepth]
    show (checkNext (position + 1) token following >>= fun _ => _) = _
    rw [hbetween]
    exact hcheck

end Reading

/-- Tokens that are parsed pass the check. -/
theorem check_of_parse? {tokens : List Token} {e : Expression} (h : parse? tokens = some e) :
    check tokens = .ok () := by
  obtain ⟨r, hread, hfinish⟩ := Option.bind_eq_some_iff.mp h
  cases r with
  | operand frame outer => simp [Reading.finish] at hfinish
  | ended sum last outer =>
    cases outer with
    | cons frame outer => simp [Reading.finish] at hfinish
    | nil =>
      cases tokens with
      | nil => simp at hread
      | cons first rest =>
        obtain ⟨hcheck, hlast⟩ := Reading.checkFrom_of_read_all hread rfl 0
        obtain ⟨next, hnext, -⟩ := Option.bind_eq_some_iff.mp hread
        obtain ⟨hstarts, -, -⟩ := Reading.checked_of_read hnext
        simp only [Reading.wantsOperand, Bool.false_eq, Bool.not_eq_false'] at hstarts hlast
        simp only [check, hstarts, hlast, if_true]
        exact hcheck

/-- The check accepts exactly the tokens that have a parse tree. -/
theorem check_eq_ok_iff (tokens : List Token) :
    check tokens = .ok () ↔ ∃ e, IsParse tokens e := by
  constructor
  · intro h
    obtain ⟨e, hparse⟩ := exists_parse?_of_check h
    exact ⟨e, isParse_of_parse? hparse⟩
  · rintro ⟨e, hfits, rfl⟩
    exact check_of_parse? (parse?_tokens hfits)

end Worksheet.Formula
