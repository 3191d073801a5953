import Worksheet.Proofs.Formula.Parse

/-! # Where the check stops

    Tokens are viable if more tokens can be put behind them so that the whole
    passes the check.  What the parser reads is viable: a number where an operand
    is wanted, and as many closing parentheses as are open, complete it.  And
    what passes the check is read from its first token on.  So viable tokens are
    those that the parser reads.

    The check looks at neighbours one turn earlier than at parentheses, yet
    either way the token it complains about is the first that the parser does not
    read, so the place it reports is where the tokens stop being viable.  The
    complaints about the ends come before, and are about these tokens alone. -/

namespace Worksheet.Formula

/-- The tokens begin a sequence that passes the check. -/
def IsViable (tokens : List Token) : Prop :=
  ∃ more, check (tokens ++ more) = .ok ()

/-- The token ends a sequence that passes the check. -/
def CanEnd (token : Token) : Prop :=
  ∃ front, check (front ++ [token]) = .ok ()

/-- The position in an error about a token where it stands. -/
def errorPosition? : FormulaError → Option Nat
  | .expectedOperator position _ | .expectedOperand position _ | .unmatchedClose position =>
    some position
  | _ => none

variable {tokens : List Token} {token : Token} {r : Reading}

/-- The check lets pass what the parser accepts. -/
theorem check_eq_ok_iff_parse? (tokens : List Token) :
    check tokens = .ok () ↔ (Expression.parse? tokens).isSome = true := by
  rw [Option.isSome_iff_exists]
  exact ⟨exists_parse?_of_check, fun ⟨_, h⟩ => check_of_parse? h⟩

/-! ### Completing what has been read -/

namespace Reading

/-- Behind an operand, exactly as many closing parentheses as are open complete
    the expression. -/
theorem isSome_finish_iff (hended : r.wantsOperand = false) (j : Nat) :
    ((List.replicate j Token.rightParen).foldlM read r >>= finish).isSome = true ↔
      j = r.depth := by
  induction j generalizing r with
  | zero =>
    cases r with
    | operand => exact nomatch hended
    | ended sum last outer => cases outer <;> simp [finish, depth]
  | succ j ih =>
    cases r with
    | operand => exact nomatch hended
    | ended sum last outer =>
      cases outer with
      -- Nothing is open, so not even one closing parenthesis is read.
      | nil => simp [List.replicate_succ, read, depth]
      | cons frame outer =>
        have hrest := ih (r := frame.read (.group (sum.complete last)) outer) rfl
        rw [List.replicate_succ, List.foldlM_cons]
        exact hrest.trans (by simp [depth, Frame.read])

/-- Whatever has been read can be completed. -/
theorem exists_complete (r : Reading) :
    ∃ more : List Token, (more.foldlM read r >>= finish).isSome = true := by
  cases hwants : r.wantsOperand with
  | false => exact ⟨_, (isSome_finish_iff hwants r.depth).mpr rfl⟩
  | true =>
    cases r with
    | ended => exact nomatch hwants
    | operand frame outer =>
      -- A number stands for the operand that is wanted.
      have hended : (frame.read (.number 0) outer).wantsOperand = false := rfl
      refine ⟨.number 0 :: List.replicate outer.length .rightParen, ?_⟩
      exact (isSome_finish_iff hended outer.length).mpr rfl

end Reading

/-- The parser in front of the first token. -/
def firstReading : Reading :=
  .operand .empty []

theorem parse?_append (tokens more : List Token) :
    Expression.parse? (tokens ++ more) = tokens.foldlM Reading.read firstReading >>= fun r =>
      more.foldlM Reading.read r >>= Reading.finish := by
  rw [Expression.parse?, List.foldlM_append, bind_assoc]
  rfl

/-- Viable tokens are those that the parser reads. -/
theorem isViable_iff (tokens : List Token) :
    IsViable tokens ↔ ∃ r, tokens.foldlM Reading.read firstReading = some r := by
  constructor
  · -- What passes the check is read to its end, so the tokens in front are read.
    rintro ⟨more, hcheck⟩
    rw [check_eq_ok_iff_parse?, parse?_append] at hcheck
    cases hread : tokens.foldlM Reading.read firstReading with
    | some r => exact ⟨r, rfl⟩
    | none => simp [hread] at hcheck
  · rintro ⟨r, hread⟩
    obtain ⟨more, hmore⟩ := r.exists_complete
    refine ⟨more, ?_⟩
    rw [check_eq_ok_iff_parse?, parse?_append, hread]
    exact hmore

/-! ### What the check complains about -/

/-- A closing parenthesis without an open one is not read. -/
theorem depthAfter_error {position : Nat} {e : FormulaError}
    (h : depthAfter position r.depth token = .error e) :
    errorPosition? e = some position ∧ r.read token = none := by
  constructor
  · cases token with
    | rightParen =>
      rw [depthAfter] at h
      split at h
      · rw [← Except.error.inj h]
        rfl
      · cases h
    | leftParen | operator | number | var => cases h
  · by_contra hsome
    obtain ⟨r', hread⟩ := Option.ne_none_iff_exists'.mp hsome
    obtain ⟨-, -, hdepth⟩ := Reading.checked_of_read hread
    rw [hdepth] at h
    cases h

/-- A token that does not go with the one in front of it is not read behind it. -/
theorem checkNext_error {r' : Reading} {position : Nat} {next : Token} {e : FormulaError}
    (hread : r.read token = some r') (h : checkNext position token next = .error e) :
    errorPosition? e = some position ∧ r'.read next = none := by
  have hsame : errorPosition? e = some position ∧ next.startsOperand = token.endsOperand := by
    cases hended : token.endsOperand <;> cases hstarts : next.startsOperand <;>
      simp only [checkNext, hended, hstarts, Except.error.injEq, reduceCtorEq] at h
    · exact ⟨by rw [← h]; rfl, rfl⟩
    · exact ⟨by rw [← h]; rfl, rfl⟩
  refine ⟨hsame.1, ?_⟩
  by_contra hsome
  obtain ⟨r'', hnext⟩ := Option.ne_none_iff_exists'.mp hsome
  obtain ⟨-, hwants, -⟩ := Reading.checked_of_read hread
  obtain ⟨hstarts, -, -⟩ := Reading.checked_of_read hnext
  rw [hwants, hsame.2] at hstarts
  exact (Bool.eq_not_self _).mp hstarts

/-- What the check goes on with when `r` has been read up to `token`. -/
def checkBehind (position : Nat) (token : Token) (r : Reading) :
    List Token → Except FormulaError Unit
  | [] => if r.depth = 0 then .ok () else .error (.unclosedParen r.depth)
  | next :: rest => do
    checkNext (position + 1) token next
    checkFrom (position + 1) r.depth next rest

/-- One turn of the check: it complains about a token that is not read, or goes
    on behind it. -/
theorem checkFrom_cases (position : Nat) (hwants : token.startsOperand = r.wantsOperand) :
    (∃ e, errorPosition? e = some position ∧ r.read token = none ∧
      ∀ rest, checkFrom position r.depth token rest = .error e) ∨
    ∃ r', r.read token = some r' ∧ r'.wantsOperand = !token.endsOperand ∧
      ∀ rest, checkFrom position r.depth token rest = checkBehind position token r' rest := by
  cases hdepth : depthAfter position r.depth token with
  | error e =>
    obtain ⟨hposition, hnone⟩ := depthAfter_error hdepth
    refine .inl ⟨e, hposition, hnone, fun rest => ?_⟩
    cases rest <;> simp only [checkFrom, hdepth] <;> rfl
  | ok depth =>
    obtain ⟨r', hread, hwants', rfl⟩ := Reading.exists_read hwants hdepth
    refine .inr ⟨r', hread, hwants', fun rest => ?_⟩
    cases rest <;> simp only [checkFrom, hdepth] <;> rfl

/-- The error of a check from some token on: a token that is not read where it
    stands, or parentheses that are left open. -/
theorem checkFrom_error {rest : List Token} {position : Nat} {e : FormulaError}
    (hwants : token.startsOperand = r.wantsOperand)
    (h : checkFrom position r.depth token rest = .error e) :
    (∃ before bad after r', token :: rest = before ++ bad :: after ∧
      before.foldlM Reading.read r = some r' ∧ r'.read bad = none ∧
      errorPosition? e = some (position + before.length)) ∨
    ∃ r', (token :: rest).foldlM Reading.read r = some r' ∧ r'.depth ≠ 0 ∧
      e = .unclosedParen r'.depth := by
  induction rest generalizing token r position with
  | nil =>
    rcases checkFrom_cases position hwants with
      ⟨e', hposition, hnone, hcheck⟩ | ⟨r', hread, -, hcheck⟩
    · obtain rfl : e' = e := Except.error.inj ((hcheck []).symm.trans h)
      exact .inl ⟨[], token, [], r, rfl, rfl, hnone, hposition⟩
    · rw [hcheck, checkBehind] at h
      split at h
      · exact nomatch h
      · next hopen => exact .inr ⟨r', by simp [hread], hopen, (Except.error.inj h).symm⟩
  | cons next rest ih =>
    rcases checkFrom_cases position hwants with
      ⟨e', hposition, hnone, hcheck⟩ | ⟨r', hread, hwants', hcheck⟩
    · obtain rfl : e' = e := Except.error.inj ((hcheck _).symm.trans h)
      exact .inl ⟨[], token, next :: rest, r, rfl, rfl, hnone, hposition⟩
    · rw [hcheck, checkBehind] at h
      cases hbetween : checkNext (position + 1) token next with
      | error e' =>
        -- The complaint comes in the turn of `token` but is about `next`.
        obtain ⟨hposition, hnone⟩ := checkNext_error hread hbetween
        rw [hbetween] at h
        obtain rfl : e' = e := Except.error.inj h
        exact .inl ⟨[token], next, rest, r', rfl, by simp [hread], hnone, hposition⟩
      | ok _ =>
        rw [hbetween] at h
        have hnext : next.startsOperand = r'.wantsOperand := by
          rw [hwants', startsOperand_of_checkNext hbetween]
        rcases ih hnext h with ⟨before, bad, after, r'', hsplit, hbefore, hnone, hposition⟩ |
          ⟨r'', hall, hopen, he⟩
        · refine .inl ⟨token :: before, bad, after, r'', by rw [hsplit]; rfl, ?_, hnone, ?_⟩
          · rw [List.foldlM_cons, hread]
            exact hbefore
          · rw [hposition, List.length_cons, Nat.add_right_comm, Nat.add_assoc]
        · refine .inr ⟨r'', ?_, hopen, he⟩
          rw [List.foldlM_cons, hread]
          exact hall

/-- What the check of a whole sequence comes to: the ends are looked at before
    anything else. -/
theorem check_cases (first : Token) (rest : List Token) :
    (first.startsOperand = false ∧ check (first :: rest) = .error (.invalidStart first.text)) ∨
    (first.startsOperand = true ∧ ∃ last, (first :: rest).getLast? = some last ∧
      ((last.endsOperand = false ∧ check (first :: rest) = .error (.invalidEnd last.text)) ∨
      (last.endsOperand = true ∧ check (first :: rest) = checkFrom 0 0 first rest))) := by
  rw [check]
  split
  · next hstarts =>
    refine .inr ⟨hstarts, _, List.getLast?_eq_some_getLast (List.cons_ne_nil first rest), ?_⟩
    split
    · next hends => exact .inr ⟨hends, rfl⟩
    · next hends => exact .inl ⟨Bool.eq_false_iff.mpr hends, rfl⟩
  · next hstarts => exact .inl ⟨Bool.eq_false_iff.mpr hstarts, rfl⟩

/-! ### The ends -/

theorem isViable_singleton_iff (token : Token) :
    IsViable [token] ↔ token.startsOperand = true := by
  rw [isViable_iff]
  cases token <;> simp [Reading.read, firstReading, Token.startsOperand]

theorem canEnd_iff (token : Token) : CanEnd token ↔ token.endsOperand = true := by
  constructor
  · rintro ⟨front, hcheck⟩
    -- The end is looked at before what stands in front of it.
    obtain ⟨first, rest, hsplit⟩ := List.exists_cons_of_ne_nil (l := front ++ [token]) (by simp)
    have hlast : (first :: rest).getLast? = some token := by simp [← hsplit]
    rw [hsplit] at hcheck
    rcases check_cases first rest with ⟨-, hstart⟩ | ⟨-, last, hlast', hend⟩
    · exact nomatch hstart.symm.trans hcheck
    · obtain rfl : last = token := Option.some.inj (hlast'.symm.trans hlast)
      rcases hend with ⟨-, hend⟩ | ⟨hends, -⟩
      · exact nomatch hend.symm.trans hcheck
      · exact hends
  · intro hends
    cases token with
    | number value => exact ⟨[], rfl⟩
    | var name => exact ⟨[], rfl⟩
    | rightParen => exact ⟨[.leftParen, .number 0], rfl⟩
    | leftParen | operator => exact nomatch hends

/-! ### The places of errors -/

/-- An operand is wanted behind the last token unless it ends one. -/
theorem wantsOperand_of_read_all {last : Token} {r' : Reading}
    (hread : tokens.foldlM Reading.read r = some r') (hlast : tokens.getLast? = some last) :
    r'.wantsOperand = !last.endsOperand := by
  obtain ⟨front, rfl⟩ := List.getLast?_eq_some_iff.mp hlast
  rw [List.foldlM_append] at hread
  obtain ⟨before, -, hread⟩ := Option.bind_eq_some_iff.mp hread
  obtain ⟨r'', hlast, hread⟩ := Option.bind_eq_some_iff.mp hread
  obtain rfl := Option.some.inj hread
  exact (Reading.checked_of_read hlast).2.1

/-- What an error of the check says about the tokens. -/
inductive Complaint (tokens : List Token) : FormulaError → Prop
  | empty : tokens = [] → Complaint tokens .empty
  | start {first : Token} : tokens.head? = some first → first.startsOperand = false →
    Complaint tokens (.invalidStart first.text)
  | ending {first last : Token} : tokens.head? = some first → first.startsOperand = true →
    tokens.getLast? = some last → last.endsOperand = false →
    Complaint tokens (.invalidEnd last.text)
  /-- The error is about the first token that is not read. -/
  | unread {before after : List Token} {bad : Token} {r : Reading} {e : FormulaError} :
    tokens = before ++ bad :: after → before.foldlM Reading.read firstReading = some r →
    r.read bad = none → errorPosition? e = some before.length → Complaint tokens e
  /-- All tokens are read, with parentheses left open. -/
  | unclosed {r : Reading} : tokens.foldlM Reading.read firstReading = some r →
    r.wantsOperand = false → Complaint tokens (.unclosedParen r.depth)

theorem complaint_of_check {e : FormulaError} (h : check tokens = .error e) :
    Complaint tokens e := by
  cases tokens with
  | nil => exact Except.error.inj h ▸ .empty rfl
  | cons first rest =>
    rcases check_cases first rest with ⟨hstarts, hcheck⟩ | ⟨hstarts, last, hlast, hcheck⟩
    · exact Except.error.inj (hcheck.symm.trans h) ▸ .start rfl hstarts
    · rcases hcheck with ⟨hends, hcheck⟩ | ⟨hends, hcheck⟩
      · exact Except.error.inj (hcheck.symm.trans h) ▸ .ending rfl hstarts hlast hends
      · -- Both ends are right, so the error comes from the loop.
        have hfirst : first.startsOperand = firstReading.wantsOperand := hstarts
        rcases checkFrom_error hfirst (hcheck.symm.trans h) with
          ⟨before, bad, after, r, hsplit, hread, hnone, hposition⟩ | ⟨r, hread, -, rfl⟩
        · rw [Nat.zero_add] at hposition
          exact .unread hsplit hread hnone hposition
        · have hwants := wantsOperand_of_read_all hread hlast
          rw [hends] at hwants
          exact .unclosed hread hwants

/-- The tokens in front of the reported place are viable, and no more of them. -/
theorem Complaint.viable {e : FormulaError} {position : Nat} (h : Complaint tokens e)
    (hposition : errorPosition? e = some position) :
    position < tokens.length ∧ IsViable (tokens.take position) ∧
      ¬ IsViable (tokens.take (position + 1)) := by
  cases h with
  | empty | start | ending | unclosed => exact nomatch hposition
  | @unread before after bad r _ hsplit hread hnone hlength =>
    obtain rfl : before.length = position := Option.some.inj (hlength.symm.trans hposition)
    rw [hsplit]
    refine ⟨by simp, ?_, ?_⟩
    · rw [List.take_left, isViable_iff]
      exact ⟨r, hread⟩
    · rw [List.take_length_add_append, List.take_succ_cons, List.take_zero, isViable_iff]
      simp [List.foldlM_append, hread, hnone]

/-- Exactly the parentheses that are left open have to be closed. -/
theorem Complaint.closing {count : Nat} (h : Complaint tokens (.unclosedParen count)) (j : Nat) :
    check (tokens ++ List.replicate j .rightParen) = .ok () ↔ j = count := by
  cases h with
  | unread _ _ _ hposition => exact nomatch hposition
  | unclosed hread hwants =>
    rw [check_eq_ok_iff_parse?, parse?_append, hread]
    exact Reading.isSome_finish_iff hwants j

theorem check_eq_invalidStart_iff (tokens : List Token) (text : String) :
    check tokens = .error (.invalidStart text) ↔
      ∃ first, tokens.head? = some first ∧ text = first.text ∧ ¬ IsViable [first] := by
  constructor
  · intro h
    cases complaint_of_check h with
    | unread _ _ _ hposition => exact nomatch hposition
    | @start first hfirst hstarts =>
      refine ⟨first, hfirst, rfl, ?_⟩
      rw [isViable_singleton_iff, hstarts]
      exact Bool.false_ne_true
  · rintro ⟨first, hfirst, rfl, hviable⟩
    obtain ⟨rest, rfl⟩ := List.head?_eq_some_iff.mp hfirst
    rw [isViable_singleton_iff] at hviable
    rcases check_cases first rest with ⟨-, hcheck⟩ | ⟨hstarts, -⟩
    · exact hcheck
    · exact absurd hstarts hviable

theorem check_eq_invalidEnd_iff (tokens : List Token) (text : String) :
    check tokens = .error (.invalidEnd text) ↔
      ∃ first last, tokens.head? = some first ∧ IsViable [first] ∧
        tokens.getLast? = some last ∧ text = last.text ∧ ¬ CanEnd last := by
  constructor
  · intro h
    cases complaint_of_check h with
    | unread _ _ _ hposition => exact nomatch hposition
    | @ending first last hfirst hstarts hlast hends =>
      refine ⟨first, last, hfirst, (isViable_singleton_iff first).mpr hstarts, hlast, rfl, ?_⟩
      rw [canEnd_iff, hends]
      exact Bool.false_ne_true
  · rintro ⟨first, last, hfirst, hviable, hlast, rfl, hend⟩
    obtain ⟨rest, rfl⟩ := List.head?_eq_some_iff.mp hfirst
    rw [isViable_singleton_iff] at hviable
    rw [canEnd_iff] at hend
    rcases check_cases first rest with ⟨hstarts, -⟩ | ⟨-, last', hlast', hcheck⟩
    · exact nomatch hstarts.symm.trans hviable
    · obtain rfl : last' = last := Option.some.inj (hlast'.symm.trans hlast)
      rcases hcheck with ⟨-, hcheck⟩ | ⟨hends, -⟩
      · exact hcheck
      · exact absurd hends hend

/-- **Errors are where they are said to be**: up to the position in an error the
    tokens are viable, and with the token there they are not.  Parentheses that
    are left open are as many as have to be closed.  A start is refused exactly
    if it is the start of nothing that passes the check, and an end, behind a
    start that is not refused, exactly if it is the end of nothing that does,
    whatever stands in between. -/
theorem check_error_places (tokens : List Token) :
    (∀ e position, check tokens = .error e → errorPosition? e = some position →
      position < tokens.length ∧ IsViable (tokens.take position) ∧
        ¬ IsViable (tokens.take (position + 1))) ∧
    (∀ count, check tokens = .error (.unclosedParen count) →
      ∀ j, check (tokens ++ List.replicate j .rightParen) = .ok () ↔ j = count) ∧
    (∀ text, check tokens = .error (.invalidStart text) ↔
      ∃ first, tokens.head? = some first ∧ text = first.text ∧ ¬ IsViable [first]) ∧
    ∀ text, check tokens = .error (.invalidEnd text) ↔
      ∃ first last, tokens.head? = some first ∧ IsViable [first] ∧
        tokens.getLast? = some last ∧ text = last.text ∧ ¬ CanEnd last :=
  ⟨fun _ _ h hposition => (complaint_of_check h).viable hposition,
    fun _ h => (complaint_of_check h).closing, check_eq_invalidStart_iff tokens,
    check_eq_invalidEnd_iff tokens⟩

end Worksheet.Formula
