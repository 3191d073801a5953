import Worksheet.Proofs.Cell.References
import Worksheet.Proofs.Formula.Parse

/-! # The two stacks compute the tree

    The evaluation in one pass delays sums and differences on the stack of
    operators and carries out products at once.  It still computes the parse
    tree of its tokens, node by node from left to right: what a subtree leaves
    on the stacks depends on its level in the grammar and on the kind of the
    operator that waits in front of it.

      • the value of a factor is pushed, so a product in front of it is
        carried out;
      • behind no product, the value of a term is pushed and nothing else;
      • behind no operator, the sum that an expression leaves pending is
        carried out by the token behind it, or by the end. -/

namespace Worksheet.Formula

open Expression

variable {lookup : Lookup}

/-! ### Steps that ask nothing -/

/-- Two steps that ask nothing may be taken one by one. -/
theorem unasked_bind {α β : Type} (x : Except EvaluationError α)
    (f : α → Except EvaluationError β) :
    (⟨[], x >>= f⟩ : Consultation String EvaluationError β) =
      (⟨[], x⟩ : Consultation String EvaluationError α) >>= fun a => ⟨[], f a⟩ := by
  cases x <;> rfl

namespace Stacks

/-- Does an operator of this kind wait on top? -/
def waits (multiplicative : Bool) : List Pending → Bool
  | .operator op :: _ => op.isMultiplicative == multiplicative
  | _ => false

theorem resolve_of_not_waits {multiplicative : Bool} {operands : List Float}
    {pending : List Pending} (h : waits multiplicative pending = false) :
    resolve multiplicative ⟨operands, pending⟩ = .ok ⟨operands, pending⟩ := by
  unfold resolve
  split
  · next op rest heq =>
    have hkind : ¬ op.isMultiplicative = multiplicative := by
      simpa [waits, show pending = .operator op :: rest from heq] using h
    rw [if_neg hkind]
  · rfl

/-- The stacks with one more operand. -/
def withOperand (s : Stacks) (value : Float) : Stacks :=
  ⟨value :: s.operands, s.pending⟩

/-- An operator on top is carried out on the two latest operands. -/
theorem resolve_operator {op : Operator} {multiplicative : Bool}
    (h : op.isMultiplicative = multiplicative) (s : Stacks) (x y : Float) :
    (⟨[], (((s.withOperand x).wait (.operator op)).withOperand y).resolve multiplicative⟩ :
        Consultation String EvaluationError Stacks) =
      ⟨[], operate op x y⟩ >>= fun value => pure (s.withOperand value) := by
  simp only [resolve, withOperand, wait, h, if_true, operate]
  cases op.value? x y <;> rfl

end Stacks

/-! ### What a subtree leaves on the stacks -/

/-- How the two stacks evaluate the tokens of `e`, which stands at `level`. -/
def Computes (lookup : Lookup) (e : Expression) : Level → Prop
  | .factor => ∀ s : Stacks, e.tokens.foldlM (step lookup) s =
      e.evaluate lookup >>= fun value => ⟨[], s.pushOperand value⟩
  | .term => ∀ s : Stacks, Stacks.waits true s.pending = false →
      e.tokens.foldlM (step lookup) s =
        e.evaluate lookup >>= fun value => pure (s.withOperand value)
  | .expression => ∀ s : Stacks, (∀ kind, Stacks.waits kind s.pending = false) →
      (e.tokens.foldlM (step lookup) s >>= fun s' => ⟨[], s'.resolve false⟩) =
        e.evaluate lookup >>= fun value => pure (s.withOperand value)

/-! ### One lemma for each production -/

theorem computes_number (value : Float) : Computes lookup (.number value) .factor := by
  intro s
  rw [Expression.tokens, List.foldlM_cons, step, Expression.evaluate]
  exact bind_pure _

theorem computes_var (name : String) : Computes lookup (.var name) .factor := by
  intro s
  rw [Expression.tokens, List.foldlM_cons, step, Expression.evaluate]
  exact bind_pure _

/-- The closing parenthesis carries out the sum inside and gives its value to a
    product that waits in front. -/
theorem Computes.group {e : Expression} (h : Computes lookup e .expression) :
    Computes lookup (.group e) .factor := by
  intro s
  -- Whatever waits in `s`, the open parenthesis on top is no operator.
  have hinner := h (s.wait .openParen) fun _ => rfl
  calc (Expression.group e).tokens.foldlM (step lookup) s
      = e.tokens.foldlM (step lookup) (s.wait .openParen) >>= fun s' => ⟨[], s'.close⟩ := by
        simp only [Expression.tokens, List.foldlM_cons, List.foldlM_append, List.foldlM_nil,
          bind_pure]
        exact pure_bind _ _
    _ = (Expression.group e).evaluate lookup >>= fun value => ⟨[], s.pushOperand value⟩ := by
        simp only [Stacks.close, unasked_bind]
        rw [← bind_assoc, hinner, bind_assoc]
        exact bind_congr fun value => pure_bind _ _

theorem Computes.factor {e : Expression} (h : Computes lookup e .factor) :
    Computes lookup e .term := by
  intro s htop
  rw [h s]
  refine bind_congr fun value => ?_
  rw [Stacks.pushOperand, Stacks.resolve_of_not_waits htop]
  rfl

/-- The right factor of a product carries it out. -/
theorem Computes.product {op : Operator} {l r : Expression} (hl : Computes lookup l .term)
    (tight : op.isMultiplicative = true) (hr : Computes lookup r .factor) :
    Computes lookup (.binary op l r) .term := by
  intro s htop
  have hwait : ∀ s' : Stacks, step lookup s' (.operator op) = pure (s'.wait (.operator op)) :=
    fun s' => by rw [step, if_pos tight]; rfl
  simp only [Expression.tokens, List.foldlM_append, hl s htop, List.foldlM_cons,
    Expression.evaluate, bind_assoc, pure_bind, hwait]
  refine bind_congr fun x => (hr _).trans (bind_congr fun y => ?_)
  exact Stacks.resolve_operator tight s x y

theorem Computes.term {e : Expression} (h : Computes lookup e .term) :
    Computes lookup e .expression := by
  intro s htop
  rw [h s (htop true), bind_assoc]
  refine bind_congr fun value => ?_
  rw [pure_bind, Stacks.withOperand, Stacks.resolve_of_not_waits (htop false)]
  rfl

/-- A sum waits until the next of its kind, the closing parenthesis or the end
    has carried out the expression on its left and its right term is known. -/
theorem Computes.sum {op : Operator} {l r : Expression} (hl : Computes lookup l .expression)
    (loose : op.isMultiplicative = false) (hr : Computes lookup r .term) :
    Computes lookup (.binary op l r) .expression := by
  intro s htop
  have hwait : ∀ s' : Stacks, step lookup s' (.operator op) =
      (⟨[], s'.resolve false⟩ : Consultation String EvaluationError Stacks) >>=
        fun s'' => pure (s''.wait (.operator op)) :=
    fun s' => by rw [step, if_neg (by simp [loose])]
  -- The operator that now waits on top is none that a term carries out.
  have hright : ∀ x, Stacks.waits true ((s.withOperand x).wait (.operator op)).pending = false :=
    fun x => by simp [Stacks.waits, Stacks.wait, loose]
  simp only [Expression.tokens, List.foldlM_append, List.foldlM_cons, hwait, bind_assoc]
  -- What the operator carries out before it waits is what ends an expression.
  rw [← bind_assoc, hl s htop]
  simp only [Expression.evaluate, bind_assoc, pure_bind, hr _ (hright _)]
  exact bind_congr fun x => bind_congr fun y => Stacks.resolve_operator loose s x y

/-- The two stacks evaluate every expression. -/
theorem Expression.Fits.computes {level : Level} {e : Expression} (h : Fits level e)
    (lookup : Lookup) : Computes lookup e level := by
  induction h with
  | number value => exact computes_number value
  | var name => exact computes_var name
  | group _ ih => exact ih.group
  | factor _ ih => exact ih.factor
  | product _ tight _ ihl ihr => exact ihl.product tight ihr
  | term _ ih => exact ih.term
  | sum _ loose _ ihl ihr => exact ihl.sum loose ihr

/-- The tokens of an expression are evaluated to the value of the tree. -/
theorem evaluateTokens_eq_evaluate {tokens : List Token} {e : Expression}
    (h : IsParse tokens e) (lookup : Lookup) :
    evaluateTokens lookup tokens = e.evaluate lookup := by
  have hrun := h.1.computes lookup Stacks.empty fun _ => rfl
  rw [h.2] at hrun
  simp only [evaluateTokens, Stacks.finish, unasked_bind]
  rw [← bind_assoc, hrun, bind_assoc]
  exact (bind_congr fun value => pure_bind _ _).trans (bind_pure _)

/-- **Standard semantics**: tokens that pass the check have exactly one parse
    tree, and with every lookup they are evaluated to the value of this tree,
    to the error of the first node in postorder that fails, and with the
    questions up to this node.  The stacks never turn out malformed, and only
    the variables among the tokens matter. -/
theorem evaluateTokens_of_check {tokens : List Token} (h : check tokens = .ok ()) :
    ∃ e, (∀ e', IsParse tokens e' ↔ e' = e) ∧
      e.postorder.filterMap varName? = tokens.filterMap Token.varName? ∧
      ∀ lookup : Lookup,
        evaluateTokens lookup tokens = e.evaluate lookup ∧
        (∀ err, (evaluateTokens lookup tokens).result = .error err ↔
          e.postorder.findSome? (fault? lookup) = some err) ∧
        (evaluateTokens lookup tokens).asked =
          (visited lookup e.postorder).filterMap varName? ∧
        (evaluateTokens lookup tokens).asked <+: tokens.filterMap Token.varName? ∧
        (∀ err, (evaluateTokens lookup tokens).result = .error err →
          err.message ≠ EvaluationError.malformed.message) ∧
        ∀ lookup' : Lookup,
          (∀ name ∈ tokens.filterMap Token.varName?, lookup name = lookup' name) →
          evaluateTokens lookup tokens = evaluateTokens lookup' tokens := by
  obtain ⟨e, hunique⟩ := exists_isParse_iff h
  have hparse : IsParse tokens e := (hunique e).mpr rfl
  have hnames : e.postorder.filterMap varName? = tokens.filterMap Token.varName? := by
    rw [filterMap_postorder, hparse.2]
  refine ⟨e, hunique, hnames, fun lookup => ?_⟩
  have hvalue := evaluateTokens_eq_evaluate hparse lookup
  obtain ⟨herror, hasked⟩ := evaluate_follows lookup e
  refine ⟨hvalue, ?_, ?_, ?_, ?_, fun _ => Formula.evaluateTokens_congr⟩
  · rw [hvalue]
    exact herror
  · rw [hvalue]
    exact hasked
  · rw [hvalue, hasked, ← hnames]
    exact (prefix_visited _).filterMap _
  · rw [hvalue]
    exact fun err => message_of_evaluate

/-- The division by zero in `2*(x+1/0)-y` ends the evaluation in front of `y`. -/
theorem evaluateTokens_of_check_division :
    let tokens : List Token := [.number 2, .operator .mul, .leftParen, .var "x", .operator .add,
      .number 1, .operator .div, .number 0, .rightParen, .operator .sub, .var "y"]
    check tokens = .ok () ∧
      (evaluateTokens (fun _ => .ok 3) tokens).asked = ["x"] ∧
      (evaluateTokens (fun _ => .ok 3) tokens).result = .error .divisionByZero ∧
      ∃ e, (∀ e', IsParse tokens e' ↔ e' = e) ∧
        e.postorder.findSome? (fault? fun _ => .ok 3) = some .divisionByZero := by
  intro tokens
  have hcheck : check tokens = .ok () := rfl
  have hresult : (evaluateTokens (fun _ => .ok 3) tokens).result = .error .divisionByZero := rfl
  obtain ⟨e, hunique, -, hlookup⟩ := evaluateTokens_of_check hcheck
  obtain ⟨-, hfirst, -⟩ := hlookup fun _ => .ok 3
  exact ⟨hcheck, rfl, hresult, e, hunique, (hfirst _).mp hresult⟩

end Worksheet.Formula
