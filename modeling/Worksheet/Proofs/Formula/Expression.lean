import Worksheet.Formula.Evaluation

/-! # Expressions as trees

    The standard reading of a formula: its tokens are the leaves and operators
    of a tree that obeys the grammar

        expression = expression (`+` | `-`) term | term
        term       = term (`*` | `/`) factor | factor
        factor     = number | variable | `(` expression `)`

    and its value is computed on this tree, left operand first.  The main
    statement about this evaluation names its failure and its questions: of all
    nodes, taken operands before operators and from left to right, the first
    that fails by itself ends the evaluation, and the variables asked for are
    those up to this node. -/

namespace Worksheet.Formula

/-- An expression.  Parentheses are nodes of their own, so an expression
    determines its tokens. -/
inductive Expression where
  | number (value : Float)
  | var (name : String)
  | group (inner : Expression)
  | binary (op : Operator) (left right : Expression)

/-- The nonterminals of the grammar. -/
inductive Level where
  | expression
  | term
  | factor

namespace Expression

/-- The tokens of an expression. -/
def tokens : Expression → List Token
  | .number value => [.number value]
  | .var name => [.var name]
  | .group inner => .leftParen :: (inner.tokens ++ [.rightParen])
  | .binary op left right => left.tokens ++ .operator op :: right.tokens

/-- The grammar: `*` and `/` bind tighter than `+` and `-`, and operators of
    the same kind associate to the left. -/
inductive Fits : Level → Expression → Prop where
  | number (value : Float) : Fits .factor (.number value)
  | var (name : String) : Fits .factor (.var name)
  | group {e : Expression} (inner : Fits .expression e) : Fits .factor (.group e)
  | factor {e : Expression} (factor : Fits .factor e) : Fits .term e
  | product {op : Operator} {l r : Expression} (left : Fits .term l)
      (tight : op.isMultiplicative = true) (right : Fits .factor r) : Fits .term (.binary op l r)
  | term {e : Expression} (term : Fits .term e) : Fits .expression e
  | sum {op : Operator} {l r : Expression} (left : Fits .expression l)
      (loose : op.isMultiplicative = false) (right : Fits .term r) :
      Fits .expression (.binary op l r)

/-- `e` is a parse tree of `tokens`. -/
def IsParse (tokens : List Token) (e : Expression) : Prop :=
  Fits .expression e ∧ e.tokens = tokens

/-! ### Evaluation -/

/-- The result of an operator. -/
def operate (op : Operator) (left right : Float) : Except EvaluationError Float :=
  match op.value? left right with
  | some value => .ok value
  | none => .error .divisionByZero

/-- The value of an expression: the left operand is evaluated first, then the
    right one, and then the operator is applied. -/
def evaluate (lookup : Lookup) : Expression → Consultation String EvaluationError Float
  | .number value => .give value
  | .var name => askVariable lookup name
  | .group inner => inner.evaluate lookup
  | .binary op left right => do
    let x ← left.evaluate lookup
    let y ← right.evaluate lookup
    ⟨[], operate op x y⟩

/-- The variable that a node is. -/
def varName? : Expression → Option String
  | .var name => some name
  | _ => none

/-- All nodes, operands before their operator and from left to right. -/
def postorder : Expression → List Expression
  | .number value => [.number value]
  | .var name => [.var name]
  | .group inner => inner.postorder ++ [.group inner]
  | .binary op left right => left.postorder ++ right.postorder ++ [.binary op left right]

/-- The failure of the node itself: of the lookup of a variable, or of the
    operator on the values of its operands. -/
def fault? (lookup : Lookup) : Expression → Option EvaluationError
  | .var name =>
    match lookup name with
    | .ok _ => none
    | .error e => some (.ofLookup name e)
  | .binary op left right =>
    match (left.evaluate lookup).result, (right.evaluate lookup).result with
    | .ok x, .ok y => if (op.value? x y).isSome then none else some .divisionByZero
    | _, _ => none
  | .number _ | .group _ => none

/-- The nodes up to the first that fails, which is included. -/
def visited (lookup : Lookup) : List Expression → List Expression
  | [] => []
  | e :: rest => if (e.fault? lookup).isSome then [e] else e :: visited lookup rest

variable {lookup : Lookup}

/-! ### The first failure -/

theorem visited_append_of_fault {nodes : List Expression} {err : EvaluationError}
    (h : nodes.findSome? (fault? lookup) = some err) (rest : List Expression) :
    visited lookup (nodes ++ rest) = visited lookup nodes := by
  induction nodes with
  | nil => simp at h
  | cons e nodes ih =>
    rw [List.cons_append, visited, visited]
    split
    · rfl
    · next hfault =>
      rw [List.findSome?_cons] at h
      rw [ih (by simpa [Option.not_isSome_iff_eq_none.mp hfault] using h)]

theorem visited_append_of_no_fault {nodes : List Expression}
    (h : nodes.findSome? (fault? lookup) = none) (rest : List Expression) :
    visited lookup (nodes ++ rest) = nodes ++ visited lookup rest := by
  induction nodes with
  | nil => rfl
  | cons e nodes ih =>
    rw [List.findSome?_eq_none_iff] at h
    have hfault : fault? lookup e = none := h e (by simp)
    have hrest : nodes.findSome? (fault? lookup) = none :=
      List.findSome?_eq_none_iff.mpr fun x hx => h x (List.mem_cons_of_mem _ hx)
    rw [List.cons_append, visited, if_neg (by simp [hfault]), ih hrest, List.cons_append]

theorem prefix_visited (nodes : List Expression) : visited lookup nodes <+: nodes := by
  induction nodes with
  | nil => exact List.prefix_rfl
  | cons e nodes ih =>
    rw [visited]
    split
    · exact List.prefix_append [e] nodes
    · exact (List.prefix_cons_inj e).mpr ih

/-- How an evaluation goes along a list of nodes. -/
structure Follows (lookup : Lookup) (nodes : List Expression)
    (evaluation : Consultation String EvaluationError Float) : Prop where
  error_iff : ∀ err, evaluation.result = .error err ↔
    nodes.findSome? (fault? lookup) = some err
  asked_eq : evaluation.asked = (visited lookup nodes).filterMap varName?

theorem Follows.no_fault {nodes : List Expression} {asked : List String} {x : Float}
    (h : Follows lookup nodes ⟨asked, .ok x⟩) : nodes.findSome? (fault? lookup) = none := by
  cases hfault : nodes.findSome? (fault? lookup) with
  | none => rfl
  | some err => simpa using (h.error_iff err).mpr hfault

/-- Without a fault all nodes are visited. -/
theorem Follows.asked_eq_of_ok {nodes : List Expression} {asked : List String} {x : Float}
    (h : Follows lookup nodes ⟨asked, .ok x⟩) : asked = nodes.filterMap varName? := by
  have hvisited := visited_append_of_no_fault h.no_fault []
  rw [List.append_nil, visited, List.append_nil] at hvisited
  rw [← hvisited]
  exact h.asked_eq

/-- Evaluations that follow each other go along the nodes of both. -/
theorem Follows.andThen {nodes rest : List Expression}
    {x : Consultation String EvaluationError Float}
    {f : Float → Consultation String EvaluationError Float} (hx : Follows lookup nodes x)
    (hf : ∀ value, x.result = .ok value → Follows lookup rest (f value)) :
    Follows lookup (nodes ++ rest) (x >>= f) := by
  obtain ⟨asked, err | value⟩ := x
  · -- The nodes of `f` are never reached.
    have hfault : nodes.findSome? (fault? lookup) = some err := (hx.error_iff err).mp rfl
    constructor
    · intro err'
      simp [hfault]
    · rw [visited_append_of_fault hfault]
      exact hx.asked_eq
  · have hnext := hf value rfl
    constructor
    · intro err
      rw [Consultation.bind_ok, List.findSome?_append, hx.no_fault, Option.none_or]
      exact hnext.error_iff err
    · rw [visited_append_of_no_fault hx.no_fault, List.filterMap_append, ← hx.asked_eq_of_ok,
        ← hnext.asked_eq, Consultation.bind_ok]

/-- A node that asks nothing fails by itself or not at all. -/
theorem follows_singleton {e : Expression} {result : Except EvaluationError Float}
    (hname : e.varName? = none)
    (hresult : ∀ err, result = .error err ↔ e.fault? lookup = some err) :
    Follows lookup [e] ⟨[], result⟩ where
  error_iff err := by simp [hresult]
  asked_eq := by simp [visited, hname]

/-- **First failure**: the evaluation fails with the first node in postorder
    that fails by itself, and asks for the variables up to this node. -/
theorem evaluate_follows (lookup : Lookup) (e : Expression) :
    Follows lookup e.postorder (e.evaluate lookup) := by
  induction e with
  | number value => exact follows_singleton rfl (by simp [fault?])
  | var name =>
    cases hlookup : lookup name with
    | ok value =>
      have hanswer : (Expression.var name).evaluate lookup = ⟨[name], .ok value⟩ := by
        rw [evaluate, askVariable, hlookup]
        rfl
      rw [hanswer]
      constructor <;> simp [postorder, visited, fault?, varName?, hlookup]
    | error e =>
      have hanswer : (Expression.var name).evaluate lookup =
          ⟨[name], .error (.ofLookup name e)⟩ := by
        rw [evaluate, askVariable, hlookup]
        rfl
      rw [hanswer]
      constructor <;> simp [postorder, visited, fault?, varName?, hlookup]
  | group inner ih =>
    -- The parentheses are a node that asks nothing and cannot fail.
    have hsame : (Expression.group inner).evaluate lookup = inner.evaluate lookup >>= pure :=
      (bind_pure _).symm
    rw [hsame, postorder]
    exact ih.andThen fun value _ => follows_singleton rfl (by simp [fault?])
  | binary op left right ihl ihr =>
    rw [postorder, List.append_assoc, evaluate]
    refine ihl.andThen fun x hx => ihr.andThen fun y hy => follows_singleton rfl fun err => ?_
    simp only [operate, fault?, hx, hy]
    cases op.value? x y <;> simp

/-- The variables among the nodes are those among the tokens, in text order. -/
theorem filterMap_postorder (e : Expression) :
    e.postorder.filterMap varName? = e.tokens.filterMap Token.varName? := by
  induction e with
  | number | var => rfl
  | group inner ih => simp [postorder, tokens, ih, varName?, Token.varName?, List.filterMap_cons]
  | binary op left right ihl ihr =>
    simp [postorder, tokens, ihl, ihr, varName?, Token.varName?, List.filterMap_cons]

/-- A reason about a variable is not the reason for malformed tokens. -/
theorem aboutVariable_ne_malformed (name reason : String) :
    aboutVariable name reason ≠ EvaluationError.malformed.message := by
  intro h
  have hhead := congrArg (fun text => text.toList.head?) h
  simp [aboutVariable, EvaluationError.message, String.toList_append] at hhead

/-- No node fails with the error for malformed tokens, not even with its wording. -/
theorem message_of_fault {e : Expression} {err : EvaluationError}
    (h : e.fault? lookup = some err) : err.message ≠ EvaluationError.malformed.message := by
  cases e with
  | number | group => simp [fault?] at h
  | var name =>
    simp only [fault?] at h
    split at h
    · simp at h
    · next reason _ =>
      rw [← Option.some.inj h, EvaluationError.message_ofLookup]
      exact aboutVariable_ne_malformed name _
  | binary op left right =>
    have herr : err = .divisionByZero := by
      simp only [fault?] at h
      grind
    rw [herr]
    decide

theorem message_of_evaluate {e : Expression} {err : EvaluationError}
    (h : (e.evaluate lookup).result = .error err) :
    err.message ≠ EvaluationError.malformed.message := by
  obtain ⟨node, -, hfault⟩ :=
    List.exists_of_findSome?_eq_some (((evaluate_follows lookup e).error_iff err).mp h)
  exact message_of_fault hfault

end Expression

end Worksheet.Formula
