import Std.Data.ExtTreeSet
import Worksheet.Formula.Cleaning
import Worksheet.Formula.Grammar
import Worksheet.Formula.Evaluation

/-! # Formulas

    A formula is a sequence of tokens that form an expression.  It is made
    from text in three steps: the text is cut into lexemes, the lexemes become
    tokens under the name rules, and the tokens are checked against the
    grammar. -/

namespace Worksheet

/-- A well-formed formula. -/
structure Formula where
  tokens : List Token
  /-- The tokens form an expression. -/
  checked : Formula.check tokens = .ok ()
  deriving DecidableEq

namespace Formula

/-- The formula with these tokens. -/
def ofTokens (tokens : List Token) : Except FormulaError Formula :=
  match h : check tokens with
  | .ok () => .ok ⟨tokens, h⟩
  | .error e => .error e

/-- Makes a formula from its text without any marker in front, and records
    what the name rules were asked. -/
def parse (rules : NameRules) (text : String) : Consultation NameQuery FormulaError Formula := do
  let tokens ← Token.ofLexemes rules (tokenize text)
  ⟨[], ofTokens tokens⟩

/-- The canonical text: the texts of the tokens without blanks. -/
def text (f : Formula) : String :=
  String.join (f.tokens.map Token.text)

/-- The variables of the formula, each once. -/
def variableNames (f : Formula) : Std.ExtTreeSet String :=
  .ofList (f.tokens.filterMap Token.varName?)

/-- The value of the formula, with the names that were looked up. -/
def evaluate (f : Formula) (lookup : Lookup) : Consultation String EvaluationError Float :=
  evaluateTokens lookup f.tokens

end Formula

end Worksheet
