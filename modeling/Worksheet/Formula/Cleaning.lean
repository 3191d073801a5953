import Worksheet.Consultation
import Worksheet.Name.Rules
import Worksheet.Formula.Lexeme
import Worksheet.Formula.Token
import Worksheet.Formula.Error

/-! # From lexemes to tokens

    Each lexeme becomes a token: a numeral its value, a variable the normal
    form that the name rules give.  The first lexeme that cannot become a
    token ends the work with its error, and later ones are not looked at, so
    the rules are not consulted about them. -/

namespace Worksheet

/-- The variable with the normal form of `raw`, if that has the shape of a
    variable and the rules allow it. -/
def Token.ofVariable (rules : NameRules) (raw : String) :
    Consultation NameQuery FormulaError Token := do
  let name ← .ask (.normalize raw) (.ok (rules.normalize raw))
  if Name.isVariable name then
    let allowed ← .ask (.validate name) (.ok (rules.isValid name))
    if allowed then return .var name else .fail (.rejectedVariable raw name)
  else .fail (.invalidVariable raw name)

/-- The token that a numeral writes, if its value is in range. -/
def Token.ofNumeral (text : String) : Except FormulaError Token :=
  match Number.ofNumeral? false text.toList with
  | some x =>
    if Number.magnitude x < Number.infinity then .ok (.number x)
    else .error (.numberOutOfRange text)
  | none => .error (.invalidToken text)

/-- The token that a lexeme stands for. -/
def Token.ofLexeme (rules : NameRules) (lexeme : Formula.Lexeme) :
    Consultation NameQuery FormulaError Token :=
  match lexeme.shape with
  | .leftParen => .give .leftParen
  | .rightParen => .give .rightParen
  | .operator =>
    match Operator.ofSymbol? lexeme.text.toList with
    | some op => .give (.operator op)
    | none => .fail (.invalidToken lexeme.text)
  | .number => ⟨[], Token.ofNumeral lexeme.text⟩
  | .var => Token.ofVariable rules lexeme.text
  | .unrecognized => .fail (.invalidToken lexeme.text)

/-- The tokens that lexemes stand for, up to the first that has none. -/
def Token.ofLexemes (rules : NameRules) :
    List Formula.Lexeme → Consultation NameQuery FormulaError (List Token)
  | [] => .give []
  | lexeme :: rest => do
    let token ← Token.ofLexeme rules lexeme
    let tokens ← Token.ofLexemes rules rest
    return token :: tokens

end Worksheet
