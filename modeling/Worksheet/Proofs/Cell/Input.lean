import Worksheet.Cell.Content
import Worksheet.Proofs.Formula.Spelling
import Worksheet.Proofs.Text.Trim

/-! # Entering what a cell gives back

    An input is a number, a formula or a text, and which of them it is can be
    seen from the input alone.  Every content gives an input, and entering this
    input gives the content again, if the rules leave normal forms alone.  A
    number comes back with the same bits and a formula with the same tokens; a
    text is what was entered, so it is read as a text again. -/

namespace Worksheet.Content

open Number (magnitude infinity)

/-- A content as it is entered: numbers are finite, and formulas have tokens
    that can be written. -/
def IsWritable : Content → Prop
  | .number value => magnitude value < infinity
  | .text _ => True
  | .formula value => ∀ token ∈ value.tokens, token.IsWritable

variable {rules : NameRules} {raw : String} {content : Content}

/-! ### Numbers, formulas and texts -/

/-- The input is entered as a text under all rules: it is no number, even
    without the blanks around it, and does not begin with the formula marker. -/
def IsPlain (raw : String) : Prop :=
  Number.ofText? (Text.trim raw.toList) = none ∧ raw.toList.head? ≠ some formulaMarker

/-- What begins with a character that is in no number is no number. -/
theorem ofText?_cons_eq_none {c : Char} (hsign : Number.isSign c = false)
    (hc : c.isDigit = false ∧ c ≠ '.' ∧ Number.isExponentMark c = false) (cs : List Char) :
    Number.ofText? (c :: cs) = none := by
  refine Number.ofText?_eq_none hsign fun d hd => ?_
  rwa [← Option.some.inj hd]

theorem ofText?_formulaMarker (cs : List Char) : Number.ofText? (formulaMarker :: cs) = none :=
  ofText?_cons_eq_none (by decide) (by decide) cs

theorem ofInput_of_number {value : Float}
    (h : Number.ofText? (Text.trim raw.toList) = some value) :
    ofInput rules raw = .ok (.number value) := by
  unfold ofInput enter
  rw [h]
  rfl

theorem ofInput_of_isPlain (h : IsPlain raw) : ofInput rules raw = .ok (.text raw) := by
  unfold ofInput enter
  rw [h.1]
  dsimp only
  split
  · rfl
  · next c rest hraw =>
    have hc : c ≠ formulaMarker := by
      rintro rfl
      exact h.2 (by rw [hraw, List.head?_cons])
    rw [if_neg hc]
    rfl

/-- What begins with the formula marker is entered as the formula behind it. -/
theorem ofInput_of_formulaMarker {rest : List Char} (h : raw.toList = formulaMarker :: rest) :
    ofInput rules raw = (Formula.parse rules (String.ofList rest)).result.map .formula := by
  have hblank : Text.isBlank formulaMarker = false := by decide
  unfold ofInput enter
  rw [h, Text.trim_cons_of_not_isBlank hblank, ofText?_formulaMarker]
  dsimp only
  rw [if_pos rfl, map_eq_pure_bind, Consultation.bind_eq, Consultation.andThen]
  cases (Formula.parse rules (String.ofList rest)).result <;> rfl

/-- An input is a number, begins with the formula marker, or is plain. -/
theorem input_cases (raw : String) :
    (∃ value, Number.ofText? (Text.trim raw.toList) = some value) ∨
    (∃ rest, raw.toList = formulaMarker :: rest) ∨ IsPlain raw := by
  cases hnumber : Number.ofText? (Text.trim raw.toList) with
  | some value => exact .inl ⟨value, rfl⟩
  | none =>
    by_cases hmarker : raw.toList.head? = some formulaMarker
    · exact .inr (.inl (List.head?_eq_some_iff.mp hmarker))
    · exact .inr (.inr ⟨hnumber, hmarker⟩)

/-- What an input is entered as: a number where there is one, otherwise a text
    or, behind the marker, a formula. -/
theorem ofInput_cases (h : ofInput rules raw = .ok content) :
    (∃ value, Number.ofText? (Text.trim raw.toList) = some value ∧ content = .number value) ∨
    (∃ rest f, raw.toList = formulaMarker :: rest ∧
      (Formula.parse rules (String.ofList rest)).result = .ok f ∧ content = .formula f) ∨
    (IsPlain raw ∧ content = .text raw) := by
  rcases input_cases raw with ⟨value, hvalue⟩ | ⟨rest, hraw⟩ | hplain
  · rw [ofInput_of_number hvalue] at h
    exact .inl ⟨value, hvalue, (Except.ok.inj h).symm⟩
  · rw [ofInput_of_formulaMarker hraw] at h
    cases hf : (Formula.parse rules (String.ofList rest)).result with
    | error e =>
      rw [hf] at h
      exact nomatch h
    | ok f =>
      rw [hf] at h
      exact .inr (.inl ⟨rest, f, hraw, hf, (Except.ok.inj h).symm⟩)
  · rw [ofInput_of_isPlain hplain] at h
    exact .inr (.inr ⟨hplain, (Except.ok.inj h).symm⟩)

theorem isWritable_of_ofInput (h : ofInput rules raw = .ok content) : content.IsWritable := by
  rcases ofInput_cases h with ⟨value, hvalue, rfl⟩ | ⟨rest, f, -, hf, rfl⟩ | ⟨-, rfl⟩
  · exact Number.magnitude_lt_of_ofText? hvalue
  · exact Formula.isWritable_of_parse hf
  · trivial

/-- There is no blank in the canonical text of a number. -/
theorem not_isBlank_of_mem_canonical {value : Float} (h : magnitude value < infinity) {c : Char}
    (hc : c ∈ (Number.canonical value).toList) : Text.isBlank c = false := by
  rcases Number.mem_canonical h hc with hdigit | rfl | rfl
  · exact Formula.not_isBlank_of_isPart (Formula.isPart_of_isDigit hdigit)
  · decide
  · decide

theorem toList_input_formula (f : Formula) :
    (input (.formula f)).toList = formulaMarker :: f.text.toList := by
  simp [input]

/-- There is no blank in the input of a formula. -/
theorem not_isBlank_of_mem_input_formula {f : Formula}
    (h : ∀ token ∈ f.tokens, token.IsWritable) {c : Char}
    (hc : c ∈ (input (.formula f)).toList) : Text.isBlank c = false := by
  rw [toList_input_formula] at hc
  rcases List.mem_cons.mp hc with rfl | hc
  · decide
  · exact Formula.not_isBlank_of_mem_text h hc

/-! ### Entering an input again -/

/-- The canonical text of a number is entered as this number. -/
theorem ofInput_canonical {value : Float} (h : magnitude value < infinity) :
    ofInput rules (Number.canonical value) = .ok (.number value) := by
  apply ofInput_of_number
  rw [Text.trim_eq_self_of_not_isBlank fun _ => not_isBlank_of_mem_canonical h]
  exact Number.ofText?_canonical h

/-- The input of a formula is entered as this formula, if the rules leave normal
    forms alone. -/
theorem ofInput_input_formula {text : String} {f : Formula}
    (hnormal : ∀ name, rules.normalize (rules.normalize name) = rules.normalize name)
    (h : (Formula.parse rules text).result = .ok f) :
    ofInput rules (input (.formula f)) = .ok (.formula f) := by
  rw [ofInput_of_formulaMarker (toList_input_formula f), String.ofList_toList,
    Formula.result_parse_text hnormal h]
  rfl

/-- What was entered is entered again as its own input.  Only for formulas it
    matters what the rules do to normal forms. -/
theorem ofInput_input_of_ofInput (h : ofInput rules raw = .ok content)
    (hnormal : ∀ f, content = .formula f →
      ∀ name, rules.normalize (rules.normalize name) = rules.normalize name) :
    ofInput rules content.input = .ok content := by
  rcases ofInput_cases h with ⟨value, hvalue, rfl⟩ | ⟨rest, f, -, hf, rfl⟩ | ⟨-, rfl⟩
  · exact ofInput_canonical (Number.magnitude_lt_of_ofText? hvalue)
  · exact ofInput_input_formula (hnormal f rfl) hf
  · exact h

theorem ofInput_input
    (hnormal : ∀ name, rules.normalize (rules.normalize name) = rules.normalize name)
    (h : ofInput rules raw = .ok content) : ofInput rules content.input = .ok content :=
  ofInput_input_of_ofInput h fun _ _ => hnormal

/-- **Contents give themselves back**: what was entered is entered again as its
    own input, and then this input stays what it is.  For a formula the rules
    have to leave normal forms alone.  A number needs no such rules and has the
    same bits again, and a text needs none either: it is what was entered,
    character for character, and under no rules does it turn into anything
    else. -/
theorem ofInput_own_input (h : ofInput rules raw = .ok content)
    (hnormal : ∀ f, content = .formula f →
      ∀ name, rules.normalize (rules.normalize name) = rules.normalize name) :
    ofInput rules content.input = .ok content ∧
    (∀ again, ofInput rules content.input = .ok again → again.input = content.input) ∧
    (∀ value, content = .number value → ∀ others, ∃ again,
      ofInput others content.input = .ok (.number again) ∧ again.toBits = value.toBits) ∧
    ∀ value, content = .text value → value = raw ∧ content.input = raw ∧
      ∀ others, ofInput others raw = .ok (.text raw) := by
  have hagain := ofInput_input_of_ofInput h hnormal
  refine ⟨hagain, fun again hother => ?_, fun value hvalue others => ?_, fun value hvalue => ?_⟩
  · obtain rfl := Except.ok.inj (hagain.symm.trans hother)
    rfl
  · subst hvalue
    have hfinite : magnitude value < infinity := isWritable_of_ofInput h
    exact ⟨value, ofInput_canonical hfinite, rfl⟩
  · subst hvalue
    rcases ofInput_cases h with ⟨_, -, heq⟩ | ⟨_, _, -, -, heq⟩ | ⟨hplain, heq⟩
    · exact nomatch heq
    · exact nomatch heq
    · obtain rfl := Content.text.inj heq
      exact ⟨rfl, rfl, fun _ => ofInput_of_isPlain hplain⟩

/-- Rules that give every name the same normal form, and rules that have none: a
    formula needs the former, negative zero can do with the latter. -/
theorem ofInput_own_input_signed :
    let constant : NameRules := ⟨fun _ => "x", fun _ => true⟩
    let growing : NameRules := ⟨fun name => name ++ "1", fun _ => true⟩
    let zero := Content.number (Number.ofMagnitude true 0)
    (∃ f, ofInput constant "= a*(b + 2.50)" = .ok (.formula f) ∧
      ofInput constant (input (.formula f)) = .ok (.formula f)) ∧
    ofInput growing " -0.0 " = .ok zero ∧ zero.input = "-0" ∧
      ofInput growing zero.input = .ok zero := by
  intro constant growing zero
  refine ⟨?_, ?_⟩
  · obtain ⟨f, hf⟩ : ∃ f, ofInput constant "= a*(b + 2.50)" = .ok (.formula f) :=
      ⟨⟨[.var "x", .operator .mul, .leftParen, .var "x", .operator .add, .number 2.5, .rightParen],
        rfl⟩, by decide +kernel⟩
    exact ⟨f, hf, (ofInput_own_input hf fun _ _ _ => rfl).1⟩
  · have hzero : ofInput growing " -0.0 " = .ok zero := by decide +kernel
    exact ⟨hzero, by decide +kernel, (ofInput_own_input hzero fun _ hf => nomatch hf).1⟩

end Worksheet.Content
