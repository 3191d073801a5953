import Worksheet.Formula.Hash
import Worksheet.Proofs.Formula.Spelling

/-! # What determines a formula

    A formula can be told from two things that are made of it.

      • The canonical text: under the plain rules every spelling of a formula is
        parsed as this very formula, whatever rules it came from.  The name
        rules have done their work by then, so nothing is left for them to
        change or to refuse.
      • The hash key: the number of tokens in front says how many keys follow,
        and the kind in front of each key says where it ends. -/

namespace Worksheet

/-! ### Hash keys -/

theorem Operator.index_injective {op op' : Operator} (h : op.index = op'.index) : op = op' := by
  cases op <;> cases op' <;> first | rfl | exact nomatch h

/-- A number is determined by its bits. -/
theorem Number.eq_of_toBits {x y : Float} (h : x.toBits.toNat = y.toBits.toNat) : x = y := by
  have hbits : x.toBits = y.toBits := UInt64.toNat_inj.mp h
  rw [← Float.ofBits_toBits x, hbits, Float.ofBits_toBits]

namespace Token

variable {token token' : Token} {tokens tokens' : List Token} {rest rest' : List HashPart}

/-- The key of a token can be told from whatever follows it. -/
theorem eq_of_hashKey_append (h : token.hashKey ++ rest = token'.hashKey ++ rest') :
    token = token' ∧ rest = rest' := by
  -- Tokens of different kinds differ in the first number already.
  cases token <;> cases token' <;> simp [hashKey] at h ⊢
  case leftParen => exact h
  case rightParen => exact h
  case operator.operator => exact ⟨Operator.index_injective h.1, h.2⟩
  case number.number => exact ⟨Number.eq_of_toBits h.1, h.2⟩
  case var => exact h

/-- Equally many tokens can be told from their keys. -/
theorem eq_of_flatMap_hashKey (hlength : tokens.length = tokens'.length)
    (h : tokens.flatMap hashKey ++ rest = tokens'.flatMap hashKey ++ rest') : tokens = tokens' := by
  induction tokens generalizing tokens' with
  | nil => exact (List.length_eq_zero_iff.mp hlength.symm).symm
  | cons token tokens ih =>
    obtain ⟨token', tokens', rfl⟩ := List.exists_cons_of_length_eq_add_one hlength.symm
    rw [List.flatMap_cons, List.flatMap_cons, List.append_assoc, List.append_assoc] at h
    obtain ⟨rfl, hrest⟩ := eq_of_hashKey_append h
    rw [ih (Nat.succ.inj hlength) hrest]

end Token

namespace Formula

variable {rules : NameRules} {text : String} {f g : Formula}

theorem eq_of_tokens (h : f.tokens = g.tokens) : f = g := by
  cases f
  cases g
  cases h
  rfl

/-- Formulas with the same hash key are equal. -/
theorem hashKey_inj : f.hashKey = g.hashKey ↔ f = g := by
  constructor
  · intro h
    rw [hashKey, hashKey, List.cons_append, List.cons_append] at h
    obtain ⟨hlength, hparts⟩ := List.cons.inj h
    exact eq_of_tokens (Token.eq_of_flatMap_hashKey (HashPart.number.inj hlength) hparts)
  · exact congrArg hashKey

/-! ### Canonical texts -/

theorem isSettled_plain (token : Token) : token.IsSettled .plain := by
  cases token with
  | var name => exact ⟨rfl, rfl⟩
  | leftParen | rightParen | operator | number => trivial

/-- The plain rules find a formula in each of its spellings. -/
theorem result_parse_plain (h : (parse rules text).result = .ok f) {spelling : String}
    (hspelling : Spells f.tokens spelling.toList) : (parse .plain spelling).result = .ok f :=
  result_parse_of_spells hspelling (isWritable_of_parse h) fun token _ => isSettled_plain token

/-- Parsed formulas with the same canonical text are equal. -/
theorem text_inj {rules' : NameRules} {text' : String} (hf : (parse rules text).result = .ok f)
    (hg : (parse rules' text').result = .ok g) : f.text = g.text ↔ f = g := by
  constructor
  · intro hsame
    have hf := result_parse_plain hf (spells_text f)
    have hg := result_parse_plain hg (spells_text g)
    -- One text has one formula.
    rw [← hsame, hf] at hg
    exact Except.ok.inj hg
  · exact congrArg Formula.text

/-- **Canonical text determines the formula**: a formula that was parsed under
    any rules is parsed again, token by token, from its canonical text with any
    blanks before, between and after the tokens.  It is equal to another parsed
    formula exactly if the canonical texts are equal, and exactly if the hash
    keys are. -/
theorem canonical_text_determines (h : (parse rules text).result = .ok f) :
    (∀ spelling : String, Spells f.tokens spelling.toList →
      (parse .plain spelling).result = .ok f) ∧
    (parse .plain f.text).result = .ok f ∧
    ∀ rules' text' g, (parse rules' text').result = .ok g →
      (f = g ↔ f.text = g.text) ∧ (f = g ↔ f.hashKey = g.hashKey) := by
  refine ⟨fun spelling hspelling => ?_, ?_, fun rules' text' g hg => ⟨?_, ?_⟩⟩
  · exact result_parse_plain h hspelling
  · exact result_parse_plain h (spells_text f)
  · exact (text_inj h hg).symm
  · exact hashKey_inj.symm

/-- A variable that looks like an exponent stands behind a number only with an
    operator between them. -/
theorem canonical_text_determines_exponent :
    let rules : NameRules := ⟨String.toUpper, fun _ => true⟩
    let f : Formula := ⟨[.number 2.5, .operator .sub, .var "E1"], rfl⟩
    (parse rules "2.50 -e1").result = .ok f ∧
      (parse .plain "2.5-E1").result = .ok f ∧
      (parse .plain "\t2.5- E1\n").result = .ok f := by
  intro rules f
  have h : (parse rules "2.50 -e1").result = .ok f := by decide +kernel
  have hlast : Spells [.var "E1"] ([' '] ++ "E1".toList ++ ['\n']) :=
    .cons (by simp [Text.isBlank]) (.nil (by simp [Text.isBlank]))
  have hspells : Spells f.tokens (['\t'] ++ "2.5".toList ++
      ([] ++ "-".toList ++ ([' '] ++ "E1".toList ++ ['\n']))) := by
    have hnumber : "2.5" = (Token.number 2.5).text := by decide +kernel
    rw [hnumber]
    exact .cons (by simp [Text.isBlank]) (.cons (List.forall_mem_nil _) hlast)
  obtain ⟨hspellings, htext, -⟩ := canonical_text_determines h
  refine ⟨h, ?_, hspellings _ ?_⟩
  · rwa [show f.text = "2.5-E1" by decide +kernel] at htext
  · exact hspells

end Formula

end Worksheet
