import Mathlib.Data.List.TakeWhile
import Worksheet.Number.Numeral

/-! # The longest numeral

    A numeral by its grammar: digits before a point, behind it, or both, and
    perhaps an exponent, which needs a digit of its own.  The lengths that are
    counted off the front of a text belong to the longest beginning that has this
    grammar.  Each part is shown to reach as far as it can whatever follows, and
    what is counted is shown to be such a part.

    Only the point and the exponent could be taken in two ways.  A mantissa that
    is followed by the mark of an exponent has come to its end, so a longer
    numeral cannot begin with a shorter mantissa. -/

namespace Worksheet.Number

/-! ### The grammar -/

/-- Digits before a point, behind it or both, or digits without a point. -/
inductive IsMantissa : List Char → Prop
  | whole {digits : List Char} : digits ≠ [] → (∀ c ∈ digits, c.isDigit = true) → IsMantissa digits
  | pointed {whole places : List Char} : (∀ c ∈ whole, c.isDigit = true) →
    (∀ c ∈ places, c.isDigit = true) → whole ≠ [] ∨ places ≠ [] →
    IsMantissa (whole ++ '.' :: places)

/-- The mark, perhaps a sign, and at least one digit. -/
inductive IsExponent : List Char → Prop
  | unsigned {mark : Char} {digits : List Char} : isExponentMark mark = true → digits ≠ [] →
    (∀ c ∈ digits, c.isDigit = true) → IsExponent (mark :: digits)
  | signed {mark sign : Char} {digits : List Char} : isExponentMark mark = true →
    isSign sign = true → digits ≠ [] → (∀ c ∈ digits, c.isDigit = true) →
    IsExponent (mark :: sign :: digits)

/-- A mantissa, perhaps with an exponent behind it. -/
def IsNumeral (cs : List Char) : Prop :=
  ∃ mantissa exponent, cs = mantissa ++ exponent ∧ IsMantissa mantissa ∧
    (exponent = [] ∨ IsExponent exponent)

variable {cs digits mantissa exponent rest : List Char}

theorem IsMantissa.ne_nil (h : IsMantissa mantissa) : mantissa ≠ [] := by
  cases h with
  | whole hne _ => exact hne
  | pointed => simp

theorem IsNumeral.ne_nil (h : IsNumeral cs) : cs ≠ [] := by
  obtain ⟨mantissa, exponent, rfl, hmantissa, -⟩ := h
  simp [hmantissa.ne_nil]

/-- The characters of a numeral. -/
theorem IsNumeral.mem (h : IsNumeral cs) {c : Char} (hc : c ∈ cs) :
    c.isDigit = true ∨ c = '.' ∨ isExponentMark c = true ∨ isSign c = true := by
  obtain ⟨mantissa, exponent, rfl, hmantissa, hexponent⟩ := h
  rcases List.mem_append.mp hc with hc | hc
  · cases hmantissa with
    | whole _ hdigits => exact .inl (hdigits c hc)
    | pointed hwhole hplaces _ =>
      simp only [List.mem_append, List.mem_cons] at hc
      rcases hc with hc | rfl | hc
      · exact .inl (hwhole c hc)
      · exact .inr (.inl rfl)
      · exact .inl (hplaces c hc)
  · rcases hexponent with rfl | hexponent
    · exact nomatch hc
    · cases hexponent with
      | unsigned hmark _ hdigits =>
        rcases List.mem_cons.mp hc with rfl | hc
        · exact .inr (.inr (.inl hmark))
        · exact .inl (hdigits c hc)
      | signed hmark hsign _ hdigits =>
        simp only [List.mem_cons] at hc
        rcases hc with rfl | rfl | hc
        · exact .inr (.inr (.inl hmark))
        · exact .inr (.inr (.inr hsign))
        · exact .inl (hdigits c hc)

/-! ### Digits -/

theorem digitRun_append {ds rest : List Char} (hds : ∀ c ∈ ds, c.isDigit = true)
    (hrest : ∀ c, rest.head? = some c → c.isDigit = false) :
    digitRun (ds ++ rest) = ds.length := by
  unfold digitRun
  rw [List.takeWhile_append_of_pos hds]
  cases rest with
  | nil => simp
  | cons c rest => simp [hrest c rfl]

theorem le_digitRun_append (hdigits : ∀ c ∈ digits, c.isDigit = true) (rest : List Char) :
    digits.length ≤ digitRun (digits ++ rest) := by
  rw [digitRun, List.takeWhile_append_of_pos hdigits, List.length_append]
  omega

theorem take_digitRun (cs : List Char) : cs.take (digitRun cs) = cs.takeWhile Char.isDigit :=
  (List.prefix_iff_eq_take.mp (List.takeWhile_prefix Char.isDigit)).symm

theorem isDigit_of_mem_take {c : Char} (h : c ∈ cs.take (digitRun cs)) : c.isDigit = true := by
  rw [take_digitRun] at h
  exact List.mem_takeWhile_imp h

theorem digitRun_le_length (cs : List Char) : digitRun cs ≤ cs.length :=
  (List.takeWhile_prefix Char.isDigit).length_le

theorem take_digitRun_ne_nil (h : digitRun cs ≠ 0) : cs.take (digitRun cs) ≠ [] := by
  have hle := digitRun_le_length cs
  rw [← List.length_pos_iff, List.length_take]
  omega

/-! ### Mantissas -/

theorem mantissaLength_point (hdigits : ∀ c ∈ digits, c.isDigit = true) (rest : List Char) :
    mantissaLength (digits ++ '.' :: rest) =
      if digits.length = 0 ∧ digitRun rest = 0 then 0 else digits.length + 1 + digitRun rest := by
  have hpoint : ∀ c, ('.' :: rest).head? = some c → c.isDigit = false := by
    intro c hc
    rw [← Option.some.inj hc]
    decide
  unfold mantissaLength
  rw [digitRun_append hdigits hpoint]
  dsimp only
  rw [List.drop_left]
  rfl

theorem digitRun_le_mantissaLength (cs : List Char) : digitRun cs ≤ mantissaLength cs := by
  unfold mantissaLength
  dsimp only
  split
  · split <;> omega
  · exact Nat.le_refl _

/-- Whatever follows, a mantissa is counted to its end. -/
theorem IsMantissa.le_mantissaLength (h : IsMantissa mantissa) (rest : List Char) :
    mantissa.length ≤ mantissaLength (mantissa ++ rest) := by
  cases h with
  | whole _ hdigits => exact (le_digitRun_append hdigits rest).trans (digitRun_le_mantissaLength _)
  | @pointed whole places hwhole hplaces hne =>
    -- The point counts, for there is a digit on one side of it.
    have hrun := le_digitRun_append hplaces rest
    have hsome : ¬ (whole.length = 0 ∧ digitRun (places ++ rest) = 0) := by
      simp only [← List.length_pos_iff] at hne
      omega
    rw [List.append_assoc, List.cons_append, mantissaLength_point hwhole, if_neg hsome,
      List.length_append, List.length_cons]
    omega

/-- A mantissa ends where neither a digit nor a point follows. -/
theorem IsMantissa.mantissaLength_append (h : IsMantissa mantissa)
    (hrest : ∀ c, rest.head? = some c → c.isDigit = false ∧ c ≠ '.') :
    mantissaLength (mantissa ++ rest) = mantissa.length := by
  have hends : ∀ c, rest.head? = some c → c.isDigit = false := fun c hc => (hrest c hc).1
  cases h with
  | whole _ hdigits =>
    unfold mantissaLength
    rw [digitRun_append hdigits hends]
    dsimp only
    rw [List.drop_left]
    split
    · exact absurd rfl (hrest '.' rfl).2
    · rfl
  | @pointed whole places hwhole hplaces hne =>
    have hsome : ¬ (whole.length = 0 ∧ places.length = 0) := by
      simp only [← List.length_pos_iff] at hne
      omega
    rw [List.append_assoc, List.cons_append, mantissaLength_point hwhole,
      digitRun_append hplaces hends, if_neg hsome, List.length_append, List.length_cons]
    omega

/-- What is counted is a mantissa. -/
theorem isMantissa_take (h : mantissaLength cs ≠ 0) : IsMantissa (cs.take (mantissaLength cs)) := by
  -- The digits in front and what follows them.
  obtain ⟨digits, rest, hsplit, hdigits, hrest⟩ : ∃ digits rest, cs = digits ++ rest ∧
      (∀ c ∈ digits, c.isDigit = true) ∧ ∀ c, rest.head? = some c → c.isDigit = false := by
    refine ⟨cs.takeWhile Char.isDigit, cs.dropWhile Char.isDigit, ?_, ?_, ?_⟩
    · exact List.takeWhile_append_dropWhile.symm
    · exact fun c hc => List.mem_takeWhile_imp hc
    · intro c hc
      simpa [hc] using List.head?_dropWhile_not Char.isDigit cs
  subst hsplit
  by_cases hpoint : rest.head? = some '.'
  · -- With the point behind them, the digits behind the point are counted too.
    obtain ⟨rest, rfl⟩ := List.head?_eq_some_iff.mp hpoint
    rw [mantissaLength_point hdigits] at h ⊢
    split at h
    · exact absurd rfl h
    · next hsome =>
      rw [if_neg hsome]
      have htake : (digits ++ '.' :: rest).take (digits.length + 1 + digitRun rest) =
          digits ++ '.' :: rest.take (digitRun rest) := by
        rw [Nat.add_assoc, List.take_length_add_append, Nat.add_comm 1, List.take_succ_cons]
      rw [htake]
      refine .pointed hdigits (fun c => isDigit_of_mem_take) ?_
      by_cases hnone : digits.length = 0
      · exact .inr (take_digitRun_ne_nil fun hzero => hsome ⟨hnone, hzero⟩)
      · exact .inl fun hnil => hnone (by rw [hnil]; rfl)
  · have hlength : mantissaLength (digits ++ rest) = digits.length := by
      unfold mantissaLength
      rw [digitRun_append hdigits hrest]
      dsimp only
      rw [List.drop_left]
      split
      · exact absurd rfl hpoint
      · rfl
    rw [hlength] at h ⊢
    rw [List.take_left]
    exact .whole (fun hnil => h (by rw [hnil]; rfl)) hdigits

theorem mantissaLength_le_length (cs : List Char) : mantissaLength cs ≤ cs.length := by
  have hrun := digitRun_le_length cs
  unfold mantissaLength
  dsimp only
  split
  · next rest hdrop =>
    have hlength := congrArg List.length hdrop
    have hplaces := digitRun_le_length rest
    rw [List.length_drop, List.length_cons] at hlength
    split <;> omega
  · exact hrun

/-! ### Exponents -/

theorem not_isSign_of_isDigit {c : Char} (h : c.isDigit = true) : isSign c = false := by
  rw [Bool.eq_false_iff]
  intro hsign
  simp only [isSign, Bool.or_eq_true, decide_eq_true_eq] at hsign
  rcases hsign with rfl | rfl <;> exact absurd h (by decide)

theorem exponentLength_cons {mark : Char} (hmark : isExponentMark mark = true) (cs : List Char) :
    exponentLength (mark :: cs) =
      if digitRun (cs.drop (signLength cs)) = 0 then 0
      else 1 + signLength cs + digitRun (cs.drop (signLength cs)) := by
  unfold exponentLength
  simp [hmark]

/-- Whatever follows, an exponent is counted to its end. -/
theorem IsExponent.le_exponentLength (h : IsExponent exponent) (rest : List Char) :
    exponent.length ≤ exponentLength (exponent ++ rest) := by
  cases h with
  | @unsigned mark digits hmark hne hdigits =>
    -- The first digit is not taken for a sign.
    have hsign : signLength (digits ++ rest) = 0 := by
      obtain ⟨c, digits, rfl⟩ := List.exists_cons_of_ne_nil hne
      simp [signLength, not_isSign_of_isDigit (hdigits c (by simp))]
    have hrun := le_digitRun_append hdigits rest
    have hpos := List.length_pos_iff.mpr hne
    rw [List.cons_append, exponentLength_cons hmark, hsign, List.drop_zero, if_neg (by omega),
      List.length_cons]
    omega
  | @signed mark sign digits hmark hsign hne hdigits =>
    have hlength : signLength (sign :: digits ++ rest) = 1 := by simp [signLength, hsign]
    have hrun := le_digitRun_append hdigits rest
    have hpos := List.length_pos_iff.mpr hne
    rw [List.cons_append, exponentLength_cons hmark, hlength, List.cons_append, List.drop_one,
      List.tail_cons, if_neg (by omega), List.length_cons, List.length_cons]
    omega

/-- What is counted is an exponent. -/
theorem isExponent_take (h : exponentLength cs ≠ 0) : IsExponent (cs.take (exponentLength cs)) := by
  cases cs with
  | nil => exact absurd rfl h
  | cons mark cs =>
    have hmark : isExponentMark mark = true := by
      by_contra hno
      exact h (by simp [exponentLength, hno])
    rw [exponentLength_cons hmark] at h ⊢
    have hrun : digitRun (cs.drop (signLength cs)) ≠ 0 := by
      intro hzero
      rw [if_pos hzero] at h
      exact h rfl
    rw [if_neg hrun, Nat.add_assoc, Nat.add_comm 1, List.take_succ_cons]
    have hne := take_digitRun_ne_nil hrun
    cases cs with
    | nil => exact absurd rfl hrun
    | cons sign cs =>
      -- What follows the mark is a sign or the first digit.
      by_cases hsign : isSign sign = true
      · have hlength : signLength (sign :: cs) = 1 := by simp [signLength, hsign]
        rw [hlength, Nat.add_comm 1, List.take_succ_cons]
        rw [hlength] at hne
        exact .signed hmark hsign hne fun c => isDigit_of_mem_take
      · have hlength : signLength (sign :: cs) = 0 := by simp [signLength, hsign]
        rw [hlength, Nat.zero_add]
        rw [hlength] at hne
        exact .unsigned hmark hne fun c => isDigit_of_mem_take

theorem exponentLength_le_length (cs : List Char) : exponentLength cs ≤ cs.length := by
  cases cs with
  | nil => exact Nat.le_refl _
  | cons mark cs =>
    have hrun := digitRun_le_length (cs.drop (signLength cs))
    rw [List.length_drop] at hrun
    unfold exponentLength
    dsimp only
    split
    · rw [List.length_cons]
      omega
    · exact Nat.zero_le _

/-! ### Numerals -/

/-- What is counted is a numeral. -/
theorem isNumeral_take (h : numeralLength cs ≠ 0) : IsNumeral (cs.take (numeralLength cs)) := by
  have hmantissa : mantissaLength cs ≠ 0 := fun hzero => h (by rw [numeralLength, hzero]; rfl)
  have hlength : numeralLength cs =
      mantissaLength cs + exponentLength (cs.drop (mantissaLength cs)) := by
    rw [numeralLength, if_neg hmantissa]
  refine ⟨cs.take (mantissaLength cs),
    (cs.drop (mantissaLength cs)).take (exponentLength (cs.drop (mantissaLength cs))),
    ?_, isMantissa_take hmantissa, ?_⟩
  · rw [hlength, List.take_add]
  · by_cases hexponent : exponentLength (cs.drop (mantissaLength cs)) = 0
    · exact .inl (by rw [hexponent, List.take_zero])
    · exact .inr (isExponent_take hexponent)

/-- No longer beginning of a text is a numeral. -/
theorem IsNumeral.length_le (h : IsNumeral cs) {text : List Char} (hfront : cs <+: text) :
    cs.length ≤ numeralLength text := by
  obtain ⟨rest, rfl⟩ := hfront
  obtain ⟨mantissa, exponent, rfl, hmantissa, hexponent⟩ := h
  have hpos := List.length_pos_iff.mpr hmantissa.ne_nil
  rw [List.append_assoc]
  rcases hexponent with rfl | hexponent
  · have hle := hmantissa.le_mantissaLength rest
    rw [List.nil_append, List.append_nil, numeralLength, if_neg (by omega)]
    exact hle.trans (Nat.le_add_right _ _)
  · -- The mark is neither a digit nor a point, so the mantissa ends in front of it.
    have hmark : ∀ c, (exponent ++ rest).head? = some c → c.isDigit = false ∧ c ≠ '.' := by
      intro c hc
      have hc : isExponentMark c = true := by
        cases hexponent with
        | unsigned hmark | signed hmark => exact Option.some.inj hc ▸ hmark
      simp only [isExponentMark, Bool.or_eq_true, decide_eq_true_eq] at hc
      rcases hc with rfl | rfl <;> decide
    have hle := hexponent.le_exponentLength rest
    rw [numeralLength, hmantissa.mantissaLength_append hmark, if_neg (by omega), List.drop_left,
      List.length_append]
    omega

theorem numeralLength_le_length (cs : List Char) : numeralLength cs ≤ cs.length := by
  have hmantissa := mantissaLength_le_length cs
  have hexponent := exponentLength_le_length (cs.drop (mantissaLength cs))
  rw [List.length_drop] at hexponent
  unfold numeralLength
  dsimp only
  split
  · exact Nat.zero_le _
  · omega

/-- All of a numeral is counted. -/
theorem IsNumeral.numeralLength_eq (h : IsNumeral cs) : numeralLength cs = cs.length :=
  Nat.le_antisymm (numeralLength_le_length cs) (h.length_le (List.prefix_refl cs))

/-- Every numeral writes a decimal. -/
theorem IsNumeral.exists_ofNumeral? (h : IsNumeral cs) :
    ∃ d, Decimal.ofNumeral? cs = some d :=
  ⟨_, if_pos ⟨h.ne_nil, h.numeralLength_eq⟩⟩

end Worksheet.Number
