import Mathlib
import Worksheet.Number.Basic
import Worksheet.Proofs.Number.Exact
import Worksheet.Proofs.Number.Numeral

/-! # Canonical texts are read back

    The canonical text of a finite number is digits, perhaps with a point
    between them, and a minus sign in front if the number has one.  Reading it
    gives the very number back, also negative zero, and it can be told where
    such a text ends: whatever follows, no more is read than was written. -/

namespace Worksheet.Number

/-! ### Sign and magnitude -/

section Bits

open Float.Model

theorem not_isNaNBits {b : BitVec 64} (h : b.toNat % signBit ≤ infinity) :
    @UnpackedFloat.isNaNBits Format.binary64 b = false := by
  simp only [UnpackedFloat.isNaNBits, decide_eq_false_iff_not, not_and, Decidable.not_not]
  intro hexponent
  -- With all bits of the exponent set, there is no room left for the mantissa.
  have hexponent := congrArg BitVec.toNat hexponent
  apply BitVec.eq_of_toNat_eq
  simp [UnpackedFloat.unpackExponent, UnpackedFloat.unpackMantissa, signBit, infinity,
    Nat.shiftRight_eq_div_pow] at *
  omega

theorem toBits_ofBits {bits : UInt64} (h : bits.toNat % signBit ≤ infinity) :
    (Float.ofBits bits).toBits = bits := by
  show UInt64.ofBitVec
    (UnpackedFloat.pack Format.binary64 (UnpackedFloat.unpack Format.binary64 bits.toBitVec)) = bits
  rw [UnpackedFloat.pack_unpack, not_isNaNBits h]
  rfl

end Bits

theorem toBits_ofMagnitude (negative : Bool) {bits : Nat} (h : bits ≤ infinity) :
    (ofMagnitude negative bits).toBits.toNat = if negative then signBit + bits else bits := by
  have hbound : (if negative then signBit + bits else bits) < 2 ^ 64 := by
    simp only [signBit, infinity, Nat.pow_eq] at h ⊢
    split <;> omega
  have hnat := UInt64.toNat_ofNat_of_lt' hbound
  have hrest : (if negative then signBit + bits else bits) % signBit ≤ infinity := by
    split
    · rw [Nat.add_mod_left]
      exact (Nat.mod_le _ _).trans h
    · exact (Nat.mod_le _ _).trans h
  unfold ofMagnitude
  rw [toBits_ofBits (by rwa [hnat]), hnat]

theorem lt_signBit_of_le_infinity {bits : Nat} (h : bits ≤ infinity) : bits < signBit := by
  simp only [signBit, infinity, Nat.pow_eq] at h ⊢
  omega

theorem isNegative_ofMagnitude (negative : Bool) {bits : Nat} (h : bits ≤ infinity) :
    isNegative (ofMagnitude negative bits) = negative := by
  have hsmall := lt_signBit_of_le_infinity h
  unfold isNegative
  rw [toBits_ofMagnitude negative h]
  cases negative with
  | true => simp
  | false => simpa using hsmall

theorem magnitude_ofMagnitude (negative : Bool) {bits : Nat} (h : bits ≤ infinity) :
    magnitude (ofMagnitude negative bits) = bits := by
  have hsmall := lt_signBit_of_le_infinity h
  unfold magnitude
  rw [toBits_ofMagnitude negative h]
  cases negative with
  | true => rw [if_pos rfl, Nat.add_mod_left, Nat.mod_eq_of_lt hsmall]
  | false => rw [if_neg Bool.false_ne_true, Nat.mod_eq_of_lt hsmall]

/-- A number is made of its sign and its magnitude. -/
theorem ofMagnitude_magnitude (x : Float) : ofMagnitude (isNegative x) (magnitude x) = x := by
  have hbits : (if isNegative x then signBit + magnitude x else magnitude x) = x.toBits.toNat := by
    have hbound := x.toBits.toNat_lt
    unfold isNegative magnitude signBit
    simp only [Nat.pow_eq, decide_eq_true_eq]
    split <;> omega
  unfold ofMagnitude
  rw [hbits, UInt64.ofNat_toNat, Float.ofBits_toBits]

namespace Decimal

theorem nearest_le_infinity (d : Decimal) : d.nearest ≤ infinity := by
  unfold nearest
  split
  · exact Nat.zero_le _
  · split
    · exact Nat.le_refl _
    · split
      · exact Nat.zero_le _
      · exact Nat.min_le_left _ _

/-- Zeros at the end of a whole number may be written out. -/
theorem nearest_scaled {d : Decimal} (hwhole : 0 ≤ d.exponent) (hfinite : d.nearest < infinity) :
    (⟨d.significand * 10 ^ d.exponent.toNat, 0⟩ : Decimal).nearest = d.nearest := by
  rcases Nat.eq_zero_or_pos d.significand with hzero | hpos
  · rw [nearest_of_significand_eq_zero hzero, nearest_of_significand_eq_zero (by simp [hzero])]
  · have hle : d.exponent ≤ 400 := by
      by_contra hlarge
      unfold nearest at hfinite
      rw [if_neg (by omega), if_pos (by omega)] at hfinite
      exact Nat.lt_irrefl _ hfinite
    have hscaled : 0 < d.significand * 10 ^ d.exponent.toNat :=
      Nat.mul_pos hpos (Nat.pow_pos (by omega))
    have hneg : (-d.exponent).toNat = 0 := by omega
    rw [nearest_eq hpos hle (by omega), nearest_eq hscaled (by simp) (by dsimp only; omega), hneg]
    simp

end Decimal

/-! ### Digits -/

theorem naturalValue_eq_ofDigitChars {cs : List Char} (h : ∀ c ∈ cs, c.isDigit = true) :
    naturalValue cs = Nat.ofDigitChars 10 cs 0 := by
  unfold naturalValue Nat.ofDigitChars
  generalize 0 = n
  induction cs generalizing n with
  | nil => rfl
  | cons c cs ih =>
    rw [List.foldl_cons, List.foldl_cons, if_pos (h c (by simp))]
    exact ih (fun d hd => h d (List.mem_cons_of_mem _ hd)) _

/-- A point does not change the value of the digits around it. -/
theorem naturalValue_point (whole places : List Char) :
    naturalValue (whole ++ '.' :: places) = naturalValue (whole ++ places) := by
  have hpoint : Char.isDigit '.' = false := by decide
  simp [naturalValue, hpoint]

theorem isDigit_of_mem_digits {n : Nat} {c : Char} (h : c ∈ Decimal.digits n) :
    c.isDigit = true :=
  Nat.isDigit_of_mem_toDigits (by omega) (by omega) h

/-! ### Positional texts -/

/-- Digits, perhaps with a point between them. -/
structure Positional where
  whole : List Char
  places : List Char
  whole_ne_nil : whole ≠ []
  isDigit_of_mem_whole : ∀ c ∈ whole, c.isDigit = true
  isDigit_of_mem_places : ∀ c ∈ places, c.isDigit = true

/-- No numeral goes on with `rest`. -/
def EndsNumeral (rest : List Char) : Prop :=
  ∀ c, rest.head? = some c → c.isDigit = false ∧ c ≠ '.' ∧ isExponentMark c = false

theorem endsNumeral_nil : EndsNumeral [] := by
  simp [EndsNumeral]

theorem exponentLength_eq_zero {rest : List Char} (h : EndsNumeral rest) :
    exponentLength rest = 0 := by
  cases rest with
  | nil => rfl
  | cons c rest => simp [exponentLength, (h c rfl).2.2]

theorem numeralLength_eq_zero {cs : List Char} (h : EndsNumeral cs) : numeralLength cs = 0 := by
  have hrun : digitRun ([] ++ cs) = 0 := digitRun_append (by simp) fun c hc => (h c hc).1
  have hmantissa : mantissaLength cs = 0 := by
    rw [List.nil_append] at hrun
    unfold mantissaLength
    rw [hrun]
    dsimp only
    rw [List.drop_zero]
    split
    · exact absurd rfl (h '.' rfl).2.1
    · rfl
  rw [numeralLength, hmantissa]
  rfl

namespace Positional

/-- The text, which has a point only if there are digits behind it. -/
def text (p : Positional) : List Char :=
  if p.places = [] then p.whole else p.whole ++ '.' :: p.places

/-- The decimal that the digits write. -/
def decimal (p : Positional) : Decimal :=
  ⟨naturalValue (p.whole ++ p.places), -(p.places.length : Int)⟩

variable (p : Positional)

theorem mem_text {c : Char} (h : c ∈ p.text) : c.isDigit = true ∨ c = '.' := by
  unfold text at h
  split at h
  · exact .inl (p.isDigit_of_mem_whole c h)
  · simp only [List.mem_append, List.mem_cons] at h
    rcases h with hwhole | rfl | hplaces
    · exact .inl (p.isDigit_of_mem_whole c hwhole)
    · exact .inr rfl
    · exact .inl (p.isDigit_of_mem_places c hplaces)

/-- The text begins with a digit. -/
theorem exists_text_eq_cons : ∃ c cs, p.text = c :: cs ∧ c.isDigit = true := by
  obtain ⟨c, cs, hwhole⟩ := List.exists_cons_of_ne_nil p.whole_ne_nil
  have hdigit := p.isDigit_of_mem_whole c (by simp [hwhole])
  unfold text
  rw [hwhole]
  split
  · exact ⟨c, cs, rfl, hdigit⟩
  · exact ⟨c, cs ++ '.' :: p.places, rfl, hdigit⟩

theorem isMantissa_text : IsMantissa p.text := by
  unfold text
  split
  · exact .whole p.whole_ne_nil p.isDigit_of_mem_whole
  · exact .pointed p.isDigit_of_mem_whole p.isDigit_of_mem_places (.inl p.whole_ne_nil)

theorem mantissaLength_text_append {rest : List Char} (h : EndsNumeral rest) :
    mantissaLength (p.text ++ rest) = p.text.length :=
  p.isMantissa_text.mantissaLength_append fun c hc => ⟨(h c hc).1, (h c hc).2.1⟩

/-- A numeral ends where the digits end. -/
theorem numeralLength_text_append {rest : List Char} (h : EndsNumeral rest) :
    numeralLength (p.text ++ rest) = p.text.length := by
  unfold numeralLength
  rw [p.mantissaLength_text_append h]
  dsimp only
  rw [List.drop_left, exponentLength_eq_zero h]
  split
  · next hzero => exact hzero.symm
  · rfl

theorem naturalValue_text : naturalValue p.text = naturalValue (p.whole ++ p.places) := by
  unfold text
  split
  · next hplaces => rw [hplaces, List.append_nil]
  · exact naturalValue_point _ _

theorem decimalPlaces_text : decimalPlaces p.text = p.places.length := by
  have hwhole : ∀ c ∈ p.whole, decide (c ≠ '.') = true := by
    intro c hc
    have hdigit := p.isDigit_of_mem_whole c hc
    rw [decide_eq_true_iff]
    rintro rfl
    exact absurd hdigit (by decide)
  unfold decimalPlaces text
  split
  · next hplaces =>
    rw [hplaces, ← List.append_nil p.whole, List.dropWhile_append_of_pos hwhole]
    rfl
  · rw [List.dropWhile_append_of_pos hwhole]
    simp

/-- A positional text is read as the decimal that its digits write. -/
theorem ofNumeral?_text : Decimal.ofNumeral? p.text = some p.decimal := by
  obtain ⟨c, cs, htext, -⟩ := p.exists_text_eq_cons
  have hlength := p.numeralLength_text_append endsNumeral_nil
  have hmantissa := p.mantissaLength_text_append endsNumeral_nil
  rw [List.append_nil] at hlength hmantissa
  unfold Decimal.ofNumeral?
  rw [if_pos ⟨by simp [htext], hlength⟩, hmantissa, List.take_length, List.drop_length]
  dsimp only
  rw [p.naturalValue_text, p.decimalPlaces_text]
  simp [decimal, exponentValue, naturalValue]

end Positional

/-! ### Texts of decimals -/

namespace Decimal

/-- The digits of `d`, with enough zeros in front for a digit before the point
    and with the zeros that a positive exponent stands for. -/
def padded (d : Decimal) : List Char :=
  List.replicate ((-d.exponent).toNat + 1 - (digits d.significand).length) '0' ++
    digits d.significand ++ List.replicate d.exponent.toNat '0'

theorem isDigit_of_mem_padded {d : Decimal} {c : Char} (h : c ∈ d.padded) : c.isDigit = true := by
  simp only [padded, List.mem_append, List.mem_replicate] at h
  rcases h with (⟨-, rfl⟩ | h) | ⟨-, rfl⟩
  · decide
  · exact isDigit_of_mem_digits h
  · decide

theorem lt_length_padded (d : Decimal) : (-d.exponent).toNat < d.padded.length := by
  simp only [padded, List.length_append, List.length_replicate]
  omega

theorem naturalValue_padded (d : Decimal) :
    naturalValue d.padded = d.significand * 10 ^ d.exponent.toNat := by
  rw [naturalValue_eq_ofDigitChars fun c hc => isDigit_of_mem_padded hc]
  unfold padded digits
  rw [Nat.ofDigitChars_append, Nat.ofDigitChars_append, Nat.ofDigitChars_replicate_zero,
    Nat.ofDigitChars_replicate_zero, Nat.mul_zero,
    Nat.ofDigitChars_toDigits (by omega) (by omega), Nat.mul_comm]

/-- The digits of `d` before the point and behind it. -/
def positional (d : Decimal) : Positional where
  whole := d.padded.take (d.padded.length - (-d.exponent).toNat)
  places := d.padded.drop (d.padded.length - (-d.exponent).toNat)
  whole_ne_nil := by
    have hlt := d.lt_length_padded
    have hlength : 0 < (d.padded.take (d.padded.length - (-d.exponent).toNat)).length := by
      rw [List.length_take]
      omega
    exact List.ne_nil_of_length_pos hlength
  isDigit_of_mem_whole _ hc := isDigit_of_mem_padded (List.mem_of_mem_take hc)
  isDigit_of_mem_places _ hc := isDigit_of_mem_padded (List.mem_of_mem_drop hc)

theorem text_positional (d : Decimal) : d.positional.text = d.text := by
  have hlength := List.length_pos_iff.mpr (Nat.toDigits_ne_nil (n := d.significand) (b := 10))
  unfold Positional.text positional text
  dsimp only
  by_cases hwhole : 0 ≤ d.exponent
  · have hplaces : (-d.exponent).toNat = 0 := by omega
    have hnone : 0 + 1 - (digits d.significand).length = 0 := by
      unfold digits
      omega
    have hpadded : d.padded = digits d.significand ++ List.replicate d.exponent.toNat '0' := by
      rw [padded, hplaces, hnone, List.replicate_zero, List.nil_append]
    simp only [hplaces, Nat.sub_zero, List.drop_length, List.take_length, if_pos hwhole, if_true]
    exact hpadded
  · have hzeros : d.exponent.toNat = 0 := by omega
    have hlt := d.lt_length_padded
    have hsome : d.padded.drop (d.padded.length - (-d.exponent).toNat) ≠ [] := by
      apply List.ne_nil_of_length_pos
      rw [List.length_drop]
      omega
    rw [if_neg hwhole, if_neg hsome]
    simp only [padded, hzeros, List.replicate_zero, List.append_nil]

theorem decimal_positional (d : Decimal) : d.positional.decimal =
    ⟨d.significand * 10 ^ d.exponent.toNat, min d.exponent 0⟩ := by
  have hlt := d.lt_length_padded
  unfold Positional.decimal positional
  dsimp only
  rw [List.take_append_drop, naturalValue_padded, List.length_drop]
  congr 1
  omega

/-- The text of a decimal in range is read as a decimal with the same nearest
    number. -/
theorem exists_ofNumeral?_text {d : Decimal} (hfinite : d.nearest < infinity) :
    ∃ d', ofNumeral? d.text = some d' ∧ d'.nearest = d.nearest := by
  refine ⟨d.positional.decimal, ?_, ?_⟩
  · rw [← d.text_positional, Positional.ofNumeral?_text]
  · rw [d.decimal_positional]
    by_cases hwhole : 0 ≤ d.exponent
    · rw [Int.min_eq_right hwhole, nearest_scaled hwhole hfinite]
    · rw [Int.min_eq_left (by omega), show d.exponent.toNat = 0 by omega, Nat.pow_zero,
        Nat.mul_one]

end Decimal

/-! ### Canonical texts -/

variable {x : Float}

/-- The canonical text of a finite number without its sign. -/
def positional (x : Float) : Positional :=
  (Decimal.shortest (magnitude x)).positional

theorem toList_canonical (h : magnitude x < infinity) : (canonical x).toList =
    if isNegative x then '-' :: (positional x).text else (positional x).text := by
  unfold canonical positional
  rw [if_neg (Nat.not_lt_of_gt h), Decimal.text_positional]
  dsimp only
  rw [if_neg (Nat.ne_of_lt h), String.toList_ofList]

/-- The digits of a finite number are read as its magnitude, with either sign. -/
theorem ofNumeral?_positional (h : magnitude x < infinity) (negative : Bool) :
    ofNumeral? negative (positional x).text = some (ofMagnitude negative (magnitude x)) := by
  have hnearest := Decimal.nearest_shortest h
  obtain ⟨d, hd, hsame⟩ := Decimal.exists_ofNumeral?_text (hnearest.symm ▸ h)
  unfold ofNumeral? positional
  rw [Decimal.text_positional, hd, Option.map_some, hsame, hnearest]

/-- A canonical text has digits, a point and a sign only. -/
theorem mem_canonical (h : magnitude x < infinity) {c : Char} (hc : c ∈ (canonical x).toList) :
    c.isDigit = true ∨ c = '.' ∨ c = '-' := by
  rw [toList_canonical h] at hc
  split at hc
  · rcases List.mem_cons.mp hc with hsign | hc
    · exact .inr (.inr hsign)
    · exact ((positional x).mem_text hc).imp_right .inl
  · exact ((positional x).mem_text hc).imp_right .inl

theorem ofSigned?_of_not_isSign {c : Char} (h : isSign c = false) (cs : List Char) :
    ofSigned? (c :: cs) = ofNumeral? false (c :: cs) := by
  unfold ofSigned?
  split
  · next heq =>
    rw [(List.cons.inj heq).1] at h
    exact absurd h (by decide)
  · next heq =>
    rw [(List.cons.inj heq).1] at h
    exact absurd h (by decide)
  · rfl

/-- Where neither a numeral nor a sign begins, no number is read. -/
theorem ofText?_eq_none {c : Char} {cs : List Char} (hsign : isSign c = false)
    (h : EndsNumeral (c :: cs)) : ofText? (c :: cs) = none := by
  have hnumeral : Decimal.ofNumeral? (c :: cs) = none := by
    unfold Decimal.ofNumeral?
    rw [numeralLength_eq_zero h, if_neg]
    simp
  rw [ofText?, ofSigned?_of_not_isSign hsign, ofNumeral?, hnumeral]
  rfl

/-- A number that is read from a text is finite. -/
theorem magnitude_lt_of_ofText? {cs : List Char} (h : ofText? cs = some x) :
    magnitude x < infinity := by
  simpa using (Option.filter_eq_some_iff.mp h).2

/-- **Canonical texts read back**: the canonical text of a finite number is read
    as this number, bit by bit. -/
theorem ofText?_canonical (h : magnitude x < infinity) :
    ofText? (canonical x).toList = some x := by
  obtain ⟨c, cs, htext, hdigit⟩ := (positional x).exists_text_eq_cons
  have hparts := ofMagnitude_magnitude x
  have hread : ofSigned? (canonical x).toList = some x := by
    rw [toList_canonical h]
    cases hnegative : isNegative x with
    | true =>
      rw [hnegative] at hparts
      rw [if_pos rfl, ofSigned?, ofNumeral?_positional h, hparts]
    | false =>
      have hsign : isSign c = false := by
        rw [Bool.eq_false_iff]
        intro hsign
        simp only [isSign, Bool.or_eq_true, decide_eq_true_eq] at hsign
        rcases hsign with rfl | rfl <;> exact absurd hdigit (by decide)
      rw [hnegative] at hparts
      rw [if_neg (by simp), htext, ofSigned?_of_not_isSign hsign, ← htext,
        ofNumeral?_positional h, hparts]
  rw [ofText?, hread, Option.filter_some_pos (by simpa using h)]

end Worksheet.Number
