import Mathlib.Tactic.Ring
import Worksheet.Number.Shortest

/-! # Finite numbers are decimals

    Every finite magnitude is exactly a decimal, and the magnitude nearest to
    this decimal is the one it came from.  So the search for a shortest decimal
    never comes back with one that reads differently: either it has found a
    shorter decimal that was tried, or it falls back on the exact one. -/

namespace Worksheet.Number

/-! ### Mantissas -/

/-- A mantissa has 53 bits, or fewer if the exponent is the least one. -/
structure IsNormal (mantissa shift : Nat) : Prop where
  lt : mantissa < 2 ^ 53
  full : shift = 0 ∨ 2 ^ 52 ≤ mantissa

variable {mantissa shift : Nat}

theorem isNormal_mantissaAndShift (bits : Nat) :
    IsNormal (mantissaAndShift bits).1 (mantissaAndShift bits).2 := by
  simp only [mantissaAndShift, Nat.pow_eq]
  constructor <;> omega

theorem shift_mul_add_mantissa (bits : Nat) :
    (mantissaAndShift bits).2 * 2 ^ 52 + (mantissaAndShift bits).1 = bits := by
  simp only [mantissaAndShift, Nat.pow_eq]
  omega

/-- The shift of a mantissa can be read off the number of bits. -/
theorem IsNormal.log2 (h : IsNormal mantissa shift) :
    (mantissa * 2 ^ shift).log2 - 52 = shift := by
  rcases h.full with rfl | hfull
  · have hlt : mantissa.log2 < 53 := by
      rcases Nat.eq_zero_or_pos mantissa with rfl | hpos
      · simp
      · exact (Nat.log2_lt (by omega)).mpr h.lt
    rw [Nat.pow_zero, Nat.mul_one]
    omega
  · have hpos : mantissa * 2 ^ shift ≠ 0 := by
      have := Nat.mul_pos (show 0 < mantissa by omega) (Nat.two_pow_pos shift)
      omega
    have hlog : (mantissa * 2 ^ shift).log2 = 52 + shift := by
      rw [Nat.log2_eq_iff hpos]
      constructor
      · rw [Nat.pow_add]
        exact Nat.mul_le_mul_right _ hfull
      · rw [show 52 + shift + 1 = 53 + shift by omega, Nat.pow_add]
        exact Nat.mul_lt_mul_of_pos_right h.lt (Nat.two_pow_pos shift)
    omega

/-! ### Rounding what needs none -/

theorem roundHalfEven_mul (quotient : Nat) {den : Nat} (hden : 0 < den) :
    roundHalfEven (quotient * den) den = quotient := by
  simp [roundHalfEven, Nat.mul_div_cancel _ hden, hden]

/-- A fraction that is a magnitude is rounded to it. -/
theorem IsNormal.nearest (h : IsNormal mantissa shift) {num den : Nat} (hden : 0 < den)
    (hnum : num * Nat.pow 2 1074 = mantissa * 2 ^ shift * den) :
    nearest num den = min infinity (shift * 2 ^ 52 + mantissa) := by
  have hquotient : num * Nat.pow 2 1074 / den = mantissa * 2 ^ shift := by
    rw [hnum, Nat.mul_div_cancel _ hden]
  have hunits : num * Nat.pow 2 1074 = mantissa * (den * 2 ^ shift) := by
    rw [hnum]
    ring
  have hpos : 0 < den * 2 ^ shift := Nat.mul_pos hden (Nat.two_pow_pos shift)
  unfold Number.nearest
  dsimp only
  rw [hquotient, h.log2, hunits, Nat.pow_eq, Nat.pow_eq, roundHalfEven_mul mantissa hpos]

namespace Decimal

theorem nearest_of_significand_eq_zero {d : Decimal} (h : d.significand = 0) : d.nearest = 0 := by
  rw [nearest, if_pos h]

/-- Away from the cases that are cut short, the nearest magnitude is computed. -/
theorem nearest_eq {d : Decimal} (hpos : 0 < d.significand) (hle : d.exponent ≤ 400)
    (hge : -1075 ≤ (d.significand.log2 : Int) + 1 + 3 * d.exponent) :
    d.nearest = Number.nearest (d.significand * 10 ^ d.exponent.toNat)
      (10 ^ (-d.exponent).toNat) := by
  unfold nearest
  rw [if_neg (by omega), if_neg (by omega), if_neg (by omega), Nat.pow_eq, Nat.pow_eq]

end Decimal

/-- A power of five has more than two binary digits for each decimal one. -/
theorem two_mul_le_log2 (places : Nat) (hpos : 0 < mantissa) :
    2 * places ≤ (mantissa * 5 ^ places).log2 := by
  have hfive : 2 ^ (2 * places) ≤ 5 ^ places := by
    rw [Nat.pow_mul]
    exact Nat.pow_le_pow_left (by omega) places
  have hle : 2 ^ (2 * places) ≤ mantissa * 5 ^ places :=
    hfive.trans (Nat.le_mul_of_pos_left _ hpos)
  exact (Nat.le_log2 (by have := Nat.two_pow_pos (2 * places); omega)).mpr hle

theorem two_pow_eq {n m : Nat} (h : n ≤ m) : Nat.pow 2 m = 2 ^ (m - n) * 2 ^ n := by
  rw [Nat.pow_eq, ← Nat.pow_add, Nat.sub_add_cancel h]

/-- A magnitude without binary places is rounded to itself. -/
theorem IsNormal.nearest_whole (h : IsNormal mantissa (shift + 1074)) (hpos : 0 < mantissa) :
    (⟨mantissa * 2 ^ shift, 0⟩ : Decimal).nearest =
      min infinity ((shift + 1074) * 2 ^ 52 + mantissa) := by
  have hscaled : 0 < mantissa * 2 ^ shift := Nat.mul_pos hpos (Nat.two_pow_pos shift)
  refine (Decimal.nearest_eq hscaled ?_ ?_).trans (h.nearest (by simp) ?_)
  · simp
  · dsimp only
    omega
  · show mantissa * 2 ^ shift * 1 * Nat.pow 2 1074 = mantissa * 2 ^ (shift + 1074) * 1
    generalize 1074 = least
    rw [Nat.mul_one, Nat.mul_one, Nat.pow_add, Nat.mul_assoc, Nat.pow_eq]

/-- A magnitude with binary places has as many decimal ones, and is rounded to
    itself. -/
theorem IsNormal.nearest_places (h : IsNormal mantissa shift) (hpos : 0 < mantissa)
    (hshift : shift ≤ 1074) :
    (⟨mantissa * 5 ^ (1074 - shift), (shift : Int) - 1074⟩ : Decimal).nearest =
      min infinity (shift * 2 ^ 52 + mantissa) := by
  have hscaled : 0 < mantissa * 5 ^ (1074 - shift) :=
    Nat.mul_pos hpos (Nat.pow_pos (by omega))
  have hlog := two_mul_le_log2 (1074 - shift) hpos
  have hplaces : (-((shift : Int) - 1074)).toNat = 1074 - shift := by omega
  have hwhole : ((shift : Int) - 1074).toNat = 0 := by omega
  refine (Decimal.nearest_eq hscaled ?_ ?_).trans (h.nearest (Nat.pow_pos (by omega)) ?_)
  · dsimp only
    omega
  · dsimp only
    omega
  · -- The powers of five are in both fractions, and of the powers of two `shift` are left.
    dsimp only
    rw [hplaces, hwhole]
    generalize 1074 = least at hshift ⊢
    rw [two_pow_eq hshift]
    generalize least - shift = places
    have hten : 10 ^ places = 2 ^ places * 5 ^ places := by rw [← Nat.mul_pow]
    rw [hten]
    ring

namespace Decimal

/-- The decimal of a finite magnitude is rounded to this magnitude. -/
theorem nearest_ofMagnitude {bits : Nat} (h : bits < infinity) :
    (ofMagnitude bits).nearest = bits := by
  have hnormal := isNormal_mantissaAndShift bits
  have hbits := shift_mul_add_mantissa bits
  unfold ofMagnitude
  generalize mantissaAndShift bits = parts at *
  obtain ⟨mantissa, shift⟩ := parts
  dsimp only at hnormal hbits ⊢
  rcases Nat.eq_zero_or_pos mantissa with rfl | hpos
  · -- Zero has the least shift.
    have hzero : shift = 0 := by
      have := hnormal.full
      omega
    rw [nearest_of_significand_eq_zero (by split <;> exact Nat.zero_mul _)]
    omega
  · split
    · next hshift =>
      obtain ⟨shift, rfl⟩ := Nat.exists_eq_add_of_le' hshift
      rw [Nat.pow_eq, Nat.add_sub_cancel, hnormal.nearest_whole hpos, hbits,
        Nat.min_eq_right h.le]
    · next hshift =>
      rw [Nat.pow_eq, hnormal.nearest_places hpos (by omega), hbits, Nat.min_eq_right h.le]

/-- **Shortest decimals read back**: the shortest decimal of a finite magnitude
    is rounded to this magnitude. -/
theorem nearest_shortest {bits : Nat} (h : bits < infinity) : (shortest bits).nearest = bits := by
  unfold shortest
  dsimp only
  generalize hfound : List.findSome? _ _ = found
  cases found with
  | none => exact nearest_ofMagnitude h
  | some d =>
    obtain ⟨drop, -, hdrop⟩ := List.exists_of_findSome?_eq_some hfound
    have hread := List.find?_some hdrop
    exact beq_iff_eq.mp hread

end Decimal

end Worksheet.Number
