import Mathlib.Tactic.Ring
import Worksheet.Proofs.Number.Exact

/-! # Decimals out of range

    The largest finite number is `2 ^ 1024 - 2 ^ 971`.  A decimal is rounded to
    infinity exactly from half a unit above it on, `2 ^ 1024 - 2 ^ 970`, where the
    tie goes to the even neighbour, which is infinity.

    Rounding is to the nearest count of some unit, and the number of bits decides
    which unit it is.  With a smaller unit than the last one the count cannot
    reach infinity, with a larger one it has; only with the last unit rounding
    decides. -/

namespace Worksheet.Number

/-! ### Rounding to an even count -/

variable {num den units shift : Nat}

theorem div_le_roundHalfEven (num den : Nat) : num / den ≤ roundHalfEven num den := by
  unfold roundHalfEven
  dsimp only
  split
  · exact Nat.le_refl _
  · split
    · omega
    · split <;> omega

theorem roundHalfEven_le (num den : Nat) : roundHalfEven num den ≤ num / den + 1 := by
  unfold roundHalfEven
  dsimp only
  split
  · omega
  · split
    · exact Nat.le_refl _
    · split <;> omega

/-- In front of an even count, half a unit is rounded up. -/
theorem lt_roundHalfEven_iff (hodd : num / den % 2 = 1) :
    num / den < roundHalfEven num den ↔ den ≤ 2 * (num % den) := by
  unfold roundHalfEven
  dsimp only
  split
  · omega
  · split
    · omega
    · split <;> omega

/-- An even count is reached from half a unit below it on. -/
theorem le_roundHalfEven_iff (hden : 0 < den) (half : Nat) :
    2 * (half + 1) ≤ roundHalfEven num den ↔ (4 * half + 3) * den ≤ 2 * num := by
  have hnum := Nat.div_add_mod num den
  have hmod := Nat.mod_lt num hden
  have hbelow := div_le_roundHalfEven num den
  have habove := roundHalfEven_le num den
  have hhalf : (4 * half + 3) * den = 4 * (den * half) + 3 * den := by ring
  rcases Nat.lt_trichotomy (num / den) (2 * half + 1) with hless | hodd | hmore
  · -- Rounding up leads to the odd count at most.
    have hle : den * (num / den) ≤ den * (2 * half) := Nat.mul_le_mul_left den (by omega)
    rw [Nat.mul_left_comm] at hle
    omega
  · -- The count in front of the even one: the rest decides, and a tie goes up.
    have hround : num / den < roundHalfEven num den ↔ _ := lt_roundHalfEven_iff (by omega)
    rw [hodd, Nat.mul_add, Nat.mul_left_comm] at hnum
    omega
  · -- The even count is reached without rounding.
    have hle : den * (2 * half + 2) ≤ den * (num / den) := Nat.mul_le_mul_left den (by omega)
    rw [Nat.mul_add, Nat.mul_left_comm] at hle
    omega

/-! ### Rounding to a magnitude -/

/-- With the unit that leaves 53 bits, the count has at most 53 bits, and with a
    larger unit than the least one it has not fewer. -/
theorem log2_bounds (hden : 0 < den) (hshift : shift = (units / den).log2 - 52) :
    units < 2 ^ (shift + 53) * den ∧ (shift = 0 ∨ 2 ^ (shift + 52) * den ≤ units) := by
  constructor
  · rw [← Nat.div_lt_iff_lt_mul hden]
    rcases Nat.eq_zero_or_pos (units / den) with hzero | hpos
    · rw [hzero]
      exact Nat.two_pow_pos _
    · exact (Nat.log2_lt (by omega)).mp (by omega)
  · rw [← Nat.le_div_iff_mul_le hden]
    rcases Nat.eq_zero_or_pos (units / den) with hzero | hpos
    · left
      rw [hshift, hzero]
      simp
    · rw [← Nat.le_log2 (by omega)]
      omega

/-- Rounded in the right unit, a value gets to a power of two exactly from half
    a unit below it on. -/
theorem le_shift_add_roundHalfEven_iff (hden : 0 < den) (hshift : shift = (units / den).log2 - 52)
    (last : Nat) :
    (last + 3) * 2 ^ 52 ≤ shift * 2 ^ 52 + roundHalfEven units (den * 2 ^ shift) ↔
      (2 ^ 54 - 1) * (2 ^ last * den) ≤ units := by
  obtain ⟨hlt, hfull⟩ := log2_bounds hden hshift
  have hunit : 0 < den * 2 ^ shift := Nat.mul_pos hden (Nat.two_pow_pos shift)
  rcases Nat.lt_trichotomy shift (last + 1) with hless | rfl | hmore
  · -- A count of 53 bits, in a unit that is too small.
    have hcount : units / (den * 2 ^ shift) < 2 ^ 53 := by
      rw [Nat.div_lt_iff_lt_mul hunit, Nat.mul_comm den, ← Nat.mul_assoc, ← Nat.pow_add,
        Nat.add_comm]
      exact hlt
    have hround := roundHalfEven_le units (den * 2 ^ shift)
    have hmagnitude : 2 ^ (shift + 53) * den ≤ 2 ^ 53 * (2 ^ last * den) := by
      rw [← Nat.mul_assoc, ← Nat.pow_add, Nat.add_comm]
      exact Nat.mul_le_mul_right den (Nat.pow_le_pow_right (by omega) (by omega))
    constructor
    · omega
    · omega
  · -- The last unit: infinity is the even count `2 ^ 53`.
    have hscaled : den * 2 ^ (last + 1) = 2 * (2 ^ last * den) := by ring
    have hround : 2 ^ 53 ≤ roundHalfEven units (den * 2 ^ (last + 1)) ↔
        (2 ^ 54 - 1) * (den * 2 ^ (last + 1)) ≤ 2 * units :=
      le_roundHalfEven_iff hunit (2 ^ 52 - 1)
    rw [hscaled] at hround ⊢
    omega
  · -- A count of 53 bits, in a unit that is too large.
    have hlower : 2 ^ (shift + 52) * den ≤ units := hfull.resolve_left (by omega)
    have hcount : 2 ^ 52 ≤ units / (den * 2 ^ shift) := by
      rw [Nat.le_div_iff_mul_le hunit, Nat.mul_comm den, ← Nat.mul_assoc, ← Nat.pow_add,
        Nat.add_comm]
      exact hlower
    have hround := div_le_roundHalfEven units (den * 2 ^ shift)
    have hmagnitude : 2 ^ 54 * (2 ^ last * den) ≤ 2 ^ (shift + 52) * den := by
      rw [← Nat.mul_assoc, ← Nat.pow_add]
      exact Nat.mul_le_mul_right den (Nat.pow_le_pow_right (by omega) (by omega))
    constructor
    · omega
    · omega

/-- The least value that is rounded to infinity, `2 ^ 1024 - 2 ^ 970`. -/
def overflowBound : Nat := (2 ^ 54 - 1) * 2 ^ 970

theorem overflowBound_pos : 0 < overflowBound := by
  unfold overflowBound
  generalize 970 = whole
  exact Nat.mul_pos (by decide) (Nat.two_pow_pos whole)

theorem mul_two_pow_le (bits whole : Nat) : (2 ^ bits - 1) * 2 ^ whole ≤ 2 ^ (bits + whole) := by
  rw [Nat.pow_add]
  exact Nat.mul_le_mul_right _ (Nat.sub_le _ _)

theorem nearest_eq_infinity_iff (hden : 0 < den) :
    nearest num den = infinity ↔ overflowBound * den ≤ num := by
  have hinfinity : infinity = (970 + 1074 + 3) * 2 ^ 52 := rfl
  unfold nearest overflowBound
  dsimp only
  rw [min_eq_left_iff, hinfinity]
  -- The powers of two are too large to be computed.
  generalize 970 = whole
  generalize 1074 = places
  have hscaled : (2 ^ 54 - 1) * (2 ^ (whole + places) * den) =
      (2 ^ 54 - 1) * 2 ^ whole * den * 2 ^ places := by
    rw [Nat.pow_add]
    ring
  refine (le_shift_add_roundHalfEven_iff hden rfl (whole + places)).trans ?_
  rw [Nat.pow_eq, hscaled, Nat.mul_le_mul_right_iff (Nat.two_pow_pos places)]

/-- Three binary digits are less than a decimal one. -/
theorem two_pow_le_ten_pow {bits places : Nat} (h : bits ≤ 3 * places) : 2 ^ bits ≤ 10 ^ places :=
  calc 2 ^ bits ≤ 2 ^ (3 * places) := Nat.pow_le_pow_right (by omega) h
    _ = 8 ^ places := by rw [Nat.pow_mul]
    _ ≤ 10 ^ places := Nat.pow_le_pow_left (by omega) _

namespace Decimal

variable {d : Decimal}

/-- The decimal is so large that it is rounded to infinity. -/
def Overflows (d : Decimal) : Prop :=
  overflowBound * 10 ^ (-d.exponent).toNat ≤ d.significand * 10 ^ d.exponent.toNat

/-- The large exponents that are cut short overflow. -/
theorem overflows_of_lt_exponent (hpos : 0 < d.significand) (h : 400 < d.exponent) :
    d.Overflows := by
  have hneg : (-d.exponent).toNat = 0 := by omega
  have hbound : overflowBound ≤ 10 ^ d.exponent.toNat :=
    (mul_two_pow_le 54 970).trans (two_pow_le_ten_pow (by omega))
  rw [Overflows, hneg, Nat.pow_zero, Nat.mul_one]
  exact hbound.trans (Nat.le_mul_of_pos_left _ hpos)

/-- The small values that are cut short do not overflow. -/
theorem not_overflows_of_log2_lt (h : (d.significand.log2 : Int) + 1 + 3 * d.exponent < -1075) :
    ¬ d.Overflows := by
  have hzero : d.exponent.toNat = 0 := by omega
  have hlt : d.significand < 10 ^ (-d.exponent).toNat :=
    Nat.lt_log2_self.trans_le (two_pow_le_ten_pow (by omega))
  rw [Overflows, hzero, Nat.pow_zero, Nat.mul_one, Nat.not_le]
  exact hlt.trans_le (Nat.le_mul_of_pos_left _ overflowBound_pos)

/-- A decimal is rounded to infinity exactly if it overflows. -/
theorem nearest_eq_infinity_iff (d : Decimal) : d.nearest = infinity ↔ d.Overflows := by
  have hinfinity : 0 ≠ infinity := by decide
  rcases Nat.eq_zero_or_pos d.significand with hzero | hpos
  · -- Zero, which has no bits to count.
    have hbound : 0 < overflowBound * 10 ^ (-d.exponent).toNat :=
      Nat.mul_pos overflowBound_pos (Nat.pow_pos (by omega))
    rw [nearest_of_significand_eq_zero hzero, Overflows, hzero, Nat.zero_mul]
    exact iff_of_false hinfinity (Nat.not_le_of_gt hbound)
  · by_cases hlarge : 400 < d.exponent
    · refine iff_of_true ?_ (overflows_of_lt_exponent hpos hlarge)
      rw [nearest, if_neg (by omega), if_pos hlarge]
    · by_cases hsmall : (d.significand.log2 : Int) + 1 + 3 * d.exponent < -1075
      · refine iff_of_false ?_ (not_overflows_of_log2_lt hsmall)
        rwa [nearest, if_neg (by omega), if_neg hlarge, if_pos hsmall]
      · rw [nearest_eq hpos (by omega) (by omega)]
        exact Number.nearest_eq_infinity_iff (Nat.pow_pos (by omega))

end Decimal

end Worksheet.Number
