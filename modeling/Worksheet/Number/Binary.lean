/-! # Binary64 numbers as exact fractions

    The sign apart, the 64 bits of a number count the representable
    magnitudes in ascending order: 0 is zero, `infinity` is the first
    magnitude out of range, and whatever lies above is not a number.  Every
    finite magnitude is `mantissa * 2 ^ exponent` with a mantissa below
    `2 ^ 53` and an exponent of at least `-1074`. -/

namespace Worksheet.Number

/-- The bits of infinity without the sign, the least magnitude out of range. -/
def infinity : Nat := 2047 * Nat.pow 2 52

/-- The bit that is set in negative numbers. -/
def signBit : Nat := Nat.pow 2 63

/-- Does `x` carry a minus sign?  Negative zero does. -/
def isNegative (x : Float) : Bool :=
  signBit ≤ x.toBits.toNat

/-- The bits of `x` without the sign. -/
def magnitude (x : Float) : Nat :=
  x.toBits.toNat % signBit

/-- The number with this sign and these other bits. -/
def ofMagnitude (negative : Bool) (bits : Nat) : Float :=
  Float.ofBits (UInt64.ofNat (if negative then signBit + bits else bits))

/-- `bits` as a mantissa and an exponent of two, where the least exponent is
    counted as 0: the magnitude is `mantissa * 2 ^ shift / 2 ^ 1074`. -/
def mantissaAndShift (bits : Nat) : Nat × Nat :=
  let shift := bits / Nat.pow 2 52 - 1
  (bits - shift * Nat.pow 2 52, shift)

/-- `num / den` to the nearest integer, a half to the even one. -/
def roundHalfEven (num den : Nat) : Nat :=
  let quotient := num / den
  let rest := 2 * (num % den)
  if rest < den then quotient
  else if den < rest then quotient + 1
  else if quotient % 2 = 0 then quotient
  else quotient + 1

/-- The bits of the magnitude nearest to `num / den`, a tie to the even one.

    The value in units of `2 ^ -1074` is shifted right until 53 bits are left
    and rounded there.  A carry out of the mantissa runs into the exponent,
    which is the next magnitude in order, and out of the largest magnitude
    into infinity. -/
def nearest (num den : Nat) : Nat :=
  let units := num * Nat.pow 2 1074
  let shift := (units / den).log2 - 52
  min infinity (shift * Nat.pow 2 52 + roundHalfEven units (den * Nat.pow 2 shift))

end Worksheet.Number
