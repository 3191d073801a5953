import Worksheet.Number.Binary

/-! # Decimal numbers

    A decimal is `significand * 10 ^ exponent`.  It has a positional text,
    with a point only where there are decimal places, and a nearest binary64
    magnitude.  In the other direction every finite magnitude is exactly a
    decimal. -/

namespace Worksheet.Number

/-- The decimal number `significand * 10 ^ exponent`. -/
structure Decimal where
  significand : Nat
  exponent : Int
  deriving DecidableEq, Repr

namespace Decimal

/-- The bits of the binary64 magnitude nearest to `d`.

    The two tests in front keep the powers of ten small: from `10 ^ 400` up
    every value rounds to infinity, and a value below `2 ^ -1075` rounds to
    zero, where `10 ^ e ≤ 2 ^ (3 * e)` for a negative `e`. -/
def nearest (d : Decimal) : Nat :=
  if d.significand = 0 then 0
  else if 400 < d.exponent then infinity
  else if (d.significand.log2 : Int) + 1 + 3 * d.exponent < -1075 then 0
  else
    Number.nearest (d.significand * Nat.pow 10 d.exponent.toNat) (Nat.pow 10 (-d.exponent).toNat)

/-- The finite magnitude with these bits as a decimal. -/
def ofMagnitude (bits : Nat) : Decimal :=
  let (mantissa, shift) := mantissaAndShift bits
  if 1074 ≤ shift then ⟨mantissa * Nat.pow 2 (shift - 1074), 0⟩
  else ⟨mantissa * Nat.pow 5 (1074 - shift), (shift : Int) - 1074⟩

/-- The same decimal without zeros at the end of the significand.  Zero has
    the exponent 0. -/
def trimZeros (significand : Nat) (exponent : Int) : Decimal :=
  if significand = 0 then ⟨0, 0⟩
  else if significand % 10 = 0 then trimZeros (significand / 10) (exponent + 1)
  else ⟨significand, exponent⟩
termination_by significand
decreasing_by omega

/-- The decimal digits of `n`. -/
def digits (n : Nat) : List Char :=
  Nat.toDigits 10 n

/-- The positional text of `d`: the digits, then zeros for a positive
    exponent; for a negative one a point before the last `-exponent` digits,
    with at least one digit in front of it. -/
def text (d : Decimal) : List Char :=
  let ds := digits d.significand
  if 0 ≤ d.exponent then ds ++ List.replicate d.exponent.toNat '0'
  else
    let places := (-d.exponent).toNat
    let padded := List.replicate (places + 1 - ds.length) '0' ++ ds
    padded.take (padded.length - places) ++ '.' :: padded.drop (padded.length - places)

end Decimal

end Worksheet.Number
