/-! # Characters by code point

    Escapes name a character by its code point in hexadecimal digits, in
    either case. -/

namespace Worksheet.Text

/-- The value of a hexadecimal digit. -/
def hexDigit? (c : Char) : Option Nat :=
  if c.isDigit then some (c.toNat - '0'.toNat)
  else if 'a' ≤ c ∧ c ≤ 'f' then some (c.toNat - 'a'.toNat + 10)
  else if 'A' ≤ c ∧ c ≤ 'F' then some (c.toNat - 'A'.toNat + 10)
  else none

/-- Is `c` a hexadecimal digit? -/
def isHexDigit (c : Char) : Bool :=
  (hexDigit? c).isSome

/-- The value of hexadecimal digits; no digits have none. -/
def hexValue? (digits : List Char) : Option Nat :=
  if digits = [] then none
  else digits.foldlM (fun n c => (hexDigit? c).map fun d => 16 * n + d) 0

/-- The character whose code point `digits` are, if there is one. -/
def charOfHex? (digits : List Char) : Option Char := do
  let n ← hexValue? digits
  if n.isValidChar then some (Char.ofNat n) else none

end Worksheet.Text
