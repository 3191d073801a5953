import Worksheet.Number.Decimal

/-! # Decimal numerals

    A numeral is written with digits before a point, behind it, or both, and
    may end in an exponent: an `e` of either case, an optional sign and at
    least one digit.  It has no sign of its own.  The length functions say how
    many of the leading characters of a text belong to the longest numeral it
    begins with. -/

namespace Worksheet.Number

/-- Number of digits that `cs` begins with. -/
def digitRun (cs : List Char) : Nat :=
  (cs.takeWhile Char.isDigit).length

/-- Length of the digits and the point that `cs` begins with.  A point counts
    only next to a digit. -/
def mantissaLength (cs : List Char) : Nat :=
  let whole := digitRun cs
  match cs.drop whole with
  | '.' :: rest =>
    let places := digitRun rest
    if whole = 0 ∧ places = 0 then 0 else whole + 1 + places
  | _ => whole

/-- Does `c` mark an exponent? -/
def isExponentMark (c : Char) : Bool :=
  c = 'e' || c = 'E'

/-- Is `c` a sign? -/
def isSign (c : Char) : Bool :=
  c = '+' || c = '-'

/-- Length of the optional sign that `cs` begins with. -/
def signLength : List Char → Nat
  | [] => 0
  | c :: _ => if isSign c then 1 else 0

/-- Length of the exponent that `cs` begins with, 0 if it begins with none.  A
    mark without digits behind it is no exponent. -/
def exponentLength : List Char → Nat
  | [] => 0
  | c :: cs =>
    let sign := signLength cs
    let run := digitRun (cs.drop sign)
    if isExponentMark c ∧ run ≠ 0 then 1 + sign + run else 0

/-- Length of the longest numeral that `cs` begins with, 0 if there is none. -/
def numeralLength (cs : List Char) : Nat :=
  let mantissa := mantissaLength cs
  if mantissa = 0 then 0 else mantissa + exponentLength (cs.drop mantissa)

/-- The number that the digits among `cs` write. -/
def naturalValue (cs : List Char) : Nat :=
  cs.foldl (fun n c => if c.isDigit then 10 * n + (c.toNat - '0'.toNat) else n) 0

/-- Number of characters behind the point in a mantissa. -/
def decimalPlaces (mantissa : List Char) : Nat :=
  (mantissa.dropWhile (· ≠ '.')).length - 1

/-- The value of an exponent with its mark, 0 for no exponent. -/
def exponentValue (cs : List Char) : Int :=
  if cs.any (· = '-') then -(naturalValue cs : Int) else naturalValue cs

/-- The decimal that `cs` writes, if all of `cs` is a numeral. -/
def Decimal.ofNumeral? (cs : List Char) : Option Decimal :=
  if cs ≠ [] ∧ numeralLength cs = cs.length then
    let mantissa := cs.take (mantissaLength cs)
    some ⟨naturalValue mantissa,
      exponentValue (cs.drop (mantissaLength cs)) - (decimalPlaces mantissa : Int)⟩
  else none

end Worksheet.Number
