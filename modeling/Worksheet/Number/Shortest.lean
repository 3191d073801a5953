import Worksheet.Number.Decimal

/-! # Shortest decimals

    The canonical decimal of a finite magnitude is the one with the fewest
    digits that reads back to it.  For one, two, three and more digits the two
    neighbours of the exact value on that decimal grid are tried; the first
    grid with a neighbour that reads back decides.  Of two neighbours the
    nearer one is taken, and of two equally near ones the larger. -/

namespace Worksheet.Number

namespace Decimal

/-- The two neighbours of `d` among the multiples of `10 ^ (exponent + drop)`,
    the nearer one first and of two equally near ones the larger. -/
def neighbours (d : Decimal) (drop : Nat) : List Decimal :=
  let unit := Nat.pow 10 drop
  let below := trimZeros (d.significand / unit) (d.exponent + drop)
  let above := trimZeros (d.significand / unit + 1) (d.exponent + drop)
  if 2 * (d.significand % unit) < unit then [below, above] else [above, below]

/-- The decimal with the fewest digits that reads back to these bits. -/
def shortest (bits : Nat) : Decimal :=
  let exact := ofMagnitude bits
  let drops := (List.range (digits exact.significand).length).reverse
  (drops.findSome? fun drop => (exact.neighbours drop).find? fun d => d.nearest == bits).getD exact

end Decimal

end Worksheet.Number
