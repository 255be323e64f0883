import SwapMarket.Decimal.Basic

/-!
# The published form of a decimal

Every amount and price that leaves the program is written in plain notation with exactly ten
decimal places. **`ticks`** is the value counted in units of the tenth place, rounded to the
nearest unit, a half to the even neighbour; **`tickText`** writes such a count, and
**`published`** is the two in turn. Zero is written without a sign. **`published?`** refuses a
value with so many zeros before the point that 64 bits do not hold the number of places to add.
-/

namespace SwapMarket.Decimal

/-- The number of published decimal places. -/
def places : Nat := 10

/-- The quotient of two natural numbers to the nearest one; a half goes to the even neighbour. -/
def roundHalfEven (n d : Nat) : Nat :=
  let q := n / d
  let r := n % d
  if 2 * r < d then q else if d < 2 * r then q + 1 else q + q % 2

/-- The magnitude `m * 10 ^ (-drop)` rounded to a whole number. A magnitude with fewer digits than
are dropped is below a tenth. -/
def dropPlaces (m drop : Nat) : Nat :=
  if digitCount m < drop then 0 else roundHalfEven m (Nat.pow 10 drop)

/-- The value in units of the tenth place, rounded half to even. -/
def ticks (d : Decimal) : Int :=
  if d.scale ≤ places then d.coefficientAt places
  else d.coefficient.sign * dropPlaces d.coefficient.natAbs (d.scale - places).toNat

/-- The digits of `n`, at least `w` of them. -/
def padded (w n : Nat) : List Char :=
  let ds := Nat.toDigits 10 n
  List.replicate (w - ds.length) '0' ++ ds

/-- A count of tenth-place units in plain notation. -/
def tickText (t : Int) : String :=
  let m := t.natAbs
  .ofList ((if t < 0 then ['-'] else []) ++ Nat.toDigits 10 (m / Nat.pow 10 places)
    ++ '.' :: padded places (m % Nat.pow 10 places))

/-- The text of a decimal with ten places. -/
def published (d : Decimal) : String := tickText d.ticks

/-- The text of a decimal with ten places, if 64 bits hold the number of places to add. -/
def published? (d : Decimal) : Option String :=
  if d.isZero || holdsScale (places - d.scale) || places ≤ d.scale then some d.published else none

/-- The text of zero with ten places. -/
def publishedZero : String := published zero

end SwapMarket.Decimal
