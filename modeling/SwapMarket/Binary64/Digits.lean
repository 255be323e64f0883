import SwapMarket.Binary64.Basic

/-!
# Decimal digits of doubles

**`shortest`** gives the fewest digits that read back as the same number, and of those the
nearest ones.

The numbers that read back as `x` form an interval around it: half way to each neighbour, the ends
included when the mantissa is even. Only the two multiples of a power of ten next to `x` have to
be tried: if any multiple lies in the interval, one of these does.
-/

namespace SwapMarket.Binary64

/-- Four times the lower end, the number itself and the upper end of the interval of a double, in
units of its last bit. Below a power of two the neighbour is at half the distance. -/
def interval (x : Binary64) : Nat × Nat × Nat :=
  let m := 4 * x.mantissa
  let below := if x.mantissa = leastNormal ∧ leastExponent < x.exponent then 1 else 2
  (m - below, m, m + 2)

/-- Whether a decimal reads back as `x`. -/
def readsBack (x : Binary64) (s : Scientific) : Bool :=
  let (low, _, high) := x.interval
  let unit := shiftRatio 1 1 (x.exponent - 2)
  let v := scaleRatio s.digits 1 s.exponent
  let a := low * unit.1 * v.2
  let b := high * unit.1 * v.2
  let c := v.1 * unit.2
  if x.mantissa % 2 = 0 then a ≤ c && c ≤ b else a < c && c < b

/-- The better of the two multiples of `10 ^ u` next to `x`, if one reads back. -/
def onGrid (x : Binary64) (u : Int) : Option Scientific :=
  let r := x.ratio
  let g := scaleRatio r.1 r.2 (-u)
  let c := g.1 / g.2
  let down : Scientific := ⟨c, u⟩
  let up : Scientific := ⟨c + 1, u⟩
  let rest := 2 * (g.1 % g.2)
  let nearer := if rest < g.2 ∨ (rest = g.2 ∧ c % 2 = 0) then [down, up] else [up, down]
  nearer.find? x.readsBack

/-- The digits of a decimal without the zeros at their end. -/
def trimZeros (s : Scientific) : Scientific :=
  let p := Decimal.dropZeros s.digits
  ⟨p.1, s.exponent + p.2⟩

/-- The fewest digits that read back as the magnitude of `x`; zero is one digit. -/
def shortest (x : Binary64) : Scientific :=
  if x.mantissa = 0 then ⟨0, 0⟩
  else
    let p := decimalLength x.ratio.1 x.ratio.2
    match (List.range 17).findSome? fun n => x.onGrid (p - (n + 1 : Nat)) with
    | some s => trimZeros s
    | none => ⟨0, 0⟩

end SwapMarket.Binary64
