import SwapMarket.Decimal.TenPlaces

/-!
# Finite numbers of the double format

A **`Binary64`** is a sign, a mantissa of at most 53 bits and a power of two. **`nearest`** is the
number closest to a decimal, a half going to the even mantissa; it fails beyond the greatest
finite number, and so do **`product`** and **`quotient`**. **`Scientific`** is a decimal written as
whole digits and a power of ten, the form in which the printers take a number.
-/

namespace SwapMarket

/-- The number `± mantissa * 2 ^ exponent`. -/
structure Binary64 where
  /-- Whether the sign is minus, also for zero. -/
  negative : Bool
  /-- The significant bits. -/
  mantissa : Nat
  /-- The power of two. -/
  exponent : Int
  deriving DecidableEq, Repr

/-- Whole digits and a power of ten. -/
structure Scientific where
  /-- The digits as one number. -/
  digits : Nat
  /-- The power of ten of the last digit. -/
  exponent : Int
  deriving DecidableEq, Repr

namespace Binary64

/-- The least power of two of a double. -/
def leastExponent : Int := -1074

/-- The greatest power of two of a double. -/
def greatestExponent : Int := 971

/-- The least mantissa of 53 bits. -/
def leastNormal : Nat := Nat.pow 2 52

/-- A ratio `n / d` times `2 ^ k`. -/
def shiftRatio (n d : Nat) (k : Int) : Nat × Nat :=
  if 0 ≤ k then (n * Nat.pow 2 k.toNat, d) else (n, d * Nat.pow 2 (-k).toNat)

/-- A ratio `n / d` times `10 ^ k`. -/
def scaleRatio (n d : Nat) (k : Int) : Nat × Nat :=
  if 0 ≤ k then (n * Nat.pow 10 k.toNat, d) else (n, d * Nat.pow 10 (-k).toNat)

/-- The power of two at which `n / d` has one bit more than `bits`. -/
def exponentAt (bits n d : Nat) : Int :=
  let k : Int := n.log2 - d.log2 - bits
  let r := shiftRatio n d (-k)
  if r.1 / r.2 < Nat.pow 2 bits then k - 1 else k

/-- The power of two at which `n / d` has 53 bits, but not below the least one. -/
def exponentOf (n d : Nat) : Int := max leastExponent (exponentAt 52 n d)

/-- The number zero. -/
def zero (negative : Bool) : Binary64 := ⟨negative, 0, 0⟩

/-- The number nearest to a positive ratio. -/
def nearestRatio (negative : Bool) (n d : Nat) : Option Binary64 :=
  let k := exponentOf n d
  let r := shiftRatio n d (-k)
  let m := Decimal.roundHalfEven r.1 r.2
  let x : Binary64 :=
    if m = 0 then zero negative
    else if m = 2 * leastNormal then ⟨negative, leastNormal, k + 1⟩
    else ⟨negative, m, k⟩
  if greatestExponent < x.exponent then none else some x

/-- The number nearest to a decimal. Decimals beyond all doubles, or closer to zero than any,
are told by their length alone. -/
def nearest (negative : Bool) (s : Scientific) : Option Binary64 :=
  let length : Int := Decimal.digitCount s.digits + s.exponent
  if s.digits = 0 ∨ length < -330 then some (zero negative)
  else if 310 < length then none
  else
    let r := scaleRatio s.digits 1 s.exponent
    nearestRatio negative r.1 r.2

/-- The magnitude as a ratio. -/
def ratio (x : Binary64) : Nat × Nat := shiftRatio x.mantissa 1 x.exponent

/-- The number nearest to a product. -/
def product (x y : Binary64) : Option Binary64 :=
  let negative := x.negative != y.negative
  if x.mantissa = 0 ∨ y.mantissa = 0 then some (zero negative)
  else
    let (a, b) := x.ratio
    let (c, d) := y.ratio
    nearestRatio negative (a * c) (b * d)

/-- The number nearest to a quotient; none by zero. -/
def quotient (x y : Binary64) : Option Binary64 :=
  let negative := x.negative != y.negative
  if y.mantissa = 0 then none
  else if x.mantissa = 0 then some (zero negative)
  else
    let (a, b) := x.ratio
    let (c, d) := y.ratio
    nearestRatio negative (a * d) (b * c)

/-- The greatest power of ten that is a double, as an exponent. -/
def greatestPower : Nat := 308

/-- The double nearest to a power of ten up to the greatest one. -/
def powerOfTen (k : Nat) : Option Binary64 := nearest false ⟨1, k⟩

/-- A number times a power of ten, multiplied by a power of ten or divided by one, and divided by
the greatest one first as long as the power lies below all doubles. -/
def timesPower (x : Binary64) (k : Int) : Option Binary64 :=
  if x.mantissa = 0 then some x
  else if 0 ≤ k then
    if k ≤ greatestPower then (powerOfTen k.toNat).bind x.product else none
  else if -k ≤ greatestPower then (powerOfTen (-k).toNat).bind x.quotient
  else (powerOfTen greatestPower).bind fun p =>
    (x.quotient p).bind fun y => timesPower y (k + greatestPower)
termination_by (-k).toNat
decreasing_by
  simp only [greatestPower] at *
  omega

/-- The `p` with `10 ^ (p - 1) ≤ n / d < 10 ^ p`, for a positive ratio. -/
def decimalLength (n d : Nat) : Int :=
  if d ≤ n then Decimal.digitCount (n / d) else 1 - Decimal.digitCount ((d - 1) / n)

end Binary64

end SwapMarket
