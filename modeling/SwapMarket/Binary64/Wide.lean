import SwapMarket.Binary64.Basic

/-!
# Positive numbers of 64 bits

A **`Wide`** number is a mantissa of 64 bits and a power of two, wide enough to hold any positive
double as it is. **`Wide.nearest`** rounds a ratio to one, a half going to the even mantissa, and
products are rounded so.

**`Wide.scaled`** brings a number up or down to eighteen or nineteen whole digits, step by step
with powers of ten of a hundred, ten and one zeros. **`Binary64.significant`** takes so many
significant digits of a double from the number scaled in this way.
-/

namespace SwapMarket

/-- The positive number `mantissa * 2 ^ exponent`. -/
structure Wide where
  /-- The significant bits. -/
  mantissa : Nat
  /-- The power of two. -/
  exponent : Int
  deriving DecidableEq, Repr

namespace Wide

/-- The number nearest to a positive ratio. -/
def nearest (r : Nat × Nat) : Wide :=
  let k := Binary64.exponentAt 63 r.1 r.2
  let s := Binary64.shiftRatio r.1 r.2 (-k)
  let m := Decimal.roundHalfEven s.1 s.2
  if m = Nat.pow 2 64 then ⟨Nat.pow 2 63, k + 1⟩ else ⟨m, k⟩

/-- A number as a ratio. -/
def ratio (x : Wide) : Nat × Nat := Binary64.shiftRatio x.mantissa 1 x.exponent

/-- The number nearest to a power of ten. -/
def powerOfTen (k : Int) : Wide := nearest (Binary64.scaleRatio 1 1 k)

/-- The number nearest to a product. -/
def times (x y : Wide) : Wide :=
  nearest (x.ratio.1 * y.ratio.1, x.ratio.2 * y.ratio.2)

/-- Whether a number is below another one. -/
def isBelow (x y : Wide) : Bool := x.ratio.1 * y.ratio.2 < y.ratio.1 * x.ratio.2

/-- The whole part. -/
def whole (x : Wide) : Nat := x.ratio.1 / x.ratio.2

/-- A number with a power of ten that it stands to be multiplied by. -/
structure Scaled where
  /-- The number. -/
  value : Wide
  /-- The power of ten. -/
  power : Int
  deriving DecidableEq, Repr

/-- More steps of one kind than any double needs. -/
def stepCount : Nat := 12

/-- Moves powers of ten into the number as long as it is below a bound. -/
def raise (bound : Wide) (zeros : Int) : Nat → Scaled → Scaled
  | 0, s => s
  | n + 1, s =>
    if s.value.isBelow bound then
      raise bound zeros n ⟨s.value.times (powerOfTen zeros), s.power - zeros⟩
    else s

/-- Moves powers of ten out of the number as long as it is not below a bound. -/
def reduce (bound : Wide) (zeros : Int) : Nat → Scaled → Scaled
  | 0, s => s
  | n + 1, s =>
    if s.value.isBelow bound then s
    else reduce bound zeros n ⟨s.value.times (powerOfTen (-zeros)), s.power + zeros⟩

/-- A number brought to at least eighteen and at most nineteen whole digits. -/
def scaled (x : Wide) : Scaled :=
  let s : Scaled := ⟨x, 0⟩
  if x.isBelow (powerOfTen 19) then
    raise (powerOfTen 17) 1 stepCount
      (raise (powerOfTen 7) 10 stepCount (raise (powerOfTen (-97)) 100 stepCount s))
  else
    reduce (powerOfTen 19) 1 stepCount
      (reduce (powerOfTen 29) 10 stepCount (reduce (powerOfTen 119) 100 stepCount s))

end Wide

/-- The first `n` digits of a number of more digits, rounded half up by the next digit, with the
count of the digits before the point that they have as a fraction of one. -/
def leadingRounded (n v : Nat) : Nat × Int :=
  let count := Decimal.digitCount v
  let c := (v / Nat.pow 10 (count - n - 1) + 5) / 10
  if c = Nat.pow 10 n then (Nat.pow 10 (n - 1), count + 1) else (c, count)

/-- The magnitude of a non-zero `x` rounded to `n` significant digits, with the power of ten of the
first digit. -/
def Binary64.significant (n : Nat) (x : Binary64) : Nat × Int :=
  let s := (Wide.nearest x.ratio).scaled
  let (c, count) := leadingRounded n s.value.whole
  (c, count + s.power - 1)

end SwapMarket
