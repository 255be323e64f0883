import SwapMarket.Text.Integer

/-!
# Exact decimals

A **`Decimal`** is an integer coefficient together with a number of decimal places, its `scale`;
a negative scale stands for trailing zeros. The same value has many such forms, and the form
decides how many digits a quotient gets, so it is kept as it arose: sums and differences take the
larger scale of their operands, products the sum of the scales. Only a factor that is visibly one
leaves the reduced form of the other.

* **`coefficientAt`**: the coefficient of the same value at a larger scale.
* **`order`**: the order of the values. It is decided by the places of the first digits wherever
  they differ, so that no power of ten gets larger than the coefficients are long.
* **`reduced`**: the form whose coefficient does not end in a zero.
* **`inRange?`**: refuses a scale that 64 bits do not hold; **`product?`** is the product under
  this condition.
-/

namespace SwapMarket

/-- The number `coefficient * 10 ^ (-scale)`. -/
structure Decimal where
  /-- The digits and the sign. -/
  coefficient : Int
  /-- The number of decimal places. -/
  scale : Int
  deriving DecidableEq, Repr

namespace Decimal

/-- The number zero. -/
def zero : Decimal := ⟨0, 0⟩

/-- An integer without decimal places. -/
def ofInt (n : Int) : Decimal := ⟨n, 0⟩

/-- The number one. -/
def one : Decimal := ofInt 1

instance : Inhabited Decimal := ⟨zero⟩

/-- The coefficient of the same value at scale `s`, for `s` not below the scale of `d`. -/
def coefficientAt (d : Decimal) (s : Int) : Int :=
  if d.coefficient = 0 then 0 else d.coefficient * (Nat.pow 10 (s - d.scale).toNat : Nat)

/-- Whether the value is zero. -/
def isZero (d : Decimal) : Bool := d.coefficient == 0

/-- Whether the value is above zero. -/
def isPositive (d : Decimal) : Bool := 0 < d.coefficient

/-- The number of places up to which a form of one is recognised. -/
def onePlaces : Nat := 38

/-- Whether a form is one, written with at most so many places that it is recognised. -/
def isWrittenOne (d : Decimal) : Bool :=
  0 ≤ d.scale && d.scale ≤ onePlaces && d.coefficient == (Nat.pow 10 d.scale.toNat : Nat)

/-- The number of digits of a natural number; zero has one. -/
def digitCount (n : Nat) : Nat := (Nat.toDigits 10 n).length

/-- Divides by ten as long as that is exact: the last quotient and the number of divisions. -/
def dropZeros (n : Nat) : Nat × Nat :=
  if n ≠ 0 ∧ n % 10 = 0 then
    let p := dropZeros (n / 10)
    (p.1, p.2 + 1)
  else (n, 0)
termination_by n
decreasing_by omega

/-- The form of the same value whose coefficient does not end in a zero; zero has scale zero. -/
def reduced (d : Decimal) : Decimal :=
  if d.coefficient = 0 then zero
  else
    let p := dropZeros d.coefficient.natAbs
    ⟨d.coefficient.sign * p.1, d.scale - p.2⟩

/-- The same value at scale `s` if that is larger, but with at most fifteen places more. -/
def extended (d : Decimal) (s : Int) : Decimal :=
  let t := max d.scale (min s (d.scale + 15))
  ⟨d.coefficientAt t, t⟩

/-- The sum, at the larger scale. Next to a zero the other operand is only extended. -/
def add (a b : Decimal) : Decimal :=
  if b.isZero then a.extended b.scale
  else if a.isZero then b.extended a.scale
  else
    let s := max a.scale b.scale
    ⟨a.coefficientAt s + b.coefficientAt s, s⟩

/-- The same magnitude with the other sign. -/
def neg (d : Decimal) : Decimal := ⟨-d.coefficient, d.scale⟩

/-- The difference, at the larger scale. -/
def sub (a b : Decimal) : Decimal := a.add b.neg

/-- The product, at the sum of the scales. A factor that is recognised as one leaves the reduced
form of the other. -/
def mul (a b : Decimal) : Decimal :=
  if a.isWrittenOne then b.reduced
  else if b.isWrittenOne then a.reduced
  else ⟨a.coefficient * b.coefficient, a.scale + b.scale⟩

instance : Add Decimal := ⟨add⟩
instance : Sub Decimal := ⟨sub⟩
instance : Mul Decimal := ⟨mul⟩

/-- The sum of a list, from the left. -/
def sum (ds : List Decimal) : Decimal :=
  ds.foldl (· + ·) zero

/-- Whether 64 bits hold a scale. -/
def holdsScale (s : Int) : Bool := (Text.Bounds.signed 64).holds s

/-- The decimal, if 64 bits hold its scale. -/
def inRange? (d : Decimal) : Option Decimal := if holdsScale d.scale then some d else none

/-- The product, if 64 bits hold its scale. -/
def product? (a b : Decimal) : Option Decimal := (a * b).inRange?

/-- The place before the first digit: the magnitude of a value other than zero is below this power
of ten, and not below the one before. -/
def firstPlace (d : Decimal) : Int := digitCount d.coefficient.natAbs - d.scale

/-- The order of two values. -/
def order (a b : Decimal) : Ordering :=
  if a.coefficient.sign ≠ b.coefficient.sign then compare a.coefficient.sign b.coefficient.sign
  else if a.coefficient = 0 then .eq
  else if a.firstPlace = b.firstPlace then
    let s := max a.scale b.scale
    compare (a.coefficientAt s) (b.coefficientAt s)
  else if 0 < a.coefficient then compare a.firstPlace b.firstPlace
  else compare b.firstPlace a.firstPlace

/-- Whether the value of `a` is below that of `b`. -/
def below (a b : Decimal) : Bool := order a b == .lt

@[simp] theorem isZero_zero : zero.isZero = true := rfl

@[simp] theorem coefficientAt_scale (d : Decimal) : d.coefficientAt d.scale = d.coefficient := by
  unfold coefficientAt
  split
  · next h => exact h.symm
  · simp

/-- What `dropZeros` takes off is a power of ten. -/
theorem dropZeros_mul (n : Nat) : (dropZeros n).1 * Nat.pow 10 (dropZeros n).2 = n := by
  induction n using Nat.strongRecOn with
  | ind n ih =>
    unfold dropZeros
    split
    · next h =>
      have := ih (n / 10) (by omega)
      simp only [Nat.pow_eq] at this ⊢
      simp only [Nat.pow_succ, ← Nat.mul_assoc, this]
      omega
    · simp

end Decimal

end SwapMarket
