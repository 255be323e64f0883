import SwapMarket.Decimal.Basic

/-!
# Division of decimals

**`quotient`** divides to a hundred significant digits, and stops earlier when the division comes
out even. The digits of an inexact quotient are rounded half up on the digit that follows. If the
first whole quotient of the coefficients is already longer, it is rounded to a whole coefficient.
A divisor that is recognised as one leaves the dividend as it is. **`quotient?`** refuses scales
that 64 bits do not hold.

**`longDivision`** is the same on natural numbers; `longDivision_exact` says what its parts mean.
-/

namespace SwapMarket.Decimal

/-- The number of digits of an inexact quotient. -/
def quotientDigits : Nat := 100

/-- How often `n` has to be multiplied by ten to reach `d`; never for zero. -/
def raises (n d : Nat) : Nat :=
  if 0 < n ∧ n < d then raises (n * 10) d + 1 else 0
termination_by d - n
decreasing_by omega

/-- A division in progress. -/
structure LongDivision where
  /-- The digits found so far. -/
  digits : Nat
  /-- What is left to divide. -/
  rest : Nat
  /-- The number of digits that were appended. -/
  appended : Nat
  deriving DecidableEq, Repr

/-- Appends at most so many digits of the quotient by `d`, none once nothing is left. -/
def appendDigits (d : Nat) : Nat → LongDivision → LongDivision
  | 0, p => p
  | k + 1, p =>
    if p.rest = 0 then p
    else appendDigits d k ⟨p.digits * 10 + p.rest * 10 / d, p.rest * 10 % d, p.appended + 1⟩

/-- The division of `n` by `d` to the wanted number of digits. -/
def longDivision (n d : Nat) : LongDivision :=
  let s := raises n d
  let q := n * Nat.pow 10 s / d
  appendDigits d (quotientDigits - digitCount q) ⟨q, n * Nat.pow 10 s % d, s⟩

/-- The digits of a division after rounding half up on the next digit. -/
def LongDivision.rounded (p : LongDivision) (d : Nat) : Nat :=
  if 5 ≤ p.rest * 10 / d then p.digits + 1 else p.digits

/-- The quotient of two decimals; zero if the divisor is zero. -/
def quotient (a b : Decimal) : Decimal :=
  if b.isZero then zero
  else if a.isZero || b.isWrittenOne then a
  else
    let d := b.coefficient.natAbs
    let p := longDivision a.coefficient.natAbs d
    ⟨a.coefficient.sign * b.coefficient.sign * p.rounded d, a.scale - b.scale + p.appended⟩

/-- The quotient, if 64 bits hold the difference of the scales and the scale of the quotient. -/
def quotient? (a b : Decimal) : Option Decimal :=
  if b.isZero || a.isZero || b.isWrittenOne then some (a.quotient b)
  else if holdsScale (a.scale - b.scale) then (a.quotient b).inRange?
  else none

/-- Appending digits keeps the meaning of the parts. -/
theorem appendDigits_exact {d n : Nat} (k : Nat) {p : LongDivision}
    (h : p.digits * d + p.rest = n * Nat.pow 10 p.appended) :
    (appendDigits d k p).digits * d + (appendDigits d k p).rest
      = n * Nat.pow 10 (appendDigits d k p).appended := by
  induction k generalizing p with
  | zero => simpa [appendDigits] using h
  | succ k ih =>
    unfold appendDigits
    split
    · exact h
    · apply ih
      have := Nat.div_add_mod (p.rest * 10) d
      simp only [Nat.pow_eq] at h ⊢
      simp only [Nat.pow_succ, ← Nat.mul_assoc, ← h, Nat.add_mul]
      have e : p.rest * 10 / d * d = d * (p.rest * 10 / d) := Nat.mul_comm _ _
      have e' : p.digits * 10 * d = p.digits * d * 10 := by
        rw [Nat.mul_assoc, Nat.mul_comm 10 d, Nat.mul_assoc]
      omega

/-- The digits found and the rest make up the dividend at the place reached. -/
theorem longDivision_exact (n d : Nat) :
    (longDivision n d).digits * d + (longDivision n d).rest
      = n * Nat.pow 10 (longDivision n d).appended := by
  unfold longDivision
  apply appendDigits_exact
  have := Nat.div_add_mod (n * Nat.pow 10 (raises n d)) d
  simp only [Nat.mul_comm _ d]
  omega

end SwapMarket.Decimal
