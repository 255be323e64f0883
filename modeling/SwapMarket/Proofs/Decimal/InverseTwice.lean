import SwapMarket.Proofs.Decimal.InverseOrder

/-!
# Inverses of inverses

A number of tenth-place units up to one is found again as the inverse of its inverse
(**`inverseUnits_inverseUnits`**). Its inverse is one or more, and is off by half a unit at most.
This half unit counts less than half a unit in the inverse of the inverse, since the number is less
than its inverse. Nothing is to spare: at one the number is its own inverse.
-/

namespace SwapMarket.Decimal

variable {n : Int}

/-- The inverse of a number below one is above one. -/
theorem lt_inverseUnits (hn : 0 < n) (h : n < 10 ^ 10) : 10 ^ 10 < inverseUnits n := by
  have hlast : inverseUnits (10 ^ 10 - 1) = 10 ^ 10 + 1 := by decide +kernel
  have hle := inverseUnits_le hn (by omega : n ≤ 10 ^ 10 - 1)
  rw [hlast] at hle
  omega

/-- A number below one is near the inverse of its rounded inverse. -/
theorem isRounded_inverse (hn : 0 < n) (h : n < 10 ^ 10) {y : ℚ}
    (hlow : 10 ^ 20 - 1 / 10 ^ 78 ≤ y * inverseUnits n)
    (hhigh : y * inverseUnits n ≤ 10 ^ 20 + 1 / 10 ^ 78) : IsRounded y n := by
  obtain ⟨x, hround, hx₁, hx₂⟩ := inverseUnits_near hn
  obtain ⟨hnear₁, hnear₂⟩ := abs_le.1 hround.near
  have hm := lt_inverseUnits hn h
  generalize inverseUnits n = m at hlow hhigh hnear₁ hnear₂ hm
  have hn₁ : (1 : ℚ) ≤ n := by exact_mod_cast hn
  have hm₁ : (n : ℚ) + 2 ≤ m := by exact_mod_cast (by omega : n + 2 ≤ m)
  -- Rounding the inverse moves its product with the number by half the number at most.
  have hproduct : |(n : ℚ) * m - y * m| ≤ n / 2 + 2 / 10 ^ 78 := by
    have hsplit : (n : ℚ) * m - y * m = (m - x) * n + (x * n - 10 ^ 20) + (10 ^ 20 - y * m) := by
      ring
    rw [hsplit, abs_le]
    constructor
    · nlinarith
    · nlinarith
  refine .of_lt ?_
  have hfactor : |(n : ℚ) * m - y * m| = |(n : ℚ) - y| * m := by
    rw [← sub_mul, abs_mul, abs_of_nonneg (by linarith : (0 : ℚ) ≤ m)]
  rw [hfactor] at hproduct
  have hsmall : (2 : ℚ) / 10 ^ 78 < 1 := by norm_num
  have hlt : |(n : ℚ) - y| * m < 1 / 2 * m := by linarith
  exact lt_of_mul_lt_mul_right hlt (by linarith)

/-- The inverse of the inverse of a number up to one is the number. -/
theorem inverseUnits_inverseUnits (hn : 0 ≤ n) (h : n ≤ 10 ^ 10) :
    inverseUnits (inverseUnits n) = n := by
  rcases hn.eq_or_lt with rfl | hpos
  · decide +kernel
  rcases h.eq_or_lt with rfl | hlt
  · decide +kernel
  have hm := lt_inverseUnits hpos hlt
  obtain ⟨y, hy, hlow, hhigh⟩ := inverseUnits_near (by omega : 0 < inverseUnits n)
  exact hy.unique (isRounded_inverse hpos hlt hlow hhigh)

/-- The inverse of a number of units is at most that of one unit. -/
theorem inverseUnits_le_greatest (hn : 0 ≤ n) : inverseUnits n ≤ 10 ^ 20 := by
  rcases hn.eq_or_lt with rfl | hpos
  · decide +kernel
  · have hone : inverseUnits 1 = 10 ^ 20 := by decide +kernel
    have hle := inverseUnits_le (by norm_num : (0 : Int) < 1) (by omega : 1 ≤ n)
    rwa [hone] at hle

end SwapMarket.Decimal
