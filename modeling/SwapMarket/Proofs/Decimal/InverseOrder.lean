import SwapMarket.Proofs.Decimal.Product
import SwapMarket.Proofs.Decimal.Reciprocal

/-!
# Inverses are in the opposite order

The inverse of a number of tenth-place units, in such units again (**`inverseUnits`**), is the
smaller the larger the number is (**`inverseUnits_le`**), although both the quotient and the units
are rounded. This holds away from zero only, whose inverse is zero. The inverse of any other number
is rounded to zero from `2 * 10 ^ 20` units on, and not before (**`inverseUnits_eq_zero_iff`**).
-/

namespace SwapMarket.Decimal

/-- The inverse of a number of tenth-place units, in tenth-place units; zero for zero. -/
def inverseUnits (n : Int) : Int := (one.quotient ⟨n, places⟩).ticks

variable {m n : Int}

/-- An inverse that is rounded is near the exact one. -/
theorem inverseUnits_near (hn : 0 < n) : ∃ x : ℚ, IsRounded x (inverseUnits n) ∧
    10 ^ 20 - 1 / 10 ^ 78 ≤ x * n ∧ x * n ≤ 10 ^ 20 + 1 / 10 ^ 78 := by
  obtain ⟨hlow, hhigh⟩ := abs_le.1 (inverse_near hn)
  exact ⟨_, isRounded_ticks _, by linarith, by linarith⟩

/-- The inverse of a price that is not negative is not negative. -/
theorem inverseUnits_nonneg (hn : 0 ≤ n) : 0 ≤ inverseUnits n := by
  rcases hn.eq_or_lt with rfl | hn
  · decide +kernel
  · exact ticks_nonneg (value_pos (quotient_near one_pos hn).1).le

/-- The inverse of a huge number is rounded to zero. -/
theorem inverseUnits_of_huge (hn : 10 ^ 90 ≤ n) : inverseUnits n = 0 := by
  have hpos : 0 < n := lt_of_lt_of_le (by norm_num) hn
  obtain ⟨x, hround, -, hx⟩ := inverseUnits_near hpos
  have hn' : (10 : ℚ) ^ 90 ≤ n := by exact_mod_cast hn
  have hsmall : x ≤ 1 / 10 := by
    refine le_of_mul_le_mul_right (hx.trans ?_) (by linarith : (0 : ℚ) < n)
    linarith
  have hzero : IsRounded (1 / 10) 0 := .of_lt (by norm_num [abs_of_pos])
  exact le_antisymm (hround.le_of_le hzero hsmall) (inverseUnits_nonneg hpos.le)

/-- The inverse of a larger number is no larger. -/
theorem inverseUnits_le (hm : 0 < m) (h : m ≤ n) : inverseUnits n ≤ inverseUnits m := by
  rcases h.eq_or_lt with rfl | hlt
  · exact le_rfl
  rcases le_or_gt (10 ^ 90) n with hhuge | hn
  · rw [inverseUnits_of_huge hhuge]
    exact inverseUnits_nonneg hm.le
  obtain ⟨x, hx, hx₁, -⟩ := inverseUnits_near hm
  obtain ⟨y, hy, -, hy₂⟩ := inverseUnits_near (hm.trans hlt)
  refine hy.le_of_le hx ?_
  -- One unit more counts more than what the digits of the quotients leave open.
  have hm' : (1 : ℚ) ≤ m := by exact_mod_cast hm
  have hmn : (m : ℚ) + 1 ≤ n := by exact_mod_cast hlt
  have hn' : (n : ℚ) < 10 ^ 90 := by exact_mod_cast hn
  by_contra hxy
  have hxy : x < y := not_le.1 hxy
  have hx₀ : 0 ≤ x := by
    refine nonneg_of_mul_nonneg_left (le_trans ?_ hx₁) (by linarith : (0 : ℚ) < m)
    norm_num
  have hstep : x ≤ 2 / 10 ^ 78 := by
    calc x ≤ x * (n - m) := le_mul_of_one_le_right hx₀ (by linarith)
      _ = x * n - x * m := by ring
      _ ≤ y * n - x * m := by
          have : x * n ≤ y * n := mul_le_mul_of_nonneg_right hxy.le (by linarith)
          linarith
      _ ≤ 2 / 10 ^ 78 := by linarith
  have htoo : x * m ≤ 2 / 10 ^ 78 * 10 ^ 90 := by
    apply mul_le_mul hstep _ (by linarith) (by positivity)
    linarith
  norm_num at hx₁ htoo
  linarith

/-- The inverse is zero for zero, and for what is so large that it is rounded to zero. -/
theorem inverseUnits_eq_zero_iff (hn : 0 ≤ n) :
    inverseUnits n = 0 ↔ n = 0 ∨ 2 * 10 ^ 20 ≤ n := by
  constructor
  · intro h
    by_contra hno
    rw [not_or, not_le] at hno
    obtain ⟨hne, hlt⟩ := hno
    have hpos : 0 < n := lt_of_le_of_ne hn (Ne.symm hne)
    have hlast : inverseUnits (2 * 10 ^ 20 - 1) = 1 := by decide +kernel
    have hle := inverseUnits_le hpos (by omega : n ≤ 2 * 10 ^ 20 - 1)
    rw [hlast, h] at hle
    exact absurd hle (by decide)
  · rintro (rfl | hlarge)
    · decide +kernel
    · have hfirst : inverseUnits (2 * 10 ^ 20) = 0 := by decide +kernel
      have hle := inverseUnits_le (by norm_num : (0 : Int) < 2 * 10 ^ 20) hlarge
      rw [hfirst] at hle
      exact le_antisymm hle (inverseUnits_nonneg hn)

end SwapMarket.Decimal
