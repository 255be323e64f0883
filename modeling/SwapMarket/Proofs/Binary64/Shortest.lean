import SwapMarket.Json.Basic
import SwapMarket.Proofs.Decimal.Value
import Mathlib.Data.Nat.Cast.Order.Field

/-!
# The length of the digits of numbers

The digits of a double are sought on grids of at most seventeen digits, so there are no more of them
(**`Binary64.digits_shortest_le`**). Integers of 64 bits have at most twenty digits. So the
coefficient of any number that a text of JSON can hold is small
(**`Number.abs_coefficient_decimal_le`**), however large or small the number is.
-/

namespace SwapMarket

namespace Binary64

open Decimal (digitCount digitCount_pos lt_pow_digitCount pow_digitCount_le)

/-- A positive ratio is below the power of ten that its length names. -/
theorem ratio_lt {n d : ℕ} (hn : 0 < n) (hd : 0 < d) :
    (n : ℚ) / d < 10 ^ decimalLength n d := by
  have hn' : (0 : ℚ) < n := by exact_mod_cast hn
  have hd' : (0 : ℚ) < d := by exact_mod_cast hd
  unfold decimalLength
  split
  · next h =>
    have hlt : n / d + 1 ≤ 10 ^ digitCount (n / d) := lt_pow_digitCount (n / d)
    have hfloor : n < (n / d + 1) * d := by
      rw [Nat.mul_comm]
      exact Nat.lt_mul_div_succ n hd
    rw [div_lt_iff₀ hd', zpow_natCast]
    calc (n : ℚ) < ((n / d + 1 : ℕ) : ℚ) * d := by exact_mod_cast hfloor
      _ ≤ 10 ^ digitCount (n / d) * d := by
        gcongr
        exact_mod_cast hlt
  · next h =>
    have hquotient : 0 < (d - 1) / n := Nat.div_pos (by omega) hn
    have hle : 10 ^ (digitCount ((d - 1) / n) - 1) ≤ (d - 1) / n := pow_digitCount_le hquotient
    have hcount := digitCount_pos ((d - 1) / n)
    have hfloor : (d - 1) / n * n ≤ d - 1 := Nat.div_mul_le_self _ _
    have hscale : (1 : ℤ) - digitCount ((d - 1) / n)
        = -((digitCount ((d - 1) / n) - 1 : ℕ) : ℤ) := by omega
    rw [hscale, zpow_neg, zpow_natCast, div_lt_iff₀ hd', ← div_eq_inv_mul,
      lt_div_iff₀ (by positivity)]
    have hprod : 10 ^ (digitCount ((d - 1) / n) - 1) * n ≤ d - 1 :=
      (Nat.mul_le_mul_right n hle).trans hfloor
    have hprod : n * 10 ^ (digitCount ((d - 1) / n) - 1) < d := by
      rw [Nat.mul_comm]
      omega
    exact_mod_cast hprod

/-- The pair of natural numbers is the quotient, scaled by a power of ten. -/
theorem scaleRatio_eq (n d : ℕ) (k : ℤ) :
    ((scaleRatio n d k).1 : ℚ) / (scaleRatio n d k).2 = n / d * 10 ^ k := by
  unfold scaleRatio
  split
  · next h =>
    obtain ⟨j, rfl⟩ := Int.eq_ofNat_of_zero_le h
    have hpow : ((Nat.pow 10 (j : ℤ).toNat : ℕ) : ℚ) = 10 ^ j := Nat.cast_pow 10 j
    rw [Nat.cast_mul, hpow, zpow_natCast]
    ring
  · next h =>
    obtain ⟨j, hj⟩ := Int.eq_ofNat_of_zero_le (by omega : 0 ≤ -k)
    have hpow : ((Nat.pow 10 (-k).toNat : ℕ) : ℚ) = 10 ^ j := by
      rw [hj]
      exact Nat.cast_pow 10 j
    rw [Nat.cast_mul, hpow, neg_eq_iff_eq_neg.1 hj, zpow_neg, zpow_natCast]
    field_simp

variable {x : Binary64}

/-- Both parts of the ratio of a nonzero number are positive. -/
theorem ratio_pos (hx : x.mantissa ≠ 0) : 0 < x.ratio.1 ∧ 0 < x.ratio.2 := by
  have hm : 0 < x.mantissa := Nat.pos_of_ne_zero hx
  unfold ratio shiftRatio
  split
  · exact ⟨Nat.mul_pos hm (Nat.pow_pos (by decide)), Nat.one_pos⟩
  · exact ⟨hm, Nat.mul_pos Nat.one_pos (Nat.pow_pos (by decide))⟩

/-- On a grid that is so many digits finer than the number is long, there are no more digits. -/
theorem digits_onGrid_le (hx : x.mantissa ≠ 0) {k : ℕ} {s : Scientific}
    (h : x.onGrid (decimalLength x.ratio.1 x.ratio.2 - k) = some s) : s.digits ≤ 10 ^ k := by
  obtain ⟨hn, hd⟩ := ratio_pos hx
  have hlt := ratio_lt hn hd
  generalize hp : decimalLength x.ratio.1 x.ratio.2 = p at h hlt
  have hten : (10 : ℚ) ≠ 0 := by norm_num
  -- The number in units of the grid is below `10 ^ k`.
  have hgrid := scaleRatio_eq x.ratio.1 x.ratio.2 (-(p - k))
  have hbelow : ((scaleRatio x.ratio.1 x.ratio.2 (-(p - k))).1 : ℚ)
      / (scaleRatio x.ratio.1 x.ratio.2 (-(p - k))).2 < 10 ^ k := by
    have hscale : (10 : ℚ) ^ p * 10 ^ (-(p - k : ℤ)) = 10 ^ k := by
      rw [← zpow_add₀ hten, ← zpow_natCast]
      congr 1
      ring
    rw [hgrid, ← hscale]
    exact mul_lt_mul_of_pos_right hlt (by positivity)
  unfold onGrid at h
  simp only at h
  generalize scaleRatio x.ratio.1 x.ratio.2 (-(p - k)) = g at h hbelow
  have hc : g.1 / g.2 < 10 ^ k := by
    have hfloor : ((g.1 / g.2 : ℕ) : ℚ) ≤ (g.1 : ℚ) / g.2 := Nat.cast_div_le
    exact_mod_cast hfloor.trans_lt hbelow
  have hmem := List.mem_of_find?_eq_some h
  have hcases : s = ⟨g.1 / g.2, p - k⟩ ∨ s = ⟨g.1 / g.2 + 1, p - k⟩ := by
    split at hmem
    · simpa using hmem
    · have : s = ⟨g.1 / g.2 + 1, p - k⟩ ∨ s = ⟨g.1 / g.2, p - k⟩ := by simpa using hmem
      exact this.symm
  rcases hcases with rfl | rfl
  · exact hc.le
  · exact hc

/-- Dropping zeros at the end makes no more digits. -/
theorem digits_trimZeros_le (s : Scientific) : (trimZeros s).digits ≤ s.digits := by
  have h := Decimal.dropZeros_mul s.digits
  calc (Decimal.dropZeros s.digits).1
      ≤ (Decimal.dropZeros s.digits).1 * Nat.pow 10 (Decimal.dropZeros s.digits).2 :=
        Nat.le_mul_of_pos_right _ (Nat.pow_pos (by decide))
    _ = s.digits := h

/-- A double has at most seventeen digits. -/
theorem digits_shortest_le (x : Binary64) : x.shortest.digits ≤ 10 ^ 17 := by
  unfold shortest
  split
  · exact Nat.zero_le _
  · next hx =>
    simp only
    split
    · next s hs =>
      obtain ⟨k, hk, hgrid⟩ := List.exists_of_findSome?_eq_some hs
      have hk : k < 17 := List.mem_range.1 hk
      calc (trimZeros s).digits ≤ s.digits := digits_trimZeros_le s
        _ ≤ 10 ^ (k + 1) := digits_onGrid_le hx hgrid
        _ ≤ 10 ^ 17 := Nat.pow_le_pow_right (by decide) hk
    · exact Nat.zero_le _

end Binary64

namespace Number

/-- A number that a text of JSON can hold: its integers have 64 bits, with a sign or without. -/
def FitsJson : Number → Prop
  | .int n => -2 ^ 63 ≤ n ∧ n < 2 ^ 64
  | .real _ => True

/-- The coefficient of a number has at most twenty digits. -/
theorem abs_coefficient_decimal_le {n : Number} (h : n.FitsJson) :
    |(n.decimal.coefficient : ℚ)| ≤ 10 ^ 20 := by
  suffices hint : |n.decimal.coefficient| ≤ 10 ^ 20 by
    rw [← Int.cast_abs]
    exact_mod_cast hint
  cases n with
  | int n =>
    obtain ⟨hlow, hhigh⟩ := h
    show |n| ≤ 10 ^ 20
    rw [abs_le]
    omega
  | real x =>
    have hsign : |if x.negative then (-1 : ℤ) else 1| = 1 := by cases x.negative <;> rfl
    unfold decimal
    simp only
    split
    · next hplain =>
      obtain ⟨hexp, hlength⟩ := hplain
      have hdigits : plainDigits = 16 := rfl
      obtain ⟨k, hk⟩ := Int.eq_ofNat_of_zero_le hexp
      have hlt := Decimal.lt_pow_digitCount x.shortest.digits
      rw [abs_mul, hsign, one_mul, hk, Int.toNat_natCast, Nat.abs_cast]
      have hle : x.shortest.digits * 10 ^ (k + 1) ≤ 10 ^ 20 :=
        calc x.shortest.digits * 10 ^ (k + 1)
            ≤ 10 ^ Decimal.digitCount x.shortest.digits * 10 ^ (k + 1) :=
              Nat.mul_le_mul_right _ hlt.le
          _ = 10 ^ (Decimal.digitCount x.shortest.digits + (k + 1)) := (Nat.pow_add _ _ _).symm
          _ ≤ 10 ^ 20 := Nat.pow_le_pow_right (by decide) (by omega)
      exact_mod_cast hle
    · rw [abs_mul, hsign, one_mul, Nat.abs_cast]
      have hle : x.shortest.digits ≤ 10 ^ 20 :=
        x.digits_shortest_le.trans (Nat.pow_le_pow_right (by decide) (by decide))
      exact_mod_cast hle

end Number

end SwapMarket
