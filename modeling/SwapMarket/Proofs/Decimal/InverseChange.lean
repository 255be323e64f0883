import SwapMarket.Proofs.Decimal.InverseOrder

/-!
# Changes of inverse prices

A price goes from `o` to `n` units of the tenth place. Seen from the other side it goes from the
inverse of the one to the inverse of the other, and the change (**`inverseChange`**) and the change
in percent (**`inverseChangePercent`**) are those of the inverses.

Where the old price is known up to a unit only, so are both changes: the first up to the difference
of two neighbouring inverses (`ticks_inverseChange_near`), the second, which is `(o - n) / n`, up to
a hundred percent of the `n`-th part of a unit (`ticks_inverseChangePercent_near`). To this comes
one unit for the rounding, and to the second the digits of the quotients, which do not count below
`10 ^ 84` units.
-/

namespace SwapMarket.Decimal

/-- The change from the inverse of a number of tenth-place units to that of another. -/
def inverseChange (o n : Int) : Decimal := one.quotient ⟨n, places⟩ - one.quotient ⟨o, places⟩

/-- The same in percent of the first inverse. -/
def inverseChangePercent (o n : Int) : Decimal :=
  (inverseChange o n).quotient (one.quotient ⟨o, places⟩) * ofInt 100

variable {o o' n : Int}

/-- The inverse of a positive price is positive. -/
theorem inverse_pos (ho : 0 < o) : 0 < (one.quotient ⟨o, places⟩).coefficient :=
  (quotient_near one_pos ho).1

/-! ## The change -/

/-- The inverses of neighbouring numbers are not far apart. -/
theorem abs_inverseChange_sub_mul_le (ho : 0 < o) (ho' : 0 < o') (h : |o' - o| ≤ 1) :
    |(inverseChange o n).value * 10 ^ 10 - (inverseChange o' n).value * 10 ^ 10| * ((o' : ℚ) * o)
      ≤ 10 ^ 20 + 1 / 10 ^ 78 * (o + o') := by
  have hsplit : (inverseChange o n).value * 10 ^ 10 - (inverseChange o' n).value * 10 ^ 10
      = (one.quotient ⟨o', places⟩).value * 10 ^ 10
        - (one.quotient ⟨o, places⟩).value * 10 ^ 10 := by
    unfold inverseChange
    rw [value_sub, value_sub]
    ring
  have ho₀ : (0 : ℚ) ≤ o := by exact_mod_cast ho.le
  have ho₀' : (0 : ℚ) ≤ o' := by exact_mod_cast ho'.le
  have hnear : |(o : ℚ) - o'| ≤ 1 := by
    rw [abs_sub_comm]
    exact_mod_cast h
  rw [hsplit]
  calc _ ≤ 10 ^ 20 * |(o : ℚ) - o'| + 1 / 10 ^ 78 * (o + o') := by
        apply abs_sub_mul_mul_le (by positivity) ho₀' ho₀ _ (inverse_near ho')
        rw [mul_comm]
        exact inverse_near ho
    _ ≤ 10 ^ 20 + 1 / 10 ^ 78 * (o + o') := by linarith

/-- How much the change of inverses hangs on a unit of the old number. -/
theorem ticks_inverseChange_near (ho : 2 ≤ o) (h : |o' - o| ≤ 1) :
    |(inverseChange o n).ticks - (inverseChange o' n).ticks| ≤ 1 + 10 ^ 20 / (o * (o - 1)) := by
  obtain ⟨hlow, hhigh⟩ := abs_le.1 h
  have hM : 0 < o * (o - 1) := mul_pos (by omega) (by omega)
  have hround := abs_sub_le_of_rounded (inverseChange o n).ticks_near
    (inverseChange o' n).ticks_near
  have hoff := abs_inverseChange_sub_mul_le (n := n) (by omega : 0 < o) (by omega : 0 < o') h
  rw [← sub_le_iff_le_add', Int.le_ediv_iff_mul_le hM]
  apply mul_le_of_le_add_digits (by omega : 0 < o - 1)
  · exact mul_le_mul_of_nonneg_right (by omega) (by omega)
  · have ho₂ : (2 : ℚ) ≤ o := by exact_mod_cast ho
    have hbefore : (o : ℚ) - 1 ≤ o' := by exact_mod_cast (by omega : o - 1 ≤ o')
    have hafter : (o' : ℚ) ≤ o + 1 := by exact_mod_cast (by omega : o' ≤ o + 1)
    have hnonneg : (0 : ℚ) ≤ o * (o - 1) := by exact_mod_cast hM.le
    push_cast at hround ⊢
    generalize (inverseChange o n).value * 10 ^ 10 = y at hround hoff
    generalize (inverseChange o' n).value * 10 ^ 10 = z at hround hoff
    calc (|((inverseChange o n).ticks : ℚ) - (inverseChange o' n).ticks| - 1) * (o * (o - 1))
        ≤ |y - z| * (o * (o - 1)) := mul_le_mul_of_nonneg_right (by linarith) hnonneg
      _ ≤ |y - z| * (o' * o) := by
          rw [mul_comm (o' : ℚ)]
          gcongr
      _ ≤ 10 ^ 20 + 1 / 10 ^ 78 * (o + o') := hoff
      _ ≤ 10 ^ 20 + 1 / 10 ^ 78 * (4 * (o - 1) + 1) := by linarith

/-! ## The change in percent -/

/-- The inverse change in percent is the quotient of change and price, a hundred times. -/
theorem value_inverseChangePercent : (inverseChangePercent o n).value
    = ((inverseChange o n).quotient (one.quotient ⟨o, places⟩)).value * 100 := by
  unfold inverseChangePercent
  rw [value_mul, value_ofInt]
  norm_num

section Quotients

/-! Here `x` is the inverse of `o` units of the tenth place and `z` that of `n`, and `w` is the part
by which `x` changes to `z`, all of them up to their digits. -/

variable {o n w x z : ℚ}

/-- What the digits of the last of the three quotients count. -/
theorem abs_sub_mul_digits_le (ho : 0 < o) (hn : 0 < n) (hx : 0 < x) (hz : 0 < z)
    (hxo : x * 10 ^ 10 * o ≤ 2 * 10 ^ 20) (hzn : z * 10 ^ 10 * n ≤ 2 * 10 ^ 20)
    (hw : |w * x - (z - x)| ≤ |z - x| / 10 ^ 99) :
    |w * x - (z - x)| * (10 ^ 10 * n * o) ≤ 2 / 10 ^ 79 * (o + n) := by
  have hsum : |z - x| ≤ z + x := abs_le.2 ⟨by linarith, by linarith⟩
  calc |w * x - (z - x)| * (10 ^ 10 * n * o) ≤ (z + x) / 10 ^ 99 * (10 ^ 10 * n * o) := by
        gcongr
        exact hw.trans (by gcongr)
    _ = (z * 10 ^ 10 * n * o + x * 10 ^ 10 * o * n) / 10 ^ 99 := by ring
    _ ≤ (2 * 10 ^ 20 * o + 2 * 10 ^ 20 * n) / 10 ^ 99 := by gcongr
    _ = 2 / 10 ^ 79 * (o + n) := by ring

/-- The part by which an inverse changes, times the new number, is the difference of the numbers, up
to the digits of the three quotients. -/
theorem abs_mul_sub_sub_le (ho : 0 < o) (hn : 0 < n) (hx : 0 < x) (hz : 0 < z)
    (hxo : |x * 10 ^ 10 * o - 10 ^ 20| ≤ 1 / 10 ^ 78)
    (hzn : |z * 10 ^ 10 * n - 10 ^ 20| ≤ 1 / 10 ^ 78)
    (hw : |w * x - (z - x)| ≤ |z - x| / 10 ^ 99) : |w * n - (o - n)| ≤ (o + n) / 10 ^ 97 := by
  obtain ⟨hxo₁, hxo₂⟩ := abs_le.1 hxo
  obtain ⟨-, hzn₂⟩ := abs_le.1 hzn
  have hdigits := abs_sub_mul_digits_le ho hn hx hz (by linarith) (by linarith) hw
  have hsplit : (w * n - (o - n)) * (x * 10 ^ 10 * o)
      = ((z * 10 ^ 10 * n - 10 ^ 20) * o - (x * 10 ^ 10 * o - 10 ^ 20) * o)
        + (w * x - (z - x)) * (10 ^ 10 * n * o) := by ring
  have herrors : |w * n - (o - n)| * (x * 10 ^ 10 * o) ≤ 3 / 10 ^ 78 * (o + n) := by
    calc |w * n - (o - n)| * (x * 10 ^ 10 * o) = |(w * n - (o - n)) * (x * 10 ^ 10 * o)| := by
          rw [abs_mul, abs_of_pos (by positivity : 0 < x * 10 ^ 10 * o)]
      _ ≤ |(z * 10 ^ 10 * n - 10 ^ 20) * o| + |(x * 10 ^ 10 * o - 10 ^ 20) * o|
          + |(w * x - (z - x)) * (10 ^ 10 * n * o)| := by
          rw [hsplit]
          exact abs_sub_add_le_add _ _ _
      _ = |z * 10 ^ 10 * n - 10 ^ 20| * o + |x * 10 ^ 10 * o - 10 ^ 20| * o
          + |w * x - (z - x)| * (10 ^ 10 * n * o) := by
          rw [abs_mul, abs_mul, abs_mul, abs_of_pos ho,
            abs_of_pos (by positivity : 0 < 10 ^ 10 * n * o)]
      _ ≤ 1 / 10 ^ 78 * o + 1 / 10 ^ 78 * o + 2 / 10 ^ 79 * (o + n) := by gcongr
      _ ≤ 3 / 10 ^ 78 * (o + n) := by linarith
  have hhalf : |w * n - (o - n)| * (10 ^ 20 / 2) ≤ |w * n - (o - n)| * (x * 10 ^ 10 * o) := by
    gcongr
    linarith
  rw [le_div_iff₀ (by positivity)]
  linarith

end Quotients

/-- The change in percent, times the new number, is the difference of the numbers in percent. -/
theorem abs_inverseChangePercent_mul_sub_le (ho : 0 < o) (hn : 0 < n) :
    |(inverseChangePercent o n).value * 10 ^ 10 * n - 10 ^ 12 * ((o : ℚ) - n)|
      ≤ ((o : ℚ) + n) / 10 ^ 85 := by
  have hw := quotient_near_abs (a := inverseChange o n) (inverse_pos ho)
  have hchange : (inverseChange o n).value
      = (one.quotient ⟨n, places⟩).value - (one.quotient ⟨o, places⟩).value := value_sub _ _
  rw [hchange] at hw
  have hnear := abs_mul_sub_sub_le (by exact_mod_cast ho) (by exact_mod_cast hn)
    (value_pos (inverse_pos ho)) (value_pos (inverse_pos hn)) (inverse_near ho) (inverse_near hn) hw
  rw [value_inverseChangePercent]
  generalize ((inverseChange o n).quotient (one.quotient ⟨o, places⟩)).value = w at hnear ⊢
  have hfactor : w * 100 * 10 ^ 10 * n - 10 ^ 12 * ((o : ℚ) - n)
      = (w * n - (o - n)) * 10 ^ 12 := by ring
  rw [hfactor, abs_mul, abs_of_pos (by positivity : (0 : ℚ) < 10 ^ 12)]
  linarith

/-- The changes in percent of neighbouring numbers are not far apart. -/
theorem abs_inverseChangePercent_sub_mul_le (ho : 2 ≤ o) (hn : 0 < n) (h : |o' - o| ≤ 1) :
    |(inverseChangePercent o n).value * 10 ^ 10 - (inverseChangePercent o' n).value * 10 ^ 10|
      * (n : ℚ) ≤ 10 ^ 12 + ((o : ℚ) + n) / 10 ^ 84 := by
  obtain ⟨hlow, hhigh⟩ := abs_le.1 h
  have hy := abs_inverseChangePercent_mul_sub_le (by omega : 0 < o) hn
  have hz := abs_inverseChangePercent_mul_sub_le (by omega : 0 < o') hn
  have hn₀ : (0 : ℚ) < n := by exact_mod_cast hn
  have ho₂ : (2 : ℚ) ≤ o := by exact_mod_cast ho
  have hafter : (o' : ℚ) ≤ o + 1 := by exact_mod_cast (by omega : o' ≤ o + 1)
  have hnear : |(o : ℚ) - o'| ≤ 1 := by
    rw [abs_sub_comm]
    exact_mod_cast h
  generalize (inverseChangePercent o n).value * 10 ^ 10 = y at hy ⊢
  generalize (inverseChangePercent o' n).value * 10 ^ 10 = z at hz ⊢
  have hsplit : (y - z) * n = (y * n - 10 ^ 12 * ((o : ℚ) - n))
      - (z * n - 10 ^ 12 * ((o' : ℚ) - n)) + 10 ^ 12 * ((o : ℚ) - o') := by ring
  calc |y - z| * n = |(y - z) * n| := by rw [abs_mul, abs_of_pos hn₀]
    _ ≤ |y * n - 10 ^ 12 * ((o : ℚ) - n)| + |z * n - 10 ^ 12 * ((o' : ℚ) - n)|
        + |10 ^ 12 * ((o : ℚ) - o')| := by
        rw [hsplit]
        exact abs_sub_add_le_add _ _ _
    _ ≤ (o + n) / 10 ^ 85 + (o' + n) / 10 ^ 85 + 10 ^ 12 * |(o : ℚ) - o'| := by
        rw [abs_mul, abs_of_pos (by positivity : (0 : ℚ) < 10 ^ 12)]
        gcongr
    _ ≤ 10 ^ 12 + (o + n) / 10 ^ 84 := by linarith

/-- How much the change in percent hangs on a unit of the old number. -/
theorem ticks_inverseChangePercent_near (ho : 2 ≤ o) (hn : 0 < n) (h : |o' - o| ≤ 1) :
    |(inverseChangePercent o n).ticks - (inverseChangePercent o' n).ticks|
      ≤ 1 + (10 ^ 12 + (o + n) / 10 ^ 84) / n := by
  have hround := abs_sub_le_of_rounded (inverseChangePercent o n).ticks_near
    (inverseChangePercent o' n).ticks_near
  have hoff := abs_inverseChangePercent_sub_mul_le ho hn h
  rw [← sub_le_iff_le_add', Int.le_ediv_iff_mul_le hn, ← sub_le_iff_le_add',
    Int.le_ediv_iff_mul_le (by positivity)]
  generalize (inverseChangePercent o n).ticks - (inverseChangePercent o' n).ticks = k at hround ⊢
  have hn₀ : (0 : ℚ) ≤ n := by exact_mod_cast hn.le
  have hunits : ((|(k : ℚ)| - 1) * n - 10 ^ 12) * 10 ^ 84 ≤ o + n := by
    have hk := mul_le_mul_of_nonneg_right (sub_le_iff_le_add'.2 hround) hn₀
    rw [← le_div_iff₀ (by positivity)]
    exact sub_le_iff_le_add'.2 (hk.trans hoff)
  exact_mod_cast hunits

/-- What is stored as zero in the end has fallen by a hundred percent from the other side, too. -/
theorem ticks_inverseChangePercent_zero (ho : 0 < o) :
    (inverseChangePercent o 0).ticks = -10 ^ 12 := by
  have hw := quotient_near_abs (a := inverseChange o 0) (inverse_pos ho)
  have hx := value_pos (inverse_pos ho)
  have hchange : (inverseChange o 0).value = -(one.quotient ⟨o, places⟩).value := by
    have hzero : one.quotient ⟨0, places⟩ = zero := rfl
    unfold inverseChange
    rw [hzero, value_sub, value_zero, zero_sub]
  rw [hchange, abs_neg, abs_of_pos hx] at hw
  refine (isRounded_ticks _).unique (.of_lt ?_)
  rw [value_inverseChangePercent]
  generalize ((inverseChange o 0).quotient (one.quotient ⟨o, places⟩)).value = w at hw ⊢
  generalize (one.quotient ⟨o, places⟩).value = x at hw hx
  have hone : |w + 1| ≤ 1 / 10 ^ 99 := by
    have hfactor : w * x - -x = (w + 1) * x := by ring
    rw [hfactor, abs_mul, abs_of_pos hx, ← one_div_mul_eq_div] at hw
    exact le_of_mul_le_mul_right hw hx
  have hunits : ((-10 ^ 12 : ℤ) : ℚ) - w * 100 * 10 ^ 10 = -(w + 1) * 10 ^ 12 := by
    push_cast
    ring
  rw [hunits, abs_mul, abs_neg, abs_of_pos (by positivity : (0 : ℚ) < 10 ^ 12)]
  linarith

end SwapMarket.Decimal
