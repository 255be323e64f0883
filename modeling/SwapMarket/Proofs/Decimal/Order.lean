import SwapMarket.Proofs.Decimal.Value

/-!
# The order of decimals

Decimals are compared by their signs, the places of their first digits and only then by their
digits. Of two decimals each is above the other, below it or equal to it, whichever is looked at
first (`order_swap`), and the comparison is that of the values (`order_eq_compare`). So it does not
matter how decimals are written.
-/

namespace SwapMarket.Decimal

variable {a b : Decimal}

/-- The other way round, two values have the opposite order. -/
theorem order_swap (a b : Decimal) : (order a b).swap = order b a := by
  unfold order
  by_cases hs : a.coefficient.sign = b.coefficient.sign
  · have hzero : a.coefficient = 0 ↔ b.coefficient = 0 := by
      rw [← Int.sign_eq_zero_iff_zero, hs, Int.sign_eq_zero_iff_zero]
    have hpos : 0 < a.coefficient ↔ 0 < b.coefficient := by
      rw [← Int.sign_eq_one_iff_pos, hs, Int.sign_eq_one_iff_pos]
    rw [if_neg (not_not.2 hs), if_neg (not_not.2 hs.symm), Int.max_comm b.scale a.scale]
    by_cases ha : a.coefficient = 0
    · rw [if_pos ha, if_pos (hzero.1 ha)]
      rfl
    · rw [if_neg ha, if_neg fun hb => ha (hzero.2 hb)]
      by_cases hf : a.firstPlace = b.firstPlace
      · rw [if_pos hf, if_pos hf.symm]
        exact Int.compare_swap _ _
      · rw [if_neg hf, if_neg (Ne.symm hf)]
        by_cases hp : 0 < a.coefficient
        · rw [if_pos hp, if_pos (hpos.1 hp)]
          exact Int.compare_swap _ _
        · rw [if_neg hp, if_neg fun hb => hp (hpos.2 hb)]
          exact Int.compare_swap _ _
  · rw [if_pos hs, if_pos (Ne.symm hs)]
    exact Int.compare_swap _ _

/-- The order tells which value is less. -/
theorem order_eq_lt_iff : order a b = .lt ↔ a.value < b.value := by
  rw [← below_iff, below, beq_iff_eq]

/-- Decimals are compared by value. -/
theorem order_eq_compare (a b : Decimal) : order a b = compare a.value b.value := by
  have hswap := order_swap a b
  cases ho : order a b with
  | lt => exact (compare_lt_iff_lt.2 (order_eq_lt_iff.1 ho)).symm
  | gt =>
    rw [ho] at hswap
    exact (compare_gt_iff_gt.2 (order_eq_lt_iff.1 hswap.symm)).symm
  | eq =>
    rw [ho] at hswap
    have hge : ¬ a.value < b.value := by
      rw [← order_eq_lt_iff, ho]
      exact nofun
    have hle : ¬ b.value < a.value := by
      rw [← order_eq_lt_iff, ← hswap]
      exact nofun
    exact (compare_eq_iff_eq.2 (le_antisymm (not_lt.1 hle) (not_lt.1 hge))).symm

/-- The sorting of decimals follows their values. -/
theorem order_ne_gt_iff : (order a b != .gt) = true ↔ a.value ≤ b.value := by
  rw [bne_iff_ne, order_eq_compare, compare_le_iff_le]

end SwapMarket.Decimal
