import SwapMarket.Proofs.Decimal.Value
import Mathlib.Algebra.Order.BigOperators.Group.List

/-!
# Sums are exact

The form of a sum hangs on its operands, but its value is the sum of their values (**`value_add`**),
and so it is for lists (`value_sum`), in whatever order (`value_sum_of_perm`). Leaving out positive
numbers makes a sum no greater (`value_sum_le_of_sublist`).
-/

namespace SwapMarket.Decimal

variable {a b : Decimal}

@[simp] theorem value_zero : zero.value = 0 := value_eq_zero rfl

/-- A decimal that is zero has the value zero. -/
theorem value_of_isZero {d : Decimal} (h : d.isZero = true) : d.value = 0 :=
  value_eq_zero (beq_iff_eq.1 h)

/-- More places do not change a number. -/
theorem value_extended (d : Decimal) (s : Int) : (d.extended s).value = d.value :=
  (value_eq_coefficientAt (le_max_left d.scale _)).symm

/-- A sum has the sum of the values. -/
theorem value_add (a b : Decimal) : (a + b).value = a.value + b.value := by
  show (Decimal.add a b).value = _
  unfold Decimal.add
  split
  · next hb => rw [value_extended, value_of_isZero hb, add_zero]
  · split
    · next ha => rw [value_extended, value_of_isZero ha, zero_add]
    · rw [value_eq_coefficientAt (le_max_left a.scale b.scale),
        value_eq_coefficientAt (le_max_right a.scale b.scale), ← add_mul, ← Int.cast_add]
      rfl

/-- Adding decimals one by one adds their values. -/
theorem value_foldl_add (ds : List Decimal) (d : Decimal) :
    (ds.foldl (· + ·) d).value = d.value + (ds.map value).sum := by
  induction ds generalizing d with
  | nil => rw [List.foldl_nil, List.map_nil, List.sum_nil, add_zero]
  | cons e ds ih => rw [List.foldl_cons, ih, value_add, List.map_cons, List.sum_cons, add_assoc]

/-- The sum of decimals has the sum of their values. -/
theorem value_sum (ds : List Decimal) : (sum ds).value = (ds.map value).sum := by
  unfold sum
  rw [value_foldl_add, value_zero, zero_add]

/-- The order of the operands does not show in the value of their sum. -/
theorem value_sum_of_perm {ds es : List Decimal} (h : ds.Perm es) :
    (sum ds).value = (sum es).value := by
  rw [value_sum, value_sum, (h.map value).sum_eq]

/-- Some of several positive numbers add up to no more than all of them. -/
theorem value_sum_le_of_sublist {ds es : List Decimal} (h : ds.Sublist es)
    (hpos : ∀ e ∈ es, 0 < e.coefficient) : (sum ds).value ≤ (sum es).value := by
  rw [value_sum, value_sum]
  refine (h.map value).sum_le_sum fun x hx => ?_
  obtain ⟨e, he, rfl⟩ := List.mem_map.1 hx
  exact (value_pos (hpos e he)).le

end SwapMarket.Decimal
