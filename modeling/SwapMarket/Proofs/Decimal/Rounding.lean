import SwapMarket.Proofs.Decimal.Value
import Mathlib.Algebra.Group.Int.Even

/-!
# Rounding half to even

A whole number **`IsRounded`** from a number if it is within a half of it, and even if it is just a
half away. There is one such whole number only, and rounding keeps the order (`IsRounded.le_of_le`,
`IsRounded.unique`). The count of tenth-place units of a decimal is rounded in this way
(**`isRounded_ticks`**), whatever its sign and scale. So publishing keeps the order
(`ticks_le_ticks`).
-/

namespace SwapMarket.Decimal

/-! ## Whole numbers near a number -/

/-- A whole number is a number rounded, a half to the even neighbour. -/
structure IsRounded (x : ℚ) (n : ℤ) : Prop where
  /-- It is not more than a half away. -/
  near : |(n : ℚ) - x| ≤ 1 / 2
  /-- If it is a half away, it is even. -/
  even : |(n : ℚ) - x| = 1 / 2 → Even n

namespace IsRounded

variable {x y : ℚ} {m n : ℤ}

/-- A whole number less than a half away is the rounded one. -/
theorem of_lt (h : |(n : ℚ) - x| < 1 / 2) : IsRounded x n := ⟨h.le, fun he => absurd he h.ne⟩

theorem of_even (h : |(n : ℚ) - x| ≤ 1 / 2) (he : Even n) : IsRounded x n := ⟨h, fun _ => he⟩

/-- Rounding does not hang on the sign. -/
theorem neg (h : IsRounded x n) : IsRounded (-x) (-n) := by
  have habs : |((-n : ℤ) : ℚ) - -x| = |(n : ℚ) - x| := by
    rw [Int.cast_neg, ← abs_neg]
    congr 1
    ring
  refine ⟨habs ▸ h.near, fun he => (h.even ?_).neg⟩
  rw [← habs]
  exact he

/-- Of two numbers in order, the rounded ones are in order. -/
theorem le_of_le (hx : IsRounded x m) (hy : IsRounded y n) (h : x ≤ y) : m ≤ n := by
  by_contra hlt
  obtain ⟨hx₁, hx₂⟩ := abs_le.1 hx.near
  obtain ⟨hy₁, hy₂⟩ := abs_le.1 hy.near
  have hstep : (n : ℚ) + 1 ≤ m := by exact_mod_cast (by omega : n + 1 ≤ m)
  -- Both are a half away then, so both are even, although they are neighbours.
  have hm : Even m := hx.even (abs_eq (by norm_num) |>.2 (.inl (by linarith)))
  have hn : Even n := hy.even (abs_eq (by norm_num) |>.2 (.inr (by linarith)))
  have hnext : m = n + 1 := by
    have hle : (m : ℚ) ≤ n + 1 := by linarith
    have hle : m ≤ n + 1 := by exact_mod_cast hle
    omega
  rw [hnext, Int.even_add_one] at hm
  exact hm hn

/-- There is only one rounded number. -/
theorem unique (hm : IsRounded x m) (hn : IsRounded x n) : m = n :=
  le_antisymm (hm.le_of_le hn le_rfl) (hn.le_of_le hm le_rfl)

end IsRounded

/-! ## Counts of tenth-place units -/

/-- The quotient that is rounded half to even is the rounded exact one. -/
theorem isRounded_roundHalfEven (n : ℕ) {p : ℕ} (hp : 0 < p) :
    IsRounded (n / p) (roundHalfEven n p) := by
  have hp' : (0 : ℚ) < p := by exact_mod_cast hp
  have hdiv : (n : ℚ) / p = (n / p : ℕ) + (n % p : ℕ) / p := by
    have hn : (n : ℚ) = p * (n / p : ℕ) + (n % p : ℕ) := by exact_mod_cast (Nat.div_add_mod n p).symm
    rw [div_eq_iff hp'.ne', add_mul, div_mul_cancel₀ _ hp'.ne', mul_comm _ (p : ℚ)]
    exact hn
  have hrest : (0 : ℚ) ≤ (n % p : ℕ) / p := by positivity
  rw [hdiv]
  unfold roundHalfEven
  simp only
  split
  · next h =>
    have hlow : ((n % p : ℕ) : ℚ) / p < 1 / 2 := by
      rw [div_lt_iff₀ hp']
      have : (2 : ℚ) * (n % p : ℕ) < p := by exact_mod_cast h
      linarith
    refine .of_lt ?_
    rw [Int.cast_natCast, sub_add_cancel_left, abs_neg, abs_of_nonneg hrest]
    exact hlow
  · split
    · next h =>
      have hhigh : 1 / 2 < ((n % p : ℕ) : ℚ) / p := by
        rw [lt_div_iff₀ hp']
        have : (p : ℚ) < 2 * (n % p : ℕ) := by exact_mod_cast h
        linarith
      have hone : ((n % p : ℕ) : ℚ) / p < 1 := by
        rw [div_lt_one hp']
        exact_mod_cast Nat.mod_lt n hp
      refine .of_lt ?_
      rw [Int.cast_natCast, Nat.cast_add, Nat.cast_one, add_sub_add_left_eq_sub,
        abs_of_pos (by linarith)]
      linarith
    · next h₁ h₂ =>
      have hhalf : ((n % p : ℕ) : ℚ) / p = 1 / 2 := by
        rw [div_eq_iff hp'.ne']
        have : (2 : ℚ) * (n % p : ℕ) = p := by exact_mod_cast (by omega : 2 * (n % p) = p)
        linarith
      refine .of_even ?_ ?_
      · rw [Int.cast_natCast, Nat.cast_add, add_sub_add_left_eq_sub, hhalf]
        rcases Nat.mod_two_eq_zero_or_one (n / p) with h | h
        · rw [h]
          norm_num
        · rw [h]
          norm_num
      · rw [Int.even_coe_nat, Nat.even_iff]
        omega

/-- To drop places is to round. -/
theorem isRounded_dropPlaces (m p : ℕ) : IsRounded (m / 10 ^ p) (dropPlaces m p) := by
  unfold dropPlaces
  split
  · next h =>
    -- What has fewer digits than are dropped is below a tenth.
    have hm : m < 10 ^ (p - 1) :=
      lt_of_lt_of_le (lt_pow_digitCount m) (Nat.pow_le_pow_right (by decide) (by omega))
    have hp : 10 ^ p = 10 ^ (p - 1) * 10 := by
      rw [← Nat.pow_succ]
      congr 1
      omega
    have hten : (10 : ℚ) ^ p = 10 ^ (p - 1) * 10 := by exact_mod_cast hp
    have hlt : (m : ℚ) < 10 ^ (p - 1) := by exact_mod_cast hm
    have hpos : (0 : ℚ) < 10 ^ p := by positivity
    have hnonneg : (0 : ℚ) ≤ m / 10 ^ p := by positivity
    refine .of_even ?_ Even.zero
    rw [Nat.cast_zero, Int.cast_zero, zero_sub, abs_neg, abs_of_nonneg hnonneg, div_le_iff₀ hpos]
    linarith
  · have h := isRounded_roundHalfEven m (p := Nat.pow 10 p) (Nat.pow_pos (by decide))
    have hcast : ((Nat.pow 10 p : ℕ) : ℚ) = 10 ^ p := Nat.cast_pow 10 p
    rw [hcast] at h
    exact h

variable {a b d : Decimal}

/-- The count of tenth-place units is the value rounded to the tenth place. -/
theorem isRounded_ticks (d : Decimal) : IsRounded (d.value * 10 ^ 10) d.ticks := by
  unfold ticks
  split
  · next h =>
    have hs : d.value * 10 ^ 10 = d.coefficientAt places := by
      rw [value_eq_coefficientAt h]
      exact value_tenths (d.coefficientAt places)
    refine .of_lt ?_
    rw [hs, sub_self, abs_zero]
    norm_num
  · next h =>
    have hlt : (places : Int) < d.scale := not_le.1 h
    have hten : (places : Int) = 10 := rfl
    generalize hp : (d.scale - places).toNat = p
    have hscale : -d.scale = -(p : Int) - 10 := by omega
    have hv : d.value * 10 ^ 10 = d.coefficient / 10 ^ p := by
      unfold value
      rw [hscale, zpow_sub₀ (by norm_num), zpow_neg, zpow_natCast]
      have hc : (10 : ℚ) ^ (10 : Int) = 10 ^ 10 := by norm_cast
      rw [hc]
      field_simp
    have hround := isRounded_dropPlaces d.coefficient.natAbs p
    rw [hv]
    -- The sign is set aside while the magnitude is rounded.
    rcases Int.lt_trichotomy d.coefficient 0 with hneg | hzero | hpos
    · have hc : (d.coefficient : ℚ) = -(d.coefficient.natAbs : ℚ) := by
        rw [← Int.cast_natCast, ← Int.cast_neg, Int.ofNat_natAbs_of_nonpos hneg.le, neg_neg]
      rw [Int.sign_eq_neg_one_of_neg hneg, hc, neg_div, neg_one_mul]
      exact hround.neg
    · rw [hzero, Int.sign_zero, zero_mul, Int.cast_zero, zero_div]
      exact .of_even (by norm_num) Even.zero
    · rw [Int.sign_eq_one_of_pos hpos, cast_coefficient hpos, one_mul]
      exact hround

/-- The count of tenth-place units is within half a unit of the value. -/
theorem ticks_near (d : Decimal) : |(d.ticks : ℚ) - d.value * 10 ^ 10| ≤ 1 / 2 :=
  (isRounded_ticks d).near

/-- Publishing keeps the order. -/
theorem ticks_le_ticks (h : a.value ≤ b.value) : a.ticks ≤ b.ticks :=
  (isRounded_ticks a).le_of_le (isRounded_ticks b)
    (mul_le_mul_of_nonneg_right h (by positivity))

end SwapMarket.Decimal
