import SwapMarket.Proofs.Decimal.Rounding
import SwapMarket.Proofs.Decimal.Sum

/-!
# Products, quotients and changes

The value of a product is the product of the values (**`value_mul`**), also where a factor that is
recognised as one only reduces the other, and the value of a difference is the difference of the
values. A quotient by a positive number has the sign of the dividend (`quotient_neg`,
**`quotient_sign`**) and is off by one part in `10 ^ 99` at most (**`quotient_near_abs`**).

So a change in percent, which is a quotient times a hundred, has the sign of the change
(`ticks_mul_percent_nonneg`) and is not below minus a hundred (`neg_hundred_le_percent`), whatever
is lost by rounding.
-/

namespace SwapMarket.Decimal

variable {a b d : Decimal}

/-- Dropping zeros does not change a number. -/
theorem value_reduced (d : Decimal) : d.reduced.value = d.value := by
  unfold reduced
  split
  · next h => rw [value_zero, value_eq_zero h]
  · have hmul : ((dropZeros d.coefficient.natAbs).1 : ℚ) * 10 ^ (dropZeros d.coefficient.natAbs).2
        = d.coefficient.natAbs := by
      exact_mod_cast dropZeros_mul d.coefficient.natAbs
    have hsign : (d.coefficient : ℚ) = d.coefficient.sign * d.coefficient.natAbs := by
      rw [← Int.cast_natCast, ← Int.cast_mul, Int.sign_mul_natAbs]
    have hscale : -(d.scale - ((dropZeros d.coefficient.natAbs).2 : Int))
        = (dropZeros d.coefficient.natAbs).2 + -d.scale := by ring
    unfold value
    rw [hscale, zpow_add₀ (by norm_num), zpow_natCast, hsign, ← hmul, Int.cast_mul,
      Int.cast_natCast]
    ring

/-- A product has the product of the values. -/
theorem value_mul (a b : Decimal) : (a * b).value = a.value * b.value := by
  show (Decimal.mul a b).value = _
  unfold Decimal.mul
  split
  · next h => rw [value_reduced, value_of_isWrittenOne h, one_mul]
  · split
    · next h => rw [value_reduced, value_of_isWrittenOne h, mul_one]
    · have hscale : -(a.scale + b.scale) = -a.scale + -b.scale := by ring
      unfold value
      rw [hscale, zpow_add₀ (by norm_num), Int.cast_mul]
      ring

/-- A difference has the difference of the values. -/
theorem value_sub (a b : Decimal) : (a - b).value = a.value - b.value := by
  show (a + b.neg).value = _
  rw [value_add, value_neg, sub_eq_add_neg]

/-- A whole number has itself for its value. -/
theorem value_ofInt (n : Int) : (ofInt n).value = n := by
  unfold value ofInt
  rw [neg_zero, zpow_zero, mul_one]

/-! ## Quotients -/

/-- The quotient of a number with the other sign is the quotient with the other sign. -/
theorem quotient_neg (a b : Decimal) : a.neg.quotient b = (a.quotient b).neg := by
  have hz : a.neg.isZero = a.isZero := by
    unfold isZero neg
    rw [Bool.eq_iff_iff, beq_iff_eq, beq_iff_eq, Int.neg_eq_zero]
  unfold quotient
  rw [hz]
  split
  · rfl
  · split
    · rfl
    · unfold neg
      simp only [Int.natAbs_neg, Int.sign_neg, Int.neg_mul]

/-- A quotient by a positive number has the sign of the dividend. -/
theorem quotient_sign (hb : 0 < b.coefficient) :
    (0 ≤ a.value → 0 ≤ (a.quotient b).value) ∧ (a.value ≤ 0 → (a.quotient b).value ≤ 0) := by
  rcases Int.lt_trichotomy a.coefficient 0 with ha | ha | ha
  · have hneg : 0 < (a.neg.quotient b).value :=
      value_pos (quotient_near (a := a.neg) (Int.neg_pos_of_neg ha) hb).1
    rw [quotient_neg, value_neg] at hneg
    exact ⟨fun h => absurd h (not_le.2 (value_lt_zero ha)), fun _ => by linarith⟩
  · have hza : a.isZero = true := beq_iff_eq.2 ha
    have hzb : b.isZero = false := beq_eq_false_iff_ne.2 hb.ne'
    have hzero : a.quotient b = a := by
      unfold quotient
      rw [hza, hzb]
      rfl
    rw [hzero]
    exact ⟨id, id⟩
  · have hpos := value_pos (quotient_near ha hb).1
    exact ⟨fun _ => hpos.le, fun h => absurd h (not_le.2 (value_pos ha))⟩

/-- A quotient by a positive number, times this number, is the dividend up to one part in
`10 ^ 99`. -/
theorem quotient_near_abs (hb : 0 < b.coefficient) :
    |(a.quotient b).value * b.value - a.value| ≤ |a.value| / 10 ^ 99 := by
  rcases Int.lt_trichotomy a.coefficient 0 with ha | ha | ha
  · have hnear := (quotient_near (a := a.neg) (Int.neg_pos_of_neg ha) hb).2
    rw [quotient_neg, value_neg, value_neg] at hnear
    have hflip : -(a.quotient b).value * b.value - -a.value
        = -((a.quotient b).value * b.value - a.value) := by ring
    rw [hflip, abs_neg] at hnear
    rwa [abs_of_neg (value_lt_zero ha)]
  · obtain ⟨hnonneg, hnonpos⟩ := quotient_sign (a := a) hb
    have hzero : (a.quotient b).value = 0 :=
      le_antisymm (hnonpos (value_eq_zero ha).le) (hnonneg (value_eq_zero ha).ge)
    rw [hzero, value_eq_zero ha, zero_mul, sub_zero, abs_zero, zero_div]
  · rw [abs_of_pos (value_pos ha)]
    exact (quotient_near ha hb).2

/-! ## Changes -/

/-- The value of a count of tenth-place units. -/
theorem value_places (t : Int) : (⟨t, places⟩ : Decimal).value = t / 10 ^ 10 :=
  eq_div_of_mul_eq (by positivity) (value_tenths t)

/-- Rounding makes nothing negative that is not. -/
theorem ticks_nonneg (h : 0 ≤ d.value) : 0 ≤ d.ticks :=
  ticks_le_ticks (a := zero) (by rwa [value_zero])

/-- Rounding makes nothing positive that is not. -/
theorem ticks_nonpos (h : d.value ≤ 0) : d.ticks ≤ 0 :=
  ticks_le_ticks (b := zero) (by rwa [value_zero])

/-- A difference that is rounded is one unit off the difference of the rounded numbers at most. -/
theorem ticks_sub_near (a b : Decimal) : |(a - b).ticks - (a.ticks - b.ticks)| ≤ 1 := by
  obtain ⟨hd₁, hd₂⟩ := abs_le.1 (a - b).ticks_near
  obtain ⟨ha₁, ha₂⟩ := abs_le.1 a.ticks_near
  obtain ⟨hb₁, hb₂⟩ := abs_le.1 b.ticks_near
  rw [value_sub] at hd₁ hd₂
  -- Three halves of a unit are less than two units.
  have hlow : (-2 : ℚ) < (((a - b).ticks - (a.ticks - b.ticks) : ℤ) : ℚ) := by
    push_cast
    linarith
  have hhigh : (((a - b).ticks - (a.ticks - b.ticks) : ℤ) : ℚ) < 2 := by
    push_cast
    linarith
  have hlow : (-2 : ℤ) < (a - b).ticks - (a.ticks - b.ticks) := by exact_mod_cast hlow
  have hhigh : (a - b).ticks - (a.ticks - b.ticks) < 2 := by exact_mod_cast hhigh
  exact abs_le.2 ⟨by omega, by omega⟩

/-- A change in percent of a positive number has the sign of the change. -/
theorem ticks_mul_percent_nonneg (change : Decimal) (hb : 0 < b.coefficient) :
    0 ≤ change.ticks * (change.quotient b * ofInt 100).ticks := by
  obtain ⟨hnonneg, hnonpos⟩ := quotient_sign (a := change) hb
  have hpercent : (change.quotient b * ofInt 100).value = (change.quotient b).value * 100 := by
    rw [value_mul, value_ofInt]
    norm_num
  rcases le_total 0 change.value with h | h
  · refine mul_nonneg (ticks_nonneg h) (ticks_nonneg ?_)
    rw [hpercent]
    exact mul_nonneg (hnonneg h) (by norm_num)
  · refine mul_nonneg_of_nonpos_of_nonpos (ticks_nonpos h) (ticks_nonpos ?_)
    rw [hpercent]
    exact mul_nonpos_of_nonpos_of_nonneg (hnonpos h) (by norm_num)

/-- What becomes no less than zero does not fall by more than a hundred percent. -/
theorem neg_hundred_le_percent (hb : 0 < b.coefficient) (ha : 0 ≤ a.value) :
    -10 ^ 12 ≤ ((a - b).quotient b * ofInt 100).ticks := by
  have hB := value_pos hb
  have hnear := quotient_near_abs (a := a - b) hb
  have hround := ((a - b).quotient b * ofInt 100).ticks_near
  rw [value_mul, value_ofInt] at hround
  rw [value_sub] at hnear
  generalize ((a - b).quotient b).value = x at hnear hround
  generalize ((a - b).quotient b * ofInt 100).ticks = t at hround ⊢
  obtain ⟨hnear, -⟩ := abs_le.1 hnear
  obtain ⟨hround, -⟩ := abs_le.1 hround
  -- The quotient is not below minus one but for the last of its digits.
  have hquotient : -(1 + 1 / 10 ^ 99) ≤ x := by
    rcases le_total 0 (a.value - b.value) with h | h
    · rw [abs_of_nonneg h] at hnear
      have hx : 0 ≤ x * b.value := by
        have : (a.value - b.value) / 10 ^ 99 ≤ a.value - b.value :=
          div_le_self h (by norm_num)
        linarith
      have hx : 0 ≤ x := nonneg_of_mul_nonneg_left hx hB
      refine le_trans ?_ hx
      norm_num
    · rw [abs_of_nonpos h] at hnear
      refine le_of_mul_le_mul_right ?_ hB
      have hfall : -(a.value - b.value) / 10 ^ 99 ≤ b.value / 10 ^ 99 := by
        gcongr
        linarith
      calc -(1 + 1 / 10 ^ 99) * b.value = -b.value - b.value / 10 ^ 99 := by ring
        _ ≤ a.value - b.value - -(a.value - b.value) / 10 ^ 99 := by linarith
        _ ≤ x * b.value := by linarith
  have hunits : (-10 ^ 12 : ℚ) - 1 < t := by
    have hx : -(1 + 1 / 10 ^ 99) * 10 ^ 12 ≤ x * 10 ^ 12 :=
      mul_le_mul_of_nonneg_right hquotient (by positivity)
    norm_num at hround hx ⊢
    linarith
  have hunits : (-10 ^ 12 : ℤ) - 1 < t := by exact_mod_cast hunits
  omega

end SwapMarket.Decimal
