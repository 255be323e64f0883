import SwapMarket.Proofs.Decimal.Rounding

/-!
# Inverses of rounded numbers

Two numbers are **`Reciprocal`** if their product is one, up to the digits of a quotient. Rounding
one of them to ten places and then taking the inverse does not give the other one rounded: the
rounded number is within half a unit of its last place, and the smaller it is, the more this half
unit counts in its inverse (**`NearInverse`**). The inverse of `n` units is within
`1 + 10 ^ 20 / (n * (2 * n - 1))` units for every positive `n`, which is one unit from about 0.7071
on (`Reciprocal.nearInverse`).
-/

namespace SwapMarket

/-! ## Reciprocal numbers -/

/-- Two positive numbers whose product is one up to one part in `10 ^ 98`. -/
structure Reciprocal (x y : ℚ) : Prop where
  /-- The first is positive. -/
  left : 0 < x
  /-- The second is positive. -/
  right : 0 < y
  /-- The product is almost one. -/
  near : |x * y - 1| ≤ 1 / 10 ^ 98

/-- Two factors that are near one have a product near one. -/
theorem abs_mul_sub_one_le {u v e : ℚ} (he : e ≤ 1) (hu : |u - 1| ≤ e) (hv : |v - 1| ≤ e) :
    |u * v - 1| ≤ 3 * e := by
  have h : u * v - 1 = (u - 1) * (v - 1) + (u - 1) + (v - 1) := by ring
  have hprod : |(u - 1) * (v - 1)| ≤ e := by
    rw [abs_mul]
    calc |u - 1| * |v - 1| ≤ e * 1 :=
          mul_le_mul hu (hv.trans he) (abs_nonneg _) ((abs_nonneg _).trans hu)
      _ = e := mul_one e
  rw [h]
  calc |(u - 1) * (v - 1) + (u - 1) + (v - 1)|
      ≤ |(u - 1) * (v - 1)| + |u - 1| + |v - 1| := abs_add_three _ _ _
    _ ≤ 3 * e := by linarith

/-- A factor that is near one leaves a number near itself. -/
theorem abs_mul_sub_le {u e N : ℚ} (hN : 0 ≤ N) (h : |u - 1| ≤ e) : |u * N - N| ≤ e * N := by
  have hfactor : u * N - N = (u - 1) * N := by ring
  rw [hfactor, abs_mul, abs_of_nonneg hN]
  exact mul_le_mul_of_nonneg_right h hN

/-- The quotients of two positive decimals by each other are reciprocal. -/
theorem Decimal.reciprocal_quotient {a b : Decimal} (ha : 0 < a.coefficient)
    (hb : 0 < b.coefficient) : Reciprocal (a.quotient b).value (b.quotient a).value := by
  have hA := value_pos ha
  have hB := value_pos hb
  obtain ⟨hpos, hx⟩ := quotient_near ha hb
  obtain ⟨hpos', hy⟩ := quotient_near hb ha
  generalize (a.quotient b) = p at hpos hx ⊢
  generalize (b.quotient a) = p' at hpos' hy ⊢
  have off : ∀ {x A B : ℚ}, 0 < A → |x * B - A| ≤ A / 10 ^ 99 → |x * B / A - 1| ≤ 1 / 10 ^ 99 := by
    intro x A B hA h
    rw [div_sub_one hA.ne', abs_div, abs_of_pos hA, div_le_iff₀ hA, one_div_mul_eq_div]
    exact h
  have hprod : p.value * p'.value
      = p.value * b.value / a.value * (p'.value * a.value / b.value) := by
    field_simp
  refine ⟨value_pos hpos, value_pos hpos', ?_⟩
  rw [hprod]
  refine (abs_mul_sub_one_le ?_ (off hA hx) (off hB hy)).trans ?_
  · norm_num
  · norm_num

/-- If each of some decimals has a reciprocal among others and the other way round, the least of
the ones and the greatest of the others are reciprocal. -/
theorem Reciprocal.of_extremes {ds es : List Decimal}
    (hde : ∀ d ∈ ds, ∃ e ∈ es, Reciprocal d.value e.value)
    (hed : ∀ e ∈ es, ∃ d ∈ ds, Reciprocal d.value e.value) {d e : Decimal} (hd : d ∈ ds)
    (he : e ∈ es) (hleast : ∀ d' ∈ ds, d.value ≤ d'.value)
    (hgreatest : ∀ e' ∈ es, e'.value ≤ e.value) : Reciprocal d.value e.value := by
  obtain ⟨e₁, he₁, h₁⟩ := hde d hd
  obtain ⟨d₁, hd₁, h₂⟩ := hed e he
  refine ⟨h₁.left, h₂.right, ?_⟩
  obtain ⟨hlow, -⟩ := abs_le.1 h₁.near
  obtain ⟨-, hhigh⟩ := abs_le.1 h₂.near
  rw [abs_le]
  constructor
  · have : d.value * e₁.value ≤ d.value * e.value :=
      mul_le_mul_of_nonneg_left (hgreatest e₁ he₁) h₁.left.le
    linarith
  · have : d.value * e.value ≤ d₁.value * e.value :=
      mul_le_mul_of_nonneg_right (hleast d₁ hd₁) h₂.right.le
    linarith

/-- Of two reciprocal prices either is the reciprocal of the other. -/
theorem Reciprocal.symm {x y : ℚ} (h : Reciprocal x y) : Reciprocal y x :=
  ⟨h.right, h.left, mul_comm x y ▸ h.near⟩

/-! ## Rounded numbers -/

/-- In units of the tenth place, how a stored price, its inverse and the price that is built for the
flipped market are related. -/
structure NearInverse (stored inverse direct : ℤ) : Prop where
  /-- A price is not negative. -/
  nonneg : 0 ≤ stored
  /-- How far the inverse of a price is off. -/
  near : 0 < stored → |inverse - direct| ≤ 1 + 10 ^ 20 / (stored * (2 * stored - 1))
  /-- The inverse of a price that is not small is off by one unit at most. -/
  near_one : 7071067813 ≤ stored → |inverse - direct| ≤ 1

/-- The size of a difference and a sum is bounded by the sizes. -/
theorem abs_sub_add_le_add (a b c : ℚ) : |a - b + c| ≤ |a| + |b| + |c| :=
  (abs_add_le _ _).trans (add_le_add_left (abs_sub _ _) _)

/-- Numbers are as far apart as their divisors, if both products are almost the same number. -/
theorem abs_sub_mul_mul_le {N e r x y z : ℚ} (hN : 0 ≤ N) (hr : 0 ≤ r) (hx : 0 ≤ x)
    (hxy : |x * y - N| ≤ e) (hzr : |z * r - N| ≤ e) :
    |z - y| * (r * x) ≤ N * |x - r| + e * (x + r) := by
  have hsplit : (z - y) * (r * x) = (z * r - N) * x - (x * y - N) * r + N * (x - r) := by ring
  calc |z - y| * (r * x) = |(z - y) * (r * x)| := by rw [abs_mul, abs_of_nonneg (mul_nonneg hr hx)]
    _ = |(z * r - N) * x - (x * y - N) * r + N * (x - r)| := by rw [hsplit]
    _ ≤ |(z * r - N) * x| + |(x * y - N) * r| + |N * (x - r)| := abs_sub_add_le_add _ _ _
    _ ≤ e * x + e * r + N * |x - r| := by
        rw [abs_mul, abs_mul, abs_mul, abs_of_nonneg hx, abs_of_nonneg hN, abs_of_nonneg hr]
        gcongr
    _ = N * |x - r| + e * (x + r) := by ring

/-- Numbers whose products with almost the same number are almost the same are not far apart. -/
theorem abs_sub_mul_le {N e r x y z : ℚ} (hN : 0 ≤ N) (he : 0 ≤ e) (hr : 1 ≤ r)
    (hx : |r - x| ≤ 1 / 2) (hxy : |x * y - N| ≤ e) (hzr : |z * r - N| ≤ e) :
    |z - y| * (r * (2 * r - 1)) ≤ N + e * (4 * r + 1) := by
  obtain ⟨hx₁, hx₂⟩ := abs_le.1 hx
  have hxpos : 0 ≤ x := by linarith
  have hbound := abs_sub_mul_mul_le hN (by linarith) hxpos hxy hzr
  rw [abs_sub_comm x] at hbound
  have hle : |z - y| * (r * (r - 1 / 2)) ≤ |z - y| * (r * x) := by
    gcongr
    linarith
  have hhalf : N * |r - x| ≤ N * (1 / 2) := by gcongr
  have hsum : e * (x + r) ≤ e * (2 * r + 1 / 2) := mul_le_mul_of_nonneg_left (by linarith) he
  linarith

/-- Rounding two numbers to whole ones moves them apart by one at most. -/
theorem abs_sub_le_of_rounded {I D : ℤ} {z y : ℚ} (hz : |(I : ℚ) - z| ≤ 1 / 2)
    (hy : |(D : ℚ) - y| ≤ 1 / 2) : |((I - D : ℤ) : ℚ)| ≤ 1 + |z - y| := by
  have hsplit : ((I - D : ℤ) : ℚ) = (I - z) + (z - y) + (y - D) := by
    push_cast
    ring
  rw [hsplit]
  calc |(I - z) + (z - y) + (y - D)| ≤ |(I : ℚ) - z| + |z - y| + |y - D| := abs_add_three _ _ _
    _ ≤ 1 / 2 + |z - y| + 1 / 2 := by
        rw [abs_sub_comm y]
        gcongr
    _ = 1 + |z - y| := by ring

/-- What the digits of quotients add never makes up a whole unit. -/
theorem mul_le_of_le_add_digits {k M R : ℤ} (hR : 0 < R) (hM : R * R ≤ M)
    (h : ((k * M : ℤ) : ℚ) ≤ 10 ^ 20 + 1 / 10 ^ 78 * (4 * R + 1)) : k * M ≤ 10 ^ 20 := by
  have hM₀ : 0 < M := lt_of_lt_of_le (mul_pos hR hR) hM
  rcases lt_or_ge R (10 ^ 77) with hsmall | hlarge
  · have hsmall : (R : ℚ) < 10 ^ 77 := by exact_mod_cast hsmall
    have hlt : ((k * M : ℤ) : ℚ) < 10 ^ 20 + 1 := by linarith
    have hint : k * M < 10 ^ 20 + 1 := by exact_mod_cast hlt
    exact Int.lt_add_one_iff.1 hint
  · -- One unit times `M` is too much then.
    have hlarge : (10 : ℚ) ^ 77 ≤ R := by exact_mod_cast hlarge
    have hsquare : (R : ℚ) * 10 ^ 77 ≤ M := by
      calc (R : ℚ) * 10 ^ 77 ≤ R * R := by gcongr
        _ ≤ M := by exact_mod_cast hM
    have hlt : ((k * M : ℤ) : ℚ) < (1 * M : ℤ) := by
      rw [one_mul]
      linarith
    have hk : k < 1 := lt_of_mul_lt_mul_right (by exact_mod_cast hlt) hM₀.le
    have hzero : k * M ≤ 0 := mul_nonpos_of_nonpos_of_nonneg (by omega) hM₀.le
    exact hzero.trans (by norm_num)

/-- Reciprocal numbers that are rounded to the tenth place: how far the inverse of the one is off
the other. -/
theorem Reciprocal.near_units {x y z : ℚ} (h : Reciprocal x y) {R I D : ℤ} (hR : 0 < R)
    (hx : |(R : ℚ) - x * 10 ^ 10| ≤ 1 / 2) (hy : |(D : ℚ) - y * 10 ^ 10| ≤ 1 / 2)
    (hz : |(I : ℚ) - z * 10 ^ 10| ≤ 1 / 2) (hzR : |z * 10 ^ 10 * R - 10 ^ 20| ≤ 1 / 10 ^ 78) :
    |I - D| ≤ 1 + 10 ^ 20 / (R * (2 * R - 1)) := by
  have hR₁ : (1 : ℚ) ≤ R := by exact_mod_cast hR
  have hM : 0 < R * (2 * R - 1) := mul_pos hR (by omega)
  have hxy : |x * 10 ^ 10 * (y * 10 ^ 10) - 10 ^ 20| ≤ 1 / 10 ^ 78 := by
    have hunits : x * 10 ^ 10 * (y * 10 ^ 10) = x * y * 10 ^ 20 := by ring
    rw [hunits]
    exact (abs_mul_sub_le (by norm_num) h.near).trans (by norm_num)
  have hround := abs_sub_le_of_rounded hz hy
  have hoff := abs_sub_mul_le (by positivity : (0 : ℚ) ≤ 10 ^ 20)
    (by positivity : (0 : ℚ) ≤ 1 / 10 ^ 78) hR₁ hx hxy hzR
  rw [← sub_le_iff_le_add', Int.le_ediv_iff_mul_le hM]
  apply mul_le_of_le_add_digits hR (mul_le_mul_of_nonneg_left (by omega) hR.le)
  refine le_trans ?_ hoff
  have hM : (0 : ℚ) ≤ R * (2 * R - 1) := by exact_mod_cast hM.le
  push_cast at hround ⊢
  gcongr
  linarith

open Decimal (places)

/-- The inverse of a number of units is near its reciprocal. -/
theorem Decimal.inverse_near {R : ℤ} (hR : 0 < R) :
    |(one.quotient ⟨R, places⟩).value * 10 ^ 10 * R - 10 ^ 20| ≤ 1 / 10 ^ 78 := by
  obtain ⟨-, hquotient⟩ := quotient_near (a := one) (b := ⟨R, places⟩) one_pos hR
  have hone : one.value = 1 := value_of_isWrittenOne rfl
  have hunits : (⟨R, places⟩ : Decimal).value * 10 ^ 10 = R := value_tenths R
  rw [hone] at hquotient
  generalize (one.quotient ⟨R, places⟩).value = z at hquotient ⊢
  have hfactor : z * 10 ^ 10 * R = z * (⟨R, places⟩ : Decimal).value * 10 ^ 20 := by
    rw [← hunits]
    ring
  rw [hfactor]
  exact (abs_mul_sub_le (by norm_num) hquotient).trans (by norm_num)

/-- A number that is rounded to ten places, its inverse and the reciprocal of the number. -/
theorem Reciprocal.nearInverse {p p' : Decimal} (h : Reciprocal p.value p'.value) :
    NearInverse p.ticks (Decimal.one.quotient ⟨p.ticks, places⟩).ticks p'.ticks := by
  have hx := p.ticks_near
  have hy := p'.ticks_near
  have hleft := h.left
  generalize p.ticks = R at hx ⊢
  generalize p'.ticks = D at hy ⊢
  have hnonneg : 0 ≤ R := by
    have hlow : (-1 : ℚ) < R := by
      obtain ⟨hlow, -⟩ := abs_le.1 hx
      linarith
    have : (-1 : ℤ) < R := by exact_mod_cast hlow
    omega
  have hnear : 0 < R → |(Decimal.one.quotient ⟨R, places⟩).ticks - D|
      ≤ 1 + 10 ^ 20 / (R * (2 * R - 1)) := by
    intro hR
    exact h.near_units hR hx hy (Decimal.ticks_near _) (Decimal.inverse_near hR)
  refine ⟨hnonneg, hnear, fun hlarge => ?_⟩
  have hM : (10 : ℤ) ^ 20 < R * (2 * R - 1) := by
    calc (10 : ℤ) ^ 20 < 7071067813 * (2 * 7071067813 - 1) := by norm_num
      _ ≤ R * (2 * R - 1) := mul_le_mul hlarge (by omega) (by norm_num) hnonneg
  have hnear := hnear (by omega)
  rw [Int.ediv_eq_zero_of_lt (by norm_num) hM] at hnear
  exact hnear

end SwapMarket
