import SwapMarket.Proofs.Decimal.Product

/-!
# Quotients of any sign, rounded once more

A quotient **`IsCut`** from the exact one: it comes out even, or it has a hundred digits and is off
by one unit of the last of them at most (`isCut_quotient`). To publish it is to round a second time.

Two roundings in turn can differ from a single one where the first of them crosses a half, or
arrives at one. Numbers of not too many digits cannot have a quotient that close to a half
(`one_div_le_abs_sub_half`), and a quotient that is a half itself comes out even. So the published
quotient is that of the exact one, provided that its hundred digits reach beyond the tenth place
(**`isRounded_quotient`**).
-/

namespace SwapMarket.Decimal

variable {a b : Decimal}

/-! ## Rounding what was rounded -/

/-- What is rounded from a number nearby is rounded from the number itself, if no half lies between
them, and none is reached from beside it. -/
theorem IsRounded.of_near {x y : ℚ} {n : ℤ} (hn : IsRounded y n)
    (hhalf : ∀ k : ℤ, x = k / 2 → y = x)
    (hnear : ∀ k : ℤ, x ≠ k / 2 → |y - x| < |x - k / 2|) : IsRounded x n := by
  obtain ⟨hlow, hhigh⟩ := abs_le.1 hn.near
  have hbelow : (n : ℚ) - 1 / 2 ≤ x := by
    by_contra hlt
    have hk : ((2 * n - 1 : ℤ) : ℚ) / 2 = n - 1 / 2 := by
      push_cast
      ring
    have hclose := hnear (2 * n - 1) (by rw [hk]; exact (not_le.1 hlt).ne)
    rw [hk, abs_of_pos (by linarith), abs_of_neg (by linarith)] at hclose
    linarith
  have habove : x ≤ (n : ℚ) + 1 / 2 := by
    by_contra hlt
    have hk : ((2 * n + 1 : ℤ) : ℚ) / 2 = n + 1 / 2 := by
      push_cast
      ring
    have hclose := hnear (2 * n + 1) (by rw [hk]; exact (not_le.1 hlt).ne')
    rw [hk, abs_of_neg (by linarith), abs_of_pos (by linarith)] at hclose
    linarith
  refine ⟨abs_le.2 ⟨by linarith, by linarith⟩, fun he => hn.even ?_⟩
  have hx : ∃ k : ℤ, x = k / 2 := by
    rcases (abs_eq (by norm_num)).1 he with h | h
    · exact ⟨2 * n - 1, by push_cast; linarith⟩
    · exact ⟨2 * n + 1, by push_cast; linarith⟩
  obtain ⟨k, hk⟩ := hx
  rw [hhalf k hk]
  exact he

/-- A fraction that is not a half of a whole number is not too close to one. -/
theorem one_div_le_abs_sub_half {p q k : ℤ} (hq : q ≠ 0) (h : (p : ℚ) / q ≠ k / 2) :
    1 / (2 * |(q : ℚ)|) ≤ |(p : ℚ) / q - k / 2| := by
  have hq' : (q : ℚ) ≠ 0 := by exact_mod_cast hq
  have hsplit : (p : ℚ) / q - k / 2 = ((2 * p - k * q : ℤ) : ℚ) / (2 * q) := by
    push_cast
    field_simp
  have hne : (2 * p - k * q : ℤ) ≠ 0 := by
    intro hzero
    rw [hzero, Int.cast_zero, zero_div] at hsplit
    exact h (sub_eq_zero.1 hsplit)
  have hone : (1 : ℚ) ≤ |((2 * p - k * q : ℤ) : ℚ)| := by
    rw [← Int.cast_abs]
    exact_mod_cast Int.one_le_abs hne
  rw [hsplit, abs_div, abs_mul, abs_two]
  gcongr

/-! ## Quotients cut after a hundred digits -/

/-- In units of the place `t`, a number of the sign `s` has whole units and a rest, and is cut to
`m` units. -/
structure IsCutTo (x q s : ℚ) (units m : ℕ) (rest : ℚ) (t : ℤ) : Prop where
  /-- There is a sign. -/
  sign : |s| = 1
  /-- The rest is not negative. -/
  rest_nonneg : 0 ≤ rest
  /-- The rest is less than a unit. -/
  rest_lt_one : rest < 1
  /-- The number. -/
  number : x = s * ((units + rest) * 10 ^ (-t))
  /-- The cut number. -/
  cut : q = s * (m * 10 ^ (-t))
  /-- The number is not cut to less than its whole units. -/
  le_cut : units ≤ m
  /-- The number is not cut to more than the next whole unit. -/
  cut_le : m ≤ units + 1
  /-- A number that comes out even is cut to itself. -/
  cut_even : rest = 0 → m = units
  /-- A number comes out even, or has a hundred digits. -/
  even_or_long : rest = 0 ∨ 10 ^ 99 ≤ units

/-- A number is another one, or has a hundred digits of it. -/
def IsCut (x q : ℚ) : Prop := ∃ s units m rest t, IsCutTo x q s units m rest t

namespace IsCut

variable {x q : ℚ}

/-- What is cut is off by one part in ten to the ninety-ninth at most. -/
theorem abs_sub_le (h : IsCut x q) : |q - x| ≤ |x| / 10 ^ 99 := by
  obtain ⟨s, units, m, rest, t, h⟩ := h
  have hle : (units : ℚ) ≤ m := by exact_mod_cast h.le_cut
  have hge : (m : ℚ) ≤ units + 1 := by exact_mod_cast h.cut_le
  have hrest := h.rest_nonneg
  have hone := h.rest_lt_one
  have hplace : (0 : ℚ) < 10 ^ (-t) := by positivity
  have hoff : q - x = s * ((m - (units + rest)) * 10 ^ (-t)) := by
    rw [h.cut, h.number]
    ring
  have hx : |x| = (units + rest) * 10 ^ (-t) := by
    rw [h.number, abs_mul, h.sign, one_mul, abs_of_nonneg (by positivity)]
  rw [hoff, hx, abs_mul, h.sign, one_mul, abs_mul, abs_of_pos hplace, mul_div_right_comm]
  refine mul_le_mul_of_nonneg_right ?_ hplace.le
  rcases h.even_or_long with h0 | hlong
  · have hm : (m : ℚ) = units := by exact_mod_cast h.cut_even h0
    rw [h0, hm, add_zero, sub_self, abs_zero]
    positivity
  · have hlong : (10 : ℚ) ^ 99 ≤ units := by exact_mod_cast hlong
    have hunit : |(m : ℚ) - (units + rest)| ≤ 1 := abs_le.2 ⟨by linarith, by linarith⟩
    refine hunit.trans ?_
    rw [le_div_iff₀ (by positivity)]
    linarith

/-- A number that ends at the eleventh place is not cut, unless it has so many digits before it. -/
theorem eq_of_isInt (h : IsCut x q) (hx : |x| < 10 ^ 68) {k : ℤ} (hk : x * 10 ^ 11 = k) :
    q = x := by
  obtain ⟨s, units, m, rest, t, h⟩ := h
  have hrest := h.rest_nonneg
  have habs : |x| = (units + rest) * 10 ^ (-t) := by
    rw [h.number, abs_mul, h.sign, one_mul, abs_of_nonneg (by positivity)]
  suffices h0 : rest = 0 by
    rw [h.cut, h.number, h.cut_even h0, h0, add_zero]
  rcases h.even_or_long with h0 | hlong
  · exact h0
  · have hlong : (10 : ℚ) ^ 99 ≤ units := by exact_mod_cast hlong
    -- The last of the hundred digits is far behind the eleventh place.
    have ht : 11 ≤ t := by
      by_contra hlt
      have hplace : (10 : ℚ) ^ (-10 : ℤ) ≤ 10 ^ (-t) := zpow_le_zpow_right₀ (by norm_num) (by omega)
      have hlarge : (10 : ℚ) ^ 99 * 10 ^ (-10 : ℤ) ≤ |x| := by
        rw [habs]
        exact mul_le_mul (by linarith) hplace (by positivity) (by linarith)
      norm_num at hlarge hx
      linarith
    obtain ⟨j, rfl⟩ : ∃ j : ℕ, t = 11 + j := ⟨(t - 11).toNat, by omega⟩
    have hwhole : (units : ℚ) + rest = ((|k| * 10 ^ j : ℤ) : ℚ) := by
      have hk' : |x| * 10 ^ 11 = |(k : ℚ)| := by
        rw [← hk, abs_mul, abs_of_pos (by positivity : (0 : ℚ) < 10 ^ 11)]
      rw [Int.cast_mul, Int.cast_abs, ← hk', habs, neg_add, zpow_add₀ (by norm_num), zpow_neg,
        zpow_neg, zpow_natCast]
      have h11 : (10 : ℚ) ^ (11 : ℤ) = 10 ^ 11 := by norm_cast
      rw [h11]
      push_cast
      field_simp
    have hint : rest = ((|k| * 10 ^ j - units : ℤ) : ℚ) := by
      push_cast at hwhole ⊢
      linarith
    have hlow : (0 : ℤ) ≤ |k| * 10 ^ j - units := by exact_mod_cast hint ▸ hrest
    have hhigh : |k| * 10 ^ j - units < (1 : ℤ) := by exact_mod_cast hint ▸ h.rest_lt_one
    rw [hint, le_antisymm (Int.lt_add_one_iff.1 hhigh) hlow, Int.cast_zero]

end IsCut

/-- The sign of a number other than zero is one unit. -/
theorem abs_sign {n : ℤ} (h : n ≠ 0) : |(n.sign : ℚ)| = 1 := by
  rcases Int.lt_or_gt_of_ne h with h | h
  · rw [Int.sign_eq_neg_one_of_neg h]
    norm_num
  · rw [Int.sign_eq_one_of_pos h]
    norm_num

/-- A number is its sign times its size. -/
theorem cast_eq_sign_mul (n : ℤ) : (n : ℚ) = n.sign * n.natAbs := by
  rw [← Int.cast_natCast, ← Int.cast_mul, Int.sign_mul_natAbs]

/-- A number is not cut at all. -/
theorem isCut_self (d : Decimal) : IsCut d.value d.value := by
  by_cases hd : d.coefficient = 0
  · refine ⟨1, 0, 0, 0, 0, by simp, le_rfl, by norm_num, ?_, ?_, le_rfl, by omega, fun _ => rfl,
      .inl rfl⟩
    · simp [value_eq_zero hd]
    · simp [value_eq_zero hd]
  · have hvalue : d.value = d.coefficient.sign * (d.coefficient.natAbs * 10 ^ (-d.scale)) := by
      rw [← mul_assoc, ← cast_eq_sign_mul]
      rfl
    refine ⟨d.coefficient.sign, d.coefficient.natAbs, d.coefficient.natAbs, 0, d.scale, abs_sign hd,
      le_rfl, by norm_num, ?_, hvalue, le_rfl, by omega, fun _ => rfl, .inl rfl⟩
    rw [add_zero]
    exact hvalue

/-- A quotient is the exact one, or has a hundred digits of it. -/
theorem isCut_quotient (a : Decimal) (hb : b.coefficient ≠ 0) :
    IsCut (a.value / b.value) (a.quotient b).value := by
  have hzb : b.isZero = false := beq_eq_false_iff_ne.2 hb
  unfold quotient
  rw [hzb, if_neg Bool.false_ne_true]
  split
  · next h =>
    have hself : a.value / b.value = a.value := by
      rcases Bool.or_eq_true_iff.1 h with ha | hone
      · rw [value_eq_zero (beq_iff_eq.1 ha), zero_div]
      · rw [value_of_isWrittenOne hone, div_one]
    rw [hself]
    exact isCut_self a
  · next h =>
    obtain ⟨hza, -⟩ := Bool.or_eq_false_iff.1 (Bool.eq_false_iff.2 h)
    have ha : a.coefficient ≠ 0 := beq_eq_false_iff_ne.1 hza
    have hn : 0 < a.coefficient.natAbs := Int.natAbs_pos.2 ha
    have hp : 0 < b.coefficient.natAbs := Int.natAbs_pos.2 hb
    have hp' : (0 : ℚ) < b.coefficient.natAbs := by exact_mod_cast hp
    have hexact : (longDivision a.coefficient.natAbs b.coefficient.natAbs).digits
        * b.coefficient.natAbs + (longDivision a.coefficient.natAbs b.coefficient.natAbs).rest
        = a.coefficient.natAbs * 10 ^ (longDivision a.coefficient.natAbs
          b.coefficient.natAbs).appended := longDivision_exact _ _
    obtain ⟨hrest, -, hlong⟩ := longDivision_long hn hp
    simp only
    generalize longDivision a.coefficient.natAbs b.coefficient.natAbs = x at hexact hrest hlong ⊢
    obtain ⟨hle, hge, heven⟩ := x.rounded_off b.coefficient.natAbs
    refine ⟨a.coefficient.sign * b.coefficient.sign, x.digits, x.rounded b.coefficient.natAbs,
      x.rest / b.coefficient.natAbs, a.scale - b.scale + x.appended, ?_, by positivity, ?_, ?_, ?_,
      hle, hge, fun h0 => heven ?_, hlong.imp_left fun h0 => ?_⟩
    · rw [abs_mul, abs_sign ha, abs_sign hb, one_mul]
    · rw [div_lt_one hp']
      exact_mod_cast hrest
    · -- Both sides are counted in units of the last place of the quotient times the divisor.
      have hsum : (x.digits : ℚ) + x.rest / b.coefficient.natAbs
          = a.coefficient.natAbs * 10 ^ x.appended / b.coefficient.natAbs := by
        rw [eq_div_iff hp'.ne', add_mul, div_mul_cancel₀ _ hp'.ne']
        exact_mod_cast hexact
      have hsign : (b.coefficient.sign : ℚ) * b.coefficient.sign = 1 := by
        rw [← abs_mul_abs_self, abs_sign hb, one_mul]
      have hscale : -(a.scale - b.scale + x.appended) = -a.scale - -b.scale - x.appended := by ring
      have hten : (10 : ℚ) ≠ 0 := by norm_num
      have hplace : (10 : ℚ) ^ (-b.scale) ≠ 0 := by positivity
      have hb' : (b.coefficient.sign : ℚ) ≠ 0 := left_ne_zero_of_mul_eq_one hsign
      rw [hsum, hscale, zpow_sub₀ hten, zpow_sub₀ hten, zpow_natCast]
      unfold value
      rw [cast_eq_sign_mul a.coefficient, cast_eq_sign_mul b.coefficient]
      field_simp
      rw [pow_two, hsign, mul_one]
    · unfold value
      push_cast
      ring
    · have hzero := (div_eq_zero_iff.1 h0).resolve_right hp'.ne'
      exact_mod_cast hzero
    · rw [h0, Nat.cast_zero, zero_div]

/-! ## Published quotients -/

/-- A quotient in units of the tenth place is a fraction of which one part is that of the
coefficients. -/
theorem exists_fraction (a : Decimal) (hb : b.coefficient ≠ 0) :
    ∃ p q : ℤ, q ≠ 0 ∧ a.value / b.value * 10 ^ 10 = p / q ∧
      (q = b.coefficient ∨ p = a.coefficient) := by
  have hb' : (b.coefficient : ℚ) ≠ 0 := by exact_mod_cast hb
  have hten : (10 : ℚ) ≠ 0 := by norm_num
  have hvalue : a.value / b.value * 10 ^ 10
      = a.coefficient / b.coefficient * 10 ^ (10 - a.scale + b.scale) := by
    have hscale : 10 - a.scale + b.scale = -a.scale - -b.scale + (10 : ℕ) := by
      push_cast
      ring
    rw [hscale, zpow_add₀ hten, zpow_sub₀ hten, zpow_natCast]
    unfold value
    field_simp
  rw [hvalue]
  rcases le_or_gt 0 (10 - a.scale + b.scale) with h | h
  · obtain ⟨k, hk⟩ := Int.eq_ofNat_of_zero_le h
    refine ⟨a.coefficient * 10 ^ k, b.coefficient, hb, ?_, .inl rfl⟩
    rw [hk, zpow_natCast]
    push_cast
    ring
  · obtain ⟨k, hk⟩ := Int.eq_ofNat_of_zero_le (neg_nonneg.2 h.le)
    refine ⟨a.coefficient, b.coefficient * 10 ^ k, mul_ne_zero hb (by positivity), ?_, .inr rfl⟩
    rw [neg_eq_iff_eq_neg.1 hk, zpow_neg, zpow_natCast]
    push_cast
    field_simp

/-- The quotient of two decimals of twenty digits is published as the exact quotient, unless it has
so many digits before the point that a hundred of them do not reach beyond the tenth place. -/
theorem isRounded_quotient (hb : b.coefficient ≠ 0) (hA : |(a.coefficient : ℚ)| ≤ 10 ^ 20)
    (hB : |(b.coefficient : ℚ)| ≤ 10 ^ 20) (hx : |a.value / b.value| < 10 ^ 68) :
    IsRounded (a.value / b.value * 10 ^ 10) (a.quotient b).ticks := by
  have hcut := isCut_quotient a hb
  refine (isRounded_ticks (a.quotient b)).of_near (fun k hk => ?_) fun k hk => ?_
  · rw [hcut.eq_of_isInt hx (k := 5 * k)]
    push_cast
    linarith
  · have hoff := hcut.abs_sub_le
    rw [← sub_mul, abs_mul, abs_of_pos (by positivity : (0 : ℚ) < 10 ^ 10)]
    obtain ⟨p, q, hq, hfraction, hparts⟩ := exists_fraction a hb
    have hapart := one_div_le_abs_sub_half hq (hfraction ▸ hk)
    rw [← hfraction] at hapart
    refine lt_of_lt_of_le ?_ hapart
    have hq' : (0 : ℚ) < |(q : ℚ)| := by
      rw [abs_pos]
      exact_mod_cast hq
    rcases hparts with rfl | rfl
    · -- The divisor is small, so the quotient is not close to a half.
      calc |(a.quotient b).value - a.value / b.value| * 10 ^ 10
          ≤ |a.value / b.value| / 10 ^ 99 * 10 ^ 10 := by gcongr
        _ < 10 ^ 68 / 10 ^ 99 * 10 ^ 10 := by gcongr
        _ ≤ 1 / (2 * 10 ^ 20) := by norm_num
        _ ≤ 1 / (2 * |(b.coefficient : ℚ)|) := by gcongr
    · -- The dividend is small, so the quotient is small where it is close to a half.
      have hunits : |a.value / b.value| * 10 ^ 10 = |(a.coefficient : ℚ)| / |(q : ℚ)| := by
        rw [← abs_div, ← hfraction, abs_mul, abs_of_pos (by positivity : (0 : ℚ) < 10 ^ 10)]
      calc |(a.quotient b).value - a.value / b.value| * 10 ^ 10
          ≤ |a.value / b.value| / 10 ^ 99 * 10 ^ 10 := by gcongr
        _ = |(a.coefficient : ℚ)| / |(q : ℚ)| / 10 ^ 99 := by rw [← hunits]; ring
        _ ≤ 10 ^ 20 / |(q : ℚ)| / 10 ^ 99 := by gcongr
        _ = 10 ^ 20 / 10 ^ 99 / |(q : ℚ)| := by ring
        _ < 1 / 2 / |(q : ℚ)| := div_lt_div_of_pos_right (by norm_num) hq'
        _ = 1 / (2 * |(q : ℚ)|) := by ring

end SwapMarket.Decimal
