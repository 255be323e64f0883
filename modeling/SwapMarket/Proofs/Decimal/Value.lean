import SwapMarket.Decimal.Division
import SwapMarket.Decimal.TenPlaces
import Mathlib.Algebra.Order.Field.Power
import Mathlib.Algebra.Order.Field.Rat
import Mathlib.Tactic.FieldSimp
import Mathlib.Tactic.Linarith
import Mathlib.Tactic.Positivity
import Mathlib.Tactic.Ring

/-!
# The value of a decimal

**`Decimal.value`** is the number that a decimal stands for. The operations are measured by it:

* `below_iff`: the order of decimals is that of their values.
* `quotient_near`: a quotient of positive decimals is off by at most one part in `10 ^ 99`, since it
  either comes out even or has a hundred digits.
-/

namespace SwapMarket.Decimal

/-- The number that a decimal stands for. -/
def value (d : Decimal) : ℚ := d.coefficient * 10 ^ (-d.scale)

variable {a b d : Decimal}

/-- A count of tenth-place units, in units of the tenth place. -/
theorem value_tenths (t : Int) : (⟨t, places⟩ : Decimal).value * 10 ^ 10 = t := by
  have h : (10 : ℚ) ^ (-(places : Int)) * 10 ^ 10 = 1 := by
    show (10 : ℚ) ^ (-((10 : Nat) : Int)) * 10 ^ 10 = 1
    rw [zpow_neg, zpow_natCast, inv_mul_cancel₀ (by positivity)]
  unfold value
  rw [mul_assoc, h, mul_one]

/-- A positive coefficient makes a positive value. -/
theorem value_pos (h : 0 < d.coefficient) : 0 < d.value := by
  have hc : (0 : ℚ) < d.coefficient := by exact_mod_cast h
  unfold value
  positivity

@[simp] theorem value_neg (d : Decimal) : d.neg.value = -d.value := by
  unfold value neg
  rw [Int.cast_neg, neg_mul]

/-- A zero coefficient makes a zero value. -/
theorem value_eq_zero (h : d.coefficient = 0) : d.value = 0 := by
  unfold value
  rw [h, Int.cast_zero, zero_mul]

/-- A negative coefficient makes a negative value. -/
theorem value_lt_zero (h : d.coefficient < 0) : d.value < 0 := by
  have hpos : 0 < d.neg.value := value_pos (Int.neg_pos_of_neg h)
  rwa [value_neg, neg_pos] at hpos

/-- A number of a lower sign is below one of a higher sign. -/
theorem value_lt_of_sign_lt (h : a.coefficient.sign < b.coefficient.sign) : a.value < b.value := by
  rcases Int.lt_trichotomy a.coefficient 0 with ha | ha | ha
  · have hb : 0 ≤ b.value := by
      rcases Int.lt_trichotomy b.coefficient 0 with hb | hb | hb
      · rw [Int.sign_eq_neg_one_of_neg ha, Int.sign_eq_neg_one_of_neg hb] at h
        exact absurd h (lt_irrefl _)
      · exact (value_eq_zero hb).ge
      · exact (value_pos hb).le
    exact (value_lt_zero ha).trans_le hb
  · rw [ha, Int.sign_zero, Int.sign_pos_iff] at h
    rw [value_eq_zero ha]
    exact value_pos h
  · have hb : 0 < b.coefficient := Int.sign_pos_iff.1 ((Int.sign_pos_iff.2 ha).trans h)
    rw [Int.sign_eq_one_of_pos ha, Int.sign_eq_one_of_pos hb] at h
    exact absurd h (lt_irrefl _)

/-- A positive coefficient is its size. -/
theorem cast_coefficient (h : 0 < d.coefficient) :
    (d.coefficient : ℚ) = (d.coefficient.natAbs : ℚ) := by
  rw [← Int.cast_natCast, Int.natAbs_of_nonneg h.le]

/-- The value is the same at a larger scale. -/
theorem value_eq_coefficientAt {s : Int} (h : d.scale ≤ s) :
    d.value = d.coefficientAt s * 10 ^ (-s) := by
  unfold value coefficientAt
  split
  · next hz => simp [hz]
  · have hs : ((s - d.scale).toNat : Int) = s - d.scale := Int.toNat_of_nonneg (by omega)
    have hpow : ((Nat.pow 10 (s - d.scale).toNat : Nat) : ℚ) = 10 ^ (s - d.scale) := by
      rw [← hs, zpow_natCast]
      exact Nat.cast_pow 10 _
    rw [Int.cast_mul, Int.cast_natCast, hpow, mul_assoc, ← zpow_add₀ (by norm_num)]
    congr 2
    omega

/-! ## Order -/

/-- Every number has a digit. -/
theorem digitCount_pos (n : Nat) : 0 < digitCount n := List.length_pos_iff.2 Nat.toDigits_ne_nil

/-- A number is below the power of ten with as many zeros as it has digits. -/
theorem lt_pow_digitCount (n : Nat) : n < 10 ^ digitCount n :=
  (Nat.length_toDigits_le_iff (by decide) (digitCount_pos n)).1 le_rfl

/-- It is not below the one with one zero less. -/
theorem pow_digitCount_le {n : Nat} (h : 0 < n) : 10 ^ (digitCount n - 1) ≤ n := by
  by_contra hlt
  have hpos : 0 < digitCount n - 1 := by
    rcases Nat.eq_zero_or_pos (digitCount n - 1) with h0 | h0
    · rw [h0] at hlt
      omega
    · exact h0
  have hle : digitCount n ≤ digitCount n - 1 :=
    (Nat.length_toDigits_le_iff (by decide) hpos).2 (not_le.1 hlt)
  omega

/-- The first digit of a positive decimal says how large it is. -/
theorem value_of_firstPlace (h : 0 < d.coefficient) :
    10 ^ (d.firstPlace - 1) ≤ d.value ∧ d.value < 10 ^ d.firstPlace := by
  have hscale : (0 : ℚ) < 10 ^ (-d.scale) := by positivity
  have hle : ((10 ^ (digitCount d.coefficient.natAbs - 1) : Nat) : ℚ) ≤ d.coefficient.natAbs := by
    exact_mod_cast pow_digitCount_le (by omega)
  have hlt : (d.coefficient.natAbs : ℚ) < ((10 ^ digitCount d.coefficient.natAbs : Nat) : ℚ) := by
    exact_mod_cast lt_pow_digitCount _
  have hcount := digitCount_pos d.coefficient.natAbs
  unfold value firstPlace
  rw [cast_coefficient h]
  constructor
  · calc (10 : ℚ) ^ ((digitCount d.coefficient.natAbs : Int) - d.scale - 1)
        = ((10 ^ (digitCount d.coefficient.natAbs - 1) : Nat) : ℚ) * 10 ^ (-d.scale) := by
          rw [Nat.cast_pow, ← zpow_natCast, Nat.cast_ofNat, ← zpow_add₀ (by norm_num)]
          congr 1
          omega
      _ ≤ d.coefficient.natAbs * 10 ^ (-d.scale) := mul_le_mul_of_nonneg_right hle hscale.le
  · calc (d.coefficient.natAbs : ℚ) * 10 ^ (-d.scale)
        < ((10 ^ digitCount d.coefficient.natAbs : Nat) : ℚ) * 10 ^ (-d.scale) :=
          mul_lt_mul_of_pos_right hlt hscale
      _ = (10 : ℚ) ^ ((digitCount d.coefficient.natAbs : Int) - d.scale) := by
          rw [Nat.cast_pow, ← zpow_natCast, Nat.cast_ofNat, ← zpow_add₀ (by norm_num)]
          congr 1

/-- Of two positive decimals the one whose first digit is further right is less. -/
theorem value_lt_of_firstPlace_lt (ha : 0 < a.coefficient) (hb : 0 < b.coefficient)
    (h : a.firstPlace < b.firstPlace) : a.value < b.value := by
  calc a.value < 10 ^ a.firstPlace := (value_of_firstPlace ha).2
    _ ≤ 10 ^ (b.firstPlace - 1) := zpow_le_zpow_right₀ (by norm_num) (by omega)
    _ ≤ b.value := (value_of_firstPlace hb).1

/-- Of positive decimals the one is below the other if its value is. -/
theorem below_iff_of_pos (ha : 0 < a.coefficient) (hb : 0 < b.coefficient) :
    a.below b = true ↔ a.value < b.value := by
  unfold below order
  rw [Int.sign_eq_one_of_pos ha, Int.sign_eq_one_of_pos hb, if_neg (not_not.2 rfl),
    if_neg ha.ne', beq_iff_eq]
  split
  · have hs : (0 : ℚ) < 10 ^ (-max a.scale b.scale) := by positivity
    rw [value_eq_coefficientAt (le_max_left a.scale b.scale),
      value_eq_coefficientAt (le_max_right a.scale b.scale), mul_lt_mul_iff_left₀ hs, Int.cast_lt]
    exact compare_lt_iff_lt
  · next hne =>
    rw [compare_lt_iff_lt]
    constructor
    · exact value_lt_of_firstPlace_lt ha hb
    · intro h
      by_contra hle
      exact lt_asymm h (value_lt_of_firstPlace_lt hb ha (by omega))

/-- The sign does not move the first digit. -/
theorem firstPlace_neg (d : Decimal) : d.neg.firstPlace = d.firstPlace := by
  unfold firstPlace neg
  rw [Int.natAbs_neg]

/-- The coefficient at a scale changes its sign with the decimal. -/
theorem coefficientAt_neg (d : Decimal) (s : Int) : d.neg.coefficientAt s = -d.coefficientAt s := by
  unfold coefficientAt neg
  simp only [Int.neg_eq_zero, Int.neg_mul]
  split
  · rfl
  · rfl

/-- Negative decimals are in the opposite order of their magnitudes. -/
theorem below_of_neg (ha : a.coefficient < 0) (hb : b.coefficient < 0) :
    a.below b = b.neg.below a.neg := by
  have ha' : 0 < a.neg.coefficient := Int.neg_pos_of_neg ha
  have hb' : 0 < b.neg.coefficient := Int.neg_pos_of_neg hb
  have hscale : max b.neg.scale a.neg.scale = max a.scale b.scale := max_comm _ _
  unfold below order
  rw [Int.sign_eq_neg_one_of_neg ha, Int.sign_eq_neg_one_of_neg hb, Int.sign_eq_one_of_pos ha',
    Int.sign_eq_one_of_pos hb', if_neg (not_not.2 rfl), if_neg (not_not.2 rfl), if_neg ha.ne,
    if_neg hb'.ne', if_neg ha.le.not_gt, if_pos hb', hscale]
  simp only [firstPlace_neg, coefficientAt_neg, eq_comm (a := b.firstPlace)]
  split
  · rw [Bool.eq_iff_iff, beq_iff_eq, beq_iff_eq, compare_lt_iff_lt, compare_lt_iff_lt]
    exact neg_lt_neg_iff.symm
  · rfl

/-- Numbers of different signs are in the order of their signs. -/
theorem below_of_sign_ne (h : a.coefficient.sign ≠ b.coefficient.sign) :
    a.below b = true ↔ a.coefficient.sign < b.coefficient.sign := by
  unfold below order
  rw [if_pos h, beq_iff_eq, compare_lt_iff_lt]

/-- One decimal is below another if its value is. -/
theorem below_iff : a.below b = true ↔ a.value < b.value := by
  by_cases hs : a.coefficient.sign = b.coefficient.sign
  · rcases Int.lt_trichotomy a.coefficient 0 with ha | ha | ha
    · have hb : b.coefficient < 0 := by
        rw [← Int.sign_eq_neg_one_iff_neg, ← hs, Int.sign_eq_neg_one_iff_neg]
        exact ha
      rw [below_of_neg ha hb, below_iff_of_pos (Int.neg_pos_of_neg hb) (Int.neg_pos_of_neg ha),
        value_neg, value_neg, neg_lt_neg_iff]
    · have hb : b.coefficient = 0 := by
        rw [← Int.sign_eq_zero_iff_zero, ← hs, ha, Int.sign_zero]
      have hbelow : a.below b = false := by
        unfold below order
        rw [ha, hb, if_neg (not_not.2 rfl), if_pos rfl]
        rfl
      rw [hbelow, value_eq_zero ha, value_eq_zero hb]
      simp
    · have hb : 0 < b.coefficient := by
        rw [← Int.sign_eq_one_iff_pos, ← hs, Int.sign_eq_one_iff_pos]
        exact ha
      exact below_iff_of_pos ha hb
  · rw [below_of_sign_ne hs]
    constructor
    · exact value_lt_of_sign_lt
    · intro h
      by_contra hle
      exact lt_asymm h (value_lt_of_sign_lt (by omega))

/-! ## Quotients -/

/-- As many times as it takes, ten makes a number reach another one. -/
theorem le_mul_pow_raises {n p : Nat} (h : 0 < n) : p ≤ n * 10 ^ raises n p := by
  fun_induction raises n p with
  | case1 n hlt ih =>
    rw [Nat.pow_succ', ← Nat.mul_assoc]
    exact ih (by omega)
  | case2 n hge => omega

/-- Digits are appended until nothing is left, or until there are as many as are wanted. -/
theorem appendDigits_long {p m : Nat} (hp : 0 < p) (k : Nat) {x : LongDivision}
    (hd : 10 ^ m ≤ x.digits) (hr : x.rest < p) :
    (appendDigits p k x).rest < p ∧ x.digits ≤ (appendDigits p k x).digits ∧
      ((appendDigits p k x).rest = 0 ∨ 10 ^ (m + k) ≤ (appendDigits p k x).digits) := by
  induction k generalizing x m with
  | zero => exact ⟨hr, le_rfl, .inr hd⟩
  | succ k ih =>
    unfold appendDigits
    split
    · next h => exact ⟨hr, le_rfl, .inl h⟩
    · have hdigits : 10 ^ (m + 1) ≤ x.digits * 10 + x.rest * 10 / p := by
        rw [Nat.pow_succ]
        exact le_trans (Nat.mul_le_mul_right 10 hd) (Nat.le_add_right _ _)
      obtain ⟨h₁, h₂, h₃⟩ := ih (m := m + 1)
        (x := ⟨x.digits * 10 + x.rest * 10 / p, x.rest * 10 % p, x.appended + 1⟩) hdigits
        (Nat.mod_lt _ hp)
      refine ⟨h₁, le_trans ?_ h₂, ?_⟩
      · exact le_trans (by omega : x.digits ≤ x.digits * 10) (Nat.le_add_right _ _)
      · have hk : m + (k + 1) = m + 1 + k := by omega
        rw [hk]
        exact h₃

/-- A long division has a first digit, and it comes out even or has a hundred digits. -/
theorem longDivision_long {n p : Nat} (hn : 0 < n) (hp : 0 < p) :
    (longDivision n p).rest < p ∧ 0 < (longDivision n p).digits ∧
      ((longDivision n p).rest = 0 ∨ 10 ^ 99 ≤ (longDivision n p).digits) := by
  have hq : 0 < n * Nat.pow 10 (raises n p) / p := Nat.div_pos (le_mul_pow_raises hn) hp
  have hfirst := pow_digitCount_le hq
  have hcount := digitCount_pos (n * Nat.pow 10 (raises n p) / p)
  obtain ⟨h₁, h₂, h₃⟩ := appendDigits_long (m := digitCount (n * Nat.pow 10 (raises n p) / p) - 1)
    hp (quotientDigits - digitCount (n * Nat.pow 10 (raises n p) / p))
    (x := ⟨n * Nat.pow 10 (raises n p) / p, n * Nat.pow 10 (raises n p) % p, raises n p⟩)
    hfirst (Nat.mod_lt _ hp)
  refine ⟨h₁, lt_of_lt_of_le hq h₂, h₃.imp_right fun h => le_trans ?_ h⟩
  have hdigits : quotientDigits = 100 := rfl
  exact Nat.pow_le_pow_right (by decide) (by omega)

/-- Rounding the digits of a division changes them by at most one, and not at all if it came out
even. -/
theorem LongDivision.rounded_off (x : LongDivision) (p : Nat) :
    x.digits ≤ x.rounded p ∧ x.rounded p ≤ x.digits + 1 ∧
      (x.rest = 0 → x.rounded p = x.digits) := by
  unfold rounded
  split
  · next h =>
    refine ⟨Nat.le_succ _, le_rfl, fun h0 => ?_⟩
    rw [h0, Nat.zero_mul, Nat.zero_div] at h
    omega
  · exact ⟨le_rfl, Nat.le_succ _, fun _ => rfl⟩

/-- The digits of a quotient are off by at most one, which is little if there are many. -/
theorem rounded_near {n p : Nat} (hn : 0 < n) (hp : 0 < p) :
    0 < (longDivision n p).rounded p ∧
      |((longDivision n p).rounded p : ℚ) * p - n * 10 ^ (longDivision n p).appended|
        ≤ n * 10 ^ (longDivision n p).appended / 10 ^ 99 := by
  have hexact : (longDivision n p).digits * p + (longDivision n p).rest
      = n * 10 ^ (longDivision n p).appended := longDivision_exact n p
  obtain ⟨hrest, hdigits, hlong⟩ := longDivision_long hn hp
  generalize longDivision n p = x at hexact hrest hdigits hlong ⊢
  obtain ⟨hle, hge, heven⟩ := x.rounded_off p
  have hsum : (n : ℚ) * 10 ^ x.appended = x.digits * p + x.rest := by exact_mod_cast hexact.symm
  have hp' : (0 : ℚ) < p := by exact_mod_cast hp
  have hrest₀ : (0 : ℚ) ≤ x.rest := Nat.cast_nonneg _
  have hrest' : (x.rest : ℚ) ≤ p := by exact_mod_cast hrest.le
  refine ⟨by omega, ?_⟩
  rw [hsum]
  rcases hlong with h0 | hlong
  · rw [heven h0, h0, Nat.cast_zero, add_zero, sub_self, abs_zero]
    positivity
  · have hlong : (10 : ℚ) ^ 99 ≤ x.digits := by exact_mod_cast hlong
    have hle : (x.digits : ℚ) ≤ x.rounded p := by exact_mod_cast hle
    have hge : (x.rounded p : ℚ) ≤ x.digits + 1 := by exact_mod_cast hge
    have hoff : |(x.rounded p : ℚ) * p - (x.digits * p + x.rest)| ≤ p := by
      rw [abs_le]
      constructor
      · nlinarith
      · nlinarith
    refine hoff.trans ?_
    rw [le_div_iff₀ (by positivity)]
    nlinarith

/-- A decimal that is written as one has the value one. -/
theorem value_of_isWrittenOne (h : d.isWrittenOne = true) : d.value = 1 := by
  unfold isWrittenOne at h
  simp only [Bool.and_eq_true, decide_eq_true_eq, beq_iff_eq] at h
  obtain ⟨⟨hs, -⟩, hc⟩ := h
  have hscale : ((d.scale.toNat : Nat) : Int) = d.scale := Int.toNat_of_nonneg hs
  have hpow : ((Nat.pow 10 d.scale.toNat : Nat) : ℚ) = 10 ^ d.scale := by
    rw [← hscale, zpow_natCast]
    exact Nat.cast_pow 10 _
  unfold value
  rw [hc, Int.cast_natCast, hpow, ← zpow_add₀ (by norm_num), add_neg_cancel, zpow_zero]

/-- A quotient of positive decimals is positive, and times the divisor it is the dividend up to one
part in `10 ^ 99`. -/
theorem quotient_near (ha : 0 < a.coefficient) (hb : 0 < b.coefficient) :
    0 < (a.quotient b).coefficient ∧
      |(a.quotient b).value * b.value - a.value| ≤ a.value / 10 ^ 99 := by
  have hza : a.isZero = false := beq_eq_false_iff_ne.2 ha.ne'
  have hzb : b.isZero = false := beq_eq_false_iff_ne.2 hb.ne'
  unfold quotient
  rw [hzb, hza, if_neg Bool.false_ne_true, Bool.false_or]
  split
  · next h =>
    refine ⟨ha, ?_⟩
    rw [value_of_isWrittenOne h, mul_one, sub_self, abs_zero]
    have := value_pos ha
    positivity
  · have hn : 0 < a.coefficient.natAbs := by omega
    have hp : 0 < b.coefficient.natAbs := by omega
    obtain ⟨hpos, hnear⟩ := rounded_near hn hp
    simp only [Int.sign_eq_one_of_pos ha, Int.sign_eq_one_of_pos hb, one_mul]
    generalize longDivision a.coefficient.natAbs b.coefficient.natAbs = x at hpos hnear ⊢
    refine ⟨by exact_mod_cast hpos, ?_⟩
    -- All three values are counted in units of the last place of the quotient times the divisor.
    have hu : (0 : ℚ) < 10 ^ (-a.scale - x.appended) := by positivity
    have hquotient : (⟨x.rounded b.coefficient.natAbs, a.scale - b.scale + x.appended⟩ :
        Decimal).value * b.value = x.rounded b.coefficient.natAbs * b.coefficient.natAbs
          * 10 ^ (-a.scale - x.appended) := by
      have hscale : -a.scale - x.appended = -(a.scale - b.scale + x.appended) + -b.scale := by ring
      rw [hscale, zpow_add₀ (by norm_num)]
      unfold value
      rw [Int.cast_natCast, cast_coefficient hb]
      ring
    have hdividend : a.value
        = a.coefficient.natAbs * 10 ^ x.appended * 10 ^ (-a.scale - x.appended) := by
      unfold value
      rw [zpow_sub₀ (by norm_num), zpow_natCast, cast_coefficient ha]
      field_simp
    rw [hquotient, hdividend, ← sub_mul, abs_mul, abs_of_pos hu, mul_div_right_comm]
    exact mul_le_mul_of_nonneg_right hnear hu.le

end SwapMarket.Decimal
