import SwapMarket.Market.Record
import SwapMarket.Proofs.Decimal.Published
import SwapMarket.Proofs.Run

/-!
# The size of results

A decimal is **`Within`** a number of places if its coefficient has no more digits and its scale is
no farther from zero. Each operation gives a result within some multiple of the places of its
operands, so that a few operations on numbers that were read from texts stay far inside the range of
64-bit scales. What can end a run is a scale out of this range, and nothing else:

* `Within.reciprocal`, `Within.figure`, `Within.changeFigures`: these runs have a value.
* `isPublished_of_figure`: what a run gives for a figure is published.
-/

namespace SwapMarket.Decimal

/-- Whether a coefficient has at most `k` digits, and a scale at most `k` places in either
direction. -/
structure Within (k : Nat) (d : Decimal) : Prop where
  /-- The digits. -/
  digits : d.coefficient.natAbs < 10 ^ k
  /-- The places. -/
  places : d.scale.natAbs ≤ k

variable {a b d : Decimal} {j k : Nat}

/-- What is within some places is within more of them. -/
theorem Within.mono (h : d.Within k) (hk : k ≤ j) : d.Within j :=
  ⟨Nat.lt_of_lt_of_le h.digits (Nat.pow_le_pow_right (by decide) hk), Nat.le_trans h.places hk⟩

theorem within_zero (k : Nat) : zero.Within k :=
  ⟨Nat.pow_pos (by decide), Nat.zero_le k⟩

theorem within_one : one.Within 1 := ⟨by decide, by decide⟩

/-- A number that was written is within the length of its text. -/
theorem within_tickText {t : Int} {k : Nat} (h : (tickText t).length ≤ k) :
    (⟨t, places⟩ : Decimal).Within k := by
  have hk : places ≤ (tickText t).length := by
    rw [← String.length_toList, toList_tickText, List.length_append, List.length_cons,
      length_fractionDigits]
    omega
  refine ⟨?_, Nat.le_trans hk h⟩
  exact Nat.lt_of_lt_of_le (natAbs_lt_of_tickText t) (Nat.pow_le_pow_right (by decide) h)

/-! ## Sums and products -/

/-- A coefficient at a scale a little larger is a little longer. -/
theorem natAbs_coefficientAt_lt {s : Int} (h : d.coefficient.natAbs < 10 ^ k)
    (hs : s ≤ d.scale + j) : (d.coefficientAt s).natAbs < 10 ^ (k + j) := by
  have hpow : 10 ^ (s - d.scale).toNat ≤ 10 ^ j :=
    Nat.pow_le_pow_right (by decide) (by omega)
  unfold coefficientAt
  split
  · exact Nat.pow_pos (by decide)
  · rw [Int.natAbs_mul, Int.natAbs_natCast, Nat.pow_eq, Nat.pow_add]
    calc d.coefficient.natAbs * 10 ^ (s - d.scale).toNat
        ≤ d.coefficient.natAbs * 10 ^ j := Nat.mul_le_mul_left _ hpow
      _ < 10 ^ k * 10 ^ j := Nat.mul_lt_mul_of_pos_right h (Nat.pow_pos (by decide))

/-- A decimal is written at a scale within its bounds with three times the digits. -/
theorem Within.extended {s : Int} (h : d.Within k) (hs : s.natAbs ≤ k) :
    (d.extended s).Within (3 * k) := by
  have hd := h.places
  have hc : (d.coefficientAt (max d.scale (min s (d.scale + 15)))).natAbs < 10 ^ (k + 2 * k) :=
    natAbs_coefficientAt_lt h.digits (by omega)
  constructor
  · show (d.coefficientAt (max d.scale (min s (d.scale + 15)))).natAbs < _
    refine Nat.lt_of_lt_of_le hc (Nat.pow_le_pow_right (by decide) (by omega))
  · show (max d.scale (min s (d.scale + 15))).natAbs ≤ _
    omega

/-- A sum has one digit more than its terms have, brought to one scale. -/
theorem Within.add (ha : a.Within k) (hb : b.Within k) : (a + b).Within (3 * k + 1) := by
  show (Decimal.add a b).Within (3 * k + 1)
  unfold Decimal.add
  split
  · exact (ha.extended hb.places).mono (by omega)
  split
  · exact (hb.extended ha.places).mono (by omega)
  have hpa := ha.places
  have hpb := hb.places
  have hca : (a.coefficientAt (max a.scale b.scale)).natAbs < 10 ^ (k + 2 * k) :=
    natAbs_coefficientAt_lt ha.digits (by omega)
  have hcb : (b.coefficientAt (max a.scale b.scale)).natAbs < 10 ^ (k + 2 * k) :=
    natAbs_coefficientAt_lt hb.digits (by omega)
  constructor
  · show (a.coefficientAt (max a.scale b.scale) + b.coefficientAt (max a.scale b.scale)).natAbs
      < 10 ^ (3 * k + 1)
    have h3 : k + 2 * k = 3 * k := by omega
    rw [h3] at hca hcb
    rw [Nat.pow_succ]
    omega
  · show (max a.scale b.scale).natAbs ≤ 3 * k + 1
    omega

/-- The sign needs no place. -/
theorem Within.neg (h : d.Within k) : d.neg.Within k := by
  constructor
  · show (-d.coefficient).natAbs < _
    rw [Int.natAbs_neg]
    exact h.digits
  · exact h.places

/-- A difference needs no more than a sum. -/
theorem Within.sub (ha : a.Within k) (hb : b.Within k) : (a - b).Within (3 * k + 1) :=
  ha.add hb.neg

/-- Zeros that are dropped are digits. -/
theorem dropZeros_le {n : Nat} (hn : 0 < n) (h : n < 10 ^ k) :
    (dropZeros n).1 ≤ n ∧ (dropZeros n).2 ≤ k := by
  have hmul : (dropZeros n).1 * 10 ^ (dropZeros n).2 = n := dropZeros_mul n
  have hpos : 0 < (dropZeros n).1 := by
    rcases Nat.eq_zero_or_pos (dropZeros n).1 with h0 | h0
    · rw [h0, Nat.zero_mul] at hmul
      omega
    · exact h0
  have hten : 0 < 10 ^ (dropZeros n).2 := Nat.pow_pos (by decide)
  have hfirst : (dropZeros n).1 ≤ n := by
    calc (dropZeros n).1 ≤ (dropZeros n).1 * 10 ^ (dropZeros n).2 :=
          Nat.le_mul_of_pos_right _ hten
      _ = n := hmul
  have hpow : 10 ^ (dropZeros n).2 ≤ n := by
    calc 10 ^ (dropZeros n).2 ≤ (dropZeros n).1 * 10 ^ (dropZeros n).2 :=
          Nat.le_mul_of_pos_left _ hpos
      _ = n := hmul
  refine ⟨hfirst, ?_⟩
  exact Nat.le_of_lt ((Nat.pow_lt_pow_iff_right (by decide)).1 (Nat.lt_of_le_of_lt hpow h))

/-- Zeros that are dropped move the scale no farther than there were digits. -/
theorem Within.reduced (h : d.Within k) : d.reduced.Within (2 * k) := by
  unfold Decimal.reduced
  split
  · exact within_zero _
  · next hc =>
    obtain ⟨h₁, h₂⟩ := dropZeros_le (Int.natAbs_pos.2 hc) h.digits
    have hp := h.places
    constructor
    · show (d.coefficient.sign * ((dropZeros d.coefficient.natAbs).1 : Int)).natAbs < _
      rw [Int.natAbs_mul, Int.natAbs_sign_of_ne_zero hc, Nat.one_mul, Int.natAbs_natCast]
      have hk : 10 ^ k ≤ 10 ^ (2 * k) := Nat.pow_le_pow_right (by decide) (by omega)
      have hd := h.digits
      omega
    · show (d.scale - ((dropZeros d.coefficient.natAbs).2 : Int)).natAbs ≤ _
      omega

/-- A product has the digits and places of both factors. -/
theorem Within.mul (ha : a.Within k) (hb : b.Within k) : (a * b).Within (2 * k) := by
  show (Decimal.mul a b).Within (2 * k)
  unfold Decimal.mul
  split
  · exact hb.reduced
  split
  · exact ha.reduced
  have hpa := ha.places
  have hpb := hb.places
  constructor
  · show (a.coefficient * b.coefficient).natAbs < _
    rw [Int.natAbs_mul, Nat.two_mul, Nat.pow_add]
    exact Nat.mul_lt_mul'' ha.digits hb.digits
  · show (a.scale + b.scale).natAbs ≤ _
    omega

/-! ## Sums of lists

Adding up a list one by one would multiply a bound by three in each step. But the scale of a partial
sum never leaves the scales of its terms, so its coefficient is counted at that scale. -/

/-- A sum of `m` numbers within `k` places: its scale is no farther from zero, and at this scale the
coefficient is that of at most `m` such numbers. -/
structure IsSumOf (k m : Nat) (d : Decimal) : Prop where
  /-- The places. -/
  places : d.scale.natAbs ≤ k
  /-- The coefficient. -/
  digits : d.coefficient.natAbs ≤ m * 10 ^ (k + (d.scale + k).toNat)

theorem isSumOf_zero (k : Nat) : zero.IsSumOf k 0 := ⟨Nat.zero_le k, Nat.zero_le _⟩

/-- One number within the places is a sum of itself. -/
theorem Within.isSumOf (h : d.Within k) : d.IsSumOf k 1 := by
  refine ⟨h.places, ?_⟩
  rw [Nat.one_mul]
  exact Nat.le_of_lt (Nat.lt_of_lt_of_le h.digits (Nat.pow_le_pow_right (by decide) (by omega)))

variable {m n : Nat}

/-- A sum of some numbers is within the bounds for more of them. -/
theorem IsSumOf.mono (h : d.IsSumOf k m) (hm : m ≤ n) : d.IsSumOf k n :=
  ⟨h.places, Nat.le_trans h.digits (Nat.mul_le_mul_right _ hm)⟩

/-- At a larger scale the coefficient is still that of at most as many numbers. -/
theorem IsSumOf.coefficientAt_le (h : d.IsSumOf k m) {s : Int} (hs : d.scale ≤ s) :
    (d.coefficientAt s).natAbs ≤ m * 10 ^ (k + (s + k).toNat) := by
  have hp := h.places
  have he : k + (s + k).toNat = k + (d.scale + k).toNat + (s - d.scale).toNat := by omega
  unfold coefficientAt
  split
  · exact Nat.zero_le _
  · rw [Int.natAbs_mul, Int.natAbs_natCast, Nat.pow_eq, he, Nat.pow_add, ← Nat.mul_assoc]
    exact Nat.mul_le_mul_right _ h.digits

/-- A sum stays within its bounds where it is brought to another scale. -/
theorem IsSumOf.extended (h : d.IsSumOf k m) {s : Int} (hs : s.natAbs ≤ k) :
    (d.extended s).IsSumOf k m := by
  have hp := h.places
  constructor
  · show (max d.scale (min s (d.scale + 15))).natAbs ≤ k
    omega
  · exact h.coefficientAt_le (by omega)

/-- One more number is added. -/
theorem IsSumOf.add (ha : a.IsSumOf k m) (hb : b.Within k) : (a + b).IsSumOf k (m + 1) := by
  show (Decimal.add a b).IsSumOf k (m + 1)
  unfold Decimal.add
  split
  · exact (ha.extended hb.places).mono (Nat.le_succ m)
  split
  · exact (hb.isSumOf.extended ha.places).mono (by omega)
  have hpa := ha.places
  have hpb := hb.places
  constructor
  · show (max a.scale b.scale).natAbs ≤ k
    omega
  · have hca := ha.coefficientAt_le (s := max a.scale b.scale) (by omega)
    have hcb := hb.isSumOf.coefficientAt_le (s := max a.scale b.scale) (by omega)
    show (a.coefficientAt (max a.scale b.scale) + b.coefficientAt (max a.scale b.scale)).natAbs
      ≤ (m + 1) * 10 ^ (k + (max a.scale b.scale + k).toNat)
    rw [Nat.add_mul]
    omega

/-- Adding numbers one by one adds up their count. -/
theorem isSumOf_foldl {ds : List Decimal} (h : ∀ d ∈ ds, d.Within k) (ha : a.IsSumOf k m) :
    (ds.foldl (· + ·) a).IsSumOf k (m + ds.length) := by
  induction ds generalizing a m with
  | nil => exact ha
  | cons d ds ih =>
    obtain ⟨hd, hds⟩ := List.forall_mem_cons.1 h
    rw [List.foldl_cons, List.length_cons, Nat.add_comm ds.length 1, ← Nat.add_assoc]
    exact ih hds (ha.add hd)

/-- A sum of not absurdly many numbers is within a few times their places. -/
theorem within_sum {ds : List Decimal} (h : ∀ d ∈ ds, d.Within k) (hn : ds.length < 10 ^ k) :
    (sum ds).Within (4 * k) := by
  have hs : (sum ds).IsSumOf k ds.length := by
    have := isSumOf_foldl h (isSumOf_zero k)
    rwa [Nat.zero_add] at this
  have hp := hs.places
  refine ⟨?_, by omega⟩
  calc (sum ds).coefficient.natAbs
      ≤ ds.length * 10 ^ (k + ((sum ds).scale + k).toNat) := hs.digits
    _ ≤ ds.length * 10 ^ (3 * k) :=
        Nat.mul_le_mul_left _ (Nat.pow_le_pow_right (by decide) (by omega))
    _ < 10 ^ k * 10 ^ (3 * k) := Nat.mul_lt_mul_of_pos_right hn (Nat.pow_pos (by decide))
    _ = 10 ^ (4 * k) := by
        rw [← Nat.pow_add]
        congr 1
        omega

/-! ## Quotients -/

/-- A number reaches another in as many raises as the other has digits, at most. -/
theorem raises_le {n d : Nat} (hn : 0 < n) (h : d ≤ n * 10 ^ k) : raises n d ≤ k := by
  induction k generalizing n with
  | zero =>
    have hnone : raises n d = 0 := by
      unfold raises
      exact if_neg (by omega)
    exact Nat.le_of_eq hnone
  | succ k ih =>
    unfold raises
    split
    · have := ih (n := n * 10) (by omega) (by rw [Nat.mul_assoc, ← Nat.pow_succ']; exact h)
      omega
    · exact Nat.zero_le _

/-- Only so many digits are appended. -/
theorem appended_appendDigits_le (d k : Nat) (p : LongDivision) :
    (appendDigits d k p).appended ≤ p.appended + k := by
  induction k generalizing p with
  | zero => exact Nat.le_refl _
  | succ k ih =>
    unfold appendDigits
    split
    · omega
    · have := ih ⟨p.digits * 10 + p.rest * 10 / d, p.rest * 10 % d, p.appended + 1⟩
      show _ ≤ p.appended + (k + 1)
      have e : p.appended + 1 + k = p.appended + (k + 1) := by omega
      rw [← e]
      exact this

/-- A division appends as many digits as its divisor has, and those of the quotient. -/
theorem appended_longDivision_le {n d : Nat} (hn : 0 < n) (hd : d < 10 ^ k) :
    (longDivision n d).appended ≤ k + quotientDigits := by
  have hr : raises n d ≤ k := by
    refine raises_le hn ?_
    calc d ≤ 1 * 10 ^ k := by omega
      _ ≤ n * 10 ^ k := Nat.mul_le_mul_right _ hn
  have ha : (longDivision n d).appended
      ≤ raises n d + (quotientDigits - digitCount (n * Nat.pow 10 (raises n d) / d)) :=
    appended_appendDigits_le d _ _
  omega

/-- The digits of a quotient are at most those of the dividend with as many zeros appended. -/
theorem rounded_longDivision_le {n d : Nat} (hd : 0 < d) :
    (longDivision n d).rounded d ≤ n * 10 ^ (longDivision n d).appended + 1 := by
  have he : (longDivision n d).digits * d + (longDivision n d).rest
      = n * 10 ^ (longDivision n d).appended := longDivision_exact n d
  have hm : (longDivision n d).digits ≤ (longDivision n d).digits * d :=
    Nat.le_mul_of_pos_right _ hd
  unfold LongDivision.rounded
  split
  · omega
  · omega

/-- A quotient is within three times the places of its terms, and the digits of a quotient. -/
theorem Within.quotient (ha : a.Within k) (hb : b.Within k) :
    (a.quotient b).Within (3 * k + 101) := by
  unfold Decimal.quotient
  split
  · exact within_zero _
  · next hz =>
    split
    · exact ha.mono (by omega)
    · next ho =>
      have hbz : b.coefficient ≠ 0 := by
        intro h
        exact hz (beq_iff_eq.2 h)
      have haz : a.coefficient ≠ 0 := by
        intro h
        refine ho ?_
        rw [Bool.or_eq_true]
        exact .inl (beq_iff_eq.2 h)
      have hpa := ha.places
      have hpb := hb.places
      have happ := appended_longDivision_le (Int.natAbs_pos.2 haz) hb.digits
      have hq : quotientDigits = 100 := rfl
      constructor
      · show (a.coefficient.sign * b.coefficient.sign
          * ((longDivision a.coefficient.natAbs b.coefficient.natAbs).rounded
            b.coefficient.natAbs : Int)).natAbs < _
        rw [Int.natAbs_mul, Int.natAbs_mul, Int.natAbs_sign_of_ne_zero haz,
          Int.natAbs_sign_of_ne_zero hbz, Nat.mul_one, Nat.one_mul, Int.natAbs_natCast]
        have hr := rounded_longDivision_le (n := a.coefficient.natAbs) (Int.natAbs_pos.2 hbz)
        have hpow : 10 ^ (longDivision a.coefficient.natAbs b.coefficient.natAbs).appended
            ≤ 10 ^ (k + 100) := Nat.pow_le_pow_right (by decide) happ
        have hmul : a.coefficient.natAbs
            * 10 ^ (longDivision a.coefficient.natAbs b.coefficient.natAbs).appended
            < 10 ^ k * 10 ^ (k + 100) :=
          Nat.lt_of_le_of_lt (Nat.mul_le_mul_left _ hpow)
            (Nat.mul_lt_mul_of_pos_right ha.digits (Nat.pow_pos (by decide)))
        rw [← Nat.pow_add] at hmul
        have hten : 10 ^ (k + (k + 100)) * 10 ≤ 10 ^ (3 * k + 101) := by
          rw [← Nat.pow_succ]
          exact Nat.pow_le_pow_right (by decide) (by omega)
        omega
      · show (a.scale - b.scale
          + ((longDivision a.coefficient.natAbs b.coefficient.natAbs).appended : Int)).natAbs ≤ _
        omega

/-! ## Runs that have a value -/

/-- A scale within few enough places is held by 64 bits. -/
theorem holdsScale_of_le {s : Int} {k : Nat} (h : s.natAbs ≤ k) (hk : k < 2 ^ 63) :
    holdsScale s = true := by
  have hb : (2 : Nat) ^ 63 = 9223372036854775808 := rfl
  unfold holdsScale Text.Bounds.holds
  rw [Bool.and_eq_true, decide_eq_true_iff, decide_eq_true_iff]
  show -9223372036854775808 ≤ s ∧ s ≤ 9223372036854775807
  omega

/-- A quotient of decimals within few enough places is found. -/
theorem Within.quotient? (ha : a.Within k) (hb : b.Within k) (hk : k < 2 ^ 60) :
    a.quotient? b = some (a.quotient b) := by
  have hpa := ha.places
  have hpb := hb.places
  have hq := (ha.quotient hb).places
  unfold Decimal.quotient?
  split
  · rfl
  · rw [if_pos (holdsScale_of_le (k := 2 * k) (by omega) (by omega))]
    unfold inRange?
    rw [if_pos (holdsScale_of_le hq (by omega))]

theorem Within.product? (ha : a.Within k) (hb : b.Within k) (hk : k < 2 ^ 60) :
    a.product? b = some (a * b) := by
  unfold Decimal.product? inRange?
  rw [if_pos (holdsScale_of_le (ha.mul hb).places (by omega))]

theorem Within.published? (h : d.Within k) (hk : k < 2 ^ 60) :
    d.published? = some d.published := by
  have hp := h.places
  have hpl : (Decimal.places : Int) = 10 := rfl
  have hs : holdsScale (Decimal.places - d.scale) = true :=
    holdsScale_of_le (k := k + 10) (by omega) (by omega)
  unfold Decimal.published?
  rw [hs, Bool.or_true, Bool.true_or]
  rfl

/-- A figure is a published text. -/
theorem isPublished_of_figure {s : String} (h : d.figure = .ok s) : IsPublished s := by
  unfold figure published? at h
  split at h
  · rw [Run.inRange_ok_iff, Option.some.injEq] at h
    exact ⟨d, h⟩
  · cases h

/-- A decimal within few enough places can be written as a figure. -/
theorem Within.figure (h : d.Within k) (hk : k < 2 ^ 60) :
    d.figure = .ok d.published := by
  unfold Decimal.figure
  rw [h.published? hk]
  rfl

/-- It has a reciprocal, which is within three times as many places and some more. -/
theorem Within.reciprocal (h : d.Within k) (h₁ : 0 < k) (hk : k < 2 ^ 60) :
    d.reciprocal = .ok (one.quotient d) ∧ (one.quotient d).Within (3 * k + 101) := by
  have hone : one.Within k := within_one.mono h₁
  refine ⟨?_, hone.quotient h⟩
  unfold Decimal.reciprocal
  rw [hone.quotient? h hk]
  rfl

/-- The change between two prices and its part in percent can be published. -/
theorem Within.changeFigures (ha : a.Within k) (hb : b.Within k) (h₁ : 2 < k) (hk : k < 2 ^ 50) :
    ∃ p, changeFigures a b = .ok p := by
  have hchange : (b - a).Within (3 * k + 1) := hb.sub ha
  have hlarge : a.Within (3 * k + 1) := ha.mono (by omega)
  have hpart : ((b - a).quotient a).Within (9 * k + 104) :=
    (hchange.quotient hlarge).mono (by omega)
  have hundred : (ofInt 100).Within (9 * k + 104) :=
    ⟨Nat.lt_of_lt_of_le (by decide : (100 : Nat) < 10 ^ 3)
      (Nat.pow_le_pow_right (by decide) (by omega)), Nat.zero_le _⟩
  unfold SwapMarket.changeFigures
  simp only [hchange.quotient? hlarge (by omega), Run.inRange, Run.ok_bind,
    hchange.figure (by omega), (hpart.mul hundred).figure (by omega)]
  exact ⟨_, rfl⟩

/-! ## Lengths of published texts -/

/-- The text of a count of tenth-place units has little more characters than the count has
digits. -/
theorem length_tickText_le {t : Int} (h : t.natAbs < 10 ^ (k + 1)) :
    (tickText t).length ≤ k + 13 := by
  have hw : (wholeDigits t).length ≤ k + 1 :=
    (Nat.length_toDigits_le_iff (by decide) (Nat.succ_pos k)).2
      (Nat.lt_of_le_of_lt (Nat.div_le_self _ _) h)
  have hs : (signChars t).length ≤ 1 := by
    unfold signChars
    split
    · exact Nat.le_refl 1
    · exact Nat.zero_le 1
  have hf : (fractionDigits t).length = 10 := length_fractionDigits t
  rw [← String.length_toList, toList_tickText, List.length_append, List.length_append,
    List.length_cons, hf]
  omega

/-- Rounding away places makes no number greater by more than one. -/
theorem dropPlaces_le (n p : Nat) : dropPlaces n p ≤ n + 1 := by
  unfold dropPlaces
  split
  · exact Nat.zero_le _
  · have hq : n / 10 ^ p ≤ n := Nat.div_le_self _ _
    unfold roundHalfEven
    simp only [Nat.pow_eq]
    split
    · omega
    · split
      · omega
      · have := Nat.mod_lt (n / 10 ^ p) (by decide : 0 < 2)
        omega

/-- A decimal within some places counts not many more units of the tenth one. -/
theorem natAbs_ticks_lt (h : d.Within k) : d.ticks.natAbs < 10 ^ (2 * k + 10 + 1) := by
  have hp := h.places
  unfold ticks
  split
  · have hc := natAbs_coefficientAt_lt (j := k + 10) (s := Decimal.places) h.digits
      (by show (10 : Int) ≤ d.scale + (k + 10 : Nat); omega)
    exact Nat.lt_of_lt_of_le hc (Nat.pow_le_pow_right (by decide) (by omega))
  · rw [Int.natAbs_mul, Int.natAbs_natCast]
    have hsign : d.coefficient.sign.natAbs ≤ 1 := by
      rcases Int.lt_trichotomy d.coefficient 0 with hlt | heq | hgt
      · rw [Int.sign_eq_neg_one_of_neg hlt]
        decide
      · rw [heq]
        decide
      · rw [Int.sign_eq_one_of_pos hgt]
        decide
    have hround := dropPlaces_le d.coefficient.natAbs (d.scale - Decimal.places).toNat
    have hd := h.digits
    have hle : 10 ^ k * 10 ≤ 10 ^ (2 * k + 10 + 1) := by
      rw [← Nat.pow_succ]
      exact Nat.pow_le_pow_right (by decide) (by omega)
    have hmul : d.coefficient.sign.natAbs
        * dropPlaces d.coefficient.natAbs (d.scale - Decimal.places).toNat
        ≤ 1 * (d.coefficient.natAbs + 1) := Nat.mul_le_mul hsign hround
    omega

/-- The published text of a decimal within some places is not much longer than twice as many. -/
theorem Within.length_published (h : d.Within k) : d.published.length ≤ 2 * k + 23 :=
  length_tickText_le (natAbs_ticks_lt h)

end SwapMarket.Decimal
