import SwapMarket.Proofs.Decimal.Published
import SwapMarket.Proofs.Decimal.Rounding

/-!
# The published form is canonical

A text **`IsTenPlace`** if it is a number in plain notation: an optional minus sign, whole digits of
which the first is a zero only if it is the only one, a point and ten digits, and a sign only before
a number other than zero. These are the published texts, each of them the form of one count of
tenth-place units (`isPublished_iff_isTenPlace`), because digits of the same length are known by the
number that they are the digits of (`ofDigitChars_inj`).

A text is refused only where it would be longer than any text can be
(`published?_eq_some_or_long`).

Main statement: `published_canonical`.
-/

namespace SwapMarket.Decimal

/-! ## Digits and their number -/

section Digits

variable {cs ds : List Char}

/-- The value of a digit that comes first. -/
theorem ofDigitChars_cons_eq (c : Char) (cs : List Char) :
    Nat.ofDigitChars 10 (c :: cs) 0
      = 10 ^ cs.length * (c.toNat - '0'.toNat) + Nat.ofDigitChars 10 cs 0 := by
  rw [Nat.ofDigitChars_cons, Nat.ofDigitChars_eq_ofDigitChars_zero, Nat.mul_zero, Nat.zero_add]

/-- The number of a digit is next to that of zero. -/
theorem toNat_of_isDigit {c : Char} (h : c.isDigit = true) :
    '0'.toNat ≤ c.toNat ∧ c.toNat < '0'.toNat + 10 := by
  rw [Char.isDigit, Bool.and_eq_true, decide_eq_true_iff, decide_eq_true_iff] at h
  have hb : 48 ≤ c.toNat ∧ c.toNat ≤ 57 := h
  have h0 : '0'.toNat = 48 := rfl
  omega

/-- A number has no more digits than are written. -/
theorem ofDigitChars_lt (h : ∀ c ∈ cs, c.isDigit = true) :
    Nat.ofDigitChars 10 cs 0 < 10 ^ cs.length := by
  induction cs with
  | nil => exact Nat.one_pos
  | cons c cs ih =>
    obtain ⟨hc, hcs⟩ := List.forall_mem_cons.1 h
    obtain ⟨-, hlt⟩ := toNat_of_isDigit hc
    rw [ofDigitChars_cons_eq, List.length_cons, Nat.pow_succ]
    calc 10 ^ cs.length * (c.toNat - '0'.toNat) + Nat.ofDigitChars 10 cs 0
        < 10 ^ cs.length * (c.toNat - '0'.toNat) + 10 ^ cs.length := Nat.add_lt_add_left (ih hcs) _
      _ = 10 ^ cs.length * (c.toNat - '0'.toNat + 1) := (Nat.mul_succ _ _).symm
      _ ≤ 10 ^ cs.length * 10 := Nat.mul_le_mul_left _ (by omega)

/-- Digits of one length are known by their number. -/
theorem ofDigitChars_inj (hc : ∀ c ∈ cs, c.isDigit = true) (hd : ∀ d ∈ ds, d.isDigit = true)
    (hl : cs.length = ds.length)
    (h : Nat.ofDigitChars 10 cs 0 = Nat.ofDigitChars 10 ds 0) : cs = ds := by
  induction cs generalizing ds with
  | nil => exact (List.length_eq_zero_iff.1 hl.symm).symm
  | cons c cs ih =>
    obtain ⟨d, ds, rfl⟩ := List.exists_cons_of_length_eq_add_one hl.symm
    obtain ⟨hc, hcs⟩ := List.forall_mem_cons.1 hc
    obtain ⟨hd, hds⟩ := List.forall_mem_cons.1 hd
    have hl : cs.length = ds.length := Nat.succ.inj hl
    have hrest := ofDigitChars_lt hcs
    have hrest' := ofDigitChars_lt hds
    rw [ofDigitChars_cons_eq, ofDigitChars_cons_eq, hl] at h
    rw [hl] at hrest
    -- The first digit is the quotient by the power of ten, and the others are the rest.
    have hpow : 0 < 10 ^ ds.length := Nat.pow_pos (by decide)
    have hfirst : c.toNat - '0'.toNat = d.toNat - '0'.toNat := by
      have := congrArg (· / 10 ^ ds.length) h
      simpa only [Nat.mul_add_div hpow, Nat.div_eq_of_lt hrest, Nat.div_eq_of_lt hrest',
        Nat.add_zero] using this
    have hsame : c = d := by
      have h₁ := toNat_of_isDigit hc
      have h₂ := toNat_of_isDigit hd
      exact Char.toNat_inj.1 (by omega)
    rw [hfirst] at h
    rw [hsame, ih hcs hds hl (Nat.add_left_cancel h)]

/-- Only zeros are the digits of zero. -/
theorem eq_zero_of_ofDigitChars (hc : ∀ c ∈ cs, c.isDigit = true)
    (h : Nat.ofDigitChars 10 cs 0 = 0) : ∀ c ∈ cs, c = '0' := by
  have hzeros : cs = List.replicate cs.length '0' := by
    refine ofDigitChars_inj hc ?_ (List.length_replicate).symm ?_
    · intro d hd
      rw [List.eq_of_mem_replicate hd]
      rfl
    · rw [h, Nat.ofDigitChars_replicate_zero, Nat.mul_zero]
  intro c hc
  rw [hzeros] at hc
  exact List.eq_of_mem_replicate hc

/-- A number other than zero is not written with a zero in front. -/
theorem head?_toDigits_ne {n : Nat} (h : 0 < n) : (Nat.toDigits 10 n).head? ≠ some '0' := by
  intro hzero
  obtain ⟨cs, hcs⟩ := List.head?_eq_some_iff.1 hzero
  have hn : Nat.ofDigitChars 10 cs 0 = n := by
    rw [← Nat.ofDigitChars_ten_toDigits (n := n), hcs, ofDigitChars_cons_eq, Nat.sub_self,
      Nat.mul_zero, Nat.zero_add]
  have hdigits : ∀ c ∈ cs, c.isDigit = true := fun c hc =>
    isDigit_of_mem_toDigits (n := n) (hcs ▸ List.mem_cons_of_mem _ hc)
  have hlt := ofDigitChars_lt hdigits
  rw [hn] at hlt
  -- The number has one digit less, so it would be written with one digit less.
  have hpos : 0 < cs.length := by
    rcases Nat.eq_zero_or_pos cs.length with h0 | h0
    · rw [h0, Nat.pow_zero] at hlt
      omega
    · exact h0
  have hle := (Nat.length_toDigits_le_iff (by decide) hpos).2 hlt
  rw [hcs, List.length_cons] at hle
  omega

/-- Digits without a zero to spare are those that their number is written with. -/
theorem toDigits_ofDigitChars (hne : cs ≠ []) (hc : ∀ c ∈ cs, c.isDigit = true)
    (hz : cs = ['0'] ∨ cs.head? ≠ some '0') :
    Nat.toDigits 10 (Nat.ofDigitChars 10 cs 0) = cs := by
  rcases hz with rfl | hz
  · rfl
  have hlen : (Nat.toDigits 10 (Nat.ofDigitChars 10 cs 0)).length = cs.length := by
    refine Nat.le_antisymm ?_ ?_
    · exact (Nat.length_toDigits_le_iff (by decide) (List.length_pos_iff.2 hne)).2
        (ofDigitChars_lt hc)
    · obtain ⟨c, ds, rfl⟩ := List.exists_cons_of_ne_nil hne
      have hfirst : 0 < c.toNat - '0'.toNat := by
        have hd := toNat_of_isDigit (hc c List.mem_cons_self)
        have hne : c.toNat ≠ '0'.toNat := fun h => hz (by rw [Char.toNat_inj.1 h]; rfl)
        omega
      have hlow : 10 ^ ds.length ≤ Nat.ofDigitChars 10 (c :: ds) 0 := by
        rw [ofDigitChars_cons_eq]
        exact Nat.le_add_right_of_le (Nat.le_mul_of_pos_right _ hfirst)
      by_contra hlt
      rw [List.length_cons, Nat.not_le, Nat.lt_succ_iff] at hlt
      have hpos := Nat.lt_of_lt_of_le Nat.length_toDigits_pos hlt
      have := (Nat.length_toDigits_le_iff (by decide) hpos).1 hlt
      omega
  exact ofDigitChars_inj (fun c h => isDigit_of_mem_toDigits h) hc hlen
    Nat.ofDigitChars_ten_toDigits

/-- Digits that fill their places are what their number is written as. -/
theorem padded_ofDigitChars (hne : cs ≠ []) (hc : ∀ c ∈ cs, c.isDigit = true) :
    padded cs.length (Nat.ofDigitChars 10 cs 0) = cs := by
  have hpos := List.length_pos_iff.2 hne
  refine ofDigitChars_inj (fun c h => isDigit_of_mem_padded h) hc
    (length_padded hpos (ofDigitChars_lt hc)) ?_
  rw [ofDigitChars_padded hpos (ofDigitChars_lt hc), Nat.mul_zero, Nat.zero_add]

end Digits

/-! ## Texts with ten places -/

/-- The parts of a number in plain notation with ten places. -/
structure TenPlaceParts (negative : Bool) (whole fraction : List Char) : Prop where
  /-- There are whole digits. -/
  nonempty : whole ≠ []
  /-- They are digits. -/
  whole_digits : ∀ c ∈ whole, c.isDigit = true
  /-- The first of them is a zero only if it is the only one. -/
  no_spare_zero : whole = ['0'] ∨ whole.head? ≠ some '0'
  /-- Ten places follow the point. -/
  length : fraction.length = 10
  /-- They are digits. -/
  fraction_digits : ∀ c ∈ fraction, c.isDigit = true
  /-- Zero has no sign. -/
  signed : negative = true → ∃ c ∈ whole ++ fraction, c ≠ '0'

/-- A text is a number in plain notation with ten places. -/
def IsTenPlace (s : String) : Prop :=
  ∃ negative whole fraction, TenPlaceParts negative whole fraction ∧
    s.toList = (if negative then ['-'] else []) ++ whole ++ '.' :: fraction

/-- What a count of units is written as has the form of ten places. -/
theorem isTenPlace_tickText (t : Int) : IsTenPlace (tickText t) := by
  refine ⟨decide (t < 0), wholeDigits t, fractionDigits t, ⟨Nat.toDigits_ne_nil,
    fun c h => isDigit_of_mem_toDigits h, ?_, length_fractionDigits t,
    fun c h => isDigit_of_mem_padded h, ?_⟩, ?_⟩
  · rcases Nat.eq_zero_or_pos (t.natAbs / 10 ^ places) with h | h
    · refine .inl ?_
      unfold wholeDigits
      rw [h]
      rfl
    · exact .inr (head?_toDigits_ne h)
  · intro ht
    by_contra hzero
    have hzeros : wholeDigits t ++ fractionDigits t
        = List.replicate (wholeDigits t ++ fractionDigits t).length '0' :=
      List.eq_replicate_iff.2 ⟨rfl, fun c hc => by_contra fun hne => hzero ⟨c, hc, hne⟩⟩
    have hnat := ofDigitChars_digits t
    rw [hzeros, Nat.ofDigitChars_replicate_zero, Nat.mul_zero] at hnat
    have := of_decide_eq_true ht
    omega
  · rw [toList_tickText]
    unfold signChars
    simp only [decide_eq_true_eq]

/-- A number in plain notation with ten places is written as its count of tenth-place units is. -/
theorem exists_tickText_of_isTenPlace {s : String} (h : IsTenPlace s) : ∃ t, tickText t = s := by
  obtain ⟨negative, whole, fraction, hp, hs⟩ := h
  have hfne : fraction ≠ [] := by
    intro h
    have := hp.length
    rw [h] at this
    cases this
  have hrest : Nat.ofDigitChars 10 fraction 0 < 10 ^ places := by
    have := ofDigitChars_lt hp.fraction_digits
    rwa [hp.length] at this
  have hm : Nat.ofDigitChars 10 (whole ++ fraction) 0
      = 10 ^ places * Nat.ofDigitChars 10 whole 0 + Nat.ofDigitChars 10 fraction 0 := by
    rw [Nat.ofDigitChars_append, Nat.ofDigitChars_eq_ofDigitChars_zero, hp.length]
    rfl
  generalize hn : Nat.ofDigitChars 10 (whole ++ fraction) 0 = m at hm
  have hten : 0 < 10 ^ places := Nat.pow_pos (by decide)
  have hwhole : Nat.toDigits 10 (m / 10 ^ places) = whole := by
    rw [hm, Nat.mul_add_div hten, Nat.div_eq_of_lt hrest, Nat.add_zero]
    exact toDigits_ofDigitChars hp.nonempty hp.whole_digits hp.no_spare_zero
  have hfraction : padded places (m % 10 ^ places) = fraction := by
    rw [hm, Nat.mul_add_mod, Nat.mod_eq_of_lt hrest]
    have := padded_ofDigitChars hfne hp.fraction_digits
    rwa [hp.length] at this
  have hdigits : ∀ c ∈ whole ++ fraction, c.isDigit = true := by
    intro c hc
    rcases List.mem_append.1 hc with hc | hc
    · exact hp.whole_digits c hc
    · exact hp.fraction_digits c hc
  have hpos : negative = true → 0 < m := by
    intro hneg
    obtain ⟨c, hc, hne⟩ := hp.signed hneg
    refine Nat.pos_of_ne_zero fun h0 => hne ?_
    exact eq_zero_of_ofDigitChars hdigits (hn.trans h0) c hc
  refine ⟨if negative then -m else m, String.toList_inj.1 ?_⟩
  rw [toList_tickText, hs]
  have habs : (if negative then -(m : Int) else m).natAbs = m := by
    split
    · rw [Int.natAbs_neg, Int.natAbs_natCast]
    · rw [Int.natAbs_natCast]
  have hsign : signChars (if negative then -(m : Int) else m)
      = if negative then ['-'] else [] := by
    unfold signChars
    cases negative with
    | true =>
      have := hpos rfl
      rw [if_pos (by simp only [if_true]; omega), if_pos rfl]
    | false => rw [if_neg (by simp only [Bool.false_eq_true, if_false]; omega), if_neg (by simp)]
  unfold wholeDigits fractionDigits
  rw [habs, hsign, hwhole, hfraction]

/-- The published texts are the numbers in plain notation with ten places. -/
theorem isPublished_iff_isTenPlace {s : String} : IsPublished s ↔ IsTenPlace s := by
  constructor
  · rintro ⟨d, rfl⟩
    exact isTenPlace_tickText d.ticks
  · intro h
    obtain ⟨t, rfl⟩ := exists_tickText_of_isTenPlace h
    refine ⟨⟨t, places⟩, ?_⟩
    unfold published
    rw [ticks_tenths]

/-! ## Texts that are too long -/

/-- A text is refused only if it would have more than `2 ^ 63` characters. -/
theorem published?_eq_some_or_long (d : Decimal) :
    d.published? = some d.published ∨ 2 ^ 63 < d.published.length := by
  unfold published?
  split
  · exact .inl rfl
  · next h =>
    refine .inr ?_
    simp only [Bool.or_eq_true, decide_eq_true_eq, not_or, Bool.not_eq_true, isZero,
      beq_eq_false_iff_ne, holdsScale, Text.Bounds.holds, Bool.and_eq_false_iff,
      decide_eq_false_iff_not] at h
    obtain ⟨⟨hzero, hrange⟩, hscale⟩ := h
    have hbound : (2 : Int) ^ 63 ≤ places - d.scale := by
      have hlow : (Text.Bounds.signed 64).low = -2 ^ 63 := rfl
      have hhigh : (Text.Bounds.signed 64).high = 2 ^ 63 - 1 := rfl
      omega
    have hticks : 10 ^ (places - d.scale).toNat ≤ d.ticks.natAbs := by
      unfold ticks coefficientAt
      rw [if_pos (by omega), if_neg hzero, Int.natAbs_mul, Int.natAbs_natCast]
      exact Nat.le_mul_of_pos_left _ (Int.natAbs_pos.2 hzero)
    have hlt : 10 ^ (places - d.scale).toNat < 10 ^ d.published.length :=
      Nat.lt_of_le_of_lt hticks (natAbs_lt_of_tickText d.ticks)
    have := (Nat.pow_lt_pow_iff_right (by decide : 1 < 10)).1 hlt
    omega

/-! ## Rounding and reading back -/

/-- A number is another one rounded to ten places, a half to the even neighbour. -/
def IsTenths (x r : ℚ) : Prop := ∃ n : ℤ, r * 10 ^ 10 = n ∧ IsRounded (x * 10 ^ 10) n

/-- The rounded value is a tenth-place number next to the value, a half at the even one. -/
theorem isTenths_ticks (x : Decimal) : IsTenths x.value (⟨x.ticks, places⟩ : Decimal).value :=
  ⟨x.ticks, value_tenths x.ticks, isRounded_ticks x⟩

/-- It is off by half a unit of the tenth place at most. -/
theorem IsTenths.near {x r : ℚ} (h : IsTenths x r) : |r - x| ≤ 5 / 10 ^ 11 := by
  obtain ⟨n, hn, hround⟩ := h
  have hnear := hround.near
  rw [← hn, ← sub_mul, abs_mul, abs_of_pos (by positivity : (0 : ℚ) < 10 ^ 10)] at hnear
  rw [le_div_iff₀ (by positivity)]
  linarith

/-- A count of tenth-place units is known by its value. -/
theorem value_tenths_inj {t u : Int} :
    (⟨t, places⟩ : Decimal).value = (⟨u, places⟩ : Decimal).value ↔ t = u := by
  constructor
  · intro h
    have hunits : (t : ℚ) = u := by rw [← value_tenths t, ← value_tenths u, h]
    exact_mod_cast hunits
  · rintro rfl
    rfl

/-- More units are a greater value. -/
theorem value_tenths_le {t u : Int} (h : t ≤ u) :
    (⟨t, places⟩ : Decimal).value ≤ (⟨u, places⟩ : Decimal).value := by
  have hunits : (t : ℚ) ≤ u := by exact_mod_cast h
  rw [← value_tenths t, ← value_tenths u] at hunits
  exact le_of_mul_le_mul_right hunits (by positivity)

/-- The published texts are the numbers in plain notation with ten places. Each number has one,
unless it would have more than `2 ^ 63` characters; it is read as the number rounded to ten places,
a half to the even neighbour, and what is read has the same text again. Numbers are compared by
their values, those that are in order are read back in order, and two of them have the same text
exactly if they are rounded to the same. -/
theorem published_canonical :
    (∀ s, IsPublished s ↔ IsTenPlace s) ∧
    (∀ x : Decimal, IsTenPlace x.published ∧
      (x.published? = some x.published ∨ 2 ^ 63 < x.published.length) ∧
      ∃ r, read x.published = .ok r ∧ IsTenths x.value r.value ∧
        |r.value - x.value| ≤ 5 / 10 ^ 11 ∧ r.published? = some x.published) ∧
    (∀ x y : Decimal, y.below x = false ↔ x.value ≤ y.value) ∧
    ∀ x y r s : Decimal, read x.published = .ok r → read y.published = .ok s →
      (x.value ≤ y.value → r.value ≤ s.value) ∧
        (x.published = y.published ↔ r.value = s.value) := by
  refine ⟨fun s => isPublished_iff_isTenPlace, ?_, ?_, ?_⟩
  · intro x
    refine ⟨isTenPlace_tickText x.ticks, published?_eq_some_or_long x, _, read_published x,
      isTenths_ticks x, (isTenths_ticks x).near, ?_⟩
    have hscale : decide ((places : Int) ≤ places) = true := decide_eq_true le_rfl
    unfold published? published
    rw [ticks_tenths, hscale, Bool.or_true]
    rfl
  · intro x y
    rw [Bool.eq_false_iff, ne_eq, below_iff, not_lt]
  · intro x y r s hr hs
    obtain rfl : ⟨x.ticks, places⟩ = r := Except.ok.inj ((read_published x).symm.trans hr)
    obtain rfl : ⟨y.ticks, places⟩ = s := Except.ok.inj ((read_published y).symm.trans hs)
    constructor
    · intro h
      exact value_tenths_le (ticks_le_ticks h)
    · unfold published
      rw [tickText_inj, value_tenths_inj]

/-- A half goes to the even neighbour on either side, and what is rounded to zero has no sign. -/
theorem published_canonical_halves :
    read (⟨-25, 11⟩ : Decimal).published = .ok ⟨-2, 10⟩ ∧
    read (⟨-15, 11⟩ : Decimal).published = .ok ⟨-2, 10⟩ ∧
    (⟨-25, 11⟩ : Decimal).value ≤ (⟨-15, 11⟩ : Decimal).value ∧
    (⟨-2, 10⟩ : Decimal).value ≤ (⟨-2, 10⟩ : Decimal).value ∧
    (⟨-25, 11⟩ : Decimal).published = (⟨-15, 11⟩ : Decimal).published ∧
    (⟨-5, 11⟩ : Decimal).published = "0.0000000000" := by
  have h₁ : read (⟨-25, 11⟩ : Decimal).published = .ok ⟨-2, 10⟩ := read_published ⟨-25, 11⟩
  have h₂ : read (⟨-15, 11⟩ : Decimal).published = .ok ⟨-2, 10⟩ := read_published ⟨-15, 11⟩
  obtain ⟨-, -, hvalues, hkept⟩ := published_canonical
  have horder := (hvalues ⟨-25, 11⟩ ⟨-15, 11⟩).1 (by decide)
  obtain ⟨hle, hsame⟩ := hkept _ _ _ _ h₁ h₂
  exact ⟨h₁, h₂, horder, hle horder, hsame.2 rfl, by decide⟩

end SwapMarket.Decimal
