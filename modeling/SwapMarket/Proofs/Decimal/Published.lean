import SwapMarket.Decimal.Reader
import SwapMarket.Decimal.TenPlaces
import Mathlib.Algebra.Ring.Nat

/-!
# Published decimals are read back

The published form of a decimal has its sign, its whole digits, a point and ten digits. Reading it
gives the count of tenth-place units that was written, at scale ten (**`read_tickText`**). So a text
that is **`IsPublished`** is a decimal whatever was rounded to make it, and publishing what was read
of it gives the text again.

The text is read in the parts in which `tickText` writes it: there is no exponent, the only point is
the one before the last ten digits, and the digits before and after it are those of quotient and
remainder.
-/

namespace SwapMarket.Decimal

/-- A text is published if it is the published form of some decimal. -/
def IsPublished (s : String) : Prop := ∃ d : Decimal, d.published = s

/-- A count of tenth-place units is itself at scale ten. -/
@[simp] theorem ticks_tenths (t : Int) : (⟨t, places⟩ : Decimal).ticks = t := by
  unfold ticks
  rw [if_pos (Int.le_refl _)]
  exact coefficientAt_scale ⟨t, places⟩

/-- What is published is a published text. -/
theorem isPublished_published (d : Decimal) : IsPublished d.published := ⟨d, rfl⟩

theorem isPublished_zero : IsPublished publishedZero := isPublished_published zero

/-! ## Digits -/

/-- A number is written in digits. -/
theorem isDigit_of_mem_toDigits {n : Nat} {c : Char} (h : c ∈ Nat.toDigits 10 n) :
    c.isDigit = true := Nat.isDigit_of_mem_toDigits (by decide) (by decide) h

theorem isDigit_of_mem_padded {w n : Nat} {c : Char} (h : c ∈ padded w n) : c.isDigit = true := by
  unfold padded at h
  rcases List.mem_append.1 h with h | h
  · rw [List.eq_of_mem_replicate h]
    rfl
  · exact isDigit_of_mem_toDigits h

/-- A number below a power of ten is padded to as many digits. -/
theorem length_padded {w n : Nat} (hw : 0 < w) (hn : n < 10 ^ w) : (padded w n).length = w := by
  have hl : (Nat.toDigits 10 n).length ≤ w := (Nat.length_toDigits_le_iff (by decide) hw).2 hn
  unfold padded
  rw [List.length_append, List.length_replicate]
  omega

/-- Padded digits that follow others count as many places. -/
theorem ofDigitChars_padded {w n : Nat} (hw : 0 < w) (hn : n < 10 ^ w) (m : Nat) :
    Nat.ofDigitChars 10 (padded w n) m = 10 ^ w * m + n := by
  have hz : Nat.ofDigitChars 10 (padded w n) 0 = n := by
    unfold padded
    rw [Nat.ofDigitChars_append, Nat.ofDigitChars_replicate_zero, Nat.mul_zero]
    exact Nat.ofDigitChars_ten_toDigits
  rw [Nat.ofDigitChars_eq_ofDigitChars_zero, hz, length_padded hw hn]

/-- The value of a digit. -/
theorem digitValue_of_isDigit {c : Char} (h : c.isDigit = true) :
    Text.digitValue 10 c = some (c.toNat - '0'.toNat) := by
  have hb : 48 ≤ c.toNat ∧ c.toNat ≤ 57 := by
    rw [Char.isDigit, Bool.and_eq_true, decide_eq_true_iff, decide_eq_true_iff] at h
    exact h
  have h0 : '0'.toNat = 48 := rfl
  unfold Text.digitValue
  rw [h0]
  simp only [hb.1, hb.2, decide_true, Bool.and_self, if_true]
  rw [if_pos (by omega)]

/-- Digits are read as the number that they are the digits of. -/
theorem readDigitsFrom_of_isDigit {cs : List Char} (h : ∀ c ∈ cs, c.isDigit = true) (n : Nat) :
    readDigitsFrom n cs = .ok (Nat.ofDigitChars 10 cs n) := by
  induction cs generalizing n with
  | nil => rfl
  | cons c cs ih =>
    obtain ⟨hc, hcs⟩ := List.forall_mem_cons.1 h
    have hu : c ≠ '_' := by
      rintro rfl
      cases hc
    rw [readDigitsFrom, if_neg hu, digitValue_of_isDigit hc]
    show readDigitsFrom (n * 10 + (c.toNat - '0'.toNat)) cs = _
    rw [ih hcs, Nat.ofDigitChars_cons, Nat.mul_comm]

/-- Digits are read as the number that they are. -/
theorem readUnsigned_of_isDigit {cs : List Char} (hne : cs ≠ [])
    (h : ∀ c ∈ cs, c.isDigit = true) : readUnsigned cs = .ok (Nat.ofDigitChars 10 cs 0) := by
  cases cs with
  | nil => exact absurd rfl hne
  | cons c cs =>
    have hc := h c List.mem_cons_self
    have hp : c ≠ '+' := by
      rintro rfl
      cases hc
    have hu : c ≠ '_' := by
      rintro rfl
      cases hc
    have hr : readUnsigned (c :: cs) = readDigits (c :: cs) := by
      unfold readUnsigned
      split
      · next e => exact absurd (List.cons.inj e).1 hp
      · next e => exact absurd (List.cons.inj e).1 hp
      · rfl
    rw [hr]
    unfold readDigits
    split
    · next e => cases e
    · next e => exact absurd (List.cons.inj e).1 hu
    · exact readDigitsFrom_of_isDigit h 0

/-- The sign that a number is written with. -/
def signChars (t : Int) : List Char := if t < 0 then ['-'] else []

/-- Digits after the sign of a number are read as their value with this sign. -/
theorem readCoefficient_signChars {t : Int} {cs : List Char} (hne : cs ≠ [])
    (h : ∀ c ∈ cs, c.isDigit = true) (hv : Nat.ofDigitChars 10 cs 0 = t.natAbs) :
    readCoefficient (signChars t ++ cs) = .ok t := by
  have hr : readUnsigned cs = .ok t.natAbs := by
    rw [readUnsigned_of_isDigit hne h, hv]
  obtain ⟨c, ds, rfl⟩ := List.exists_cons_of_ne_nil hne
  have hc := h c List.mem_cons_self
  unfold signChars
  split
  · next ht =>
    have hp : c ≠ '+' := by
      rintro rfl
      cases hc
    have hm : readCoefficient ('-' :: c :: ds)
        = (readUnsigned (c :: ds)).map fun n => -Int.ofNat n := by
      rw [readCoefficient.eq_2]
      intro _ e
      exact absurd (List.cons.inj e).1 hp
    have ha : -Int.ofNat t.natAbs = t := by
      show -(t.natAbs : Int) = t
      omega
    rw [List.singleton_append, hm, hr]
    show Except.ok (-Int.ofNat t.natAbs) = _
    rw [ha]
  · next ht =>
    have hm : c ≠ '-' := by
      rintro rfl
      cases hc
    have hp : readCoefficient (c :: ds) = (readUnsigned (c :: ds)).map Int.ofNat := by
      unfold readCoefficient
      split
      · next e => exact absurd (List.cons.inj e).1 hm
      · next e => exact absurd (List.cons.inj e).1 hm
      · rfl
    have ha : Int.ofNat t.natAbs = t := by
      show (t.natAbs : Int) = t
      omega
    rw [List.nil_append, hp, hr]
    show Except.ok (Int.ofNat t.natAbs) = _
    rw [ha]

/-! ## The parts of a published text -/

/-- A text without an exponent is all base. -/
theorem cutExponent_eq {cs : List Char} (h : ∀ c ∈ cs, c ≠ 'e' ∧ c ≠ 'E') :
    cutExponent cs = (cs, none) := by
  induction cs with
  | nil => rfl
  | cons c cs ih =>
    obtain ⟨hc, hcs⟩ := List.forall_mem_cons.1 h
    rw [cutExponent, if_neg (not_or.2 hc), ih hcs]

/-- The point of a base is the one after which only digits follow. -/
theorem cutPoint_eq {whole fraction : List Char} (hw : '.' ∉ whole)
    (hf : ∀ c ∈ fraction, c.isDigit = true) :
    cutPoint (whole ++ '.' :: fraction) = (whole ++ fraction, fraction.length) := by
  have hcut : Text.cutChars '.' (whole ++ '.' :: fraction) = some (whole, fraction) :=
    Text.cutChars_eq_some_iff.2 ⟨rfl, hw⟩
  have hfilter : fraction.filter (· ≠ '_') = fraction := by
    refine List.filter_eq_self.2 fun c hc => ?_
    refine decide_eq_true ?_
    rintro rfl
    cases hf _ hc
  unfold cutPoint
  rw [hcut]
  simp only [hfilter]

/-- The whole digits that a count of tenth-place units is written with. -/
def wholeDigits (t : Int) : List Char := Nat.toDigits 10 (t.natAbs / 10 ^ places)

/-- The ten digits after the point. -/
def fractionDigits (t : Int) : List Char := padded places (t.natAbs % 10 ^ places)

/-- A count of units is written as a sign, whole digits, a point and ten more digits. -/
theorem toList_tickText (t : Int) :
    (tickText t).toList = signChars t ++ wholeDigits t ++ '.' :: fractionDigits t :=
  String.toList_ofList

/-- On both sides of the point there are digits. -/
theorem isDigit_of_mem_digits {t : Int} {c : Char} (h : c ∈ wholeDigits t ++ fractionDigits t) :
    c.isDigit = true := by
  rcases List.mem_append.1 h with h | h
  · exact isDigit_of_mem_toDigits h
  · exact isDigit_of_mem_padded h

/-- After the point there are ten of them. -/
theorem length_fractionDigits (t : Int) : (fractionDigits t).length = places :=
  length_padded (by decide) (Nat.mod_lt _ (by decide))

/-- The digits before and after the point, in a row, are those of the count. -/
theorem ofDigitChars_digits (t : Int) :
    Nat.ofDigitChars 10 (wholeDigits t ++ fractionDigits t) 0 = t.natAbs := by
  have hw : Nat.ofDigitChars 10 (wholeDigits t) 0 = t.natAbs / 10 ^ places :=
    Nat.ofDigitChars_ten_toDigits
  rw [Nat.ofDigitChars_append, hw]
  unfold fractionDigits
  rw [ofDigitChars_padded (by decide) (Nat.mod_lt _ (by decide))]
  exact Nat.div_add_mod _ _

/-- A character of a published text is a digit, a minus sign or a point. -/
theorem mem_tickText {t : Int} {c : Char} (h : c ∈ (tickText t).toList) :
    c = '-' ∨ c = '.' ∨ c.isDigit = true := by
  rw [toList_tickText, List.append_assoc] at h
  rcases List.mem_append.1 h with h | h
  · refine .inl ?_
    unfold signChars at h
    split at h
    · exact List.mem_singleton.1 h
    · cases h
  · rcases List.mem_append.1 h with h | h
    · exact .inr (.inr (isDigit_of_mem_toDigits h))
    · rcases List.mem_cons.1 h with h | h
      · exact .inr (.inl h)
      · exact .inr (.inr (isDigit_of_mem_padded h))

/-- What is neither a digit nor a minus sign nor a point is not in a published text. -/
theorem ne_of_mem_tickText {t : Int} {c d : Char} (h : c ∈ (tickText t).toList)
    (hd : d.isDigit = false) (hm : d ≠ '-') (hp : d ≠ '.') : c ≠ d := by
  rintro rfl
  rcases mem_tickText h with h | h | h
  · exact hm h
  · exact hp h
  · rw [hd] at h
    cases h

/-- No blank is written. -/
theorem isBlank_of_mem_tickText {t : Int} {c : Char} (h : c ∈ (tickText t).toList) :
    Text.isBlank c = false := by
  rcases mem_tickText h with rfl | rfl | h
  · rfl
  · rfl
  · have hb : 48 ≤ c.toNat ∧ c.toNat ≤ 57 := by
      rw [Char.isDigit, Bool.and_eq_true, decide_eq_true_iff, decide_eq_true_iff] at h
      exact h
    simp only [Text.isBlank, Bool.or_eq_false_iff, Bool.and_eq_false_iff, decide_eq_false_iff_not,
      beq_eq_false_iff_ne]
    omega

/-- Something is written. -/
theorem toList_tickText_ne_nil (t : Int) : (tickText t).toList ≠ [] := by
  rw [toList_tickText]
  simp

/-! ## Reading -/

/-- A count of units is read back, without being trimmed. -/
theorem parse_tickText (t : Int) : parse (tickText t) = .ok ⟨t, places⟩ := by
  have hexp : cutExponent (tickText t).toList = ((tickText t).toList, none) :=
    cutExponent_eq fun c hc =>
      ⟨ne_of_mem_tickText hc rfl (by decide) (by decide),
        ne_of_mem_tickText hc rfl (by decide) (by decide)⟩
  have hdot : '.' ∉ signChars t ++ wholeDigits t := by
    intro h
    rcases List.mem_append.1 h with h | h
    · unfold signChars at h
      split at h
      · cases List.mem_singleton.1 h
      · cases h
    · cases isDigit_of_mem_toDigits h
  have hdigits : ∀ c ∈ fractionDigits t, c.isDigit = true := fun c hc => isDigit_of_mem_padded hc
  have hpoint : cutPoint (tickText t).toList
      = (signChars t ++ (wholeDigits t ++ fractionDigits t), places) := by
    rw [toList_tickText, cutPoint_eq hdot hdigits, length_fractionDigits, List.append_assoc]
  have hne : wholeDigits t ++ fractionDigits t ≠ [] := by
    intro h
    exact Nat.toDigits_ne_nil (List.append_eq_nil_iff.1 h).1
  have hread : readCoefficient (signChars t ++ (wholeDigits t ++ fractionDigits t)) = .ok t :=
    readCoefficient_signChars hne (fun c hc => isDigit_of_mem_digits hc) (ofDigitChars_digits t)
  unfold parse
  rw [hexp]
  simp only [readExponent, toList_tickText_ne_nil, if_false, hpoint, hread]
  rfl

/-- A published text is read as the count that was written, at scale ten. -/
theorem read_tickText (t : Int) : read (tickText t) = .ok ⟨t, places⟩ := by
  have htrim : Text.trim (tickText t) = tickText t := by
    unfold Text.trim
    rw [Text.trimChars_eq_self, String.ofList_toList]
    · intro c hc
      exact isBlank_of_mem_tickText (List.mem_of_head? hc)
    · intro c hc
      exact isBlank_of_mem_tickText (List.mem_of_getLast? hc)
  have hne : tickText t ≠ "" := by
    intro h
    refine toList_tickText_ne_nil t ?_
    rw [h]
    rfl
  unfold read
  rw [htrim, if_neg hne, parse_tickText]

/-- A count of tenth-place units is known by its text. -/
theorem tickText_inj {t u : Int} : tickText t = tickText u ↔ t = u := by
  constructor
  · intro h
    have hread := read_tickText t
    rw [h, read_tickText u] at hread
    exact (congrArg coefficient (Except.ok.inj hread)).symm
  · rintro rfl
    rfl

/-- What was published is read as the rounded value, and published as the same text again. -/
theorem read_published (d : Decimal) : read d.published = .ok ⟨d.ticks, places⟩ :=
  read_tickText d.ticks

/-- A published text is read as a count of units, of which it is the text. -/
theorem IsPublished.read {s : String} (h : IsPublished s) :
    ∃ t : Int, Decimal.read s = .ok ⟨t, places⟩ ∧ tickText t = s := by
  obtain ⟨d, rfl⟩ := h
  exact ⟨d.ticks, read_published d, rfl⟩

/-- A count of tenth-place units has no more digits than its text has characters. -/
theorem natAbs_lt_of_tickText (t : Int) : t.natAbs < 10 ^ (tickText t).length := by
  have hl : (wholeDigits t ++ fractionDigits t).length ≤ (tickText t).length := by
    rw [← String.length_toList, toList_tickText]
    simp only [List.length_append, List.length_cons]
    omega
  have hw : t.natAbs / 10 ^ places < 10 ^ (wholeDigits t).length :=
    (Nat.length_toDigits_le_iff (by decide)
      (List.length_pos_iff.2 Nat.toDigits_ne_nil)).1 (Nat.le_refl _)
  have hm : t.natAbs < 10 ^ ((wholeDigits t).length + places) := by
    rw [Nat.pow_add]
    exact (Nat.div_lt_iff_lt_mul (by decide)).1 hw
  rw [List.length_append, length_fractionDigits] at hl
  exact Nat.lt_of_lt_of_le hm (Nat.pow_le_pow_right (by decide) hl)

end SwapMarket.Decimal
