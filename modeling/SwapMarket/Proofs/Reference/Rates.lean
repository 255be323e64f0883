import SwapMarket.Proofs.Binary64.Shortest
import SwapMarket.Proofs.Decimal.Canonical
import SwapMarket.Proofs.Decimal.Quotient
import SwapMarket.Proofs.Json.Sorted
import SwapMarket.Proofs.Market.ProjectedBook
import SwapMarket.Reference.Rates

/-!
# Rates against the dollar

An answer names the worth of currencies in a base of its own. Whatever it lists for the base itself,
or for the dollar if that is the base, the base counts as one (**`Rates.quotedRate`**). The
published rate of each currency is what is quoted for it, divided by what is quoted for the dollar,
in ten-place form (**`Rates.IsRebased`**).

The division keeps a hundred digits. That is more than any published rate shows as long as the
quotient is below `10 ^ 68`; a larger one is off by one part in `10 ^ 99` at most, which can be seen
in its ten-place form (`rates_rebased_unless_long`). Main statement: **`rates_rebased`**.

Whether rates are fresh is found out if 64 bits hold their age (`checkFresh_eq`).
-/

namespace SwapMarket

open Decimal (IsTenPlaceForm isTenPlaceForm_published IsRounded)

namespace Decimal

variable {a b d : Decimal}

/-- A value is zero exactly if the decimal is. -/
theorem value_ne_zero_iff : d.value ≠ 0 ↔ d.isZero = false := by
  unfold isZero
  rw [beq_eq_false_iff_ne]
  refine ⟨fun h h0 => h (value_eq_zero h0), fun h => ?_⟩
  rcases Int.lt_or_gt_of_ne h with h | h
  · exact (value_lt_zero h).ne
  · exact (value_pos h).ne'

end Decimal

namespace Rates

variable {base code : String} {rates : Table Number} {x u : ℚ} {s : String}

/-! ## What is quoted and what is published -/

/-- What an answer quotes for a currency: one for its base, whatever it lists for it. -/
def quotedRate (base : String) (rates : Table Number) (code : String) : Option Decimal :=
  if code = dollar then some (dollarRate base rates)
  else if code = base then some .one
  else (rates.find? code).map Number.decimal

/-- The currencies of the published rates are those that are listed, the base and the dollar. -/
theorem quotedRate_isSome_iff : (quotedRate base rates code).isSome = true ↔
    code ∈ rates.keys ∨ code = base ∨ code = dollar := by
  rw [Table.mem_keys]
  unfold quotedRate
  split
  · next h => simp [h]
  · split
    · next h => simp [h]
    · next hd hb => simp [hd, hb, Option.isSome_iff_exists]

/-- The published rate of the dollar is one, and that of another currency the quotient of what is
quoted. -/
theorem find?_rebase (base : String) (dollars : Decimal) (rates : Table Number) (code : String) :
    (rebase base dollars rates).find? code = if code = dollar then some Decimal.one.published
      else (quotedRate base rates code).map fun d => (d.quotient dollars).published := by
  unfold rebase quotedRate
  rw [Table.find?_insert]
  split
  · rfl
  · rw [Table.find?_insert]
    split
    · rfl
    · rw [Table.find?_map, Option.map_map]
      rfl

/-- Rebased rates are of the same currencies, of the base, and of the dollar. -/
theorem mem_keys_rebase {dollars : Decimal} : code ∈ (rebase base dollars rates).keys ↔
    code ∈ rates.keys ∨ code = base ∨ code = dollar := by
  rw [Table.mem_keys, find?_rebase, ← quotedRate_isSome_iff]
  split
  · next h => exact iff_of_true ⟨_, rfl⟩ (quotedRate_isSome_iff.2 (.inr (.inr h)))
  · rw [← Option.isSome_iff_exists, Option.isSome_map]

/-- The base has the rate one. -/
theorem quotedRate_base (h : base ≠ dollar) : quotedRate base rates base = some .one := by
  unfold quotedRate
  rw [if_neg h, if_pos rfl]

/-- Any other currency has the rate that is quoted. -/
theorem quotedRate_of_find? {n : Number} (hn : rates.find? code = some n) (hbase : code ≠ base)
    (hdollar : code ≠ dollar) : quotedRate base rates code = some n.decimal := by
  unfold quotedRate
  rw [if_neg hdollar, if_neg hbase, hn]
  rfl

/-- The rates against a base that is the dollar are published as they are. -/
theorem find?_rebase_dollar {n : Number} (hn : rates.find? code = some n) (hcode : code ≠ dollar) :
    (rebase dollar (dollarRate dollar rates) rates).find? code = some n.decimal.published := by
  have hone : dollarRate dollar rates = .one := if_pos rfl
  have hsame : n.decimal.quotient .one = n.decimal := if_pos (Bool.or_true _)
  rw [find?_rebase, if_neg hcode, quotedRate_of_find? hn hcode hcode, Option.map_some, hone, hsame]

/-- A text is the ten-place form of a rate over that of the dollar. The rate is exact if it is not
very large, and else off by one part in `10 ^ 99` at most. -/
structure IsRebased (x u : ℚ) (s : String) : Prop where
  /-- A rate that is not very large is exact. -/
  exact : |x / u| < 10 ^ 68 → IsTenPlaceForm (x / u) s
  /-- Any rate is almost exact. -/
  near : ∃ q : ℚ, |q - x / u| ≤ |x / u| / 10 ^ 99 ∧ IsTenPlaceForm q s

/-- A decimal of twenty digits at most. -/
def IsShort (d : Decimal) : Prop := |(d.coefficient : ℚ)| ≤ 10 ^ 20

/-- The published quotient of two short decimals is rebased as it should be. -/
theorem isRebased_quotient {d e : Decimal} (hd : IsShort d) (he : IsShort e)
    (hne : e.isZero = false) : IsRebased d.value e.value (d.quotient e).published := by
  have hne : e.coefficient ≠ 0 := beq_eq_false_iff_ne.1 hne
  exact ⟨fun hx => ⟨_, rfl, Decimal.isRounded_quotient hne hd he hx⟩,
    (d.quotient e).value, (Decimal.isCut_quotient d hne).abs_sub_le, isTenPlaceForm_published _⟩

/-- Rates that are quoted in numbers of the format are short. -/
theorem isShort_quotedRate (h : ∀ c n, rates.find? c = some n → n.FitsJson) {d : Decimal}
    (hd : quotedRate base rates code = some d) : IsShort d := by
  have hone : IsShort .one := by
    unfold IsShort Decimal.one Decimal.ofInt
    norm_num
  have hnumber : ∀ c n, rates.find? c = some n → IsShort n.decimal := fun c n hn =>
    Number.abs_coefficient_decimal_le (h c n hn)
  unfold quotedRate at hd
  split at hd
  · obtain rfl := Option.some.inj hd
    unfold dollarRate
    split
    · exact hone
    · cases hf : rates.find? dollar with
      | none =>
        show IsShort .zero
        unfold IsShort Decimal.zero
        norm_num
      | some n => exact hnumber _ n hf
  · split at hd
    · obtain rfl := Option.some.inj hd
      exact hone
    · obtain ⟨n, hn, rfl⟩ := Option.map_eq_some_iff.1 hd
      exact hnumber _ n hn

/-! ## Answers -/

section Answers

variable {a : RatesAnswer} {r : Rates}

/-- The base of an answer. -/
def baseOf (a : RatesAnswer) : String := a.base.getD euro

/-- Rates are made of an answer that is one of success, has a time and rates, and quotes something
for the dollar. -/
theorem ofAnswer_ok_iff : ofAnswer a = .ok r ↔ a.success = true ∧ ∃ timestamp rates,
    a.timestamp = some timestamp ∧ a.rates = some rates ∧
      (dollarRate (baseOf a) rates).isZero = false ∧ r = ⟨timestamp, a.date.getD "", dollar,
        rebase (baseOf a) (dollarRate (baseOf a) rates) rates⟩ := by
  unfold ofAnswer baseOf
  cases hs : a.success with
  | false => cases a.error <;> simp
  | true =>
    cases ht : a.timestamp with
    | none => simp
    | some timestamp =>
      cases hr : a.rates with
      | none => simp
      | some rates =>
        cases hz : (dollarRate (a.base.getD euro) rates).isZero with
        | true => simp [hz]
        | false =>
          simp only [hz, Bool.not_true, Bool.false_eq_true, if_false, Except.ok.injEq, true_and,
            Option.some.injEq]
          constructor
          · rintro rfl
            exact ⟨timestamp, rates, rfl, rfl, hz, rfl⟩
          · rintro ⟨_, _, rfl, rfl, -, rfl⟩
            rfl

/-- A rate of the dollar that is not zero is a quoted one. -/
theorem exists_of_dollarRate (hz : (dollarRate base rates).isZero = false) (h : base ≠ dollar) :
    ∃ n, rates.find? dollar = some n ∧ (dollarRate base rates).value = n.decimal.value := by
  unfold dollarRate at hz ⊢
  rw [if_neg h] at hz ⊢
  cases hf : rates.find? dollar with
  | none =>
    rw [hf] at hz
    exact absurd hz (by decide)
  | some n => exact ⟨n, rfl, rfl⟩

/-- Something other than zero is quoted for the dollar if it is the base, or has such a rate. -/
theorem dollarRate_isZero_iff : (dollarRate base rates).isZero = false ↔
    base = dollar ∨ ∃ n, rates.find? dollar = some n ∧ n.decimal.value ≠ 0 := by
  unfold dollarRate
  split
  · next h => exact iff_of_true rfl (.inl h)
  · next h =>
    cases rates.find? dollar with
    | none => simp [h]
    | some n => simp [h, Decimal.value_ne_zero_iff]

/-- Rates are made of an answer of success with a time, and with rates that quote the dollar. -/
theorem exists_ofAnswer_iff : (∃ r, ofAnswer a = .ok r) ↔
    a.success = true ∧ a.timestamp.isSome = true ∧ ∃ rates, a.rates = some rates ∧
      (baseOf a = dollar ∨ ∃ n, rates.find? dollar = some n ∧ n.decimal.value ≠ 0) := by
  simp only [ofAnswer_ok_iff, dollarRate_isZero_iff, Option.isSome_iff_exists]
  constructor
  · rintro ⟨r, hs, timestamp, rates, ht, hrates, hdollar, -⟩
    exact ⟨hs, ⟨timestamp, ht⟩, rates, hrates, hdollar⟩
  · rintro ⟨hs, ⟨timestamp, ht⟩, rates, hrates, hdollar⟩
    exact ⟨_, hs, timestamp, rates, ht, hrates, hdollar, rfl⟩

end Answers

/-- Two rates that were divided by the same one are in the proportion of before, but for what each
of the quotients is off. -/
theorem abs_cross_le {y e f : ℚ} {m n : ℤ} (hm : |m - x / u * 10 ^ 10| ≤ e)
    (hn : |n - y / u * 10 ^ 10| ≤ f) : |m * y - n * x| ≤ e * |y| + f * |x| := by
  have hsplit : m * y - n * x
      = (m - x / u * 10 ^ 10) * y - (n - y / u * 10 ^ 10) * x := by ring
  rw [hsplit]
  calc |(m - x / u * 10 ^ 10) * y - (n - y / u * 10 ^ 10) * x|
      ≤ |(m - x / u * 10 ^ 10) * y| + |(n - y / u * 10 ^ 10) * x| := abs_sub _ _
    _ = |(m : ℚ) - x / u * 10 ^ 10| * |y| + |(n : ℚ) - y / u * 10 ^ 10| * |x| := by
        rw [abs_mul, abs_mul]
    _ ≤ e * |y| + f * |x| := by gcongr

/-- The units of the tenth place of a rate, and how far they are off. -/
theorem IsRebased.exists_units (h : IsRebased x u s) : ∃ m : ℤ, s = Decimal.tickText m ∧
    |m - x / u * 10 ^ 10| ≤ 1 / 2 + |x / u| / 10 ^ 89 ∧
    (|x / u| < 10 ^ 68 → |m - x / u * 10 ^ 10| ≤ 1 / 2) := by
  obtain ⟨q, hq, m, rfl, hm⟩ := h.near
  refine ⟨m, rfl, ?_, fun hx => ?_⟩
  · have hplace : |q * 10 ^ 10 - x / u * 10 ^ 10| ≤ |x / u| / 10 ^ 89 := by
      rw [← sub_mul, abs_mul, abs_of_pos (by positivity : (0 : ℚ) < 10 ^ 10)]
      calc |q - x / u| * 10 ^ 10 ≤ |x / u| / 10 ^ 99 * 10 ^ 10 := by gcongr
        _ = |x / u| / 10 ^ 89 := by ring
    calc |m - x / u * 10 ^ 10| ≤ |m - q * 10 ^ 10| + |q * 10 ^ 10 - x / u * 10 ^ 10| :=
          abs_sub_le _ _ _
      _ ≤ 1 / 2 + |x / u| / 10 ^ 89 := add_le_add hm.near hplace
  · obtain ⟨n, hn, hround⟩ := h.exact hx
    rw [Decimal.tickText_inj.1 hn]
    exact hround.near

/-- The proportion of two rates. -/
theorem IsRebased.exists_cross {y : ℚ} {t : String} (hx : IsRebased x u s)
    (hy : IsRebased y u t) : ∃ m n : ℤ, s = Decimal.tickText m ∧ t = Decimal.tickText n ∧
    |m * y - n * x| ≤ (|x| + |y|) / 2 + 2 * |x * y / u| / 10 ^ 89 ∧
    (|x / u| < 10 ^ 68 → |y / u| < 10 ^ 68 → |m * y - n * x| ≤ (|x| + |y|) / 2) := by
  obtain ⟨m, hm, hmle, hmexact⟩ := hx.exists_units
  obtain ⟨n, hn, hnle, hnexact⟩ := hy.exists_units
  refine ⟨m, n, hm, hn, ?_, fun hxs hys => ?_⟩
  · calc |m * y - n * x|
        ≤ (1 / 2 + |x / u| / 10 ^ 89) * |y| + (1 / 2 + |y / u| / 10 ^ 89) * |x| :=
          abs_cross_le hmle hnle
      _ = (|x| + |y|) / 2 + 2 * |x * y / u| / 10 ^ 89 := by
        rw [abs_div, abs_div, abs_div, abs_mul]
        ring
  · calc |m * y - n * x| ≤ 1 / 2 * |y| + 1 / 2 * |x| :=
          abs_cross_le (hmexact hxs) (hnexact hys)
      _ = (|x| + |y|) / 2 := by ring

/-- What is quoted for a currency in an answer, and what is published for it. -/
theorem isRebased_of_quoted (h : ∀ c n, rates.find? c = some n → n.FitsJson)
    (hz : (dollarRate base rates).isZero = false) {d : Decimal}
    (hd : quotedRate base rates code = some d) :
    ∃ s, (rebase base (dollarRate base rates) rates).find? code = some s ∧
      IsRebased d.value (dollarRate base rates).value s := by
  have hdollar : IsShort (dollarRate base rates) := isShort_quotedRate h (if_pos rfl)
  rw [find?_rebase]
  split
  · next hcode =>
    refine ⟨_, rfl, ?_⟩
    have hsame : dollarRate base rates = d := by
      unfold quotedRate at hd
      rw [if_pos hcode] at hd
      exact Option.some.inj hd
    have hself : d.value / d.value = Decimal.one.value := by
      rw [div_self (Decimal.value_ne_zero_iff.2 (hsame ▸ hz))]
      exact (Decimal.value_of_isWrittenOne rfl).symm
    rw [hsame]
    refine ⟨fun _ => ?_, Decimal.one.value, ?_, isTenPlaceForm_published _⟩
    · rw [hself]
      exact isTenPlaceForm_published _
    · rw [hself, sub_self, abs_zero]
      positivity
  · rw [hd]
    exact ⟨_, rfl, isRebased_quotient (isShort_quotedRate h hd) hdollar hz⟩

/-! ## The age of rates -/

/-- Rates are found to be fresh, or stale, if and only if 64 bits hold their age. -/
theorem checkFresh_eq (r : Rates) (now maxAge : Int) : r.checkFresh now maxAge =
    if Json.FitsInt64 (now - r.timestamp) then
      if maxAge < now - r.timestamp then Run.fail .stale else .ok ()
    else .error .overflow := by
  unfold checkFresh
  by_cases h : Json.FitsInt64 (now - r.timestamp)
  · have hage : Run.int64 (now - r.timestamp) = .ok (now - r.timestamp) := if_pos h
    rw [hage, if_pos h]
    rfl
  · have hage : Run.int64 (now - r.timestamp) = .error .overflow := if_neg h
    rw [hage, if_neg h]
    rfl

end Rates

open Rates

/-- Rates are made of an answer if and only if it is one of success, has a time and rates, and its
base is the dollar or it has a rate other than zero for it.

* They are against the dollar, of the time of the answer, and for the currencies that the answer
  lists, its base and the dollar.
* The dollar has the rate one, the base the inverse of the rate of the dollar, and any other
  currency its rate over that of the dollar, in ten-place form. A quotient of `10 ^ 68` or more is
  off by one part in `10 ^ 99` at most before it is rounded.
* If the base is the dollar, rates are only rounded, however large they are.
* The published rates of two currencies, the base and the dollar included, are in the proportion of
  what is quoted for them, but for half a unit of the tenth place of each, and for the digits that
  very large quotients lack. -/
theorem rates_rebased (a : RatesAnswer)
    (ha : ∀ rates c n, a.rates = some rates → rates.find? c = some n → n.FitsJson) :
    ((∃ r, ofAnswer a = .ok r) ↔ a.success = true ∧ a.timestamp.isSome = true ∧
      ∃ rates, a.rates = some rates ∧ (baseOf a = "USD" ∨
        ∃ n, rates.find? "USD" = some n ∧ n.decimal.value ≠ 0)) ∧
    ∀ r rates, ofAnswer a = .ok r → a.rates = some rates →
      let u := (dollarRate (baseOf a) rates).value
      (baseOf a = "USD" → u = 1) ∧
      (baseOf a ≠ "USD" → ∃ n, rates.find? "USD" = some n ∧ u = n.decimal.value) ∧
      r.base = "USD" ∧ a.timestamp = some r.timestamp ∧
      (∀ c, c ∈ r.rates.keys ↔ c ∈ rates.keys ∨ c = baseOf a ∨ c = "USD") ∧
      r.rates.find? "USD" = some "1.0000000000" ∧
      (baseOf a ≠ "USD" → ∃ s, r.rates.find? (baseOf a) = some s ∧ IsRebased 1 u s) ∧
      (∀ c n, rates.find? c = some n → c ≠ baseOf a → c ≠ "USD" →
        ∃ s, r.rates.find? c = some s ∧ IsRebased n.decimal.value u s ∧
          (baseOf a = "USD" → IsTenPlaceForm n.decimal.value s)) ∧
      ∀ c d x y, quotedRate (baseOf a) rates c = some x → quotedRate (baseOf a) rates d = some y →
        ∃ m n : ℤ, r.rates.find? c = some (Decimal.tickText m) ∧
          r.rates.find? d = some (Decimal.tickText n) ∧
          |m * y.value - n * x.value|
            ≤ (|x.value| + |y.value|) / 2 + 2 * |x.value * y.value / u| / 10 ^ 89 ∧
          (|x.value / u| < 10 ^ 68 → |y.value / u| < 10 ^ 68 →
            |m * y.value - n * x.value| ≤ (|x.value| + |y.value|) / 2) := by
  refine ⟨exists_ofAnswer_iff, ?_⟩
  intro r rates hr hrates
  obtain ⟨-, timestamp, rates', ht, hrates', hz, rfl⟩ := ofAnswer_ok_iff.1 hr
  obtain rfl : rates' = rates := Option.some.inj (hrates'.symm.trans hrates)
  have hfits : ∀ c n, rates'.find? c = some n → n.FitsJson := fun c n => ha rates' c n hrates
  have hquoted {c : String} {d : Decimal} (hd : quotedRate (baseOf a) rates' c = some d) :=
    isRebased_of_quoted hfits hz hd
  have hone : Decimal.one.value = 1 := Decimal.value_of_isWrittenOne rfl
  refine ⟨?_, exists_of_dollarRate hz, rfl, ht, fun c => mem_keys_rebase, ?_, ?_, ?_, ?_⟩
  · intro hbase
    rw [hbase]
    exact hone
  · rw [find?_rebase]
    rfl
  · intro hbase
    rw [← hone]
    exact hquoted (quotedRate_base hbase)
  · intro c n hn hbase hc
    obtain ⟨s, hs, h⟩ := hquoted (quotedRate_of_find? hn hbase hc)
    refine ⟨s, hs, h, ?_⟩
    intro hdollar
    rw [hdollar] at hs
    obtain rfl := Option.some.inj (hs.symm.trans (find?_rebase_dollar hn hc))
    exact isTenPlaceForm_published _
  · intro c d x y hx hy
    obtain ⟨s, hs, hxr⟩ := hquoted hx
    obtain ⟨t, ht, hyr⟩ := hquoted hy
    obtain ⟨m, n, rfl, rfl, hcross⟩ := hxr.exists_cross hyr
    exact ⟨m, n, hs, ht, hcross⟩

/-! ## Two answers against the euro -/

namespace Rates

/-- Rates against the euro, the euro among them. -/
def euroRates : Table Number := .ofList [("EUR", .int 7), ("GBP", .int 3), ("USD", .int 2)]

/-- An answer that names no base. -/
def againstEuro : RatesAnswer := ⟨true, some 1700000000, none, none, some euroRates, none⟩

/-- All rates are numbers of the format. -/
theorem fitsJson_euroRates {c : String} {n : Number} (h : euroRates.find? c = some n) :
    n.FitsJson := by
  have hall : ∀ e ∈ euroRates.entries, e.2 = .int 7 ∨ e.2 = .int 3 ∨ e.2 = .int 2 := by decide
  rcases hall _ (Table.find?_eq_some_iff.1 h) with h | h | h <;>
  · obtain rfl : n = _ := h
    unfold Number.FitsJson
    norm_num

/-- Three dollars for a euro, and `10 ^ 300` of another currency. -/
def wideRates : Table Number :=
  .ofList [("USD", .int 3), ("X", .real ⟨false, 0x17e43c8800759c, 944⟩)]

end Rates

/-- Rates against the euro become rates against the dollar. -/
theorem rates_rebased_againstEuro :
    (∀ rates c n, againstEuro.rates = some rates → rates.find? c = some n → n.FitsJson) ∧
    ∃ r, ofAnswer againstEuro = .ok r ∧ r.rates.find? "USD" = some "1.0000000000" ∧
      r.rates.find? "EUR" = some "0.5000000000" ∧ r.rates.find? "GBP" = some "1.5000000000" := by
  have hfits : ∀ rates c n, againstEuro.rates = some rates → rates.find? c = some n →
      n.FitsJson := fun rates c n hrates hn =>
    fitsJson_euroRates (Option.some.inj hrates ▸ hn)
  have hu : (dollarRate (baseOf againstEuro) euroRates).value = 2 := by
    have htwo : dollarRate (baseOf againstEuro) euroRates = ⟨2, 0⟩ := by decide
    rw [htwo]
    norm_num [Decimal.value]
  obtain ⟨hiff, hrates⟩ := rates_rebased againstEuro hfits
  obtain ⟨r, hr⟩ := hiff.2 ⟨rfl, rfl, euroRates, rfl, .inr ⟨.int 2, by decide, by
    rw [Decimal.value_ne_zero_iff]
    rfl⟩⟩
  obtain ⟨-, -, -, -, -, hdollar, hbase, hother, -⟩ := hrates r euroRates hr rfl
  obtain ⟨s, hs, heuro⟩ := hbase (by decide)
  obtain ⟨t, ht, hpound, -⟩ := hother "GBP" (.int 3) (by decide) (by decide) (by decide)
  have hthree : (Number.int 3).decimal.value = 3 := Decimal.value_ofInt 3
  have hhalf : IsTenPlaceForm (1 / 2) "0.5000000000" := by
    have hvalue : (⟨5, 1⟩ : Decimal).value = 1 / 2 := by norm_num [Decimal.value]
    exact hvalue ▸ isTenPlaceForm_published ⟨5, 1⟩
  have hmore : IsTenPlaceForm (3 / 2) "1.5000000000" := by
    have hvalue : (⟨15, 1⟩ : Decimal).value = 3 / 2 := by norm_num [Decimal.value]
    exact hvalue ▸ isTenPlaceForm_published ⟨15, 1⟩
  rw [hu] at heuro
  rw [hu, hthree] at hpound
  obtain rfl := (heuro.exact (by norm_num [abs_of_pos])).unique hhalf
  obtain rfl := (hpound.exact (by norm_num [abs_of_pos])).unique hmore
  exact ⟨hfits, r, hr, hdollar, hs, ht⟩

/-- A quotient of more than a hundred digits does not show those that follow. -/
theorem rates_rebased_unless_long : ∃ r s, ofAnswer ⟨true, some 1, some "EUR", none, some wideRates,
      none⟩ = .ok r ∧ (∃ n, wideRates.find? "X" = some n ∧ n.decimal.value = 10 ^ 300) ∧
    (∃ n, wideRates.find? "USD" = some n ∧ n.decimal.value = 3) ∧
    r.rates.find? "X" = some s ∧ ¬ IsTenPlaceForm (10 ^ 300 / 3) s := by
  have hlarge : (Number.real ⟨false, 0x17e43c8800759c, 944⟩).decimal = ⟨1, -300⟩ := by
    decide +kernel
  have hthree : (Number.int 3).decimal.value = 3 := Decimal.value_ofInt 3
  have hquotient : (⟨1, -300⟩ : Decimal).quotient ⟨3, 0⟩ = ⟨(10 ^ 100 - 1) / 3, -200⟩ := by
    decide +kernel
  have hticks : (⟨(10 ^ 100 - 1) / 3, -200⟩ : Decimal).ticks = (10 ^ 100 - 1) / 3 * 10 ^ 210 := by
    decide +kernel
  have hdollars : dollarRate "EUR" wideRates = ⟨3, 0⟩ := rfl
  have hx : (rebase "EUR" (dollarRate "EUR" wideRates) wideRates).find? "X"
      = some (Decimal.tickText ((10 ^ 100 - 1) / 3 * 10 ^ 210)) := by
    rw [find?_rebase, if_neg (by decide),
      quotedRate_of_find? (n := .real ⟨false, 0x17e43c8800759c, 944⟩) rfl (by decide) (by decide),
      Option.map_some, hdollars, hlarge, hquotient, ← hticks]
    rfl
  refine ⟨_, _, ofAnswer_ok_iff.2 ⟨rfl, _, _, rfl, rfl, rfl, rfl⟩,
    ⟨_, rfl, ?_⟩, ⟨_, rfl, hthree⟩, hx, ?_⟩
  · rw [hlarge]
    norm_num [Decimal.value]
  · rintro ⟨m, hm, hround⟩
    obtain rfl := Decimal.tickText_inj.1 hm
    have hsplit : (10 : ℚ) ^ 300 = 10 ^ 100 * 10 ^ 200 := by rw [← pow_add]
    have hnear := (abs_le.1 hround.near).1
    rw [hsplit] at hnear
    norm_num at hnear

end SwapMarket
