import SwapMarket.Proofs.Decimal.InverseOrder
import SwapMarket.Proofs.Market.PriceRange

/-!
# When inverse prices are in order

The prices of a record are inverted one by one, and the highest and the lowest change places. Since
inverses are in the opposite order (`Decimal.inverseUnits_le`), the prices of the inverse are in
order again, unless the lowest price is stored as zero: then the inverse has zero as its highest
price. It is in order only if the other prices vanish, too (**`Vanishes`**), being zero or so high
that their inverses are rounded to zero (`DayPrices.isOrdered_inverse_iff`).

Main statement: `inverse_prices_ordered`. A market with a price that is stored as zero and one that
is not is served out of order from the other side (`inverse_prices_ordered_unless_zero`).
-/

namespace SwapMarket

open Decimal (places publishedZero)

variable {c : Catalogue} {ss : List Swap} {b q : String}

/-- A price is zero from the other side: it is zero, or so high that its inverse is rounded to
zero. -/
def Vanishes (s : String) : Prop :=
  ∃ d, Decimal.read s = .ok d ∧ (d.value = 0 ∨ 2 * 10 ^ 10 ≤ d.value)

/-- A decimal is published as zero exactly if it rounds to zero. -/
theorem published_eq_zero_iff {d : Decimal} : d.published = publishedZero ↔ d.ticks = 0 :=
  Decimal.tickText_inj

/-- A price vanishes if its inverse is rounded to zero. -/
theorem vanishes_published_iff {d : Decimal} (h : 0 ≤ d.value) :
    Vanishes d.published ↔ Decimal.inverseUnits d.ticks = 0 := by
  have hunits : Vanishes d.published ↔ d.ticks = 0 ∨ 2 * 10 ^ 20 ≤ d.ticks := by
    unfold Vanishes
    rw [Decimal.read_published]
    simp only [Except.ok.injEq, exists_eq_left']
    have hscale : (2 * 10 ^ 10 * 10 ^ 10 : ℚ) = ((2 * 10 ^ 20 : ℤ) : ℚ) := by norm_num
    have hten : (10 ^ 10 : ℚ) ≠ 0 := by norm_num
    rw [Decimal.value_places, div_eq_zero_iff, or_iff_left hten, Int.cast_eq_zero,
      le_div_iff₀ (by positivity), hscale, Int.cast_le]
  rw [hunits, Decimal.inverseUnits_eq_zero_iff (Decimal.ticks_nonneg h)]

/-- A positive price is stored as zero if it is no more than half a unit of the last place. -/
theorem published_eq_zero_iff_le {d : Decimal} (h : 0 < d.value) :
    d.published = publishedZero ↔ d.value ≤ 5 / 10 ^ 11 := by
  rw [published_eq_zero_iff]
  constructor
  · intro hzero
    have hnear := d.ticks_near
    rw [hzero, Int.cast_zero, zero_sub, abs_neg, abs_of_pos (by positivity)] at hnear
    rw [le_div_iff₀ (by positivity)]
    linarith
  · intro hle
    have hhalf : Decimal.IsRounded (1 / 2) 0 := .of_even (by norm_num [abs_of_pos]) Even.zero
    have hunits : d.value * 10 ^ 10 ≤ 1 / 2 := by
      rw [le_div_iff₀ (by positivity)] at hle
      linarith
    exact le_antisymm ((Decimal.isRounded_ticks d).le_of_le hhalf hunits)
      (Decimal.ticks_nonneg h.le)

namespace DayPrices

/-- The units in which the prices of a record and of its inverse are counted. -/
theorem units_of_inverse {a : Aggregate} {o n : Trade} {r i : DayPrices}
    (ha : Aggregate.ofSwaps ss b q = .ok a) (hends : a.HasEnds o n)
    (h : ofSwaps c b q ss = .ok r) (hi : r.inverse = .ok i) :
    i.highestPrice = Decimal.tickText (Decimal.inverseUnits a.lowestPrice.ticks) ∧
      (i.IsOrdered ↔
        (Decimal.inverseUnits a.highestPrice.ticks ≤ Decimal.inverseUnits o.price.ticks ∧
          Decimal.inverseUnits a.highestPrice.ticks ≤ Decimal.inverseUnits n.price.ticks) ∧
        Decimal.inverseUnits o.price.ticks ≤ Decimal.inverseUnits a.lowestPrice.ticks ∧
          Decimal.inverseUnits n.price.ticks ≤ Decimal.inverseUnits a.lowestPrice.ticks) := by
  obtain ⟨e₁, e₂, e₃, e₄⟩ := prices_of_ofSwaps ha hends.oldest hends.newest h
  obtain ⟨i₁, i₂, i₃, i₄⟩ := prices_of_inverse hi
  rw [e₁] at i₁
  rw [e₂] at i₂
  rw [e₄] at i₃
  rw [e₃] at i₄
  have k₁ := reciprocalFigure_published i₁
  have k₂ := reciprocalFigure_published i₂
  have k₃ := reciprocalFigure_published i₃
  have k₄ := reciprocalFigure_published i₄
  have hiff : i.IsOrdered ↔ (ReadsAtMost i.lowestPrice i.oldestPrice ∧
      ReadsAtMost i.lowestPrice i.newestPrice) ∧ ReadsAtMost i.oldestPrice i.highestPrice ∧
        ReadsAtMost i.newestPrice i.highestPrice :=
    ⟨fun h => ⟨⟨h.1, h.2⟩, h.3, h.4⟩, fun h => ⟨h.1.1, h.1.2, h.2.1, h.2.2⟩⟩
  refine ⟨k₃, ?_⟩
  rw [hiff, k₁, k₂, k₃, k₄]
  simp only [readsAtMost_published_iff]
  rfl

/-- The prices of an inverse are in order if the lowest price is not stored as zero; if it is, they
are in order only if all of them vanish. -/
theorem isOrdered_inverse_iff (hs : ∃ s ∈ ss, s.feeds b q = true) {r i : DayPrices}
    (h : ofSwaps c b q ss = .ok r) (hi : r.inverse = .ok i) :
    (r.lowestPrice ≠ publishedZero → i.IsOrdered) ∧
      (r.lowestPrice = publishedZero → i.highestPrice = publishedZero ∧
        (i.IsOrdered ↔
          ∀ p ∈ [r.oldestPrice, r.newestPrice, r.highestPrice], Vanishes p)) := by
  obtain ⟨a, ha, -⟩ := Run.bind_ok_iff.1 h
  obtain ⟨o, n, hends⟩ := Aggregate.exists_hasEnds ha hs
  obtain ⟨hopos, hnpos, hlpos⟩ := hends.pos
  obtain ⟨e₁, e₂, e₃, e₄⟩ := prices_of_ofSwaps ha hends.oldest hends.newest h
  obtain ⟨hhighest, hordered⟩ := units_of_inverse ha hends h hi
  have hlo := Decimal.ticks_le_ticks hends.lowest.1
  have hln := Decimal.ticks_le_ticks hends.lowest.2
  have hoh := Decimal.ticks_le_ticks hends.highest.1
  have hnh := Decimal.ticks_le_ticks hends.highest.2
  have ho₀ : 0 ≤ o.price.value := (Decimal.value_pos hopos).le
  have hh₀ : 0 ≤ a.highestPrice.value := ho₀.trans hends.highest.1
  rw [e₄, Ne, published_eq_zero_iff, hordered]
  refine ⟨fun hne => ?_, fun hzero => ⟨?_, ?_⟩⟩
  · have hl : 0 < a.lowestPrice.ticks :=
      lt_of_le_of_ne (Decimal.ticks_nonneg hlpos.le) (Ne.symm hne)
    exact ⟨⟨Decimal.inverseUnits_le (hl.trans_le hlo) hoh,
      Decimal.inverseUnits_le (hl.trans_le hln) hnh⟩,
      Decimal.inverseUnits_le hl hlo, Decimal.inverseUnits_le hl hln⟩
  · rw [hhighest, hzero]
    decide +kernel
  · have hnone : Decimal.inverseUnits 0 = 0 := by decide +kernel
    have hoi := Decimal.inverseUnits_nonneg (Decimal.ticks_nonneg ho₀)
    have hni := Decimal.inverseUnits_nonneg (Decimal.ticks_nonneg hnpos.le)
    have hhi := Decimal.inverseUnits_nonneg (Decimal.ticks_nonneg hh₀)
    simp only [List.forall_mem_cons, List.not_mem_nil, false_imp_iff, implies_true, and_true]
    rw [hzero, hnone, e₁, e₂, e₃, vanishes_published_iff ho₀, vanishes_published_iff hnpos.le,
      vanishes_published_iff hh₀]
    omega

end DayPrices

/-- **Inverse prices** of a market with trades are in order whenever its lowest price is not stored
as zero, that is, whenever it is more than half a unit of the last place, however far the prices are
apart. If it is stored as zero, the inverse has zero as its highest price, and is in order exactly
if the other prices vanish, too. The inverse is found if the figures of the record are short, as
those of amounts and dollar prices that can be written are. -/
theorem inverse_prices_ordered (c : Catalogue) (b q : String) (ss : List Swap)
    (hs : ∃ s ∈ ss, s.feeds b q = true) :
    (∀ r i, DayPrices.ofSwaps c b q ss = .ok r → r.inverse = .ok i →
      (r.lowestPrice ≠ publishedZero → i.IsOrdered) ∧
      (r.lowestPrice = publishedZero → i.highestPrice = publishedZero ∧
        (i.IsOrdered ↔
          ∀ p ∈ [r.oldestPrice, r.newestPrice, r.highestPrice], Vanishes p))) ∧
      (∀ a r, Aggregate.ofSwaps ss b q = .ok a → DayPrices.ofSwaps c b q ss = .ok r →
        (r.lowestPrice = publishedZero ↔ a.lowestPrice.value ≤ 5 / 10 ^ 11)) ∧
      (∀ r, DayPrices.ofSwaps c b q ss = .ok r → IsShort r → ∃ i, r.inverse = .ok i) ∧
      (SizedData c ss → ∃ r i, DayPrices.ofSwaps c b q ss = .ok r ∧ r.inverse = .ok i) := by
  refine ⟨fun r i h hi => DayPrices.isOrdered_inverse_iff hs h hi, fun a r ha h => ?_,
    fun r h hshort => ?_, fun h => ?_⟩
  · obtain ⟨o, n, hends⟩ := Aggregate.exists_hasEnds ha hs
    obtain ⟨-, -, -, e⟩ := DayPrices.prices_of_ofSwaps ha hends.oldest hends.newest h
    rw [e, published_eq_zero_iff_le hends.pos.2.2]
  · exact (DayPrices.gives_inverse (DayPrices.isSound_of_ofSwaps h).published).value hshort
  · obtain ⟨r, -, i, hr, -, hi⟩ := DayPrices.hasOtherSide h b q
    exact ⟨r, i, hr, hi⟩

/-- The inverse of a record whose lowest price is a quarter. -/
theorem inverse_prices_ordered_bothWays :
    (∃ s ∈ bothWays, s.feeds "KMD" "LTC" = true) ∧ SizedData onePriced bothWays ∧
      ∃ r i, DayPrices.ofSwaps onePriced "KMD" "LTC" bothWays = .ok r ∧ r.inverse = .ok i ∧
        r.lowestPrice ≠ publishedZero ∧ i.IsOrdered := by
  have hs : ∃ s ∈ bothWays, s.feeds "KMD" "LTC" = true := by decide
  obtain ⟨hordered, hzero, -, hfound⟩ := inverse_prices_ordered onePriced "KMD" "LTC" bothWays hs
  obtain ⟨r, i, hr, hi⟩ := hfound sizedData_bothWays
  obtain ⟨a, ha, -⟩ := Run.bind_ok_iff.1 hr
  -- Both prices are above half a unit of the last place.
  have hprices : ∀ s ∈ bothWays, s.feeds "KMD" "LTC" = true →
      (s.tradeIn "KMD" "LTC").price = ⟨5, 1⟩ ∨ (s.tradeIn "KMD" "LTC").price = ⟨25, 2⟩ := by
    decide +kernel
  have hlowest : r.lowestPrice ≠ publishedZero := by
    rw [Ne, hzero a r ha hr, not_le]
    obtain ⟨⟨s, hsm, hf, he⟩, -⟩ := (Aggregate.isSummary_of_ofSwaps ha).lowest hs
    rw [← he]
    rcases hprices s hsm hf with hp | hp
    · rw [hp]
      norm_num [Decimal.value]
    · rw [hp]
      norm_num [Decimal.value]
  exact ⟨hs, sizedData_bothWays, r, i, hr, hi, hlowest, (hordered r i hr hi).1 hlowest⟩

namespace OutOfOrder

/-- A swap of coins for next to nothing, and one for some more. -/
def swaps : List Swap :=
  [⟨"a", "KMD", "LTC", ⟨1000, 0⟩, ⟨1, 8⟩, 1, 5, true⟩,
    ⟨"b", "KMD", "LTC", ⟨100, 0⟩, ⟨120, 0⟩, 1, 9, true⟩]

/-- The swaps as trades. -/
def trades : List Trade :=
  [⟨"a", ⟨1000, 0⟩, ⟨1, 8⟩, (⟨1, 8⟩ : Decimal).quotient ⟨1000, 0⟩, 5, .buy⟩,
    ⟨"b", ⟨100, 0⟩, ⟨120, 0⟩, (⟨120, 0⟩ : Decimal).quotient ⟨100, 0⟩, 9, .buy⟩]

end OutOfOrder

open OutOfOrder in
/-- A price that is stored as zero next to one that is not: the inverse has a newest price above
its highest. -/
theorem inverse_prices_ordered_unless_zero :
    (∃ s ∈ swaps, s.feeds "KMD" "LTC" = true) ∧
      ∃ r i, DayPrices.ofSwaps onePriced "KMD" "LTC" swaps = .ok r ∧ r.inverse = .ok i ∧
        r.lowestPrice = "0.0000000000" ∧ r.newestPrice = "1.2000000000" ∧
        i.highestPrice = "0.0000000000" ∧ i.newestPrice = "0.8333333333" ∧ ¬ i.IsOrdered := by
  have ha : Aggregate.ofSwaps swaps "KMD" "LTC" = .ok (.ofTrades trades) := by
    refine Aggregate.ofSwaps_ok_iff_unsorted.2
      ⟨trades, Run.toOption_eq_some.1 (by decide +kernel), ?_⟩
    rw [List.mergeSort_of_pairwise (by decide)]
  have h : (DayPrices.ofSwaps onePriced "KMD" "LTC" swaps).toOption.map
      (fun r => (r.lowestPrice, r.newestPrice,
        r.inverse.toOption.map fun i => (i.highestPrice, i.newestPrice)))
        = some ("0.0000000000", "1.2000000000", some ("0.0000000000", "0.8333333333")) := by
    unfold DayPrices.ofSwaps
    rw [ha]
    decide +kernel
  obtain ⟨r, hr, e⟩ := Option.map_eq_some_iff.1 h
  simp only [Prod.mk.injEq] at e
  obtain ⟨hlowest, hnewest, e⟩ := e
  obtain ⟨i, hi, e⟩ := Option.map_eq_some_iff.1 e
  simp only [Prod.mk.injEq] at e
  obtain ⟨ihighest, inewest⟩ := e
  refine ⟨by decide, r, i, Run.toOption_eq_some.1 hr, Run.toOption_eq_some.1 hi, hlowest, hnewest,
    ihighest, inewest, fun hordered => ?_⟩
  have hle := hordered.newest_highest
  have hread : (⟨8333333333, 10⟩ : Decimal).published = "0.8333333333" := by decide +kernel
  have hzero : Decimal.zero.published = "0.0000000000" := by decide +kernel
  rw [ihighest, inewest, ← hread, ← hzero, readsAtMost_published_iff] at hle
  exact absurd hle (by decide +kernel)

end SwapMarket
