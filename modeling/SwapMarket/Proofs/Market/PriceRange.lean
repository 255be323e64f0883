import SwapMarket.Proofs.Decimal.Canonical
import SwapMarket.Proofs.Decimal.Product
import SwapMarket.Proofs.Market.ExactFigures

/-!
# The prices of a day fit together

Each figure of a record is rounded on its own. Since rounding keeps the order, the published prices
are in the order of the exact ones (**`DayPrices.IsOrdered`**), also where some of them are
published as zero. The change is one unit of the last place off the difference of the published
prices at most, and the change in percent has no other sign and is not below minus a hundred
(**`DayPrices.IsCoherent`**). The oldest price, by which is divided, is never zero.

Main statement: `day_prices_coherent`.
-/

namespace SwapMarket

variable {c : Catalogue} {ss : List Swap} {b q : String}

/-! ## Texts in order -/

/-- Two texts are decimals, the first no greater than the second. -/
def ReadsAtMost (s s' : String) : Prop :=
  ∃ d d', Decimal.read s = .ok d ∧ Decimal.read s' = .ok d' ∧ d.value ≤ d'.value

/-- Texts are in the order of the units that they count. -/
theorem readsAtMost_tickText_iff {m n : ℤ} :
    ReadsAtMost (Decimal.tickText m) (Decimal.tickText n) ↔ m ≤ n := by
  unfold ReadsAtMost
  rw [Decimal.read_tickText, Decimal.read_tickText]
  constructor
  · rintro ⟨_, _, h, h', hle⟩
    cases h
    cases h'
    rw [Decimal.value_places, Decimal.value_places, div_le_div_iff_of_pos_right (by positivity)]
      at hle
    exact_mod_cast hle
  · exact fun h => ⟨_, _, rfl, rfl, Decimal.value_tenths_le h⟩

/-- Published numbers are in the order of their units. -/
theorem readsAtMost_published_iff {d d' : Decimal} :
    ReadsAtMost d.published d'.published ↔ d.ticks ≤ d'.ticks :=
  readsAtMost_tickText_iff

/-- Publishing keeps the order. -/
theorem readsAtMost_of_figure {d d' : Decimal} {s s' : String} (h : d.figure = .ok s)
    (h' : d'.figure = .ok s') (hle : d.value ≤ d'.value) : ReadsAtMost s s' := by
  obtain rfl := Decimal.published_of_figure h
  obtain rfl := Decimal.published_of_figure h'
  exact readsAtMost_published_iff.2 (Decimal.ticks_le_ticks hle)

/-! ## Changes read back -/

namespace Decimal

/-- A published change is that of the published numbers up to one unit of the last place. -/
theorem read_change (o n : Decimal) : ∃ x y d, read o.published = .ok x ∧
    read n.published = .ok y ∧ read (n - o).published = .ok d ∧
      |d.value - (y.value - x.value)| ≤ 1 / 10 ^ 10 := by
  have hnear : |(((n - o).ticks - (n.ticks - o.ticks) : ℤ) : ℚ)| ≤ 1 := by
    exact_mod_cast ticks_sub_near n o
  rw [read_published, read_published, read_published]
  refine ⟨_, _, _, rfl, rfl, rfl, ?_⟩
  rw [value_places, value_places, value_places, ← sub_div, ← sub_div, abs_div,
    abs_of_pos (by positivity : (0 : ℚ) < 10 ^ 10)]
  push_cast at hnear
  gcongr

/-- A published change in percent is not below minus a hundred, if the new number is not
negative. -/
theorem read_percent {o n : Decimal} (ho : 0 < o.coefficient) (hn : 0 ≤ n.value) :
    ∃ p, read ((n - o).quotient o * ofInt 100).published = .ok p ∧ -100 ≤ p.value := by
  have hunits : (-10 ^ 12 : ℚ) ≤ ((n - o).quotient o * ofInt 100).ticks := by
    exact_mod_cast neg_hundred_le_percent ho hn
  rw [read_published]
  refine ⟨_, rfl, ?_⟩
  rw [value_places, le_div_iff₀ (by positivity)]
  norm_num at hunits ⊢
  exact hunits

/-- A published change and the same in percent do not have opposite signs. -/
theorem read_signs {o : Decimal} (ho : 0 < o.coefficient) (change : Decimal) :
    ∃ d p, read change.published = .ok d ∧
      read (change.quotient o * ofInt 100).published = .ok p ∧ 0 ≤ d.value * p.value := by
  have hsigns : (0 : ℚ) ≤ change.ticks * (change.quotient o * ofInt 100).ticks := by
    exact_mod_cast ticks_mul_percent_nonneg change ho
  rw [read_published, read_published]
  refine ⟨_, _, rfl, rfl, ?_⟩
  rw [value_places, value_places, div_mul_div_comm]
  positivity

end Decimal

/-! ## The ends of a day -/

namespace Aggregate

/-- The oldest and the newest trade of a market. -/
structure HasEnds (a : Aggregate) (o n : Trade) : Prop where
  /-- The oldest trade. -/
  oldest : a.oldest = some o
  /-- The newest trade. -/
  newest : a.newest = some n
  /-- The one was not completed after the other. -/
  times : o.finishedAt ≤ n.finishedAt
  /-- Their prices are positive, as the lowest one is. -/
  pos : 0 < o.price.coefficient ∧ 0 < n.price.value ∧ 0 < a.lowestPrice.value
  /-- None is below the lowest price. -/
  lowest : a.lowestPrice.value ≤ o.price.value ∧ a.lowestPrice.value ≤ n.price.value
  /-- None is above the highest price. -/
  highest : o.price.value ≤ a.highestPrice.value ∧ n.price.value ≤ a.highestPrice.value

/-- A market with trades has an oldest and a newest one. -/
theorem exists_hasEnds {a : Aggregate} (ha : ofSwaps ss b q = .ok a)
    (hs : ∃ s ∈ ss, s.feeds b q = true) : ∃ o n, a.HasEnds o n := by
  have hsum := isSummary_of_ofSwaps ha
  obtain ⟨hlowmem, hlow⟩ := hsum.lowest hs
  obtain ⟨-, hhigh⟩ := hsum.highest hs
  have hs' : ∃ s ∈ ss.reverse, s.feeds b q = true := by
    simpa only [List.mem_reverse] using hs
  have hleast : ∃ v, IsFirstGreatest (fun x y => y.notAfter x) (Swap.feeds b q) ss v :=
    exists_isFirstGreatest (fun x y z hxy hyz => Swap.notAfter_trans z y x hyz hxy)
      (fun x y => Swap.notAfter_total y x) hs
  obtain ⟨v, hv⟩ := hleast
  obtain ⟨w, hw⟩ := exists_isFirstGreatest Swap.notAfter_trans Swap.notAfter_total hs'
  have hwm : w ∈ ss := List.mem_reverse.1 hw.mem
  have hvw : v.notAfter w = true := hw.greatest v (List.mem_reverse.2 hv.mem) hv.holds
  have htimes : v.finishedAt ≤ w.finishedAt := by
    rcases Swap.notAfter_iff.1 hvw with h | ⟨h, -⟩
    · exact h.le
    · exact h.le
  have hp := Swap.isPriced_tradeIn hv.holds
  have hlowpos : 0 < a.lowestPrice.value := by
    obtain ⟨s, hsm, hf, he⟩ := hlowmem
    rw [← he]
    exact (hsum.prices s hsm hf).1
  exact ⟨_, _, (hsum.oldest _).2 ⟨v, hv, rfl⟩, (hsum.newest _).2 ⟨w, hw, rfl⟩, htimes,
    ⟨(Decimal.quotient_near hp.quote hp.base).1, (hsum.prices w hwm hw.holds).1, hlowpos⟩,
    ⟨hlow v hv.mem hv.holds, hlow w hwm hw.holds⟩, hhigh v hv.mem hv.holds, hhigh w hwm hw.holds⟩

end Aggregate

/-! ## Records -/

namespace DayPrices

/-- The prices of a record are in order. -/
structure IsOrdered (r : DayPrices) : Prop where
  /-- The oldest price is not below the lowest. -/
  lowest_oldest : ReadsAtMost r.lowestPrice r.oldestPrice
  /-- The newest price is not below the lowest. -/
  lowest_newest : ReadsAtMost r.lowestPrice r.newestPrice
  /-- The oldest price is not above the highest. -/
  oldest_highest : ReadsAtMost r.oldestPrice r.highestPrice
  /-- The newest price is not above the highest. -/
  newest_highest : ReadsAtMost r.newestPrice r.highestPrice

/-- The figures of a record fit together. -/
structure IsCoherent (r : DayPrices) : Prop where
  /-- The prices are in order. -/
  ordered : r.IsOrdered
  /-- None of them is negative. -/
  nonneg : ∃ l, Decimal.read r.lowestPrice = .ok l ∧ 0 ≤ l.value
  /-- The oldest trade was not completed after the newest. -/
  times : r.oldestPriceTime ≤ r.newestPriceTime
  /-- The change is that of the prices up to one unit of the last place. -/
  change : ∃ o n d, Decimal.read r.oldestPrice = .ok o ∧ Decimal.read r.newestPrice = .ok n ∧
    Decimal.read r.priceChange = .ok d ∧ |d.value - (n.value - o.value)| ≤ 1 / 10 ^ 10
  /-- Prices do not fall by more than a hundred percent. -/
  percent : ∃ p, Decimal.read r.priceChangePercent = .ok p ∧ -100 ≤ p.value
  /-- The change and the change in percent do not have opposite signs. -/
  signs : ∃ d p, Decimal.read r.priceChange = .ok d ∧ Decimal.read r.priceChangePercent = .ok p ∧
    0 ≤ d.value * p.value

/-- The times and changes of a record are those of the figures of the market. -/
theorem changes_of_ofSwaps {a : Aggregate} {r : DayPrices} {o n : Trade}
    (ha : Aggregate.ofSwaps ss b q = .ok a) (ho : a.oldest = some o) (hn : a.newest = some n)
    (h : ofSwaps c b q ss = .ok r) :
    r.oldestPriceTime = o.finishedAt ∧ r.newestPriceTime = n.finishedAt ∧
      r.priceChange = (n.price - o.price).published ∧
      r.priceChangePercent
        = ((n.price - o.price).quotient o.price * .ofInt 100).published := by
  have hchange : a.priceChange = n.price - o.price := by
    unfold Aggregate.priceChange
    rw [ho, hn]
  unfold ofSwaps at h
  rw [ha, Run.ok_bind] at h
  obtain ⟨_, -, h⟩ := Run.bind_ok_iff.1 h
  obtain ⟨_, -, h⟩ := Run.bind_ok_iff.1 h
  simp only [ho, hn, Run.bind_ok_iff, Run.pure_eq_ok, Except.ok.injEq] at h
  obtain ⟨p, hp, _, -, _, -, _, -, _, -, f₁, h₁, f₂, h₂, rfl⟩ := h
  unfold Aggregate.priceChangePercent at hp
  rw [ho, hchange] at hp
  obtain ⟨x, hx, rfl⟩ := Run.map_ok_iff.1 hp
  rw [Decimal.quotient_of_quotient? (Run.inRange_ok_iff.1 hx)] at h₂
  rw [hchange] at h₁
  exact ⟨rfl, rfl, Decimal.published_of_figure h₁, Decimal.published_of_figure h₂⟩

/-- The figures of the record of a market with trades fit together. -/
theorem isCoherent_of_ofSwaps (hs : ∃ s ∈ ss, s.feeds b q = true) {r : DayPrices}
    (h : ofSwaps c b q ss = .ok r) : r.IsCoherent := by
  obtain ⟨a, ha, -⟩ := Run.bind_ok_iff.1 h
  obtain ⟨o, n, hends⟩ := Aggregate.exists_hasEnds ha hs
  obtain ⟨hopos, hnpos, hlowpos⟩ := hends.pos
  obtain ⟨e₁, e₂, e₃, e₄⟩ := prices_of_ofSwaps ha hends.oldest hends.newest h
  obtain ⟨k₁, k₂, k₃, k₄⟩ := changes_of_ofSwaps ha hends.oldest hends.newest h
  refine ⟨⟨?_, ?_, ?_, ?_⟩, ?nonneg, ?times, ?change, ?percent, ?signs⟩
  · rw [e₄, e₁, readsAtMost_published_iff]
    exact Decimal.ticks_le_ticks hends.lowest.1
  · rw [e₄, e₂, readsAtMost_published_iff]
    exact Decimal.ticks_le_ticks hends.lowest.2
  · rw [e₁, e₃, readsAtMost_published_iff]
    exact Decimal.ticks_le_ticks hends.highest.1
  · rw [e₂, e₃, readsAtMost_published_iff]
    exact Decimal.ticks_le_ticks hends.highest.2
  case nonneg =>
    have hunits : (0 : ℚ) ≤ a.lowestPrice.ticks := by
      exact_mod_cast Decimal.ticks_nonneg hlowpos.le
    rw [e₄, Decimal.read_published]
    refine ⟨_, rfl, ?_⟩
    rw [Decimal.value_places]
    positivity
  case times =>
    rw [k₁, k₂]
    exact hends.times
  case change =>
    rw [e₁, e₂, k₃]
    exact Decimal.read_change o.price n.price
  case percent =>
    rw [k₄]
    exact Decimal.read_percent hopos hnpos.le
  case signs =>
    rw [k₃, k₄]
    exact Decimal.read_signs hopos (n.price - o.price)

/-- The numbers of a record have scales in range. -/
structure ScalesFit (c : Catalogue) (b q : String) (a : Aggregate) : Prop where
  /-- The dollar price of the base can be written. -/
  base : ∃ s, (c.usdPrice b).figure = .ok s
  /-- The dollar price of the quote can be written. -/
  quote : ∃ s, (c.usdPrice q).figure = .ok s
  /-- The change in percent can be computed, and it, the change and the prices can be written. -/
  prices : ∀ o n, a.oldest = some o → a.newest = some n →
    ∃ p, a.priceChangePercent = .ok p ∧
      ∀ d ∈ [o.price, n.price, a.highestPrice, a.lowestPrice, a.priceChange, p],
        ∃ s, d.figure = .ok s

/-- A market has a record exactly if its trades have prices and its numbers fit. -/
theorem exists_ofSwaps_iff : (∃ r, ofSwaps c b q ss = .ok r) ↔
    ArePriced b q ss ∧ ∀ a, Aggregate.ofSwaps ss b q = .ok a → ScalesFit c b q a := by
  rw [← Aggregate.exists_ofSwaps_iff]
  unfold ofSwaps
  constructor
  · rintro ⟨r, h⟩
    obtain ⟨a, ha, h⟩ := Run.bind_ok_iff.1 h
    obtain ⟨f₁, h₁, h⟩ := Run.bind_ok_iff.1 h
    obtain ⟨f₂, h₂, h⟩ := Run.bind_ok_iff.1 h
    refine ⟨⟨a, ha⟩, fun a' ha' => ?_⟩
    obtain rfl : a = a' := Except.ok.inj (ha.symm.trans ha')
    refine ⟨⟨f₁, h₁⟩, ⟨f₂, h₂⟩, fun o n ho hn => ?_⟩
    simp only [ho, hn, Run.bind_ok_iff] at h
    obtain ⟨p, hp, g₁, k₁, g₂, k₂, g₃, k₃, g₄, k₄, g₅, k₅, g₆, k₆, -⟩ := h
    simp only [List.forall_mem_cons]
    exact ⟨p, hp, ⟨g₁, k₁⟩, ⟨g₂, k₂⟩, ⟨g₃, k₃⟩, ⟨g₄, k₄⟩, ⟨g₅, k₅⟩, ⟨g₆, k₆⟩,
      List.forall_mem_nil _⟩
  · rintro ⟨⟨a, ha⟩, hfits⟩
    obtain ⟨⟨f₁, h₁⟩, ⟨f₂, h₂⟩, hprices⟩ := hfits a ha
    rw [ha, Run.ok_bind, h₁, Run.ok_bind, h₂, Run.ok_bind]
    cases ho : a.oldest with
    | none => exact ⟨_, rfl⟩
    | some o =>
      cases hn : a.newest with
      | none => exact ⟨_, rfl⟩
      | some n =>
        obtain ⟨p, hp, hfigures⟩ := hprices o n ho hn
        simp only [List.forall_mem_cons] at hfigures
        obtain ⟨⟨g₁, k₁⟩, ⟨g₂, k₂⟩, ⟨g₃, k₃⟩, ⟨g₄, k₄⟩, ⟨g₅, k₅⟩, ⟨g₆, k₆⟩, -⟩ := hfigures
        simp only [hp, k₁, k₂, k₃, k₄, k₅, k₆, Run.ok_bind]
        exact ⟨_, rfl⟩

end DayPrices

/-- **The prices of a day** fit together if there is a trade: read back, they are in order and not
negative, the change is that of the prices up to one unit of the last place, and the change in
percent is not below minus a hundred and has no other sign. It is never divided by zero. The record
is found exactly if all scales are in range, as they are if amounts and dollar prices can be
written. -/
theorem day_prices_coherent (c : Catalogue) (b q : String) (ss : List Swap)
    (hs : ∃ s ∈ ss, s.feeds b q = true) :
    (∀ r, DayPrices.ofSwaps c b q ss = .ok r → r.IsCoherent) ∧
      (∀ a, Aggregate.ofSwaps ss b q = .ok a →
        ∃ o, a.oldest = some o ∧ o.price.isZero = false) ∧
      ((∃ r, DayPrices.ofSwaps c b q ss = .ok r) ↔
        ArePriced b q ss ∧
          ∀ a, Aggregate.ofSwaps ss b q = .ok a → DayPrices.ScalesFit c b q a) ∧
      (SizedData c ss → ∃ r, DayPrices.ofSwaps c b q ss = .ok r) := by
  refine ⟨fun r => DayPrices.isCoherent_of_ofSwaps hs, fun a ha => ?_,
    DayPrices.exists_ofSwaps_iff, fun h => ?_⟩
  · obtain ⟨o, n, hends⟩ := Aggregate.exists_hasEnds ha hs
    exact ⟨o, hends.oldest, beq_eq_false_iff_ne.2 hends.pos.1.ne'⟩
  · obtain ⟨r, hr, -⟩ := DayPrices.ofSwaps_ok h b q
    exact ⟨r, hr⟩

/-- The record of two swaps that went opposite ways. -/
theorem day_prices_coherent_bothWays :
    (∃ s ∈ bothWays, s.feeds "KMD" "LTC" = true) ∧ SizedData onePriced bothWays ∧
      ∃ r, DayPrices.ofSwaps onePriced "KMD" "LTC" bothWays = .ok r ∧ r.IsCoherent := by
  have hs : ∃ s ∈ bothWays, s.feeds "KMD" "LTC" = true := by decide
  obtain ⟨hcoherent, -, -, hfound⟩ := day_prices_coherent onePriced "KMD" "LTC" bothWays hs
  obtain ⟨r, hr⟩ := hfound sizedData_bothWays
  exact ⟨hs, sizedData_bothWays, r, hr, hcoherent r hr⟩

/-- A market in which a swap has no price has no record, although there is a trade. -/
theorem day_prices_coherent_unless_priced :
    (∃ s ∈ [unpricedSwap], s.feeds "KMD" "LTC" = true) ∧
      DayPrices.ofSwaps onePriced "KMD" "LTC" [unpricedSwap] = .error .overflow := by
  refine ⟨by decide, ?_⟩
  have ha : Aggregate.ofSwaps [unpricedSwap] "KMD" "LTC" = .error .overflow :=
    Aggregate.ofSwaps_of_not_arePriced fun h =>
      absurd (h unpricedSwap List.mem_cons_self (by decide)) (by decide +kernel)
  unfold DayPrices.ofSwaps
  rw [ha]
  rfl

end SwapMarket
