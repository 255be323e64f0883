import SwapMarket.Proofs.Decimal.InverseChange
import SwapMarket.Proofs.Market.Books
import SwapMarket.Proofs.Market.InverseRange
import SwapMarket.Proofs.Market.RepeatedFigures

/-!
# Two inverses of the prices of a day

The prices of a day are seen from the other side in their own record, and in the orderbook that
repeats them. A book keeps the newest price and its change only; the oldest price is implied. It is
the one that the record keeps up to one unit of the last place, since the change was rounded on its
own. So both inverses have the same newest, highest and lowest price, and their changes are the same
if the published prices differ by the published change. If not, they are as far apart as one unit of
the oldest price makes them (**`DayPrices.InversesAgree`**).

Main statement: `inverse_changes_near`. At prices of a third and two thirds the changes are not the
same (`inverse_changes_near_unless_exact`).
-/

namespace SwapMarket

open Decimal (places tickText inverseChange inverseChangePercent publishedZero)

/-- Two texts count units of the last place, and differ by so many of them at most. -/
def WithinUnits (k : ℤ) (s t : String) : Prop :=
  ∃ m n : ℤ, s = tickText m ∧ t = tickText n ∧ |m - n| ≤ k

/-- The published change of the inverses of two prices, and the same in percent. -/
def inverseChanges (o n : ℤ) : String × String :=
  ((inverseChange o n).published, (inverseChangePercent o n).published)

/-! ## What is read of the prices -/

/-- A difference of counts of units is the count of the difference. -/
theorem Decimal.sub_places (m n : ℤ) :
    (⟨m, places⟩ : Decimal) - ⟨n, places⟩ = ⟨m - n, places⟩ := by
  have hm : (⟨m, places⟩ : Decimal).coefficientAt places = m := coefficientAt_scale ⟨m, places⟩
  have hn : (⟨-n, places⟩ : Decimal).coefficientAt places = -n := coefficientAt_scale ⟨-n, places⟩
  have hmax : max (places : ℤ) (min places (places + 15)) = places := by decide
  show add ⟨m, places⟩ ⟨-n, places⟩ = _
  unfold add extended
  simp only [hmax, hm, hn, max_self]
  split
  · next h =>
    have hzero : -n = 0 := beq_iff_eq.1 h
    rw [Int.neg_eq_zero.1 hzero, sub_zero]
  · split
    · next h =>
      have hzero : m = 0 := beq_iff_eq.1 h
      rw [hzero, zero_sub]
    · rfl

/-- Changes are published as they are computed. -/
theorem published_of_changeFigures {o n : Decimal} {p : String × String}
    (h : changeFigures o n = .ok p) :
    p = ((n - o).published, ((n - o).quotient o * .ofInt 100).published) := by
  simp only [changeFigures, Run.bind_ok_iff, Run.pure_eq_ok, Except.ok.injEq] at h
  obtain ⟨x, hx, f₁, h₁, f₂, h₂, rfl⟩ := h
  rw [Decimal.quotient_of_quotient? (Run.inRange_ok_iff.1 hx)] at h₂
  rw [Decimal.published_of_figure h₁, Decimal.published_of_figure h₂]

namespace DayPrices

variable {c : Catalogue} {b q : String} {ss : List Swap} {r p : DayPrices} {o n d : ℤ}

/-- The oldest and the newest price of a record and the change between them are counts of units. -/
structure HasUnits (r : DayPrices) (o n d : ℤ) : Prop where
  /-- The oldest price. -/
  oldest : r.oldestPrice = tickText o
  /-- The newest price. -/
  newest : r.newestPrice = tickText n
  /-- The change. -/
  change : r.priceChange = tickText d
  /-- Prices are not negative. -/
  nonneg : 0 ≤ o ∧ 0 ≤ n
  /-- The newest price less the change is the oldest one, up to one unit. -/
  implied : |n - d - o| ≤ 1

/-- A market without trades has zero prices and no change. -/
theorem hasUnits_zero (ho : r.oldestPrice = publishedZero) (hn : r.newestPrice = publishedZero)
    (hd : r.priceChange = publishedZero) : r.HasUnits 0 0 0 :=
  ⟨ho, hn, hd, ⟨le_rfl, le_rfl⟩, by decide⟩

/-- The prices of a day count units of the tenth place. -/
theorem exists_hasUnits (h : ofSwaps c b q ss = .ok r) : ∃ o n d, r.HasUnits o n d := by
  obtain ⟨a, ha, hr⟩ := Run.bind_ok_iff.1 h
  by_cases hs : ∃ s ∈ ss, s.feeds b q = true
  · obtain ⟨o, n, hends⟩ := Aggregate.exists_hasEnds ha hs
    obtain ⟨hopos, hnpos, -⟩ := hends.pos
    obtain ⟨e₁, e₂, -, -⟩ := prices_of_ofSwaps ha hends.oldest hends.newest h
    obtain ⟨-, -, e₃, -⟩ := changes_of_ofSwaps ha hends.oldest hends.newest h
    refine ⟨_, _, _, e₁, e₂, e₃, ⟨?_, ?_⟩, ?_⟩
    · exact Decimal.ticks_nonneg (Decimal.value_pos hopos).le
    · exact Decimal.ticks_nonneg hnpos.le
    · have hnear := Decimal.ticks_sub_near n.price o.price
      rw [abs_le] at hnear ⊢
      omega
  · have hnone : ∀ s ∈ ss, s.feeds b q = false := by
      intro s hsm
      rw [← Bool.not_eq_true]
      exact fun hf => hs ⟨s, hsm, hf⟩
    rw [(Aggregate.isSummary_of_ofSwaps ha).nothing hnone] at hr
    simp only [Run.bind_ok_iff, Run.pure_eq_ok, Except.ok.injEq] at hr
    obtain ⟨_, -, _, -, rfl⟩ := hr
    exact ⟨0, 0, 0, hasUnits_zero rfl rfl rfl⟩

/-- The inverse of a record has the changes of the inverse prices. -/
theorem changes_of_inverse (h : r.inverse = .ok p) (ho : r.oldestPrice = tickText o)
    (hn : r.newestPrice = tickText n) :
    (p.priceChange, p.priceChangePercent) = inverseChanges o n := by
  simp only [inverse, ho, hn, readFigure_tickText, Run.ok_bind, Run.bind_ok_iff, Run.pure_eq_ok,
    Except.ok.injEq] at h
  obtain ⟨x, hx, z, hz, change, hchange, _, -, _, -, _, -, _, -, rfl⟩ := h
  rw [reciprocal_of_ok hx, reciprocal_of_ok hz] at hchange
  exact published_of_changeFigures hchange

end DayPrices

namespace Orderbook

variable {r i : Orderbook} {n d : ℤ}

/-- The inverse of a book has the changes of the inverse prices, of which the oldest is implied. -/
theorem changes_of_inverse (h : r.inverse = .ok i) (hn : r.newestPrice = tickText n)
    (hd : r.priceChange = tickText d) :
    (i.priceChange, i.priceChangePercent) = inverseChanges (n - d) n := by
  simp only [inverse, hn, hd, readFigure_tickText, Run.ok_bind, Decimal.sub_places, Run.bind_ok_iff,
    Run.pure_eq_ok, Except.ok.injEq] at h
  obtain ⟨z, hz, x, hx, change, hchange, _, -, _, -, _, -, _, -, _, -, _, -, _, -, rfl⟩ := h
  rw [reciprocal_of_ok hx, reciprocal_of_ok hz] at hchange
  exact published_of_changeFigures hchange

/-- The prices of an inverse are the reciprocals of those of the book; the highest and the lowest
change places. -/
theorem prices_of_inverse (h : r.inverse = .ok i) :
    reciprocalFigure r.newestPrice = .ok i.newestPrice ∧ reciprocalFigure r.low = .ok i.high ∧
      reciprocalFigure r.high = .ok i.low := by
  simp only [inverse, Run.bind_ok_iff, Run.pure_eq_ok, Except.ok.injEq] at h
  obtain ⟨x, hx, _, -, z, hz, _, -, _, -, _, -, _, -, _, -, _, -, high, hh, low, hl, f, hf,
    rfl⟩ := h
  refine ⟨?_, hh, hl⟩
  unfold reciprocalFigure
  rw [hx, Run.ok_bind, hz, Run.ok_bind]
  exact hf

end Orderbook

/-! ## Agreement -/

namespace DayPrices

/-- The changes of two inverses of a record that counts `o` units as its oldest price, `n` as its
newest and `d` as its change. -/
structure ChangesAgree (p : DayPrices) (i : Orderbook) (o n d : ℤ) : Prop where
  /-- The one has the changes of the inverse prices. -/
  stored : (p.priceChange, p.priceChangePercent) = inverseChanges o n
  /-- The other has those from the implied oldest price. -/
  implied : (i.priceChange, i.priceChangePercent) = inverseChanges (n - d) n
  /-- If the change is the difference of the prices, they are the same. -/
  exact : d = n - o →
    i.priceChange = p.priceChange ∧ i.priceChangePercent = p.priceChangePercent
  /-- How far the changes are apart. -/
  change : 2 ≤ o → WithinUnits (1 + 10 ^ 20 / (o * (o - 1))) p.priceChange i.priceChange
  /-- How far the changes in percent are apart. -/
  percent : 2 ≤ o → 0 < n → WithinUnits (1 + (10 ^ 12 + (o + n) / 10 ^ 84) / n)
    p.priceChangePercent i.priceChangePercent
  /-- If the newest price is stored as zero, both are a fall by a hundred percent. -/
  fallen : 2 ≤ o → n = 0 →
    p.priceChangePercent = tickText (-10 ^ 12) ∧ i.priceChangePercent = tickText (-10 ^ 12)

/-- The inverse of a record agrees with that of a book that repeats its figures. -/
structure InversesAgree (r p : DayPrices) (i : Orderbook) : Prop where
  /-- The newest price. -/
  newest : i.newestPrice = p.newestPrice
  /-- The highest price. -/
  high : i.high = p.highestPrice
  /-- The lowest price. -/
  low : i.low = p.lowestPrice
  /-- The changes. -/
  changes : ∃ o n d, r.HasUnits o n d ∧ p.ChangesAgree i o n d

variable {r p : DayPrices} {k i : Orderbook} {o n d : ℤ}

/-- Changes that are computed from these units agree up to the bound. -/
theorem HasUnits.changesAgree (h : r.HasUnits o n d)
    (hp : (p.priceChange, p.priceChangePercent) = inverseChanges o n)
    (hi : (i.priceChange, i.priceChangePercent) = inverseChanges (n - d) n) :
    p.ChangesAgree i o n d := by
  obtain ⟨hp₁, hp₂⟩ := Prod.mk.inj hp
  obtain ⟨hi₁, hi₂⟩ := Prod.mk.inj hi
  obtain ⟨hlow, -⟩ := abs_le.1 h.implied
  refine ⟨hp, hi, fun hd => ?_, fun ho => ?_, fun ho hn => ?_, fun ho hn => ⟨?_, ?_⟩⟩
  · have ho : n - d = o := by omega
    rw [hi₁, hi₂, ho, hp₁, hp₂]
    exact ⟨rfl, rfl⟩
  · exact ⟨_, _, hp₁, hi₁, Decimal.ticks_inverseChange_near ho h.implied⟩
  · exact ⟨_, _, hp₂, hi₂, Decimal.ticks_inverseChangePercent_near ho hn h.implied⟩
  · rw [hp₂, hn, Decimal.published, Decimal.ticks_inverseChangePercent_zero (by omega)]
  · subst hn
    rw [hi₂, Decimal.published, Decimal.ticks_inverseChangePercent_zero (by omega)]

/-- A book that repeats the figures of a record has an inverse that agrees with that of the
record. -/
theorem inversesAgree (hu : ∃ o n d, r.HasUnits o n d) (hk : k.ShowsPrices r)
    (hp : r.inverse = .ok p) (hi : k.inverse = .ok i) : r.InversesAgree p i := by
  obtain ⟨-, hnewest, hhighest, hlowest⟩ := prices_of_inverse hp
  obtain ⟨hnewest', hhigh, hlow⟩ := Orderbook.prices_of_inverse hi
  rw [hk.newest] at hnewest'
  rw [hk.low] at hhigh
  rw [hk.high] at hlow
  refine ⟨?_, ?_, ?_, ?_⟩
  · exact Except.ok.inj (hnewest'.symm.trans hnewest)
  · exact Except.ok.inj (hhigh.symm.trans hhighest)
  · exact Except.ok.inj (hlow.symm.trans hlowest)
  · obtain ⟨o, n, d, hu⟩ := hu
    refine ⟨o, n, d, hu, hu.changesAgree (changes_of_inverse hp hu.oldest hu.newest) ?_⟩
    exact Orderbook.changes_of_inverse hi (hk.newest.trans hu.newest) (hk.change.trans hu.change)

end DayPrices

/-- **Two inverses of the prices of a day**, that of their record and that of an orderbook that
repeats them, have the same newest, highest and lowest price. Their changes are those of the inverse
prices from the oldest to the newest, but the oldest price of the book is the newest less the
published change. So the changes are the same if this is exact, and else as far apart as one unit of
the oldest price makes them. Both inverses are made if all numbers can be written and the orders can
be read. -/
theorem inverse_changes_near (c : Catalogue) (b q : String) (ss : List Swap) (book : QuotedBook)
    (volume : Option Volume) (lastTrade : Option LastTrade) (now : Int) :
    (∀ r k p i, DayPrices.ofSwaps c b q ss = .ok r →
      Orderbook.project c b q book ⟨some r, volume, lastTrade⟩ now = .ok k →
        r.inverse = .ok p → k.inverse = .ok i → r.InversesAgree p i) ∧
    (SizedData c ss → book.IsSized → (∀ v, volume = some v → IsFigured v ∧ IsShort v) →
      (∀ o ∈ book.asks ++ book.bids, ∀ v ∈ o.values, ∃ d, v.CountsAs d) →
        ∃ r k p i, DayPrices.ofSwaps c b q ss = .ok r ∧
          Orderbook.project c b q book ⟨some r, volume, lastTrade⟩ now = .ok k ∧
            r.inverse = .ok p ∧ k.inverse = .ok i) := by
  refine ⟨fun r k p i hr hk hp hi => ?_, fun h hsized hvolume hread => ?_⟩
  · exact DayPrices.inversesAgree (DayPrices.exists_hasUnits hr) (Orderbook.shows_of_project hk).2
      hp hi
  · obtain ⟨r, hr, hrshort⟩ := DayPrices.ofSwaps_ok h b q
    have hrfigured := (DayPrices.isSound_of_ofSwaps hr).published
    obtain ⟨p, hp⟩ := (DayPrices.gives_inverse hrfigured).value hrshort
    have hsound : (⟨some r, volume, lastTrade⟩ : Orderbook.Figures).IsSound := by
      refine ⟨fun x hx => ?_, fun v hv => (hvolume v hv).1⟩
      cases hx
      exact hrfigured
    have hshort : (⟨some r, volume, lastTrade⟩ : Orderbook.Figures).IsShort := by
      refine ⟨fun x hx => ?_, fun v hv => (hvolume v hv).2⟩
      cases hx
      exact hrshort
    obtain ⟨k, i, hk, hi⟩ := Orderbook.exists_inverse_of_project h.usdPrice hsized
      (QuotedBook.isReadable_iff.2 hread) hsound hshort
    exact ⟨r, k, p, i, hr, hk, hp, hi⟩

/-- The inverses of the prices of two swaps that went opposite ways, in a book without orders. -/
theorem inverse_changes_near_bothWays :
    SizedData onePriced bothWays ∧ QuotedBook.empty.IsSized ∧
      ∃ r k p i, DayPrices.ofSwaps onePriced "KMD" "LTC" bothWays = .ok r ∧
        Orderbook.project onePriced "KMD" "LTC" .empty ⟨some r, none, none⟩ 0 = .ok k ∧
          r.inverse = .ok p ∧ k.inverse = .ok i ∧ r.InversesAgree p i := by
  obtain ⟨hagree, hbuilt⟩ :=
    inverse_changes_near onePriced "KMD" "LTC" bothWays .empty none none 0
  obtain ⟨r, k, p, i, hr, hk, hp, hi⟩ := hbuilt sizedData_bothWays QuotedBook.isSized_empty nofun
    (List.forall_mem_nil _)
  exact ⟨sizedData_bothWays, QuotedBook.isSized_empty, r, k, p, i, hr, hk, hp, hi,
    hagree r k p i hr hk hp hi⟩

namespace PricedInThirds

/-- A swap at a third, and a later one at two thirds. -/
def swaps : List Swap :=
  [⟨"a", "KMD", "LTC", ⟨3, 0⟩, ⟨1, 0⟩, 1, 5, true⟩, ⟨"b", "KMD", "LTC", ⟨3, 0⟩, ⟨2, 0⟩, 1, 9, true⟩]

/-- The swaps as trades. -/
def trades : List Trade :=
  [⟨"a", ⟨3, 0⟩, ⟨1, 0⟩, (⟨1, 0⟩ : Decimal).quotient ⟨3, 0⟩, 5, .buy⟩,
    ⟨"b", ⟨3, 0⟩, ⟨2, 0⟩, (⟨2, 0⟩ : Decimal).quotient ⟨3, 0⟩, 9, .buy⟩]

/-- The record of the swaps. -/
def record : DayPrices :=
  { DayPrices.blank "KMD" "LTC" with
    oldestPrice := "0.3333333333"
    oldestPriceTime := 5
    newestPrice := "0.6666666667"
    newestPriceTime := 9
    highestPrice := "0.6666666667"
    lowestPrice := "0.3333333333"
    priceChange := "0.3333333333"
    priceChangePercent := "100.0000000000"
    basePriceUsd := "2.0000000000"
    trades := 2 }

end PricedInThirds

open PricedInThirds in
/-- Prices of a third and two thirds, one rounded down and one up: the oldest price that is implied
is one unit above the stored one, and the changes are not the same. -/
theorem inverse_changes_near_unless_exact :
    '_' ∉ "KMD".toList ∧ ∃ k p i,
      DayPrices.ofSwaps onePriced "KMD" "LTC" swaps = .ok record ∧
        Orderbook.project onePriced "KMD" "LTC" .empty ⟨some record, none, none⟩ 0 = .ok k ∧
          record.inverse = .ok p ∧ k.inverse = .ok i ∧
            p.priceChange = "-1.5000000004" ∧ i.priceChange = "-1.4999999995" ∧
            p.priceChangePercent = "-50.0000000075" ∧
            i.priceChangePercent = "-49.9999999925" := by
  have ha : Aggregate.ofSwaps swaps "KMD" "LTC" = .ok (.ofTrades trades) := by
    refine Aggregate.ofSwaps_ok_iff_unsorted.2
      ⟨trades, Run.toOption_eq_some.1 (by decide +kernel), ?_⟩
    rw [List.mergeSort_of_pairwise (by decide)]
  have hr : DayPrices.ofSwaps onePriced "KMD" "LTC" swaps = .ok record := by
    unfold DayPrices.ofSwaps
    rw [ha]
    exact Run.toOption_eq_some.1 (by decide +kernel)
  have hk : (Orderbook.project onePriced "KMD" "LTC" .empty
      ⟨some record, none, none⟩ 0).toOption.map
        (fun k => k.inverse.toOption.map fun i => (i.priceChange, i.priceChangePercent))
          = some (some ("-1.4999999995", "-49.9999999925")) := by
    have hasks : Order.ascending [] = [] := List.mergeSort_nil
    have hbids : Order.descending [] = [] := List.mergeSort_nil
    show ((Orderbook.ofOrders onePriced "KMD" "LTC" (Order.ascending []) (Order.descending []) 0
      >>= _).toOption.map _) = _
    rw [hasks, hbids]
    decide +kernel
  have hp : record.inverse.toOption.map (fun p => (p.priceChange, p.priceChangePercent))
      = some ("-1.5000000004", "-50.0000000075") := by decide +kernel
  obtain ⟨p, hp, ep⟩ := Option.map_eq_some_iff.1 hp
  obtain ⟨k, hk, ek⟩ := Option.map_eq_some_iff.1 hk
  obtain ⟨i, hi, ei⟩ := Option.map_eq_some_iff.1 ek
  simp only [Prod.mk.injEq] at ep ei
  exact ⟨by decide, k, p, i, hr, Run.toOption_eq_some.1 hk, Run.toOption_eq_some.1 hp,
    Run.toOption_eq_some.1 hi, ep.1, ei.1, ep.2, ei.2⟩

end SwapMarket
