import SwapMarket.Proofs.Market.InverseRange
import SwapMarket.Proofs.Market.ProjectedBook

/-!
# The inverse of an orderbook is an orderbook

Seen from the other side, the asks of a book are bids. Their prices are inverted one by one, and
since inverses of rounded prices are in the opposite order (`Decimal.inverseUnits_le`), the orders
need not be sorted again: the inverse is in order, and shows the price of its first order on each
side (**`Orderbook.IsOrderedBook`**). Totals change places, and a book whose sides do not overlap
has an inverse whose sides do not (**`Orderbook.Turns`**). This holds as long as no price is rounded
to zero.

Main statement: `book_inverted`.
-/

namespace SwapMarket

open Decimal (tickText inverseUnits publishedZero places)

/-! ## Units -/

/-- A price of at least one unit of the last place is not rounded to zero. -/
theorem Decimal.ticks_pos {d : Decimal} (h : 1 / 10 ^ 10 ≤ d.value) : 0 < d.ticks := by
  have hone : (⟨1, places⟩ : Decimal).value = 1 / 10 ^ 10 := by
    rw [Decimal.value_places, Int.cast_one]
  rw [← hone] at h
  have hle := Decimal.ticks_le_ticks h
  rw [Decimal.ticks_tenths] at hle
  omega

/-- The text of the inverse of a price. -/
def Order.inversePrice (o : Order) : String := tickText (inverseUnits o.price.ticks)

/-- The reciprocal of the price of an order is its inverse price. -/
theorem Order.eq_inversePrice {o : Order} {s : String}
    (h : reciprocalFigure o.price.published = .ok s) : s = o.inversePrice :=
  reciprocalFigure_published h

/-- The inverse of nothing is nothing. -/
theorem eq_publishedZero_of_reciprocal {s : String}
    (h : reciprocalFigure publishedZero = .ok s) : s = publishedZero :=
  reciprocalFigure_published (p := .zero) h

/-- The inverse of the higher of two prices is the lower one. -/
theorem Order.readsAtMost_inversePrice {o o' : Order} (ho : 0 < o.price.ticks)
    (h : o.price.value ≤ o'.price.value) : ReadsAtMost o'.inversePrice o.inversePrice := by
  apply readsAtMost_tickText_iff.2
  exact Decimal.inverseUnits_le ho (Decimal.ticks_le_ticks h)

/-! ## Orders -/

namespace BookEntry

/-- The price of an inverse entry is the reciprocal of its price. -/
theorem price_of_inverse {e i : BookEntry} (h : e.inverse = .ok i) :
    reciprocalFigure e.price = .ok i.price := by
  simp only [inverse, Run.bind_ok_iff, Run.pure_eq_ok, Except.ok.injEq] at h
  obtain ⟨p, hp, _, -, x, hx, _, -, f, hf, _, -, rfl⟩ := h
  unfold reciprocalFigure
  rw [hp, Run.ok_bind, hx, Run.ok_bind]
  exact hf

/-- The orders of an inverse are at the inverse prices, in the order of the orders. -/
theorem prices_of_inverses {os : List Order} {is : List BookEntry}
    (h : inverses (os.map published) = .ok is) : is.map (·.price) = os.map Order.inversePrice := by
  induction os generalizing is with
  | nil =>
    cases h
    rfl
  | cons o os ih =>
    simp only [List.map_cons, inverses, Run.bind_ok_iff, Run.pure_eq_ok, Except.ok.injEq] at h
    obtain ⟨i, hi, rest, hrest, rfl⟩ := h
    have hread : reciprocalFigure (published o).price = .ok i.price := price_of_inverse hi
    have hprice : i.price = o.inversePrice := Order.eq_inversePrice hread
    rw [List.map_cons, List.map_cons, ih hrest, hprice]

/-- Orders at the prices of a sorted list are sorted. -/
theorem pairwise_of_prices {R : String → String → Prop} {is : List BookEntry} {os : List Order}
    (h : is.map (·.price) = os.map Order.inversePrice)
    (hos : os.Pairwise fun o o' => R o.inversePrice o'.inversePrice) :
    is.Pairwise fun e e' => R e.price e'.price := by
  have hprices : (is.map (·.price)).Pairwise R := by
    rw [h, List.pairwise_map]
    exact hos
  exact List.pairwise_map.1 hprices

end BookEntry

namespace Orderbook

/-- A book whose orders are by price, the best first, with the prices of the first ones. -/
structure IsOrderedBook (r : Orderbook) : Prop where
  /-- Bids are by descending price. -/
  bids : r.bids.Pairwise fun e e' => ReadsAtMost e'.price e.price
  /-- Asks are by ascending price. -/
  asks : r.asks.Pairwise fun e e' => ReadsAtMost e.price e'.price
  /-- The price of the first bid, or zero. -/
  highestBid : r.highestBid = (r.bids.head?.map (·.price)).getD publishedZero
  /-- The price of the first ask, or zero. -/
  lowestAsk : r.lowestAsk = (r.asks.head?.map (·.price)).getD publishedZero

/-- What the inverse of a book has of the book. -/
structure Turns (r i : Orderbook) : Prop where
  /-- There is a bid for each ask. -/
  bids : i.bids.length = r.asks.length
  /-- There is an ask for each bid. -/
  asks : i.asks.length = r.bids.length
  /-- What is asked for in the base is what was bid in the quote, and so on. -/
  totals : [i.totalAsksBase, i.totalAsksQuote, i.totalBidsBase, i.totalBidsQuote]
    = [r.totalBidsQuote, r.totalBidsBase, r.totalAsksQuote, r.totalAsksBase]
  /-- The same in dollars. -/
  usd : [i.totalAsksBaseUsd, i.totalBidsQuoteUsd] = [r.totalBidsQuoteUsd, r.totalAsksBaseUsd]
  /-- Both sides together offer the same. -/
  liquidity : i.liquidityUsd = r.liquidityUsd
  /-- The sides do not overlap if they did not. -/
  uncrossed : r.bids ≠ [] → r.asks ≠ [] → ReadsAtMost r.highestBid r.lowestAsk →
    ReadsAtMost i.highestBid i.lowestAsk

variable {c : Catalogue} {base quote : String} {asks bids : List Order} {r i : Orderbook}

section Sides

variable {le : ℚ → ℚ → Prop} {os : List Order} {es is : List BookEntry} {best best' : String}

/-- A side of a book as its inverse shows it: the orders of some sorted list, at inverse prices. -/
theorem IsSideOf.inverse (h : IsSideOf le os es best) (his : BookEntry.inverses es = .ok is)
    (hbest : reciprocalFigure best = .ok best') :
    ∃ sorted, Order.IsSorting le os sorted ∧ is.map (·.price) = sorted.map Order.inversePrice ∧
      is.length = es.length ∧ best' = (is.head?.map (·.price)).getD publishedZero := by
  obtain ⟨sorted, hsorted, rfl⟩ := h.listed
  have hprices := BookEntry.prices_of_inverses his
  refine ⟨sorted, hsorted, hprices, ?_, ?_⟩
  · have hlength := congrArg List.length hprices
    rw [List.length_map, List.length_map] at hlength
    rw [hlength, List.length_map]
  · rw [← List.head?_map, hprices]
    have hfirst := h.first
    cases sorted with
    | nil =>
      have hzero : best = publishedZero := hfirst
      rw [hzero] at hbest
      exact eq_publishedZero_of_reciprocal hbest
    | cons o rest =>
      have hprice : best = o.price.published := hfirst
      rw [hprice] at hbest
      exact Order.eq_inversePrice hbest

end Sides

/-- The inverse of a book has best prices, totals and dollars exchanged, and the same liquidity. -/
theorem figures_of_inverse (h : r.inverse = .ok i) :
    reciprocalFigure r.lowestAsk = .ok i.highestBid ∧
      reciprocalFigure r.highestBid = .ok i.lowestAsk ∧
      [i.totalAsksBase, i.totalAsksQuote, i.totalBidsBase, i.totalBidsQuote]
        = [r.totalBidsQuote, r.totalBidsBase, r.totalAsksQuote, r.totalAsksBase] ∧
      [i.totalAsksBaseUsd, i.totalBidsQuoteUsd] = [r.totalBidsQuoteUsd, r.totalAsksBaseUsd] ∧
      i.liquidityUsd = r.liquidityUsd := by
  simp only [inverse, Run.bind_ok_iff, Run.pure_eq_ok, Except.ok.injEq] at h
  obtain ⟨_, -, _, -, _, -, _, -, _, -, _, -, _, -, f₁, h₁, f₂, h₂, _, -, _, -, _, -, rfl⟩ := h
  exact ⟨h₁, h₂, rfl, rfl, rfl⟩

/-- The inverse of a book of prices that are not rounded to zero is in order, and turns the book
round. -/
theorem IsMadeOf.inverse (h : r.IsMadeOf c base quote asks bids)
    (ha : ∀ o ∈ asks, 0 < o.price.ticks) (hb : ∀ o ∈ bids, 0 < o.price.ticks)
    (hi : r.inverse = .ok i) : i.IsOrderedBook ∧ r.Turns i := by
  obtain ⟨hbids, hasks⟩ := orders_of_inverse hi
  obtain ⟨hhighest, hlowest, htotals, husd, hliquidity⟩ := figures_of_inverse hi
  obtain ⟨A, hA, hAprices, hAlength, hAbest⟩ := h.asksListed.inverse hbids hhighest
  obtain ⟨B, hB, hBprices, hBlength, hBbest⟩ := h.bidsListed.inverse hasks hlowest
  refine ⟨⟨?bids, ?asks, hAbest, hBbest⟩,
    ⟨hAlength, hBlength, htotals, husd, hliquidity, fun hbne hane hcross => ?uncrossed⟩⟩
  case bids =>
    apply BookEntry.pairwise_of_prices (R := fun s t => ReadsAtMost t s) hAprices
    refine hA.pairwise.imp_of_mem fun {o o'} ho _ hle => ?_
    exact Order.readsAtMost_inversePrice (ha o (hA.perm.mem_iff.1 ho)) hle
  case asks =>
    apply BookEntry.pairwise_of_prices (R := ReadsAtMost) hBprices
    refine hB.pairwise.imp_of_mem fun {o o'} _ ho' hle => ?_
    exact Order.readsAtMost_inversePrice (hb o' (hB.perm.mem_iff.1 ho')) hle
  case uncrossed =>
    have hasks : asks ≠ [] := by
      rintro rfl
      exact hane h.asksListed.nil.1
    have hbids : bids ≠ [] := by
      rintro rfl
      exact hbne h.bidsListed.nil.1
    obtain ⟨o, -, hask, -⟩ := h.asksListed.extreme hasks
    obtain ⟨o', ho', hbid, -⟩ := h.bidsListed.extreme hbids
    rw [hbid, hask, readsAtMost_published_iff] at hcross
    rw [hask] at hhighest
    rw [hbid] at hlowest
    rw [Order.eq_inversePrice hhighest, Order.eq_inversePrice hlowest]
    exact readsAtMost_tickText_iff.2 (Decimal.inverseUnits_le (hb o' ho') hcross)

end Orderbook

/-- Every order is read from a quoted one. -/
theorem Order.exists_reads_of_mem {qs : List QuotedOrder} {os : List Order}
    (h : List.Forall₂ QuotedOrder.Reads qs os) {o : Order} (ho : o ∈ os) :
    ∃ q ∈ qs, q.Reads o := by
  induction h with
  | nil => cases ho
  | cons hq _ ih =>
    rcases List.mem_cons.1 ho with rfl | ho
    · exact ⟨_, List.mem_cons_self, hq⟩
    · obtain ⟨q, hmem, hreads⟩ := ih ho
      exact ⟨q, List.mem_cons_of_mem _ hmem, hreads⟩

/-- **The inverse of an orderbook** whose prices are all at least one unit of the last place is an
orderbook again: all figures are published, orders are by price, the best first, and the best prices
are those of the first orders. It has a bid for each ask and an ask for each bid, every total is
that of the other side, and it is not crossed if the book is not. No fault is found in making it,
and it is made if the figures of the book are short, as those of numbers that can be written are. -/
theorem book_inverted (c : Catalogue) (base quote : String) (book : QuotedBook)
    (f : Orderbook.Figures) (now : Int) (hf : f.IsSound)
    (hprices : ∀ q ∈ book.asks ++ book.bids, ∀ d, q.price.CountsAs d → 1 / 10 ^ 10 ≤ d.value) :
    (∀ r, Orderbook.project c base quote book f now = .ok r → CanBeInverted r ∧
      ∀ i, r.inverse = .ok i → IsFigured i ∧ i.IsOrderedBook ∧ r.Turns i) ∧
    ((∀ t, (c.usdPrice t).Within greatestPlaces) → book.IsSized → f.IsShort →
      (∀ q ∈ book.asks ++ book.bids, ∀ v ∈ q.values, ∃ d, v.CountsAs d) →
        ∃ r i, Orderbook.project c base quote book f now = .ok r ∧ r.inverse = .ok i) := by
  have hgives : ∀ r, Orderbook.project c base quote book f now = .ok r →
      Run.Gives (IsShort r) IsFigured r.inverse := fun r hr =>
    Orderbook.gives_inverse (Orderbook.isSound_of_project hf hr).published
  refine ⟨fun r hr => ⟨⟨(hgives r hr).faultless, (hgives r hr).value⟩, fun i hi => ?_⟩,
    fun hc hsized hshort hread => ?_⟩
  · obtain ⟨asks, bids, hasks, hbids, hmade⟩ := Orderbook.isMadeOf_of_project hr
    have hpos : ∀ {qs os}, Order.ofQuotes qs = .ok os → (∀ q ∈ qs, q ∈ book.asks ++ book.bids) →
        ∀ o ∈ os, 0 < o.price.ticks := by
      intro qs os hos hmem o ho
      obtain ⟨q, hq, hreads⟩ := Order.exists_reads_of_mem (Order.ofQuotes_ok_iff.1 hos) ho
      exact Decimal.ticks_pos (hprices q (hmem q hq) _ hreads.price)
    refine ⟨(hgives r hr).post i hi, hmade.inverse ?_ ?_ hi⟩
    · exact hpos hasks fun q hq => List.mem_append_left _ hq
    · exact hpos hbids fun q hq => List.mem_append_right _ hq
  · exact Orderbook.exists_inverse_of_project hc hsized (QuotedBook.isReadable_iff.2 hread) hf
      hshort

/-- No price of the book is rounded to zero. -/
theorem QuarterPriced.unit_le_price :
    ∀ q ∈ book.asks ++ book.bids, ∀ d, q.price.CountsAs d → 1 / 10 ^ 10 ≤ d.value := by
  have hread : ∀ q ∈ book.asks ++ book.bids,
      ∃ d ∈ [⟨2, 0⟩, ⟨1, 0⟩, (⟨5, 1⟩ : Decimal)], q.price.amount = .ok d := by
    intro q hq
    simp only [book, List.cons_append, List.nil_append, List.mem_cons, List.not_mem_nil,
      or_false] at hq
    rcases hq with rfl | rfl | rfl
    · exact ⟨⟨2, 0⟩, by simp, rfl⟩
    · exact ⟨⟨1, 0⟩, by simp, rfl⟩
    · exact ⟨⟨5, 1⟩, by simp, rfl⟩
  intro q hq d hd
  obtain ⟨d', hmem, hd'⟩ := hread q hq
  cases (Json.amount_ok_iff.2 hd).symm.trans hd'
  simp only [List.mem_cons, List.not_mem_nil, or_false] at hmem
  rcases hmem with rfl | rfl | rfl
  all_goals norm_num [Decimal.value]

open QuarterPriced in
/-- The inverse of a book with an ask at one and a bid at a half. -/
theorem book_inverted_dearFirst : noFigures.IsSound ∧
    (∀ q ∈ book.asks ++ book.bids, ∀ d, q.price.CountsAs d → 1 / 10 ^ 10 ≤ d.value) ∧
      ∃ r i, Orderbook.project catalogue "KMD" "LTC" book noFigures 0 = .ok r ∧
        r.inverse = .ok i ∧ i.IsOrderedBook ∧ r.Turns i ∧ i.bids.length = 2 ∧
          ReadsAtMost i.highestBid i.lowestAsk := by
  have hfigures : noFigures.IsSound := ⟨nofun, nofun⟩
  obtain ⟨hall, hbuilt⟩ :=
    book_inverted catalogue "KMD" "LTC" book noFigures 0 hfigures unit_le_price
  obtain ⟨r, i, hr, hi⟩ := hbuilt within_usdPrice isSized_book ⟨nofun, nofun⟩
    (QuotedBook.isReadable_iff.1 isReadable_book)
  obtain ⟨-, hordered, hturns⟩ := (hall r hr).2 i hi
  obtain ⟨as, bs, ha, hb, hmade⟩ := Orderbook.isMadeOf_of_project hr
  cases ofQuotes_asks.symm.trans ha
  cases ofQuotes_bids.symm.trans hb
  have hasks := hmade.asksListed.length_eq
  have hbids := hmade.bidsListed.length_eq
  refine ⟨hfigures, unit_le_price, r, i, hr, hi, hordered, hturns, hturns.bids.trans hasks, ?_⟩
  apply hturns.uncrossed
  · exact List.ne_nil_of_length_pos (by rw [hbids]; decide)
  · exact List.ne_nil_of_length_pos (by rw [hasks]; decide)
  · obtain ⟨o, ho, hask, -⟩ := hmade.asksListed.extreme (by decide)
    obtain ⟨o', ho', hbid, -⟩ := hmade.bidsListed.extreme (by decide)
    rw [hask, hbid, readsAtMost_published_iff]
    have hsmall : ∀ o' ∈ bids, ∀ o ∈ asks, o'.price.ticks ≤ o.price.ticks := by decide +kernel
    exact hsmall o' ho' o ho

end SwapMarket
