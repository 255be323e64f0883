import SwapMarket.Proofs.Market.Counts
import SwapMarket.Proofs.Market.ExactFigures
import SwapMarket.Proofs.Market.Faultless
import SwapMarket.Proofs.Market.ProjectedBook

/-!
# The last trades of all markets

Of each market between tradable coins that has a contributing swap, whichever way it went, there is
one record, under the identifier of the market in the orientation of the catalogue; and as long as
no ticker has an underscore, no two markets meet under one identifier. The record tells
(**`LastTrade.Tells`**) of the swap of the market that was completed last (**`IsLatestOf`**), as a
trade of that market.

Main statement: `last_trades_found`. Nothing is found of any market if the price of the last trade
of one of them leaves its range (`last_trades_found_unless_priced`).
-/

namespace SwapMarket

variable {c : Catalogue} {ss us : List Swap} {t : Table LastTrade} {m : String × String}
  {k : String} {s w : Swap} {r : LastTrade}

open Decimal (IsTenPlaceForm isTenPlaceForm_of_figure)

/-! ## The record of a swap -/

namespace LastTrade

/-- A record tells of a swap as a trade of a market. -/
structure Tells (c : Catalogue) (m : String × String) (w : Swap) (r : LastTrade) : Prop where
  /-- The record has the identifier of the market. -/
  tickerId : r.tickerId = Pair.ofSides m
  /-- It has the base of the market. -/
  base : r.base = m.1
  /-- It has the quote. -/
  quote : r.quote = m.2
  /-- The time is that of the swap. -/
  swapTime : r.swapTime = w.finishedAt
  /-- The identifier is that of the swap. -/
  swapUuid : r.swapUuid = w.uuid
  /-- The side is the one on which the maker of the swap gives the base. -/
  side : r.side = (w.sideIn m.1 m.2).text
  /-- The amount of the base is written with ten places. -/
  baseAmount : IsTenPlaceForm (w.seenFrom m.1 m.2).makerAmount.value r.baseAmount
  /-- The amount of the quote is written with ten places. -/
  quoteAmount : IsTenPlaceForm (w.seenFrom m.1 m.2).takerAmount.value r.quoteAmount
  /-- The price is written with ten places. -/
  price : IsTenPlaceForm (w.tradeIn m.1 m.2).price.value r.price
  /-- Before that, it is what is given of the quote for one of the base, up to one part in
  `10 ^ 99`. -/
  quotient : |(w.tradeIn m.1 m.2).price.value * (w.seenFrom m.1 m.2).makerAmount.value
      - (w.seenFrom m.1 m.2).takerAmount.value|
        ≤ (w.seenFrom m.1 m.2).takerAmount.value / 10 ^ 99
  /-- The market is priced if the dollar prices of both coins are known. -/
  priced : r.priced = (!(c.usdPrice m.1).isZero && !(c.usdPrice m.2).isZero)

/-- A swap has a price in a market, and its numbers can be written. -/
structure CanBeMade (m : String × String) (w : Swap) : Prop where
  /-- The scale of the price is in range. -/
  hasPrice : (w.seenFrom m.1 m.2).hasPrice = true
  /-- The price can be written. -/
  price : ∃ f, (w.tradeIn m.1 m.2).price.figure = .ok f
  /-- The amount of the base can be written. -/
  base : ∃ f, (w.seenFrom m.1 m.2).makerAmount.figure = .ok f
  /-- The amount of the quote can be written. -/
  quote : ∃ f, (w.seenFrom m.1 m.2).takerAmount.figure = .ok f

/-- A swap that feeds a market is a trade of it, if it has a price. -/
theorem orient_of_feeds (hf : w.feeds m.1 m.2 = true) : w.orient m.1 m.2 =
    if (w.seenFrom m.1 m.2).hasPrice then .ok (some (w.tradeIn m.1 m.2))
    else .error .overflow := by
  rw [Swap.orient_eq, if_pos hf]
  split
  · next hp =>
    rw [Swap.ofSwap_seenFrom hp]
    rfl
  · next hp =>
    rw [Trade.ofSwap_of_not_hasPrice (Bool.eq_false_iff.2 hp)]
    rfl

/-- The record of a swap tells of it. -/
theorem tells_of_ofSwap (hf : w.feeds m.1 m.2 = true) (h : ofSwap c m.1 m.2 w = .ok r) :
    r.Tells c m w := by
  unfold ofSwap at h
  rw [orient_of_feeds hf] at h
  obtain ⟨t, ht, h⟩ := Run.bind_ok_iff.1 h
  split at ht
  · cases ht
    simp only [Run.bind_ok_iff, Run.pure_eq_ok, Except.ok.injEq] at h
    obtain ⟨p, hp, b, hb, q, hq, rfl⟩ := h
    have hpriced := Swap.isPriced_tradeIn hf
    exact ⟨rfl, rfl, rfl, rfl, rfl, rfl, isTenPlaceForm_of_figure hb, isTenPlaceForm_of_figure hq,
      isTenPlaceForm_of_figure hp, (Decimal.quotient_near hpriced.quote hpriced.base).2, rfl⟩
  · cases ht

/-- A swap has a record exactly if its numbers fit. -/
theorem exists_ofSwap_iff (hf : w.feeds m.1 m.2 = true) :
    (∃ r, ofSwap c m.1 m.2 w = .ok r) ↔ CanBeMade m w := by
  unfold ofSwap
  rw [orient_of_feeds hf]
  constructor
  · rintro ⟨r, h⟩
    obtain ⟨t, ht, h⟩ := Run.bind_ok_iff.1 h
    split at ht
    · next hprice =>
      cases ht
      simp only [Run.bind_ok_iff] at h
      obtain ⟨p, hp, b, hb, q, hq, -⟩ := h
      exact ⟨hprice, ⟨p, hp⟩, ⟨b, hb⟩, ⟨q, hq⟩⟩
    · cases ht
  · rintro ⟨hprice, ⟨p, hp⟩, ⟨b, hb⟩, ⟨q, hq⟩⟩
    rw [if_pos hprice]
    have hb' : (w.tradeIn m.1 m.2).baseAmount.figure = .ok b := hb
    have hq' : (w.tradeIn m.1 m.2).quoteAmount.figure = .ok q := hq
    simp only [Run.ok_bind, hp, hb', hq', Run.pure_eq_ok]
    exact ⟨_, rfl⟩

end LastTrade

/-! ## The latest swap of a market -/

/-- A swap is the latest of a market, and of those that agree with it in time and identifier the
first one. -/
abbrev IsLatestOf (c : Catalogue) (m : String × String) (ss : List Swap) (w : Swap) : Prop :=
  IsFirstGreatest Swap.notAfter (fun s => s.market c == m) (tradableSwaps c ss) w

/-- The latest swap of a market is of that market. -/
theorem IsLatestOf.market_eq (h : IsLatestOf c m ss w) : w.market c = m := beq_iff_eq.1 h.holds

/-- The latest swap of a market feeds it. -/
theorem IsLatestOf.feeds (h : IsLatestOf c m ss w) : w.feeds m.1 m.2 = true := by
  have horiented : c.orientation m.1 m.2 = m := by
    rw [← h.market_eq]
    exact c.orientation_orientation w.makerCoin w.takerCoin
  rw [Swap.feeds_eq horiented, (Swap.mem_tradableSwaps.1 h.mem).2.1, Bool.true_and]
  exact h.holds

/-- If no ticker has an underscore, a swap is of the market of another one exactly if it has its
identifier. -/
theorem Swap.marketId_eq_iff (hc : c.HasPlainTickers)
    (hs : c.bothTradable s.makerCoin s.takerCoin = true)
    (hw : c.bothTradable w.makerCoin w.takerCoin = true) :
    w.marketId c = s.marketId c ↔ w.market c = s.market c := by
  constructor
  · intro he
    obtain ⟨hb, hq⟩ := Pair.join_inj (Swap.isSide_market hc hw) (Swap.isSide_market hc hs) he
    exact Prod.ext hb hq
  · intro he
    unfold Swap.marketId
    rw [he]

/-- What is noted under the identifier of a market is the latest swap of the market. -/
theorem isLastOn_iff (hc : c.HasPlainTickers)
    (hs : c.bothTradable s.makerCoin s.takerCoin = true) :
    IsLastOn c (s.marketId c) ss w ↔ IsLatestOf c (s.market c) ss w := by
  have hkind : Swap.countsFor c (s.marketId c) = fun x : Swap =>
      (x.contributes && c.bothTradable x.makerCoin x.takerCoin) && x.market c == s.market c := by
    funext x
    unfold Swap.countsFor Swap.isOn
    rw [Bool.and_assoc]
    cases hx : c.bothTradable x.makerCoin x.takerCoin with
    | false => rfl
    | true =>
      congr 2
      rw [Bool.eq_iff_iff, beq_iff_eq, beq_iff_eq]
      exact Swap.marketId_eq_iff hc hs hx
  unfold IsLastOn IsLatestOf tradableSwaps
  rw [IsFirstGreatest.filter_iff, hkind]

/-- The entries of the latest swaps, one for each market. -/
theorem find?_latestSwaps_iff (hc : c.HasPlainTickers) {e : (String × String) × Swap} :
    (latestSwaps c ss).find? k = some e ↔
      e.1 = e.2.market c ∧ k = Pair.ofSides e.1 ∧ IsLatestOf c e.1 ss e.2 := by
  rw [find?_latestSwaps]
  constructor
  · rintro ⟨w, rfl, hw⟩
    have hcounts := hw.holds
    unfold Swap.countsFor Swap.isOn at hcounts
    simp only [Bool.and_eq_true, beq_iff_eq] at hcounts
    obtain ⟨-, htradable, rfl⟩ := hcounts
    exact ⟨rfl, rfl, (isLastOn_iff hc htradable).1 hw⟩
  · obtain ⟨m, w⟩ := e
    rintro ⟨hm, rfl, hw⟩
    obtain rfl : m = w.market c := hm
    exact ⟨w, rfl, (isLastOn_iff hc (Swap.mem_tradableSwaps.1 hw.mem).2.2).2 hw⟩

/-- Each market in which a swap counts has a latest swap. -/
theorem exists_isLatestOf (hs : s ∈ tradableSwaps c ss) :
    ∃ w, IsLatestOf c (s.market c) ss w :=
  exists_isFirstGreatest Swap.notAfter_trans Swap.notAfter_total ⟨s, hs, beq_self_eq_true _⟩

/-- Whatever the order of the swaps, a market has the same latest swap, if no two of its swaps agree
in time and identifier. -/
theorem IsLatestOf.of_perm (hp : us.Perm ss)
    (hkeys : ((tradableSwaps c ss).map fun s => (s.market c, s.finishedAt, s.uuid)).Nodup)
    (h : IsLatestOf c m us w) : IsLatestOf c m ss w := by
  have hperm : (tradableSwaps c us).Perm (tradableSwaps c ss) := hp.filter _
  obtain ⟨v, hv⟩ : ∃ v, IsLatestOf c m ss v := by
    rw [← h.market_eq]
    exact exists_isLatestOf (hperm.mem_iff.1 h.mem)
  have hwv := hv.greatest w (hperm.mem_iff.1 h.mem) h.holds
  have hvw := h.greatest v (hperm.mem_iff.2 hv.mem) hv.holds
  obtain ⟨hf, hu⟩ := Swap.tied_notAfter.1 (tied_eq_true.2 ⟨hwv, hvw⟩)
  obtain rfl : w = v := by
    refine List.inj_on_of_nodup_map hkeys (hperm.mem_iff.1 h.mem) hv.mem ?_
    rw [h.market_eq, hv.market_eq, hf, hu]
  exact hv

/-- The order of the swaps does not show in the latest swaps. -/
theorem latestSwaps_of_perm (hc : c.HasPlainTickers) (hp : us.Perm ss)
    (hkeys : ((tradableSwaps c ss).map fun s => (s.market c, s.finishedAt, s.uuid)).Nodup) :
    latestSwaps c us = latestSwaps c ss := by
  have hperm : (tradableSwaps c us).Perm (tradableSwaps c ss) := hp.filter _
  have hkeys' := (hperm.map fun s => (s.market c, s.finishedAt, s.uuid)).nodup_iff.2 hkeys
  refine Table.ext_find? fun k => Option.ext fun e => ?_
  rw [find?_latestSwaps_iff hc, find?_latestSwaps_iff hc]
  refine and_congr_right fun _ => and_congr_right fun _ => ?_
  exact ⟨.of_perm hp hkeys, .of_perm hp.symm hkeys'⟩

/-! ## The last trades -/

/-- There are last trades exactly if the latest swap of each market fits. -/
theorem exists_lastTrades_iff (hc : c.HasPlainTickers) :
    (∃ t, lastTrades c ss = .ok t) ↔
      ∀ m w, IsLatestOf c m ss w → LastTrade.CanBeMade m w := by
  constructor
  · rintro ⟨t, ht⟩ m w hw
    have hfound : (latestSwaps c ss).find? (Pair.ofSides m) = some (m, w) :=
      (find?_latestSwaps_iff hc).2 ⟨hw.market_eq.symm, rfl, hw⟩
    obtain ⟨r, -, hr⟩ := Table.find?_traverse ht hfound
    exact (LastTrade.exists_ofSwap_iff hw.feeds).1 ⟨r, hr⟩
  · intro h
    refine Table.exists_traverse fun k e he => ?_
    obtain ⟨-, -, hw⟩ := (find?_latestSwaps_iff hc).1 he
    exact (LastTrade.exists_ofSwap_iff hw.feeds).2 (h _ _ hw)

/-- The record found under the identifier of a market tells of its latest swap. -/
theorem exists_tells (hc : c.HasPlainTickers) (ht : lastTrades c ss = .ok t)
    (hs : s ∈ tradableSwaps c ss) : ∃ w r, IsLatestOf c (s.market c) ss w ∧
      t.find? (Pair.ofSides (s.market c)) = some r ∧ r.Tells c (s.market c) w := by
  obtain ⟨w, hw⟩ := exists_isLatestOf hs
  have hfound : (latestSwaps c ss).find? (Pair.ofSides (s.market c)) = some (s.market c, w) :=
    (find?_latestSwaps_iff hc).2 ⟨hw.market_eq.symm, rfl, hw⟩
  obtain ⟨r, hr, hrec⟩ := Table.find?_traverse ht hfound
  exact ⟨w, r, hw, hr, LastTrade.tells_of_ofSwap hw.feeds hrec⟩

/-- **The last trades** of markets are found under their identifiers: a record for each market in
which a swap counts, and for no other, telling of the latest swap of the market, seen in its
orientation. No latest swap is of another market than its own, and the order of the swaps does not
show, as long as no two swaps of a market agree in time and identifier. There are last trades
exactly if the latest swap of each market has a price and can be written, as swaps of amounts that
can be written do. -/
theorem last_trades_found (c : Catalogue) (hc : c.HasPlainTickers) (ss : List Swap) :
    (∀ t, lastTrades c ss = .ok t →
      (∀ k, (t.find? k).isSome = true ↔
        ∃ s ∈ tradableSwaps c ss, k = Pair.ofSides (s.market c)) ∧
      ∀ s ∈ tradableSwaps c ss, ∃ w r, IsLatestOf c (s.market c) ss w ∧
        t.find? (Pair.ofSides (s.market c)) = some r ∧ r.Tells c (s.market c) w) ∧
      (∀ k e, (latestSwaps c ss).find? k = some e → e.2.orient e.1.1 e.1.2 ≠ .ok none) ∧
      (lastTrades c ss).Faultless ∧
      ((∃ t, lastTrades c ss = .ok t) ↔ ∀ m w, IsLatestOf c m ss w → LastTrade.CanBeMade m w) ∧
      ((∀ s ∈ ss, s.makerAmount.Within greatestPlaces ∧
          s.takerAmount.Within greatestPlaces) →
        ∃ t, lastTrades c ss = .ok t) ∧
      ∀ us : List Swap, us.Perm ss →
        ((tradableSwaps c ss).map fun s => (s.market c, s.finishedAt, s.uuid)).Nodup →
          lastTrades c us = lastTrades c ss := by
  refine ⟨fun t ht => ⟨fun k => ⟨?named, ?present⟩, fun s hs => exists_tells hc ht hs⟩,
    fun k e he => ?ownMarket, faultless_lastTrades c ss, exists_lastTrades_iff hc,
    fun h => ?sized, fun us hp hkeys => ?order⟩
  case named =>
    intro hk
    obtain ⟨r, hr⟩ := Option.isSome_iff_exists.1 hk
    obtain ⟨e, he, -⟩ := Table.find?_of_traverse ht hr
    obtain ⟨hm, rfl, hw⟩ := (find?_latestSwaps_iff hc).1 he
    exact ⟨e.2, hw.mem, by rw [hm]⟩
  case present =>
    rintro ⟨s, hs, rfl⟩
    obtain ⟨w, r, -, hr, -⟩ := exists_tells hc ht hs
    rw [hr]
    rfl
  case ownMarket =>
    obtain ⟨-, -, hw⟩ := (find?_latestSwaps_iff hc).1 he
    rw [LastTrade.orient_of_feeds hw.feeds]
    split
    · exact fun h => nomatch h
    · exact fun h => nomatch h
  case sized =>
    refine Table.exists_traverse fun k e he => ?_
    obtain ⟨-, -, hw⟩ := (find?_latestSwaps_iff hc).1 he
    obtain ⟨hm, ht⟩ := h e.2 (Swap.mem_tradableSwaps.1 hw.mem).1
    obtain ⟨r, hr, -⟩ := LastTrade.ofSwap_ok c e.1.1 e.1.2 hm ht
    exact ⟨r, hr⟩
  case order =>
    unfold lastTrades
    rw [latestSwaps_of_perm hc hp hkeys]

/-- Of two swaps that ended together, the one with the greater identifier is told of, from the side
of the coin with the lower market capitalization. -/
theorem last_trades_found_bothWays :
    onePriced.HasPlainTickers ∧
      (∀ s ∈ bothWays, s.makerAmount.Within greatestPlaces ∧
        s.takerAmount.Within greatestPlaces) ∧
      bothWays.reverse.Perm bothWays ∧
      ((tradableSwaps onePriced bothWays).map fun s =>
        (s.market onePriced, s.finishedAt, s.uuid)).Nodup ∧
      ∃ t r, lastTrades onePriced bothWays = .ok t ∧
        lastTrades onePriced bothWays.reverse = .ok t ∧ t.find? "LTC_KMD" = some r ∧
        r.swapUuid = "b" ∧ r.side = "sell" ∧ r.price = "4.0000000000" := by
  have hplain : onePriced.HasPlainTickers := by
    unfold Catalogue.HasPlainTickers
    decide
  have hsmall : ∀ s ∈ bothWays,
      s.makerAmount.Within greatestPlaces ∧ s.takerAmount.Within greatestPlaces := by
    intro s hs
    obtain ⟨hm, ht⟩ := within_one_bothWays s hs
    exact ⟨hm.mono (by decide), ht.mono (by decide)⟩
  have hkeys : ((tradableSwaps onePriced bothWays).map fun s =>
      (s.market onePriced, s.finishedAt, s.uuid)).Nodup := by decide +kernel
  obtain ⟨hall, -, -, -, hfound, horder⟩ := last_trades_found onePriced hplain bothWays
  obtain ⟨t, ht⟩ := hfound hsmall
  let b : Swap := ⟨"b", "KMD", "LTC", ⟨8, 0⟩, ⟨2, 0⟩, 3, 5, true⟩
  have hmarket : b.market onePriced = ("LTC", "KMD") := by decide +kernel
  have hlatest : IsLatestOf onePriced ("LTC", "KMD") bothWays b :=
    ⟨by decide +kernel, by decide +kernel⟩
  obtain ⟨w, r, hw, hr, htells⟩ := (hall t ht).2 b hlatest.mem
  rw [hmarket] at hw hr htells
  obtain rfl : w = b := hw.unique Swap.notAfter_trans hlatest
  refine ⟨hplain, hsmall, List.reverse_perm _, hkeys, t, r, ht,
    (horder _ (List.reverse_perm _) hkeys).trans ht, hr, htells.swapUuid, htells.side, ?_⟩
  rw [htells.price.unique (Decimal.isTenPlaceForm_published _)]
  decide +kernel

/-- Two coins without dollar prices. -/
def priceless : Catalogue :=
  ⟨.ofList [("KMD", ⟨"KMD", none, "UTXO", false, false, false, none, .zero, .zero⟩),
    ("LTC", ⟨"LTC", none, "UTXO", false, false, false, none, .zero, .zero⟩)]⟩

/-- The latest swap of the market has no price, and so there are no last trades at all. -/
theorem lastTrades_unpricedSwap : lastTrades priceless [unpricedSwap] = .error .overflow := by
  have hmarket : unpricedSwap.market priceless = ("KMD", "LTC") := by decide +kernel
  have hnone : LastTrade.ofSwap priceless "KMD" "LTC" unpricedSwap = .error .overflow := by
    unfold LastTrade.ofSwap
    rw [LastTrade.orient_of_feeds (m := ("KMD", "LTC")) (by decide), if_neg (by decide +kernel)]
    rfl
  cases h : lastTrades priceless [unpricedSwap] with
  | ok t =>
    have hfound : (latestSwaps priceless [unpricedSwap]).find? "KMD_LTC"
        = some (("KMD", "LTC"), unpricedSwap) := by decide +kernel
    obtain ⟨r, -, hr⟩ := Table.find?_traverse h hfound
    exact nomatch hnone.symm.trans hr
  | error e =>
    obtain ⟨k, v, hv, he⟩ := Table.exists_of_traverse_error h
    obtain ⟨w, rfl, hw⟩ := find?_latestSwaps.1 hv
    obtain rfl : w = unpricedSwap := List.mem_singleton.1 hw.mem
    rw [hmarket] at he
    rw [Except.error.inj (he.symm.trans hnone)]

/-- If the latest swap of a market has no price there are no last trades, although the swap
counts. -/
theorem last_trades_found_unless_priced :
    unpricedSwap ∈ tradableSwaps priceless [unpricedSwap] ∧
      Pair.ofSides (unpricedSwap.market priceless) = "KMD_LTC" ∧
      lastTrades priceless [unpricedSwap] = .error .overflow :=
  ⟨by decide +kernel, by decide +kernel, lastTrades_unpricedSwap⟩

end SwapMarket
