import SwapMarket.Proofs.Market.FlippedMarket

/-!
# Every swap is counted once

If no ticker has an underscore, the trades of the markets of the last trades are the swaps that
count, each of them in one market (**`CountsOnce`**), and with candidates among these markets the
summary counts the swaps of the candidates (**`CountsInSummary`**). Last trades, figures, prices and
volumes are there as long as the prices of the swaps, and the other numbers that are computed, have
scales in range; this is the only condition.

Main statement: `swaps_counted_once`.
-/

namespace SwapMarket

variable {c : Catalogue} {ss : List Swap} {t last : Table LastTrade} {ms : List (String × String)}

/-! ## Trades of all markets -/

/-- The trades of the markets of last trades are the swaps that count, each of them once. -/
structure CountsOnce (c : Catalogue) (ss : List Swap) (t : Table LastTrade) : Prop where
  /-- The markets have figures exactly if each swap that counts has a price in its market. -/
  found : (∀ r ∈ t.values, ∃ a, Aggregate.ofSwaps ss r.base r.quote = .ok a) ↔
    ∀ s ∈ tradableSwaps c ss, (s.seenFrom (s.market c).1 (s.market c).2).hasPrice = true
  /-- The numbers of their trades add up to the number of the swaps that count. -/
  sum : ∀ a : LastTrade → Aggregate,
    (∀ r ∈ t.values, Aggregate.ofSwaps ss r.base r.quote = .ok (a r)) →
      (t.values.map fun r => (a r).trades).sum = (tradableSwaps c ss).length
  /-- Each such swap is a trade of its own market, if it has a price there, and of no other. -/
  once : ∀ s ∈ tradableSwaps c ss, ∃ r ∈ t.values, r.sides = s.market c ∧
    s.orient r.base r.quote = (if (s.seenFrom r.base r.quote).hasPrice then
      .ok (some (s.tradeIn r.base r.quote)) else .error .overflow) ∧
    ∀ r' ∈ t.values, r' ≠ r → s.orient r'.base r'.quote = .ok none

/-- The swaps that count are counted once, if no ticker has an underscore. -/
theorem countsOnce_of_lastTrades (hc : c.HasPlainTickers) (ht : lastTrades c ss = .ok t) :
    CountsOnce c ss t := by
  refine ⟨exists_figures_iff hc ht, fun a ha => sum_trades_lastTrades hc ht ha, fun s hs => ?_⟩
  obtain ⟨r, hr, hsides, hf, hother⟩ := exists_fed_lastTrade hc ht hs
  exact ⟨r, hr, hsides, LastTrade.orient_of_feeds (m := r.sides) hf, hother⟩

/-! ## The summary -/

/-- The numbers of all records have scales in range, and the prices of all trades. -/
def DayPricesFit (c : Catalogue) (ms : List (String × String)) (ss : List Swap) : Prop :=
  ∀ m ∈ ms, ArePriced m.1 m.2 ss ∧
    ∀ a, Aggregate.ofSwaps ss m.1 m.2 = .ok a → DayPrices.ScalesFit c m.1 m.2 a

/-- Markets have prices of a day exactly if each of them has them. -/
theorem exists_dayPrices_iff :
    (∃ prices, dayPrices c ms ss = .ok prices) ↔ DayPricesFit c ms ss :=
  exists_recordTable_iff.trans (forall₂_congr fun _ _ => DayPrices.exists_ofSwaps_iff)

/-- With the markets `ms`, last trades, prices and volumes, the summary counts the swaps of these
markets. -/
structure CountsInSummary (c : Catalogue) (ss : List Swap) (last : Table LastTrade)
    (ms : List (String × String)) (now : Int) : Prop where
  /-- When there are prices of the day. -/
  pricesFound : (∃ prices, dayPrices c ms ss = .ok prices) ↔ DayPricesFit c ms ss
  /-- When there are volumes. -/
  volumesFound : (∃ vols, volumes c ms ss = .ok vols) ↔ VolumesFit c ms ss
  /-- If all books are projected from them, each swap of a market is counted once, unless there are
  more of them than 64 bits can count. -/
  counted : ∀ prices vols quoted books, dayPrices c ms ss = .ok prices →
    volumes c ms ss = .ok vols →
    projectedBooks c ms quoted (viewsOf prices vols last) now = .ok books →
    let counted := (tradableSwaps c ss).countP fun s => ms.contains (s.market c)
    (∀ s, Summary.ofBooks books last now = .ok s → s.swapsCount = counted) ∧
      (counted < 2 ^ 64 → ∃ s, Summary.ofBooks books last now = .ok s) ∧
      (2 ^ 64 ≤ counted → Summary.ofBooks books last now = .error .overflow)
  /-- Numbers that can be written keep nothing of this from being found. -/
  sized : SizedData c ss → ∀ quoted : String → String → QuotedBook,
    (∀ m ∈ ms, (quoted m.1 m.2).IsReadable ∧ (quoted m.1 m.2).IsSized) →
    ∃ prices vols books, dayPrices c ms ss = .ok prices ∧
      volumes c ms ss = .ok vols ∧
      projectedBooks c ms quoted (viewsOf prices vols last) now = .ok books

/-- Candidates that are markets of last trades have their swaps counted in the summary. -/
theorem countsInSummary_of_candidates (hc : c.HasPlainTickers) {history : List Swap}
    {now days : Int} (hlast : lastTrades c history = .ok last)
    (hms : candidates last c now days = .ok ms) : CountsInSummary c ss last ms now := by
  refine ⟨exists_dayPrices_iff, exists_volumes_iff,
    fun prices vols quoted books hp hv hb => ?counted, fun h quoted hquoted => ?sized⟩
  case counted =>
    have hcount := tradesIn_projectedBooks hc (isListing_candidates hlast hms) hv hb
    have hmade := Summary.ofBooks_of_isSound (isSound_projectedBooks hp hv hb)
      (isSound_of_lastTrades hlast) now
    rw [hcount] at hmade
    refine ⟨fun s hs => ?_, hmade⟩
    rw [← hcount]
    exact Summary.swapsCount_of_ofBooks hs
  case sized =>
    obtain ⟨prices, hp⟩ : ∃ prices, dayPrices c ms ss = .ok prices := by
      refine exists_recordTable_iff.2 fun m _ => ?_
      obtain ⟨r, hr, -⟩ := DayPrices.ofSwaps_ok h m.1 m.2
      exact ⟨r, hr⟩
    obtain ⟨vols, hv⟩ : ∃ vols, volumes c ms ss = .ok vols :=
      exists_recordTable_iff.2 fun m _ => Volume.ofSwaps_ok h m.1 m.2
    obtain ⟨books, hb⟩ : ∃ books,
        projectedBooks c ms quoted (viewsOf prices vols last) now = .ok books := by
      refine exists_recordTable_iff.2 fun m hm => ?_
      obtain ⟨hread, hsized⟩ := hquoted m hm
      obtain ⟨r, hr, -⟩ := Orderbook.project_ok h.usdPrice hsized hread
      exact ⟨r, hr⟩
    exact ⟨prices, vols, books, hp, hv, hb⟩

/-- **Every swap is counted once**, if no ticker has an underscore.

* There are last trades exactly if the latest swap of each market has a price and can be written.
  The trades of their markets are then the swaps that count, and each such swap is a trade of
  exactly one of these markets, provided that it has a price there.
* With candidates taken from last trades, the summary of their books counts the swaps of the
  candidates, each of them once, whenever all books can be projected.
* Numbers that can be written never keep the last trades, the figures of a market, or a trade from
  being found. -/
theorem swaps_counted_once (c : Catalogue) (hc : c.HasPlainTickers) (ss : List Swap) :
    ((∃ t, lastTrades c ss = .ok t) ↔ ∀ m w, IsLatestOf c m ss w → LastTrade.CanBeMade m w) ∧
      (∀ t, lastTrades c ss = .ok t → CountsOnce c ss t) ∧
      (∀ history last now days ms, lastTrades c history = .ok last →
        candidates last c now days = .ok ms → CountsInSummary c ss last ms now) ∧
      (SizedData c ss → (∃ t, lastTrades c ss = .ok t) ∧
        (∀ b q, ∃ a, Aggregate.ofSwaps ss b q = .ok a) ∧
        ∀ s ∈ ss, ∀ b q, ∃ o, s.orient b q = .ok o) := by
  refine ⟨exists_lastTrades_iff hc, fun t => countsOnce_of_lastTrades hc,
    fun history last now days ms => countsInSummary_of_candidates hc,
    fun h => ⟨lastTrades_ok h, fun b q => ?figures, fun s hs b q => ?trade⟩⟩
  case figures =>
    obtain ⟨a, ha, -⟩ := Aggregate.ofSwaps_ok h b q
    exact ⟨a, ha⟩
  case trade =>
    obtain ⟨o, ho, -⟩ := s.orient_ok (h.maker s hs) (h.taker s hs) b q
    exact ⟨o, ho⟩

/-- Two swaps that went opposite ways, in a market that is a candidate: both are counted, and the
summary of its empty book says so. -/
theorem swaps_counted_once_bothWays : onePriced.HasPlainTickers ∧ SizedData onePriced bothWays ∧
    ∃ t, lastTrades onePriced bothWays = .ok t ∧
      (∃ a : LastTrade → Aggregate,
        (∀ r ∈ t.values, Aggregate.ofSwaps bothWays r.base r.quote = .ok (a r)) ∧
          (t.values.map fun r => (a r).trades).sum = 2) ∧
      candidates t onePriced 10 1 = .ok [("LTC", "KMD")] ∧
      ∃ prices vols books s, dayPrices onePriced [("LTC", "KMD")] bothWays = .ok prices ∧
        volumes onePriced [("LTC", "KMD")] bothWays = .ok vols ∧
        projectedBooks onePriced [("LTC", "KMD")] (fun _ _ => .empty) (viewsOf prices vols t) 10
          = .ok books ∧
        Summary.ofBooks books t 10 = .ok s ∧ s.swapsCount = 2 := by
  have hplain : onePriced.HasPlainTickers := by
    unfold Catalogue.HasPlainTickers
    decide
  obtain ⟨-, honce, hsummary, hsized⟩ := swaps_counted_once onePriced hplain bothWays
  obtain ⟨⟨t, ht⟩, hfigures, -⟩ := hsized sizedData_bothWays
  choose a ha using hfigures
  have hsum := (honce t ht).sum (fun r => a r.base r.quote) fun r _ => ha r.base r.quote
  have hms : candidates t onePriced 10 1 = .ok [("LTC", "KMD")] := by
    have h : (lastTrades onePriced bothWays >>= fun t => candidates t onePriced 10 1).toOption
        = some [("LTC", "KMD")] := by decide +kernel
    rwa [ht, Run.ok_bind, Run.toOption_eq_some] at h
  have hin := hsummary bothWays t 10 1 _ ht hms
  obtain ⟨prices, vols, books, hp, hv, hb⟩ := hin.sized sizedData_bothWays (fun _ _ => .empty)
    fun _ _ => ⟨QuotedBook.isReadable_empty, QuotedBook.isSized_empty⟩
  obtain ⟨hcount, hmade, -⟩ := hin.counted prices vols _ books hp hv hb
  obtain ⟨s, hs⟩ := hmade (by decide +kernel)
  refine ⟨hplain, sizedData_bothWays, t, ht, ⟨_, fun r _ => ha r.base r.quote, hsum⟩, hms, prices,
    vols, books, s, hp, hv, hb, hs, (hcount s hs).trans (by decide +kernel)⟩

/-- A swap that counts and has no price is not counted: it is no trade of its market, there are no
figures of the market, and no last trades. -/
theorem swaps_counted_once_unless_priced : priceless.HasPlainTickers ∧
    (tradableSwaps priceless [unpricedSwap]).length = 1 ∧
    unpricedSwap.market priceless = ("KMD", "LTC") ∧
    lastTrades priceless [unpricedSwap] = .error .overflow ∧
    unpricedSwap.orient "KMD" "LTC" = .error .overflow ∧
    Aggregate.ofSwaps [unpricedSwap] "KMD" "LTC" = .error .overflow := by
  have hplain : priceless.HasPlainTickers := by
    unfold Catalogue.HasPlainTickers
    decide
  refine ⟨hplain, by decide +kernel, by decide +kernel, lastTrades_unpricedSwap, ?_, ?_⟩
  · rw [LastTrade.orient_of_feeds (m := ("KMD", "LTC")) (by decide), if_neg (by decide +kernel)]
  · exact Aggregate.ofSwaps_of_not_arePriced fun h =>
      absurd (h unpricedSwap List.mem_cons_self (by decide)) (by decide +kernel)

end SwapMarket
