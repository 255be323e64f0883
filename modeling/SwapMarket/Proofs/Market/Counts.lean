import SwapMarket.Proofs.Coin.Orientation
import SwapMarket.Proofs.Market.Candidates
import SwapMarket.Proofs.Market.OtherSide

/-!
# Every swap is counted once

A swap that counts feeds one market in one orientation, that of the catalogue. So in a list in which
markets stand once and in this orientation (**`IsListing`**), a swap feeds one market at most, and
the trades of all markets add up to the swaps of these markets (`IsListing.sum_feeds`).

The markets of the last trades are such a list (`isListing_lastTrades`), as long as no ticker has an
underscore, and so are the candidates among them (`isListing_candidates`). The count is carried on
through volumes and orderbooks to the summary (`tradesIn_projectedBooks`,
`Summary.swapsCount_of_ofBooks`).
-/

namespace SwapMarket

variable {c : Catalogue} {ss : List Swap} {ms : List (String × String)}

/-! ## Counting by classes -/

section Counting

variable {α β : Type}

/-- What one or the other of two tests counts, if no element passes both. -/
theorem countP_or_of_disjoint {p q : α → Bool} (h : ∀ x, p x = true → q x = false) (xs : List α) :
    xs.countP (fun x => p x || q x) = xs.countP p + xs.countP q := by
  induction xs with
  | nil => rfl
  | cons x xs ih =>
    rw [List.countP_cons, List.countP_cons, List.countP_cons, ih]
    cases hp : p x with
    | true =>
      rw [h x hp]
      simp only [Bool.true_or, if_pos, Bool.false_eq_true, if_false]
      omega
    | false =>
      simp only [Bool.false_or, Bool.false_eq_true, if_false]
      omega

/-- Of classes that are named once each, counting class by class counts what is in some class. -/
theorem sum_countP_class [BEq β] [LawfulBEq β] {ks : List β} (h : ks.Nodup) (p : α → Bool)
    (f : α → β) (xs : List α) :
    (ks.map fun k => xs.countP fun x => p x && f x == k).sum
      = xs.countP fun x => p x && ks.contains (f x) := by
  induction ks with
  | nil => simp
  | cons k ks ih =>
    obtain ⟨hk, hks⟩ := List.nodup_cons.1 h
    have hdisjoint : ∀ x, (p x && f x == k) = true → (p x && ks.contains (f x)) = false := by
      intro x hx
      have hf : f x = k := beq_iff_eq.1 (Bool.and_eq_true_iff.1 hx).2
      rw [hf, List.contains_eq_mem, decide_eq_false hk, Bool.and_false]
    rw [List.map_cons, List.sum_cons, ih hks, ← countP_or_of_disjoint hdisjoint]
    simp only [List.contains_cons, Bool.and_or_distrib_left]

end Counting

/-! ## Swaps and their market -/

namespace Swap

/-- The swaps that count are those that contribute, of two tradable coins. -/
theorem mem_tradableSwaps {s : Swap} : s ∈ tradableSwaps c ss ↔
    s ∈ ss ∧ s.contributes = true ∧ c.bothTradable s.makerCoin s.takerCoin = true := by
  rw [tradableSwaps, List.mem_filter, Bool.and_eq_true]

/-- In the orientation of the catalogue, a market is fed by the contributing swaps whose market it
is. -/
theorem feeds_eq {m : String × String} (hm : c.orientation m.1 m.2 = m) (s : Swap) :
    s.feeds m.1 m.2 = (s.contributes && s.market c == m) := by
  have hbetween : s.isBetween m.1 m.2 = (s.market c == m) := by
    rw [Bool.eq_iff_iff, isBetween_iff, beq_iff_eq]
    unfold market
    constructor
    · rintro (⟨h₁, h₂⟩ | ⟨h₁, h₂⟩)
      · rw [h₁, h₂, hm]
      · rw [h₁, h₂, Catalogue.orientation_comm, hm]
    · intro h
      rcases c.orientation_cases s.makerCoin s.takerCoin with ho | ho
      · exact .inl (Prod.mk.inj (ho.symm.trans h))
      · exact .inr (And.symm (Prod.mk.inj (ho.symm.trans h)))
  rw [feeds, hbetween]

/-- Whether both coins can be traded does not hang on their order. -/
theorem bothTradable_comm (a b : String) : c.bothTradable a b = c.bothTradable b a :=
  Bool.and_comm _ _

/-- A swap has the coins of its market. -/
theorem bothTradable_market (s : Swap) :
    c.bothTradable (s.market c).1 (s.market c).2 = c.bothTradable s.makerCoin s.takerCoin := by
  unfold market
  rcases c.orientation_cases s.makerCoin s.takerCoin with ho | ho
  · rw [ho]
  · rw [ho, bothTradable_comm]

end Swap

/-! ## Lists of markets -/

/-- Markets of tradable coins, each of them once and in the orientation of the catalogue. -/
structure IsListing (c : Catalogue) (ms : List (String × String)) : Prop where
  /-- No market is there twice. -/
  nodup : ms.Nodup
  /-- Each market is in the orientation of the catalogue. -/
  oriented : ∀ m ∈ ms, c.orientation m.1 m.2 = m
  /-- The coins of each market can be traded. -/
  tradable : ∀ m ∈ ms, c.bothTradable m.1 m.2 = true

/-- Some of the markets of a listing are a listing. -/
theorem IsListing.sublist {ms' : List (String × String)} (h : IsListing c ms)
    (hs : ms'.Sublist ms) : IsListing c ms' :=
  ⟨h.nodup.sublist hs, fun m hm => h.oriented m (hs.subset hm),
    fun m hm => h.tradable m (hs.subset hm)⟩

/-- What feeds the markets of a list, market by market, are the swaps whose market is in it. -/
theorem IsListing.sum_feeds (h : IsListing c ms) (ss : List Swap) :
    (ms.map fun m => ss.countP (Swap.feeds m.1 m.2)).sum
      = (tradableSwaps c ss).countP fun s => ms.contains (s.market c) := by
  have hclass : ∀ m ∈ ms, ss.countP (Swap.feeds m.1 m.2)
      = ss.countP fun s => s.contributes && s.market c == m := by
    intro m hm
    exact congrArg (fun p => ss.countP p) (funext (Swap.feeds_eq (h.oriented m hm)))
  rw [List.map_congr_left hclass, sum_countP_class h.nodup]
  unfold tradableSwaps
  rw [List.countP_filter]
  refine List.countP_congr fun s _ => ?_
  simp only [Bool.and_eq_true, List.contains_iff_mem]
  constructor
  · rintro ⟨hc, hm⟩
    refine ⟨hm, hc, ?_⟩
    rw [← Swap.bothTradable_market]
    exact h.tradable _ hm
  · rintro ⟨hm, hc, -⟩
    exact ⟨hc, hm⟩

/-! ## Markets of last trades -/

/-- The last trade that is made of a swap names the market that was asked for. -/
theorem LastTrade.sides_of_ofSwap {b q : String} {s : Swap} {r : LastTrade}
    (h : LastTrade.ofSwap c b q s = .ok r) : r.sides = (b, q) := by
  unfold LastTrade.ofSwap at h
  obtain ⟨t, -, h⟩ := Run.bind_ok_iff.1 h
  cases t with
  | none =>
    cases h
    rfl
  | some t =>
    simp only [Run.bind_ok_iff, Run.pure_eq_ok, Except.ok.injEq] at h
    obtain ⟨_, -, _, -, _, -, rfl⟩ := h
    rfl

/-- No ticker of the catalogue has an underscore. -/
def Catalogue.HasPlainTickers (c : Catalogue) : Prop := ∀ t ∈ c.coins.keys, Pair.IsSide t

/-- No tradable coin has an underscore. -/
theorem Catalogue.isSide_of_tradable (hc : c.HasPlainTickers) {t : String}
    (h : (c.tradable t).isOk = true) : Pair.IsSide t := by
  unfold tradable get at h
  cases hf : c.coins.find? t with
  | none =>
    rw [hf] at h
    cases h
  | some coin => exact hc t (List.mem_map_of_mem (Table.find?_eq_some_iff.1 hf))

theorem Catalogue.isSide_of_bothTradable (hc : c.HasPlainTickers) {a b : String}
    (h : c.bothTradable a b = true) : Pair.IsSide a :=
  isSide_of_tradable hc (Bool.and_eq_true_iff.1 h).1

/-- The base of the market of a swap is a ticker of the catalogue. -/
theorem Swap.isSide_market (hc : c.HasPlainTickers) {s : Swap}
    (h : c.bothTradable s.makerCoin s.takerCoin = true) : Pair.IsSide (s.market c).1 := by
  refine Catalogue.isSide_of_bothTradable hc (b := (s.market c).2) ?_
  rw [bothTradable_market]
  exact h

section LastTrades

variable {t : Table LastTrade}

/-- Each last trade is that of a swap that counts. -/
theorem find?_of_lastTrades (ht : lastTrades c ss = .ok t) {k : String} {r : LastTrade}
    (hr : t.find? k = some r) :
    ∃ w ∈ tradableSwaps c ss, w.marketId c = k ∧ r.sides = w.market c := by
  obtain ⟨v, hv, hrec⟩ := Table.find?_of_traverse ht hr
  obtain ⟨w, rfl, hw⟩ := find?_latestSwaps.1 hv
  have hcounts := hw.holds
  unfold Swap.countsFor Swap.isOn at hcounts
  simp only [Bool.and_eq_true, beq_iff_eq] at hcounts
  obtain ⟨hcontributes, htradable, hk⟩ := hcounts
  exact ⟨w, Swap.mem_tradableSwaps.2 ⟨hw.mem, hcontributes, htradable⟩, hk,
    LastTrade.sides_of_ofSwap hrec⟩

/-- Each swap that counts is of a market with a last trade. -/
theorem exists_mem_lastTrades (hc : c.HasPlainTickers) (ht : lastTrades c ss = .ok t) {s : Swap}
    (hs : s ∈ tradableSwaps c ss) : ∃ r ∈ t.values, r.sides = s.market c := by
  obtain ⟨hmem, hcontributes, htradable⟩ := Swap.mem_tradableSwaps.1 hs
  have hcounts : s.countsFor c (s.marketId c) = true := by
    rw [Swap.countsFor, Swap.isOn, hcontributes, htradable, beq_self_eq_true]
    rfl
  obtain ⟨w, hw, -⟩ := exists_isLastOn hmem hcounts
  have hfound : (latestSwaps c ss).find? (s.marketId c) = some (w.market c, w) :=
    find?_latestSwaps.2 ⟨w, rfl, hw⟩
  have hkey : s.marketId c ∈ t.keys := by
    rw [Table.keys_traverse ht]
    exact List.mem_map_of_mem (Table.find?_eq_some_iff.1 hfound)
  obtain ⟨⟨k, r⟩, he, rfl⟩ := List.mem_map.1 hkey
  have hr := Table.find?_eq_some_iff.2 he
  obtain ⟨w', hw', hk, hsides⟩ := find?_of_lastTrades ht hr
  -- Markets with the same identifier are the same, since their bases have no underscore.
  have hsame := Pair.join_inj (Swap.isSide_market hc (Swap.mem_tradableSwaps.1 hw').2.2)
    (Swap.isSide_market hc htradable) hk
  exact ⟨r, Table.mem_values.2 ⟨_, hr⟩, hsides.trans (Prod.ext hsame.1 hsame.2)⟩

/-- Last trades are stored under their own identifiers. -/
theorem areNamed_lastTrades (ht : lastTrades c ss = .ok t) : AreNamed t :=
  fun k r hr => (isSound_of_lastTrades ht k r hr).market

/-- The markets of last trades stand once each, in the orientation of the catalogue. -/
theorem isListing_lastTrades (ht : lastTrades c ss = .ok t) :
    IsListing c (t.values.map LastTrade.sides) := by
  have hmarket : ∀ m ∈ t.values.map LastTrade.sides, ∃ w ∈ tradableSwaps c ss, m = w.market c := by
    intro m hm
    obtain ⟨r, hr, rfl⟩ := List.mem_map.1 hm
    obtain ⟨k, hk⟩ := Table.mem_values.1 hr
    obtain ⟨w, hw, -, hsides⟩ := find?_of_lastTrades ht hk
    exact ⟨w, hw, hsides⟩
  refine ⟨?_, ?_, ?_⟩
  · refine List.Nodup.of_map Pair.ofSides ?_
    rw [(areNamed_lastTrades ht).ids_values]
    exact t.nodup_keys
  · intro m hm
    obtain ⟨w, -, rfl⟩ := hmarket m hm
    exact c.orientation_orientation w.makerCoin w.takerCoin
  · intro m hm
    obtain ⟨w, hw, rfl⟩ := hmarket m hm
    rw [Swap.bothTradable_market]
    exact (Swap.mem_tradableSwaps.1 hw).2.2

/-- The trades of the markets of last trades are the swaps that count, all of them. -/
theorem sum_trades_lastTrades (hc : c.HasPlainTickers) (ht : lastTrades c ss = .ok t)
    {a : LastTrade → Aggregate}
    (ha : ∀ r ∈ t.values, Aggregate.ofSwaps ss r.base r.quote = .ok (a r)) :
    (t.values.map fun r => (a r).trades).sum = (tradableSwaps c ss).length := by
  have htrades : t.values.map (fun r => (a r).trades)
      = (t.values.map LastTrade.sides).map fun m => ss.countP (Swap.feeds m.1 m.2) := by
    rw [List.map_map]
    exact List.map_congr_left fun r hr => Aggregate.trades_of_ofSwaps (ha r hr)
  rw [htrades, (isListing_lastTrades ht).sum_feeds, List.countP_eq_length]
  intro s hs
  obtain ⟨r, hr, hsides⟩ := exists_mem_lastTrades hc ht hs
  rw [← hsides]
  exact List.contains_iff_mem.2 (List.mem_map_of_mem hr)

/-- The market of a last trade is fed by the contributing swaps whose market it is. -/
theorem feeds_lastTrade (ht : lastTrades c ss = .ok t) {r : LastTrade} (hr : r ∈ t.values)
    (s : Swap) : s.feeds r.base r.quote = (s.contributes && s.market c == r.sides) :=
  Swap.feeds_eq ((isListing_lastTrades ht).oriented r.sides (List.mem_map_of_mem hr)) s

/-- A swap that counts feeds one of the markets of last trades, its own, and is no trade of any
other. -/
theorem exists_fed_lastTrade (hc : c.HasPlainTickers) (ht : lastTrades c ss = .ok t) {s : Swap}
    (hs : s ∈ tradableSwaps c ss) : ∃ r ∈ t.values, r.sides = s.market c ∧
      s.feeds r.base r.quote = true ∧
        ∀ r' ∈ t.values, r' ≠ r → s.orient r'.base r'.quote = .ok none := by
  have hcontributes := (Swap.mem_tradableSwaps.1 hs).2.1
  obtain ⟨r, hr, hsides⟩ := exists_mem_lastTrades hc ht hs
  refine ⟨r, hr, hsides, ?_, fun r' hr' hne => Swap.orient_of_not_feeds ?_⟩
  · rw [feeds_lastTrade ht hr, hcontributes, hsides, beq_self_eq_true]
    rfl
  · rw [feeds_lastTrade ht hr', hcontributes, Bool.true_and, ← hsides, beq_eq_false_iff_ne]
    exact fun he => hne (List.inj_on_of_nodup_map (isListing_lastTrades ht).nodup hr' hr he.symm)

/-- All markets of last trades have figures exactly if each swap that counts has a price in its
market. -/
theorem exists_figures_iff (hc : c.HasPlainTickers) (ht : lastTrades c ss = .ok t) :
    (∀ r ∈ t.values, ∃ a, Aggregate.ofSwaps ss r.base r.quote = .ok a) ↔
      ∀ s ∈ tradableSwaps c ss, (s.seenFrom (s.market c).1 (s.market c).2).hasPrice = true := by
  simp only [Aggregate.exists_ofSwaps_iff]
  constructor
  · intro h s hs
    obtain ⟨r, hr, hsides, hf, -⟩ := exists_fed_lastTrade hc ht hs
    rw [← hsides]
    exact h r hr s (Swap.mem_tradableSwaps.1 hs).1 hf
  · intro h r hr s hs hf
    rw [feeds_lastTrade ht hr, Bool.and_eq_true, beq_iff_eq] at hf
    obtain ⟨hcontributes, hmarket⟩ := hf
    have htradable := (isListing_lastTrades ht).tradable r.sides (List.mem_map_of_mem hr)
    rw [← hmarket, Swap.bothTradable_market] at htradable
    have hprice := h s (Swap.mem_tradableSwaps.2 ⟨hs, hcontributes, htradable⟩)
    rwa [hmarket] at hprice

/-- Candidates are a listing of markets of the last trades. -/
theorem isListing_candidates (ht : lastTrades c ss = .ok t) {now days : Int}
    (h : candidates t c now days = .ok ms) : IsListing c ms :=
  (isListing_lastTrades ht).sublist (sublist_candidates h)

/-- The last trades are found if the amounts of the swaps can be written. -/
theorem lastTrades_ok (h : SizedData c ss) : ∃ t, lastTrades c ss = .ok t := by
  refine Table.exists_traverse fun k v hv => ?_
  obtain ⟨w, rfl, hw⟩ := find?_latestSwaps.1 hv
  obtain ⟨r, hr, -⟩ := LastTrade.ofSwap_ok c (w.market c).1 (w.market c).2 (h.maker w hw.mem)
    (h.taker w hw.mem)
  exact ⟨r, hr⟩

end LastTrades

/-! ## Volumes, orderbooks and the summary -/

/-- Markets of a listing have different identifiers if no ticker has an underscore. -/
theorem IsListing.nodup_ids (hc : c.HasPlainTickers) (h : IsListing c ms) :
    (ms.map Pair.ofSides).Nodup := by
  refine List.Nodup.map_on ?_ h.nodup
  intro m hm m' hm' he
  have side : ∀ m ∈ ms, Pair.IsSide m.1 := fun m hm =>
    Catalogue.isSide_of_bothTradable hc (h.tradable m hm)
  obtain ⟨hb, hq⟩ := Pair.join_inj (side m hm) (side m' hm') he
  exact Prod.ext hb hq

/-- A volume counts the swaps of its market that contribute. -/
theorem Volume.trades_of_ofSwaps {b q : String} {r : Volume} (h : Volume.ofSwaps c b q ss = .ok r) :
    r.trades = ss.countP (Swap.feeds b q) := by
  obtain ⟨a, ha, htrades, -, -⟩ := Volume.figures_of_ofSwaps h
  rw [htrades]
  exact Aggregate.trades_of_ofSwaps ha

/-- A projected book has the trades of its volume. -/
theorem Orderbook.trades_of_project {b q : String} {book : QuotedBook} {f : Figures} {v : Volume}
    {now : Int} {r : Orderbook} (hv : f.volume = some v)
    (h : project c b q book f now = .ok r) : r.trades = v.trades := by
  unfold project at h
  simp only [Run.bind_ok_iff, Run.pure_eq_ok, Except.ok.injEq] at h
  obtain ⟨asks, -, bids, -, r', -, rfl⟩ := h
  unfold withFigures
  rw [hv]
  cases f.lastTrade with
  | none => rfl
  | some l => rfl

/-- A summary counts the trades of the books. -/
theorem Summary.swapsCount_of_ofBooks {books : Table Orderbook} {last : Table LastTrade} {now : Int}
    {s : Summary} (h : ofBooks books last now = .ok s) : s.swapsCount = tradesIn books := by
  unfold ofBooks at h
  simp only [Run.bind_ok_iff, Run.pure_eq_ok, Except.ok.injEq] at h
  obtain ⟨n, hn, _, -, _, -, _, -, _, -, rfl⟩ := h
  rw [trades_rowsOf] at hn
  exact (Run.nat64_ok_iff.1 hn).2.symm

/-- The records of a market in the other views. -/
def viewsOf (prices : Table DayPrices) (vols : Table Volume) (last : Table LastTrade)
    (m : String × String) : Orderbook.Figures :=
  ⟨prices.find? (Pair.ofSides m), vols.find? (Pair.ofSides m), last.find? (Pair.ofSides m)⟩

/-- The books of markets, all of them projected from what is quoted and from the other views. -/
def projectedBooks (c : Catalogue) (ms : List (String × String))
    (quoted : String → String → QuotedBook) (views : String × String → Orderbook.Figures)
    (now : Int) : Run (Table Orderbook) :=
  recordTable ms fun b q => Orderbook.project c b q (quoted b q) (views (b, q)) now

/-- The books of a listing have the trades of the swaps whose market is in it. -/
theorem tradesIn_projectedBooks (hc : c.HasPlainTickers) (hms : IsListing c ms)
    {prices : Table DayPrices} {vols : Table Volume} {last : Table LastTrade}
    {quoted : String → String → QuotedBook} {now : Int} {books : Table Orderbook}
    (hv : volumes c ms ss = .ok vols)
    (hb : projectedBooks c ms quoted (viewsOf prices vols last) now = .ok books) :
    tradesIn books = (tradableSwaps c ss).countP fun s => ms.contains (s.market c) := by
  have hids := hms.nodup_ids hc
  rw [← hms.sum_feeds]
  refine sum_recordTable hids hb fun m hm r hr => ?_
  obtain ⟨v, hfound, hrec⟩ := find?_recordTable hids hv hm
  rw [Orderbook.trades_of_project (v := v) hfound hr]
  exact Volume.trades_of_ofSwaps hrec

/-- The books of markets are sound. -/
theorem isSound_projectedBooks {prices : Table DayPrices} {vols : Table Volume}
    {last : Table LastTrade} {quoted : String → String → QuotedBook} {now : Int}
    {books : Table Orderbook} (hp : dayPrices c ms ss = .ok prices)
    (hv : volumes c ms ss = .ok vols)
    (hb : projectedBooks c ms quoted (viewsOf prices vols last) now = .ok books) :
    books.IsSound := by
  have hprices : prices.IsSound :=
    isSound_of_recordTable (fun b q r => DayPrices.isSound_of_ofSwaps) hp
  have hvols : vols.IsSound := isSound_of_recordTable (fun b q r => Volume.isSound_of_ofSwaps) hv
  refine isSound_of_recordTable (fun b q r hr => ?_) hb
  refine Orderbook.isSound_of_project ⟨?_, ?_⟩ hr
  · intro p h
    exact (hprices _ p h).published
  · intro v h
    exact (hvols _ v h).published

end SwapMarket
