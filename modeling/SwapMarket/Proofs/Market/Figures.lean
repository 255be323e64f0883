import SwapMarket.Market.Summary
import SwapMarket.Proofs.Decimal.Within
import SwapMarket.Proofs.Market.LatestSwap
import SwapMarket.Proofs.Market.Record

/-!
# The figures of market records

A record under a key **`IsSound`** if it names the market of the key and all its figures are
published decimals. Each view makes sound records only:

* a blank record is sound, and so is what is made of swaps (`LastTrade.isSound_of_ofSwap`,
  `DayPrices.isSound_of_ofSwaps`, `Volume.isSound_of_ofSwaps`);
* an orderbook publishes what it computes, and copies the figures of other views, so it is sound if
  these are (`Orderbook.isSound_of_project`);
* a summary copies the figures of orderbooks and last trades, and its totals are published
  (`Summary.isPublished_of_ofBooks`).
-/

namespace SwapMarket

open Decimal (IsPublished isPublished_zero isPublished_of_figure)

/-- What names the market of a record, and the figures of a record. -/
class MarketFigures (α : Type) where
  /-- The identifier of the market. -/
  tickerId : α → String
  /-- The base. -/
  base : α → String
  /-- The quote. -/
  quote : α → String
  /-- The figures. -/
  figures : α → List String

instance : MarketFigures LastTrade where
  tickerId := LastTrade.tickerId
  base := LastTrade.base
  quote := LastTrade.quote
  figures r := [r.price, r.baseAmount, r.quoteAmount]

instance : MarketFigures DayPrices where
  tickerId := DayPrices.tickerId
  base := DayPrices.base
  quote := DayPrices.quote
  figures r := [r.oldestPrice, r.newestPrice, r.highestPrice, r.lowestPrice, r.priceChange,
    r.priceChangePercent, r.basePriceUsd, r.quotePriceUsd]

instance : MarketFigures Volume where
  tickerId := Volume.tickerId
  base := Volume.base
  quote := Volume.quote
  figures r := [r.baseVolume, r.targetVolume, r.baseVolumeUsd, r.quoteVolumeUsd, r.volumeUsd]

/-- The figures of orders. -/
def BookEntry.figures (es : List BookEntry) : List String := es.flatMap fun e => [e.price, e.volume]

/-- The figures of an orderbook without those of its orders. -/
def Orderbook.totals (r : Orderbook) : List String :=
  [r.highestBid, r.lowestAsk, r.totalAsksBase, r.totalBidsBase, r.totalAsksQuote, r.totalBidsQuote,
    r.totalAsksBaseUsd, r.totalBidsQuoteUsd, r.liquidityUsd, r.basePriceUsd, r.quotePriceUsd,
    r.newestPrice, r.high, r.low, r.priceChange, r.priceChangePercent, r.baseVolume, r.quoteVolume,
    r.volumeUsd]

instance : MarketFigures Orderbook where
  tickerId := Orderbook.tickerId
  base := Orderbook.base
  quote := Orderbook.quote
  figures r := r.totals ++ (BookEntry.figures r.bids ++ BookEntry.figures r.asks)

/-- The figures of a row of the summary. -/
def SummaryRow.figures (r : SummaryRow) : List String :=
  [r.lastPrice, r.baseVolume, r.quoteVolume, r.basePriceUsd, r.quotePriceUsd, r.bid, r.ask, r.high,
    r.low, r.priceChange, r.priceChangePercent, r.volumeUsd, r.liquidityUsd]

/-- The figures of a summary. -/
def Summary.figures (s : Summary) : List String :=
  [s.volumeUsd, s.liquidityUsd] ++ s.rows.flatMap SummaryRow.figures

/-- A record under a key names the market of the key, and publishes its figures. -/
structure IsSound {α : Type} [MarketFigures α] (k : String) (r : α) : Prop where
  /-- The identifier is the key. -/
  tickerId : MarketFigures.tickerId r = k
  /-- The key is made of the sides. -/
  market : k = Pair.join (MarketFigures.base r) (MarketFigures.quote r)
  /-- The figures are published decimals. -/
  published : ∀ s ∈ MarketFigures.figures r, IsPublished s

/-- Whether all records of a table are sound. -/
def Table.IsSound {α : Type} [MarketFigures α] (t : Table α) : Prop :=
  ∀ k r, t.find? k = some r → SwapMarket.IsSound k r

/-- A record of a market with identifier and sides in place is sound if its figures are. -/
theorem isSound_join {α : Type} [MarketFigures α] {base quote : String} {r : α}
    (ht : MarketFigures.tickerId r = Pair.join base quote) (hb : MarketFigures.base r = base)
    (hq : MarketFigures.quote r = quote)
    (hp : ∀ s ∈ MarketFigures.figures r, IsPublished s) : IsSound (Pair.join base quote) r := by
  refine ⟨ht, ?_, hp⟩
  rw [hb, hq]

/-! ## Records without trades -/

variable {base quote : String}

/-- The blank record of a last trade has the identifier of its market, and published figures. -/
theorem LastTrade.isSound_blank : IsSound (Pair.join base quote) (LastTrade.blank base quote) := by
  refine isSound_join rfl rfl rfl ?_
  simp [MarketFigures.figures, LastTrade.blank, isPublished_zero]

theorem Orderbook.isSound_blank : IsSound (Pair.join base quote) (Orderbook.blank base quote) := by
  refine isSound_join rfl rfl rfl ?_
  simp [MarketFigures.figures, Orderbook.blank, Orderbook.totals, BookEntry.figures,
    isPublished_zero]

/-! ## Records of swaps -/

variable {c : Catalogue} {ss : List Swap}

theorem LastTrade.isSound_of_ofSwap {s : Swap} {r : LastTrade}
    (h : LastTrade.ofSwap c base quote s = .ok r) : IsSound (Pair.join base quote) r := by
  unfold LastTrade.ofSwap at h
  obtain ⟨t, -, h⟩ := Run.bind_ok_iff.1 h
  cases t with
  | none =>
    cases h
    exact isSound_blank
  | some t =>
    simp only [Run.bind_ok_iff, Run.pure_eq_ok, Except.ok.injEq] at h
    obtain ⟨p, hp, a, ha, b, hb, rfl⟩ := h
    refine isSound_join rfl rfl rfl ?_
    simp [MarketFigures.figures, isPublished_of_figure hp, isPublished_of_figure ha,
      isPublished_of_figure hb]

theorem DayPrices.isSound_of_ofSwaps {r : DayPrices}
    (h : DayPrices.ofSwaps c base quote ss = .ok r) : IsSound (Pair.join base quote) r := by
  unfold DayPrices.ofSwaps at h
  obtain ⟨a, -, h⟩ := Run.bind_ok_iff.1 h
  obtain ⟨b, hb, h⟩ := Run.bind_ok_iff.1 h
  obtain ⟨q, hq, h⟩ := Run.bind_ok_iff.1 h
  simp only at h
  split at h
  · simp only [Run.bind_ok_iff, Run.pure_eq_ok, Except.ok.injEq] at h
    obtain ⟨percent, -, f₁, h₁, f₂, h₂, f₃, h₃, f₄, h₄, f₅, h₅, f₆, h₆, rfl⟩ := h
    refine isSound_join rfl rfl rfl ?_
    simp [MarketFigures.figures, isPublished_of_figure hb, isPublished_of_figure hq,
      isPublished_of_figure h₁, isPublished_of_figure h₂, isPublished_of_figure h₃,
      isPublished_of_figure h₄, isPublished_of_figure h₅, isPublished_of_figure h₆]
  · cases h
    refine isSound_join rfl rfl rfl ?_
    simp [MarketFigures.figures, blank, isPublished_zero, isPublished_of_figure hb,
      isPublished_of_figure hq]

theorem Volume.isSound_of_ofSwaps {r : Volume} (h : Volume.ofSwaps c base quote ss = .ok r) :
    IsSound (Pair.join base quote) r := by
  unfold Volume.ofSwaps at h
  simp only [Run.bind_ok_iff, Run.pure_eq_ok, Except.ok.injEq] at h
  obtain ⟨a, -, b, -, q, -, v, -, f₁, h₁, f₂, h₂, f₃, h₃, f₄, h₄, f₅, h₅, rfl⟩ := h
  refine isSound_join rfl rfl rfl ?_
  simp [MarketFigures.figures, isPublished_of_figure h₁, isPublished_of_figure h₂,
    isPublished_of_figure h₃, isPublished_of_figure h₄, isPublished_of_figure h₅]

/-- What a record says of the figures of its market. -/
theorem Volume.figures_of_ofSwaps {r : Volume} (h : Volume.ofSwaps c base quote ss = .ok r) :
    ∃ a, Aggregate.ofSwaps ss base quote = .ok a ∧ r.trades = a.trades ∧
      a.baseVolume.figure = .ok r.baseVolume ∧ a.quoteVolume.figure = .ok r.targetVolume := by
  unfold Volume.ofSwaps at h
  simp only [Run.bind_ok_iff, Run.pure_eq_ok, Except.ok.injEq] at h
  obtain ⟨a, ha, _, -, _, -, _, -, f₁, h₁, f₂, h₂, _, -, _, -, _, -, rfl⟩ := h
  exact ⟨a, ha, rfl, h₁, h₂⟩

/-! ## Orderbooks -/

namespace BookEntry

/-- The figures of a list of orders are those of the first one and those of the others. -/
theorem forall_figures_cons {p : String → Prop} {e : BookEntry} {es : List BookEntry} :
    (∀ s ∈ figures (e :: es), p s) ↔ (p e.price ∧ p e.volume) ∧ ∀ s ∈ figures es, p s := by
  unfold figures
  rw [List.flatMap_cons, List.forall_mem_append, List.forall_mem_cons, List.forall_mem_singleton]

/-- The entries of a book have published figures. -/
theorem isPublished_of_ofOrders {os : List Order} {es : List BookEntry}
    (h : ofOrders os = .ok es) : ∀ s ∈ figures es, IsPublished s := by
  induction os generalizing es with
  | nil =>
    cases h
    simp [figures]
  | cons o os ih =>
    simp only [ofOrders, ofOrder, Run.bind_ok_iff, Run.pure_eq_ok, Except.ok.injEq] at h
    obtain ⟨e, ⟨p, hp, v, hv, rfl⟩, rest, hrest, rfl⟩ := h
    exact forall_figures_cons.2 ⟨⟨isPublished_of_figure hp, isPublished_of_figure hv⟩, ih hrest⟩

end BookEntry

namespace Orderbook

/-- The best price is a published figure. -/
theorem isPublished_of_bestPrice {os : List Order} {s : String} (h : bestPrice os = .ok s) :
    IsPublished s := by
  cases os with
  | nil =>
    cases h
    exact isPublished_zero
  | cons o os => exact isPublished_of_figure h

/-- The figures of a book are its totals and those of its orders. -/
theorem forall_figures {r : Orderbook} {p : String → Prop} (ht : ∀ s ∈ r.totals, p s)
    (hb : ∀ s ∈ BookEntry.figures r.bids, p s) (ha : ∀ s ∈ BookEntry.figures r.asks, p s) :
    ∀ s ∈ MarketFigures.figures r, p s := by
  intro s hs
  rcases List.mem_append.1 hs with hs | hs
  · exact ht s hs
  · rcases List.mem_append.1 hs with hs | hs
    · exact hb s hs
    · exact ha s hs

/-- A book that is made of orders has the identifier of its market, and published figures. -/
theorem isSound_of_ofOrders {asks bids : List Order} {now : Int} {r : Orderbook}
    (h : ofOrders c base quote asks bids now = .ok r) : IsSound (Pair.join base quote) r := by
  unfold ofOrders at h
  simp only [Run.bind_ok_iff, Run.pure_eq_ok, Except.ok.injEq] at h
  obtain ⟨a, -, b, -, es₁, he₁, es₂, he₂, p₁, hp₁, p₂, hp₂, f₁, h₁, f₂, h₂, f₃, h₃, f₄, h₄, f₅, h₅,
    f₆, h₆, f₇, h₇, f₈, h₈, f₉, h₉, rfl⟩ := h
  refine isSound_join rfl rfl rfl (forall_figures ?_ ?_ ?_)
  · simp [totals, blank, isPublished_zero, isPublished_of_bestPrice hp₁,
      isPublished_of_bestPrice hp₂, isPublished_of_figure h₁, isPublished_of_figure h₂,
      isPublished_of_figure h₃, isPublished_of_figure h₄, isPublished_of_figure h₅,
      isPublished_of_figure h₆, isPublished_of_figure h₇, isPublished_of_figure h₈,
      isPublished_of_figure h₉]
  · exact BookEntry.isPublished_of_ofOrders he₁
  · exact BookEntry.isPublished_of_ofOrders he₂

variable {k : String} {r : Orderbook}

/-- Its totals are published. -/
theorem isPublished_totals (h : IsSound k r) : ∀ s ∈ r.totals, IsPublished s :=
  fun s hs => h.published s (List.mem_append_left _ hs)

section Repeated

variable {p : String → Prop}

/-- What holds of the figures of a book and of the prices that it repeats. -/
theorem forall_withPrices (h : ∀ s ∈ MarketFigures.figures r, p s) {x : DayPrices}
    (hx : ∀ s ∈ MarketFigures.figures x, p s) :
    ∀ s ∈ MarketFigures.figures (r.withPrices x), p s := by
  simp only [MarketFigures.figures, totals, List.forall_mem_append, List.forall_mem_cons] at h hx ⊢
  refine ⟨?_, h.2⟩
  simp [withPrices, h.1, hx]

/-- What holds of the figures of a book and of the volume that it repeats. -/
theorem forall_withVolume (h : ∀ s ∈ MarketFigures.figures r, p s) {x : Volume}
    (hx : ∀ s ∈ MarketFigures.figures x, p s) :
    ∀ s ∈ MarketFigures.figures (r.withVolume x), p s := by
  simp only [MarketFigures.figures, totals, List.forall_mem_append, List.forall_mem_cons] at h hx ⊢
  refine ⟨?_, h.2⟩
  simp [withVolume, h.1, hx]

/-- What holds of the figures of a book and of all records that it repeats. -/
theorem forall_withFigures {f : Figures} (h : ∀ s ∈ MarketFigures.figures r, p s)
    (hp : ∀ x, f.prices = some x → ∀ s ∈ MarketFigures.figures x, p s)
    (hv : ∀ x, f.volume = some x → ∀ s ∈ MarketFigures.figures x, p s) :
    ∀ s ∈ MarketFigures.figures (r.withFigures f), p s := by
  obtain ⟨prices, volume, last⟩ := f
  have hprices : ∀ s ∈ MarketFigures.figures ((prices.map r.withPrices).getD r), p s := by
    cases prices with
    | none => exact h
    | some x => exact forall_withPrices h (hp x rfl)
  have hvolume : ∀ s ∈ MarketFigures.figures
      ((volume.map ((prices.map r.withPrices).getD r).withVolume).getD
        ((prices.map r.withPrices).getD r)), p s := by
    cases volume with
    | none => exact hprices
    | some x => exact forall_withVolume hprices (hv x rfl)
  cases last with
  | none => exact hvolume
  | some l => exact hvolume

end Repeated

/-- Adding figures changes neither the identifier of a book nor its coins. -/
theorem names_withFigures (f : Figures) : (r.withFigures f).tickerId = r.tickerId ∧
    (r.withFigures f).base = r.base ∧ (r.withFigures f).quote = r.quote := by
  obtain ⟨prices, volume, last⟩ := f
  cases prices <;> cases volume <;> cases last <;> exact ⟨rfl, rfl, rfl⟩

/-- The records that a book repeats are published. -/
structure Figures.IsSound (f : Figures) : Prop where
  /-- The prices of the day. -/
  prices : ∀ p, f.prices = some p → ∀ s ∈ MarketFigures.figures p, IsPublished s
  /-- The volume of the day. -/
  volume : ∀ v, f.volume = some v → ∀ s ∈ MarketFigures.figures v, IsPublished s

/-- A book stays sound with figures that are published. -/
theorem isSound_withFigures (h : IsSound k r) {f : Figures} (hf : f.IsSound) :
    IsSound k (r.withFigures f) := by
  obtain ⟨hid, hbase, hquote⟩ := names_withFigures (r := r) f
  refine ⟨hid.trans h.tickerId, ?_, forall_withFigures h.published hf.prices hf.volume⟩
  show k = Pair.join (r.withFigures f).base (r.withFigures f).quote
  rw [hbase, hquote]
  exact h.market

/-- A projected book is sound. -/
theorem isSound_of_project {book : QuotedBook} {f : Figures} {now : Int} (hf : f.IsSound)
    (h : project c base quote book f now = .ok r) : IsSound (Pair.join base quote) r := by
  unfold project at h
  simp only [Run.bind_ok_iff, Run.pure_eq_ok, Except.ok.injEq] at h
  obtain ⟨asks, -, bids, -, b, hb, rfl⟩ := h
  exact isSound_withFigures (isSound_of_ofOrders hb) hf

end Orderbook

/-! ## Tables of records -/

section Tables

variable {α : Type} [MarketFigures α]

/-- A table of sound records is sound. -/
theorem Table.isSound_ofList {es : List (String × α)}
    (h : ∀ e ∈ es, SwapMarket.IsSound e.1 e.2) : (Table.ofList es).IsSound :=
  fun k r hr => h (k, r) (Table.mem_of_mem_ofList (Table.find?_eq_some_iff.1 hr))

/-- Records of markets are sound if each is sound under the identifier of its market. -/
theorem isSound_of_recordTable {markets : List (String × String)}
    {record : String → String → Run α} {t : Table α}
    (hr : ∀ b q r, record b q = .ok r → IsSound (Pair.join b q) r)
    (h : recordTable markets record = .ok t) : t.IsSound := by
  intro k r hk
  obtain ⟨⟨b, q⟩, -, rfl, hrec⟩ := find?_of_recordTable h hk
  exact hr b q r hrec

end Tables

/-- The last trades are under the identifiers of their markets. -/
theorem isSound_of_lastTrades {t : Table LastTrade} (h : lastTrades c ss = .ok t) : t.IsSound := by
  intro k r hr
  obtain ⟨v, hv, hrec⟩ := Table.find?_of_traverse h hr
  obtain ⟨w, rfl, hw⟩ := find?_latestSwaps.1 hv
  have hk : w.marketId c = k := by
    have hc := hw.holds
    unfold Swap.countsFor Swap.isOn at hc
    simp only [Bool.and_eq_true, beq_iff_eq] at hc
    exact hc.2.2
  rw [← hk]
  exact LastTrade.isSound_of_ofSwap hrec

/-! ## The summary -/

/-- The figures of a row are those of its book and the price of its last trade. -/
theorem SummaryRow.isPublished_ofBook {k : String} {b : Orderbook} {last : Option LastTrade}
    (hb : IsSound k b) (hl : ∀ l, last = some l → IsPublished l.price) :
    ∀ s ∈ (SummaryRow.ofBook b last).figures, IsPublished s := by
  have ht := Orderbook.isPublished_totals hb
  have hp : IsPublished ((last.map (·.price)).getD Decimal.publishedZero) := by
    cases last with
    | none => exact isPublished_zero
    | some l => exact hl l rfl
  simp only [Orderbook.totals, List.forall_mem_cons] at ht
  simp [SummaryRow.figures, SummaryRow.ofBook, ht, hp]

/-- The rows of a summary have published figures. -/
theorem Summary.isPublished_rowsOf {books : Table Orderbook} {last : Table LastTrade}
    (hb : books.IsSound) (hl : last.IsSound) :
    ∀ r ∈ Summary.rowsOf books last, ∀ s ∈ r.figures, IsPublished s := by
  intro r hr
  obtain ⟨⟨k, b⟩, he, rfl⟩ := List.mem_map.1 hr
  refine SummaryRow.isPublished_ofBook (hb k b (Table.find?_eq_some_iff.2 he)) fun l h => ?_
  exact (hl k l h).published l.price List.mem_cons_self

/-- The summary has, too. -/
theorem Summary.isPublished_of_ofBooks {books : Table Orderbook} {last : Table LastTrade}
    (hb : books.IsSound) (hl : last.IsSound) {now : Int} {s : Summary}
    (h : Summary.ofBooks books last now = .ok s) : ∀ f ∈ s.figures, IsPublished f := by
  unfold Summary.ofBooks at h
  simp only [Run.bind_ok_iff, Run.pure_eq_ok, Except.ok.injEq] at h
  obtain ⟨n, -, v, -, l, -, f₁, h₁, f₂, h₂, rfl⟩ := h
  intro f hf
  rcases List.mem_append.1 hf with hf | hf
  · rcases List.mem_pair.1 hf with rfl | rfl
    · exact isPublished_of_figure h₁
    · exact isPublished_of_figure h₂
  · obtain ⟨r, hr, hf⟩ := List.mem_flatMap.1 hf
    exact Summary.isPublished_rowsOf hb hl r hr f hf

/-- The trades of the day in all books. -/
def tradesIn (books : Table Orderbook) : Nat := (books.values.map (·.trades)).sum

/-- The trades of rows add up. -/
theorem foldl_trades (rows : List SummaryRow) (n : Nat) :
    rows.foldl (fun n r => n + r.trades) n = n + (rows.map (·.trades)).sum := by
  induction rows generalizing n with
  | nil => rfl
  | cons r rows ih =>
    rw [List.foldl_cons, ih, List.map_cons, List.sum_cons, Nat.add_assoc]

/-- The rows of a summary count the trades of the books. -/
theorem trades_rowsOf (books : Table Orderbook) (last : Table LastTrade) :
    (Summary.rowsOf books last).foldl (fun n r => n + r.trades) 0 = tradesIn books := by
  rw [foldl_trades, Nat.zero_add]
  unfold Summary.rowsOf tradesIn Table.values
  rw [List.map_map, List.map_map]
  rfl

/-- A decimal with at most ten places can be published. -/
theorem figure_of_scale {d : Decimal} (h₀ : 0 ≤ d.scale) (h₁ : d.scale ≤ 10) :
    d.figure = .ok d.published := by
  have hs : Decimal.holdsScale (Decimal.places - d.scale) = true := by
    refine Decimal.holdsScale_of_le (k := 10) ?_ (by decide)
    show ((10 : Int) - d.scale).natAbs ≤ 10
    omega
  unfold Decimal.figure Decimal.published?
  rw [hs, Bool.or_true, Bool.true_or]
  rfl

/-- Next to a sum of published decimals, another one leaves it at ten places. -/
theorem scale_add_places {d : Decimal} (h₀ : 0 ≤ d.scale) (h₁ : d.scale ≤ 10) (t : Int) :
    (d + ⟨t, Decimal.places⟩).scale = 10 := by
  have hp : (Decimal.places : Int) = 10 := rfl
  show (Decimal.add d ⟨t, Decimal.places⟩).scale = 10
  unfold Decimal.add
  split
  · show max d.scale (min (Decimal.places : Int) (d.scale + 15)) = 10
    omega
  split
  · show max (Decimal.places : Int) (min d.scale (Decimal.places + 15)) = 10
    omega
  · show max d.scale (Decimal.places : Int) = 10
    omega

/-- A member that is a published text in every row can be summed up. -/
theorem sumMemberFrom_of_published {k : String} {rows : List Json} {d : Decimal}
    (h : ∀ row ∈ rows, ∃ s, row.member? k = some (.str s) ∧ IsPublished s)
    (h₀ : 0 ≤ d.scale) (h₁ : d.scale ≤ 10) :
    ∃ e, sumMemberFrom k d rows = .ok e ∧ 0 ≤ e.scale ∧ e.scale ≤ 10 := by
  induction rows generalizing d with
  | nil => exact ⟨d, rfl, h₀, h₁⟩
  | cons row rows ih =>
    obtain ⟨⟨s, hm, hs⟩, hrows⟩ := List.forall_mem_cons.1 h
    obtain ⟨t, ht, -⟩ := hs.read
    have ha : (Json.str s).amount = .ok ⟨t, Decimal.places⟩ := by
      show (Decimal.read s).mapError _ = _
      rw [ht]
      rfl
    have hsc := scale_add_places h₀ h₁ t
    unfold sumMemberFrom
    rw [hm]
    simp only [ha]
    exact ih hrows (by omega) (by omega)

/-- There is no summary of more trades than can be counted. -/
theorem Summary.ofBooks_of_many {books : Table Orderbook} (h : 2 ^ 64 ≤ tradesIn books)
    (last : Table LastTrade) (now : Int) : Summary.ofBooks books last now = .error .overflow := by
  have hcount : Run.nat64 (tradesIn books) = .error .overflow := by
    unfold Run.nat64
    exact if_neg (Nat.not_lt.2 h)
  unfold Summary.ofBooks
  simp only [trades_rowsOf, hcount, Run.error_bind]

/-- The summary of sound books and trades is made unless the trades are too many to be counted. No
figure of theirs is ever in the way. -/
theorem Summary.ofBooks_of_isSound {books : Table Orderbook} {last : Table LastTrade}
    (hb : books.IsSound) (hl : last.IsSound) (now : Int) :
    (tradesIn books < 2 ^ 64 → ∃ s, Summary.ofBooks books last now = .ok s) ∧
      (2 ^ 64 ≤ tradesIn books → Summary.ofBooks books last now = .error .overflow) := by
  have hrows := Summary.isPublished_rowsOf hb hl
  have hvolume : ∀ row ∈ (rowsOf books last).map SummaryRow.toJson,
      ∃ s, row.member? "volume_usd_24hr" = some (.str s) ∧ IsPublished s := by
    intro row hrow
    obtain ⟨r, hr, rfl⟩ := List.mem_map.1 hrow
    exact ⟨r.volumeUsd, rfl, hrows r hr _ (by simp [SummaryRow.figures])⟩
  have hliquidity : ∀ row ∈ (rowsOf books last).map SummaryRow.toJson,
      ∃ s, row.member? "liquidity_in_usd" = some (.str s) ∧ IsPublished s := by
    intro row hrow
    obtain ⟨r, hr, rfl⟩ := List.mem_map.1 hrow
    exact ⟨r.liquidityUsd, rfl, hrows r hr _ (by simp [SummaryRow.figures])⟩
  obtain ⟨v, hv, hv₀, hv₁⟩ :=
    sumMemberFrom_of_published (d := .zero) hvolume (by decide) (by decide)
  obtain ⟨l, hl, hl₀, hl₁⟩ :=
    sumMemberFrom_of_published (d := .zero) hliquidity (by decide) (by decide)
  refine ⟨fun hn => ?_, fun hn => ofBooks_of_many hn last now⟩
  have hcount : Run.nat64 (tradesIn books) = .ok (tradesIn books) :=
    Run.nat64_ok_iff.2 ⟨hn, rfl⟩
  unfold Summary.ofBooks sumMember
  simp only [trades_rowsOf, hcount, hv, hl, Result.toRun, Except.mapError, Run.ok_bind,
    figure_of_scale hv₀ hv₁, figure_of_scale hl₀ hl₁]
  exact ⟨_, rfl⟩

end SwapMarket
