import SwapMarket.Market.Orderbook
import SwapMarket.Proofs.Run

/-!
# Figures that orderbooks repeat

A book that is made with the volume and the prices of a day shows them, and those of a blank record
if it is made without (**`Orderbook.ShowsVolume`**, **`Orderbook.ShowsPrices`**,
`Orderbook.shows_of_project`).
-/

namespace SwapMarket

namespace Orderbook

/-- A book shows the volume of a record. -/
structure ShowsVolume (r : Orderbook) (v : Volume) : Prop where
  /-- The base volume. -/
  base : r.baseVolume = v.baseVolume
  /-- The quote volume. -/
  quote : r.quoteVolume = v.targetVolume
  /-- The dollar volume. -/
  usd : r.volumeUsd = v.volumeUsd
  /-- The number of trades. -/
  trades : r.trades = v.trades

/-- A book shows the prices of a record. -/
structure ShowsPrices (r : Orderbook) (p : DayPrices) : Prop where
  /-- The newest price. -/
  newest : r.newestPrice = p.newestPrice
  /-- When the newest trade was completed. -/
  time : r.newestPriceTime = p.newestPriceTime
  /-- The highest price. -/
  high : r.high = p.highestPrice
  /-- The lowest price. -/
  low : r.low = p.lowestPrice
  /-- The change of the price. -/
  change : r.priceChange = p.priceChange
  /-- The same in percent. -/
  changePercent : r.priceChangePercent = p.priceChangePercent

variable {c : Catalogue} {base quote : String} {now : Int} {r : Orderbook}

/-- Orders say nothing of the day. -/
theorem shows_of_ofOrders {asks bids : List Order}
    (h : ofOrders c base quote asks bids now = .ok r) :
    r.ShowsVolume (.blank base quote) ∧ r.ShowsPrices (.blank base quote) := by
  unfold ofOrders at h
  simp only [Run.bind_ok_iff, Run.pure_eq_ok, Except.ok.injEq] at h
  obtain ⟨_, -, _, -, _, -, _, -, _, -, _, -, _, -, _, -, _, -, _, -, _, -, _, -, _, -, _, -, _, -,
    rfl⟩ := h
  exact ⟨⟨rfl, rfl, rfl, rfl⟩, ⟨rfl, rfl, rfl, rfl, rfl, rfl⟩⟩

section Parts

variable {v : Volume} {p : DayPrices}

/-- A book shows the volume that was added. -/
theorem showsVolume_withVolume (r : Orderbook) (v : Volume) : (r.withVolume v).ShowsVolume v :=
  ⟨rfl, rfl, rfl, rfl⟩

/-- A book shows the prices that were added. -/
theorem showsPrices_withPrices (r : Orderbook) (p : DayPrices) : (r.withPrices p).ShowsPrices p :=
  ⟨rfl, rfl, rfl, rfl, rfl, rfl⟩

/-- Adding prices keeps the volume. -/
theorem ShowsVolume.withPrices (h : r.ShowsVolume v) (p : DayPrices) :
    (r.withPrices p).ShowsVolume v := ⟨h.base, h.quote, h.usd, h.trades⟩

/-- Adding a volume keeps the prices. -/
theorem ShowsPrices.withVolume (h : r.ShowsPrices p) (v : Volume) :
    (r.withVolume v).ShowsPrices p := ⟨h.newest, h.time, h.high, h.low, h.change, h.changePercent⟩

/-- Adding a last trade keeps the volume. -/
theorem ShowsVolume.withLastTrade (h : r.ShowsVolume v) (l : LastTrade) :
    (r.withLastTrade l).ShowsVolume v := ⟨h.base, h.quote, h.usd, h.trades⟩

/-- Adding a last trade keeps the prices. -/
theorem ShowsPrices.withLastTrade (h : r.ShowsPrices p) (l : LastTrade) :
    (r.withLastTrade l).ShowsPrices p :=
  ⟨h.newest, h.time, h.high, h.low, h.change, h.changePercent⟩

/-- With several figures added, a book shows each of them, or what it showed before. -/
theorem shows_withFigures (hv : r.ShowsVolume v) (hp : r.ShowsPrices p) (f : Figures) :
    (r.withFigures f).ShowsVolume (f.volume.getD v) ∧
      (r.withFigures f).ShowsPrices (f.prices.getD p) := by
  obtain ⟨prices, volume, last⟩ := f
  have hprices : ((prices.map r.withPrices).getD r).ShowsVolume v ∧
      ((prices.map r.withPrices).getD r).ShowsPrices (prices.getD p) := by
    cases prices with
    | none => exact ⟨hv, hp⟩
    | some p' => exact ⟨hv.withPrices p', showsPrices_withPrices r p'⟩
  unfold withFigures
  generalize (prices.map r.withPrices).getD r = r₁ at hprices ⊢
  have hvolume : ((volume.map r₁.withVolume).getD r₁).ShowsVolume (volume.getD v) ∧
      ((volume.map r₁.withVolume).getD r₁).ShowsPrices (prices.getD p) := by
    cases volume with
    | none => exact hprices
    | some v' => exact ⟨showsVolume_withVolume r₁ v', hprices.2.withVolume v'⟩
  simp only
  generalize (volume.map r₁.withVolume).getD r₁ = r₂ at hvolume ⊢
  cases last with
  | none => exact hvolume
  | some l => exact ⟨hvolume.1.withLastTrade l, hvolume.2.withLastTrade l⟩

end Parts

/-- A projected book shows the figures that are known, and none where none are. -/
theorem shows_of_project {book : QuotedBook} {f : Figures}
    (h : project c base quote book f now = .ok r) :
    r.ShowsVolume (f.volume.getD (.blank base quote)) ∧
      r.ShowsPrices (f.prices.getD (.blank base quote)) := by
  unfold project at h
  simp only [Run.bind_ok_iff, Run.pure_eq_ok, Except.ok.injEq] at h
  obtain ⟨asks, -, bids, -, b, hb, rfl⟩ := h
  obtain ⟨hv, hp⟩ := shows_of_ofOrders hb
  exact shows_withFigures hv hp f

end Orderbook

end SwapMarket
