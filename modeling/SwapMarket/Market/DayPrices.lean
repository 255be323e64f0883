import SwapMarket.Coin.Catalogue
import SwapMarket.Market.Record
import SwapMarket.Swap.Trade

/-!
# The prices of a day

**`DayPrices.ofSwaps`** gives the oldest and the newest, the highest and the lowest price of a
market and the change between the oldest and the newest. Seen from the other side, the change is
computed anew from the reciprocal prices, and highest and lowest change places.
-/

namespace SwapMarket

/-- The prices of a market over a day. -/
structure DayPrices where
  /-- The identifier of the market. -/
  tickerId : String
  /-- The base. -/
  base : String
  /-- The quote. -/
  quote : String
  /-- The price of the oldest trade. -/
  oldestPrice : String
  /-- When the oldest trade was completed. -/
  oldestPriceTime : Int
  /-- The price of the newest trade. -/
  newestPrice : String
  /-- When the newest trade was completed. -/
  newestPriceTime : Int
  /-- The highest price. -/
  highestPrice : String
  /-- The lowest price. -/
  lowestPrice : String
  /-- The change from the oldest to the newest price. -/
  priceChange : String
  /-- The change in percent of the oldest price. -/
  priceChangePercent : String
  /-- The dollar price of the base. -/
  basePriceUsd : String
  /-- The dollar price of the quote. -/
  quotePriceUsd : String
  /-- The number of trades. -/
  trades : Nat
  deriving DecidableEq, Repr

namespace DayPrices

/-- The names of the members. -/
def names : List String :=
  ["ticker_id", "base", "quote", "oldest_price", "oldest_price_time", "newest_price",
    "newest_price_time", "highest_price_24hr", "lowest_price_24hr", "price_change_24hr",
    "price_change_pct_24hr", "base_price_usd", "quote_price_usd", "trades_24hr"]

/-- A record as JSON. -/
def toJson (r : DayPrices) : Json :=
  .obj [("ticker_id", .str r.tickerId), ("base", .str r.base), ("quote", .str r.quote),
    ("oldest_price", .str r.oldestPrice), ("oldest_price_time", .int r.oldestPriceTime),
    ("newest_price", .str r.newestPrice), ("newest_price_time", .int r.newestPriceTime),
    ("highest_price_24hr", .str r.highestPrice), ("lowest_price_24hr", .str r.lowestPrice),
    ("price_change_24hr", .str r.priceChange),
    ("price_change_pct_24hr", .str r.priceChangePercent),
    ("base_price_usd", .str r.basePriceUsd), ("quote_price_usd", .str r.quotePriceUsd),
    ("trades_24hr", .nat r.trades)]

/-- Reads a record. -/
def ofJson? (v : Json) : Option DayPrices := do
  let m ← v.members names
  return {
    tickerId := ← m.text "ticker_id"
    base := ← m.text "base"
    quote := ← m.text "quote"
    oldestPrice := ← m.text "oldest_price"
    oldestPriceTime := ← m.int64 "oldest_price_time"
    newestPrice := ← m.text "newest_price"
    newestPriceTime := ← m.int64 "newest_price_time"
    highestPrice := ← m.text "highest_price_24hr"
    lowestPrice := ← m.text "lowest_price_24hr"
    priceChange := ← m.text "price_change_24hr"
    priceChangePercent := ← m.text "price_change_pct_24hr"
    basePriceUsd := ← m.text "base_price_usd"
    quotePriceUsd := ← m.text "quote_price_usd"
    trades := ← m.nat64 "trades_24hr" }

/-- The record of a market without trades and dollar prices. -/
def blank (base quote : String) : DayPrices :=
  { tickerId := Pair.join base quote
    base := base
    quote := quote
    oldestPrice := Decimal.publishedZero
    oldestPriceTime := 0
    newestPrice := Decimal.publishedZero
    newestPriceTime := 0
    highestPrice := Decimal.publishedZero
    lowestPrice := Decimal.publishedZero
    priceChange := Decimal.publishedZero
    priceChangePercent := Decimal.publishedZero
    basePriceUsd := Decimal.publishedZero
    quotePriceUsd := Decimal.publishedZero
    trades := 0 }

/-- The record seen from the other side. -/
def inverse (r : DayPrices) : Run DayPrices := do
  let oldest ← (← readFigure r.oldestPrice).reciprocal
  let newest ← (← readFigure r.newestPrice).reciprocal
  let change ← changeFigures oldest newest
  return {
    tickerId := Pair.flip r.tickerId
    base := r.quote
    quote := r.base
    oldestPrice := ← oldest.figure
    oldestPriceTime := r.oldestPriceTime
    newestPrice := ← newest.figure
    newestPriceTime := r.newestPriceTime
    highestPrice := ← reciprocalFigure r.lowestPrice
    lowestPrice := ← reciprocalFigure r.highestPrice
    priceChange := change.1
    priceChangePercent := change.2
    basePriceUsd := r.quotePriceUsd
    quotePriceUsd := r.basePriceUsd
    trades := r.trades }

instance : MarketRecord DayPrices := ⟨blank, inverse, toJson⟩

/-- The prices of a market over the given swaps. -/
def ofSwaps (c : Catalogue) (base quote : String) (ss : List Swap) : Run DayPrices := do
  let a ← Aggregate.ofSwaps ss base quote
  let r : DayPrices := { blank base quote with
    basePriceUsd := ← (c.usdPrice base).figure
    quotePriceUsd := ← (c.usdPrice quote).figure }
  match a.oldest, a.newest with
  | some oldest, some newest =>
    let percent ← a.priceChangePercent
    return { r with
      oldestPrice := ← oldest.price.figure
      oldestPriceTime := oldest.finishedAt
      newestPrice := ← newest.price.figure
      newestPriceTime := newest.finishedAt
      highestPrice := ← a.highestPrice.figure
      lowestPrice := ← a.lowestPrice.figure
      priceChange := ← a.priceChange.figure
      priceChangePercent := ← percent.figure
      trades := a.trades }
  | _, _ => return r

end DayPrices

/-- The prices of markets over the given swaps. -/
def dayPrices (c : Catalogue) (markets : List (String × String)) (ss : List Swap) :
    Run (Table DayPrices) :=
  recordTable markets fun base quote => DayPrices.ofSwaps c base quote ss

end SwapMarket
