import SwapMarket.Market.Orderbook

/-!
# The summary of all markets

**`Summary.ofBooks`** has one row for each orderbook, in the order of the identifiers, and totals
over the rows. The dollar totals are added up from the rows as they are written, so they can be
checked by a reader of the summary.
-/

namespace SwapMarket

/-- A market in the summary. -/
structure SummaryRow where
  /-- The identifier of the market. -/
  tickerId : String
  /-- The base. -/
  base : String
  /-- The quote. -/
  quote : String
  /-- The price of the last trade. -/
  lastPrice : String
  /-- When the last swap ended. -/
  lastTrade : Int
  /-- The identifier of the last swap. -/
  lastSwapUuid : String
  /-- The base volume of the day. -/
  baseVolume : String
  /-- The quote volume of the day. -/
  quoteVolume : String
  /-- The dollar price of the base. -/
  basePriceUsd : String
  /-- The dollar price of the quote. -/
  quotePriceUsd : String
  /-- The highest bid. -/
  bid : String
  /-- The lowest ask. -/
  ask : String
  /-- The highest price of the day. -/
  high : String
  /-- The lowest price of the day. -/
  low : String
  /-- The change of the price over the day. -/
  priceChange : String
  /-- The change in percent. -/
  priceChangePercent : String
  /-- The dollar volume of the day. -/
  volumeUsd : String
  /-- What the orders offer, in dollars. -/
  liquidityUsd : String
  /-- The number of trades of the day. -/
  trades : Nat
  deriving DecidableEq, Repr

/-- The summary of all markets. -/
structure Summary where
  /-- When the summary was made. -/
  lastUpdate : Int
  /-- The number of markets. -/
  pairsCount : Nat
  /-- The number of trades of the day. -/
  swapsCount : Nat
  /-- The dollar volume of the day. -/
  volumeUsd : String
  /-- What all orders offer, in dollars. -/
  liquidityUsd : String
  /-- The markets. -/
  rows : List SummaryRow
  deriving DecidableEq, Repr

namespace SummaryRow

/-- The names of the members. -/
def names : List String :=
  ["ticker_id", "base_currency", "target_currency", "last_price", "last_trade",
    "last_swap_uuid", "base_volume", "target_volume", "base_price_usd", "target_price_usd",
    "bid", "ask", "high", "low", "price_change_24hr", "price_change_pct_24hr",
    "volume_usd_24hr", "liquidity_in_usd", "trades_24hr"]

/-- A row as JSON. -/
def toJson (r : SummaryRow) : Json :=
  .obj [("ticker_id", .str r.tickerId), ("base_currency", .str r.base),
    ("target_currency", .str r.quote), ("last_price", .str r.lastPrice),
    ("last_trade", .int r.lastTrade), ("last_swap_uuid", .str r.lastSwapUuid),
    ("base_volume", .str r.baseVolume), ("target_volume", .str r.quoteVolume),
    ("base_price_usd", .str r.basePriceUsd), ("target_price_usd", .str r.quotePriceUsd),
    ("bid", .str r.bid), ("ask", .str r.ask), ("high", .str r.high), ("low", .str r.low),
    ("price_change_24hr", .str r.priceChange),
    ("price_change_pct_24hr", .str r.priceChangePercent),
    ("volume_usd_24hr", .str r.volumeUsd), ("liquidity_in_usd", .str r.liquidityUsd),
    ("trades_24hr", .nat r.trades)]

/-- Reads a row. -/
def ofJson? (v : Json) : Option SummaryRow := do
  let m ← v.members names
  return {
    tickerId := ← m.text "ticker_id"
    base := ← m.text "base_currency"
    quote := ← m.text "target_currency"
    lastPrice := ← m.text "last_price"
    lastTrade := ← m.int64 "last_trade"
    lastSwapUuid := ← m.text "last_swap_uuid"
    baseVolume := ← m.text "base_volume"
    quoteVolume := ← m.text "target_volume"
    basePriceUsd := ← m.text "base_price_usd"
    quotePriceUsd := ← m.text "target_price_usd"
    bid := ← m.text "bid"
    ask := ← m.text "ask"
    high := ← m.text "high"
    low := ← m.text "low"
    priceChange := ← m.text "price_change_24hr"
    priceChangePercent := ← m.text "price_change_pct_24hr"
    volumeUsd := ← m.text "volume_usd_24hr"
    liquidityUsd := ← m.text "liquidity_in_usd"
    trades := ← m.nat64 "trades_24hr" }

/-- The row of a book, with the price of the last trade. -/
def ofBook (b : Orderbook) (last : Option LastTrade) : SummaryRow :=
  { tickerId := b.tickerId
    base := b.base
    quote := b.quote
    lastPrice := (last.map (·.price)).getD Decimal.publishedZero
    lastTrade := b.lastSwapTime
    lastSwapUuid := b.lastSwapUuid
    baseVolume := b.baseVolume
    quoteVolume := b.quoteVolume
    basePriceUsd := b.basePriceUsd
    quotePriceUsd := b.quotePriceUsd
    bid := b.highestBid
    ask := b.lowestAsk
    high := b.high
    low := b.low
    priceChange := b.priceChange
    priceChangePercent := b.priceChangePercent
    volumeUsd := b.volumeUsd
    liquidityUsd := b.liquidityUsd
    trades := b.trades }

end SummaryRow

namespace Summary

/-- The names of the members. -/
def names : List String :=
  ["last_update", "pairs_count", "swaps_count", "combined_volume_usd",
    "combined_liquidity_usd", "data"]

/-- A summary as JSON. -/
def toJson (s : Summary) : Json :=
  .obj [("last_update", .int s.lastUpdate), ("pairs_count", .nat s.pairsCount),
    ("swaps_count", .nat s.swapsCount), ("combined_volume_usd", .str s.volumeUsd),
    ("combined_liquidity_usd", .str s.liquidityUsd),
    ("data", .arr (s.rows.map SummaryRow.toJson))]

/-- Reads a summary. -/
def ofJson? (v : Json) : Option Summary := do
  let m ← v.members names
  return {
    lastUpdate := ← m.int64 "last_update"
    pairsCount := ← m.nat64 "pairs_count"
    swapsCount := ← m.nat64 "swaps_count"
    volumeUsd := ← m.text "combined_volume_usd"
    liquidityUsd := ← m.text "combined_liquidity_usd"
    rows := ← m.required "data" (Json.list? SummaryRow.ofJson?) }

/-- The summary without markets. -/
def blank : Summary :=
  { lastUpdate := 0
    pairsCount := 0
    swapsCount := 0
    volumeUsd := Decimal.publishedZero
    liquidityUsd := Decimal.publishedZero
    rows := [] }

/-- The rows of books, in the order of their keys. -/
def rowsOf (books : Table Orderbook) (last : Table LastTrade) : List SummaryRow :=
  books.entries.map fun e => .ofBook e.2 (last.find? e.1)

/-- The summary of books. -/
def ofBooks (books : Table Orderbook) (last : Table LastTrade) (now : Int) : Run Summary := do
  let rows := rowsOf books last
  let swaps ← Run.nat64 (rows.foldl (fun n r => n + r.trades) 0)
  let written := rows.map SummaryRow.toJson
  let volume ← (sumMember "volume_usd_24hr" written).toRun
  let liquidity ← (sumMember "liquidity_in_usd" written).toRun
  return {
    lastUpdate := now
    pairsCount := rows.length
    swapsCount := swaps
    volumeUsd := ← volume.figure
    liquidityUsd := ← liquidity.figure
    rows := rows }

end Summary

end SwapMarket
