import SwapMarket.Market.DayPrices
import SwapMarket.Market.LastTrade
import SwapMarket.Market.Quotes
import SwapMarket.Market.Volume

/-!
# The orderbook of a market

An **`Orderbook`** lists the orders of a market by price, the best first, with the totals of each
side, and repeats the figures of the day and of the last trade. **`Orderbook.project`** makes it
of a quoted book; it fails only if a price or a volume is not a decimal or a scale leaves its
range.

Seen from the other side of the market, an order that sells the base is one that buys it: the
sides change places, prices become reciprocals, and volumes are counted in the other coin.
-/

namespace SwapMarket

/-- A published order. -/
structure BookEntry where
  /-- The price. -/
  price : String
  /-- The volume in the base. -/
  volume : String
  deriving DecidableEq, Repr

/-- The orderbook of a market. -/
structure Orderbook where
  /-- The identifier of the market. -/
  tickerId : String
  /-- The base. -/
  base : String
  /-- The quote. -/
  quote : String
  /-- When the book was made. -/
  timestamp : Int
  /-- The orders that buy the base, the highest price first. -/
  bids : List BookEntry
  /-- The orders that sell the base, the lowest price first. -/
  asks : List BookEntry
  /-- The price of the first bid. -/
  highestBid : String
  /-- The price of the first ask. -/
  lowestAsk : String
  /-- The volume of the asks in the base. -/
  totalAsksBase : String
  /-- The volume of the bids in the base. -/
  totalBidsBase : String
  /-- The volume of the asks in the quote. -/
  totalAsksQuote : String
  /-- The volume of the bids in the quote. -/
  totalBidsQuote : String
  /-- The base volume of the asks in dollars. -/
  totalAsksBaseUsd : String
  /-- The quote volume of the bids in dollars. -/
  totalBidsQuoteUsd : String
  /-- What both sides offer, in dollars. -/
  liquidityUsd : String
  /-- The dollar price of the base. -/
  basePriceUsd : String
  /-- The dollar price of the quote. -/
  quotePriceUsd : String
  /-- The newest price of the day. -/
  newestPrice : String
  /-- When the newest trade was completed. -/
  newestPriceTime : Int
  /-- The highest price of the day. -/
  high : String
  /-- The lowest price of the day. -/
  low : String
  /-- The change of the price over the day. -/
  priceChange : String
  /-- The change in percent. -/
  priceChangePercent : String
  /-- The base volume of the day. -/
  baseVolume : String
  /-- The quote volume of the day. -/
  quoteVolume : String
  /-- The dollar volume of the day. -/
  volumeUsd : String
  /-- The number of trades of the day. -/
  trades : Nat
  /-- The identifier of the last swap. -/
  lastSwapUuid : String
  /-- When the last swap ended. -/
  lastSwapTime : Int
  deriving DecidableEq, Repr

namespace BookEntry

/-- The names of the members. -/
def names : List String := ["price", "volume"]

/-- An order as JSON. -/
def toJson (e : BookEntry) : Json := .obj [("price", .str e.price), ("volume", .str e.volume)]

/-- Reads an order. -/
def ofJson? (v : Json) : Option BookEntry := do
  let m ← v.members names
  return { price := ← m.text "price", volume := ← m.text "volume" }

/-- The published form of an order. -/
def ofOrder (o : Order) : Run BookEntry :=
  return ⟨← o.price.figure, ← o.baseVolume.figure⟩

/-- The published forms of orders. -/
def ofOrders : List Order → Run (List BookEntry)
  | [] => .ok []
  | o :: os => do
    let e ← ofOrder o
    let es ← ofOrders os
    return e :: es

/-- What a volume at a price comes to in the other coin. Nothing at any price is nothing, and so
is any volume at no price. -/
def counterVolume (volume price : Decimal) : Run Decimal :=
  if volume.isZero || price.isZero then .ok .zero else Run.inRange (volume.product? price)

/-- The order seen from the other side. -/
def inverse (e : BookEntry) : Run BookEntry := do
  let price ← readFigure e.price
  let volume ← readFigure e.volume
  let inverted ← price.reciprocal
  let counted ← counterVolume volume price
  return ⟨← inverted.figure, ← counted.figure⟩

/-- The orders seen from the other side, up to the first that cannot be read. -/
def inverses : List BookEntry → Run (List BookEntry)
  | [] => .ok []
  | e :: es => do
    let i ← e.inverse
    let is ← inverses es
    return i :: is

end BookEntry

namespace Orderbook

/-- The names of the members. -/
def names : List String :=
  ["ticker_id", "base", "quote", "timestamp", "bids", "asks", "highest_bid", "lowest_ask",
    "total_asks_base_vol", "total_bids_base_vol", "total_asks_quote_vol",
    "total_bids_quote_vol", "total_asks_base_usd", "total_bids_quote_usd", "liquidity_in_usd",
    "base_price_usd", "quote_price_usd", "newest_price", "newest_price_time", "high_24hr",
    "low_24hr", "price_change_24hr", "price_change_pct_24hr", "base_volume_24hr",
    "quote_volume_24hr", "volume_usd_24hr", "trades_24hr", "last_swap_uuid", "last_swap_time"]

/-- A book as JSON. -/
def toJson (r : Orderbook) : Json :=
  .obj [("ticker_id", .str r.tickerId), ("base", .str r.base), ("quote", .str r.quote),
    ("timestamp", .int r.timestamp), ("bids", .arr (r.bids.map BookEntry.toJson)),
    ("asks", .arr (r.asks.map BookEntry.toJson)), ("highest_bid", .str r.highestBid),
    ("lowest_ask", .str r.lowestAsk), ("total_asks_base_vol", .str r.totalAsksBase),
    ("total_bids_base_vol", .str r.totalBidsBase),
    ("total_asks_quote_vol", .str r.totalAsksQuote),
    ("total_bids_quote_vol", .str r.totalBidsQuote),
    ("total_asks_base_usd", .str r.totalAsksBaseUsd),
    ("total_bids_quote_usd", .str r.totalBidsQuoteUsd),
    ("liquidity_in_usd", .str r.liquidityUsd), ("base_price_usd", .str r.basePriceUsd),
    ("quote_price_usd", .str r.quotePriceUsd), ("newest_price", .str r.newestPrice),
    ("newest_price_time", .int r.newestPriceTime), ("high_24hr", .str r.high),
    ("low_24hr", .str r.low), ("price_change_24hr", .str r.priceChange),
    ("price_change_pct_24hr", .str r.priceChangePercent),
    ("base_volume_24hr", .str r.baseVolume), ("quote_volume_24hr", .str r.quoteVolume),
    ("volume_usd_24hr", .str r.volumeUsd), ("trades_24hr", .nat r.trades),
    ("last_swap_uuid", .str r.lastSwapUuid), ("last_swap_time", .int r.lastSwapTime)]

/-- Reads a book. -/
def ofJson? (v : Json) : Option Orderbook := do
  let m ← v.members names
  return {
    tickerId := ← m.text "ticker_id"
    base := ← m.text "base"
    quote := ← m.text "quote"
    timestamp := ← m.int64 "timestamp"
    bids := ← m.required "bids" (Json.list? BookEntry.ofJson?)
    asks := ← m.required "asks" (Json.list? BookEntry.ofJson?)
    highestBid := ← m.text "highest_bid"
    lowestAsk := ← m.text "lowest_ask"
    totalAsksBase := ← m.text "total_asks_base_vol"
    totalBidsBase := ← m.text "total_bids_base_vol"
    totalAsksQuote := ← m.text "total_asks_quote_vol"
    totalBidsQuote := ← m.text "total_bids_quote_vol"
    totalAsksBaseUsd := ← m.text "total_asks_base_usd"
    totalBidsQuoteUsd := ← m.text "total_bids_quote_usd"
    liquidityUsd := ← m.text "liquidity_in_usd"
    basePriceUsd := ← m.text "base_price_usd"
    quotePriceUsd := ← m.text "quote_price_usd"
    newestPrice := ← m.text "newest_price"
    newestPriceTime := ← m.int64 "newest_price_time"
    high := ← m.text "high_24hr"
    low := ← m.text "low_24hr"
    priceChange := ← m.text "price_change_24hr"
    priceChangePercent := ← m.text "price_change_pct_24hr"
    baseVolume := ← m.text "base_volume_24hr"
    quoteVolume := ← m.text "quote_volume_24hr"
    volumeUsd := ← m.text "volume_usd_24hr"
    trades := ← m.nat64 "trades_24hr"
    lastSwapUuid := ← m.text "last_swap_uuid"
    lastSwapTime := ← m.int64 "last_swap_time" }

/-- The book of a market about which nothing is known. -/
def blank (base quote : String) : Orderbook :=
  { tickerId := Pair.join base quote
    base := base
    quote := quote
    timestamp := 0
    bids := []
    asks := []
    highestBid := Decimal.publishedZero
    lowestAsk := Decimal.publishedZero
    totalAsksBase := Decimal.publishedZero
    totalBidsBase := Decimal.publishedZero
    totalAsksQuote := Decimal.publishedZero
    totalBidsQuote := Decimal.publishedZero
    totalAsksBaseUsd := Decimal.publishedZero
    totalBidsQuoteUsd := Decimal.publishedZero
    liquidityUsd := Decimal.publishedZero
    basePriceUsd := Decimal.publishedZero
    quotePriceUsd := Decimal.publishedZero
    newestPrice := Decimal.publishedZero
    newestPriceTime := 0
    high := Decimal.publishedZero
    low := Decimal.publishedZero
    priceChange := Decimal.publishedZero
    priceChangePercent := Decimal.publishedZero
    baseVolume := Decimal.publishedZero
    quoteVolume := Decimal.publishedZero
    volumeUsd := Decimal.publishedZero
    trades := 0
    lastSwapUuid := nilUuid
    lastSwapTime := 0 }

/-- The book seen from the other side. The oldest price of the day is not kept; it is the newest
less the change. -/
def inverse (r : Orderbook) : Run Orderbook := do
  let known ← readFigure r.newestPrice
  let oldest := known - (← readFigure r.priceChange)
  let newest ← known.reciprocal
  let change ← changeFigures (← oldest.reciprocal) newest
  let bids ← BookEntry.inverses r.asks
  let asks ← BookEntry.inverses r.bids
  let highestBid ← reciprocalFigure r.lowestAsk
  let lowestAsk ← reciprocalFigure r.highestBid
  let high ← reciprocalFigure r.low
  let low ← reciprocalFigure r.high
  return {
    tickerId := Pair.flip r.tickerId
    base := r.quote
    quote := r.base
    timestamp := r.timestamp
    bids := bids
    asks := asks
    highestBid := highestBid
    lowestAsk := lowestAsk
    totalAsksBase := r.totalBidsQuote
    totalBidsBase := r.totalAsksQuote
    totalAsksQuote := r.totalBidsBase
    totalBidsQuote := r.totalAsksBase
    totalAsksBaseUsd := r.totalBidsQuoteUsd
    totalBidsQuoteUsd := r.totalAsksBaseUsd
    liquidityUsd := r.liquidityUsd
    basePriceUsd := r.quotePriceUsd
    quotePriceUsd := r.basePriceUsd
    newestPrice := ← newest.figure
    newestPriceTime := r.newestPriceTime
    high := high
    low := low
    priceChange := change.1
    priceChangePercent := change.2
    baseVolume := r.quoteVolume
    quoteVolume := r.baseVolume
    volumeUsd := r.volumeUsd
    trades := r.trades
    lastSwapUuid := r.lastSwapUuid
    lastSwapTime := r.lastSwapTime }

instance : MarketRecord Orderbook := ⟨blank, inverse, toJson⟩

/-- The records of other views that a book repeats. -/
structure Figures where
  /-- The prices of the day. -/
  prices : Option DayPrices
  /-- The volume of the day. -/
  volume : Option Volume
  /-- The last trade. -/
  lastTrade : Option LastTrade
  deriving Repr

/-- The published price of the first order. -/
def bestPrice : List Order → Run String
  | [] => .ok Decimal.publishedZero
  | o :: _ => o.price.figure

/-- The orders of a market with their totals. -/
def ofOrders (c : Catalogue) (base quote : String) (asks bids : List Order) (now : Int) :
    Run Orderbook := do
  let basePrice := c.usdPrice base
  let quotePrice := c.usdPrice quote
  let asksBase := Decimal.sum (asks.map (·.baseVolume))
  let asksQuote := Decimal.sum (asks.map (·.quoteVolume))
  let bidsBase := Decimal.sum (bids.map (·.baseVolume))
  let bidsQuote := Decimal.sum (bids.map (·.quoteVolume))
  let asksUsd ← Run.inRange (asksBase.product? basePrice)
  let bidsUsd ← Run.inRange (bidsQuote.product? quotePrice)
  return { blank base quote with
    timestamp := now
    bids := ← BookEntry.ofOrders bids
    asks := ← BookEntry.ofOrders asks
    highestBid := ← bestPrice bids
    lowestAsk := ← bestPrice asks
    totalAsksBase := ← asksBase.figure
    totalBidsBase := ← bidsBase.figure
    totalAsksQuote := ← asksQuote.figure
    totalBidsQuote := ← bidsQuote.figure
    totalAsksBaseUsd := ← asksUsd.figure
    totalBidsQuoteUsd := ← bidsUsd.figure
    liquidityUsd := ← (asksUsd + bidsUsd).figure
    basePriceUsd := ← basePrice.figure
    quotePriceUsd := ← quotePrice.figure }

/-- The book with the prices of the day. -/
def withPrices (r : Orderbook) (p : DayPrices) : Orderbook :=
  { r with
    newestPrice := p.newestPrice
    newestPriceTime := p.newestPriceTime
    high := p.highestPrice
    low := p.lowestPrice
    priceChange := p.priceChange
    priceChangePercent := p.priceChangePercent }

/-- The book with the volume of the day. -/
def withVolume (r : Orderbook) (v : Volume) : Orderbook :=
  { r with
    baseVolume := v.baseVolume
    quoteVolume := v.targetVolume
    volumeUsd := v.volumeUsd
    trades := v.trades }

/-- The book with the last trade. -/
def withLastTrade (r : Orderbook) (l : LastTrade) : Orderbook :=
  { r with lastSwapUuid := l.swapUuid, lastSwapTime := l.swapTime }

/-- The book with the figures that are known. -/
def withFigures (r : Orderbook) (f : Figures) : Orderbook :=
  let r := (f.prices.map r.withPrices).getD r
  let r := (f.volume.map r.withVolume).getD r
  (f.lastTrade.map r.withLastTrade).getD r

/-- The book of a market made of quoted orders. -/
def project (c : Catalogue) (base quote : String) (book : QuotedBook) (f : Figures) (now : Int) :
    Run Orderbook := do
  let asks ← (Order.ofQuotes book.asks).toRun
  let bids ← (Order.ofQuotes book.bids).toRun
  let r ← ofOrders c base quote (Order.ascending asks) (Order.descending bids) now
  return r.withFigures f

end Orderbook

end SwapMarket
