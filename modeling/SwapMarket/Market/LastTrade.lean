import SwapMarket.Coin.Catalogue
import SwapMarket.Market.Record
import SwapMarket.Swap.Trade

/-!
# The last trade of each market

**`lastTrades`** finds for every market of two tradable coins the contributing swap that was
completed last, whichever way it went, and of several the one with the greatest identifier. The
market is named in the orientation of the catalogue.

**`candidates`** are the markets traded within a number of days whose coins can still be traded
and are not two variants of one coin.
-/

namespace SwapMarket

/-- The last trade of a market. -/
structure LastTrade where
  /-- The identifier of the market. -/
  tickerId : String
  /-- The base. -/
  base : String
  /-- The quote. -/
  quote : String
  /-- When the swap ended. -/
  swapTime : Int
  /-- The identifier of the swap. -/
  swapUuid : String
  /-- The price. -/
  price : String
  /-- The amount of the base. -/
  baseAmount : String
  /-- The amount of the quote. -/
  quoteAmount : String
  /-- The side, or nothing. -/
  side : String
  /-- Whether the dollar prices of both coins are known. -/
  priced : Bool
  deriving DecidableEq, Repr

namespace LastTrade

/-- The names of the members. -/
def names : List String :=
  ["ticker_id", "base", "quote", "last_swap_time", "last_swap_uuid", "last_price",
    "last_base_amount", "last_quote_amount", "last_trade_type", "priced"]

/-- A record as JSON. -/
def toJson (r : LastTrade) : Json :=
  .obj [("ticker_id", .str r.tickerId), ("base", .str r.base), ("quote", .str r.quote),
    ("last_swap_time", .int r.swapTime), ("last_swap_uuid", .str r.swapUuid),
    ("last_price", .str r.price), ("last_base_amount", .str r.baseAmount),
    ("last_quote_amount", .str r.quoteAmount), ("last_trade_type", .str r.side),
    ("priced", .bool r.priced)]

/-- Reads a record. -/
def ofJson? (v : Json) : Option LastTrade := do
  let m ← v.members names
  return {
    tickerId := ← m.text "ticker_id"
    base := ← m.text "base"
    quote := ← m.text "quote"
    swapTime := ← m.int64 "last_swap_time"
    swapUuid := ← m.text "last_swap_uuid"
    price := ← m.text "last_price"
    baseAmount := ← m.text "last_base_amount"
    quoteAmount := ← m.text "last_quote_amount"
    side := ← m.text "last_trade_type"
    priced := ← m.bool "priced" }

/-- The record of a market without trades. -/
def blank (base quote : String) : LastTrade :=
  { tickerId := Pair.join base quote
    base := base
    quote := quote
    swapTime := 0
    swapUuid := nilUuid
    price := Decimal.publishedZero
    baseAmount := Decimal.publishedZero
    quoteAmount := Decimal.publishedZero
    side := ""
    priced := false }

/-- The other side; a text that is not a side stays as it is. -/
def otherSide (s : String) : String :=
  if s = Side.buy.text then Side.sell.text
  else if s = Side.sell.text then Side.buy.text
  else s

/-- The record seen from the other side. -/
def inverse (r : LastTrade) : Run LastTrade := do
  let price ← reciprocalFigure r.price
  return {
    tickerId := Pair.flip r.tickerId
    base := r.quote
    quote := r.base
    swapTime := r.swapTime
    swapUuid := r.swapUuid
    price := price
    baseAmount := r.quoteAmount
    quoteAmount := r.baseAmount
    side := otherSide r.side
    priced := r.priced }

instance : MarketRecord LastTrade := ⟨blank, inverse, toJson⟩

/-- The record of a swap for a market; blank if the swap is of another one. -/
def ofSwap (c : Catalogue) (base quote : String) (s : Swap) : Run LastTrade := do
  match ← s.orient base quote with
  | none => return blank base quote
  | some t =>
    return {
      tickerId := Pair.join base quote
      base := base
      quote := quote
      swapTime := t.finishedAt
      swapUuid := t.uuid
      price := ← t.price.figure
      baseAmount := ← t.baseAmount.figure
      quoteAmount := ← t.quoteAmount.figure
      side := t.side.text
      priced := !(c.usdPrice base).isZero && !(c.usdPrice quote).isZero }

end LastTrade

/-- Whether `a` was completed after `b`; of swaps completed together the greater identifier counts
as later. -/
def Swap.isAfter (a b : Swap) : Bool :=
  b.finishedAt < a.finishedAt || (b.finishedAt == a.finishedAt && b.uuid < a.uuid)

/-- Takes note of a swap for its market, unless a later one is noted. -/
def noteLatest (c : Catalogue) (t : Table ((String × String) × Swap)) (s : Swap) :
    Table ((String × String) × Swap) :=
  let p := c.orientation s.makerCoin s.takerCoin
  let key := Pair.join p.1 p.2
  match t.find? key with
  | some (_, known) => if s.isAfter known then t.insert key (p, s) else t
  | none => t.insert key (p, s)

/-- The swaps that count for a market of the catalogue. -/
def tradableSwaps (c : Catalogue) (ss : List Swap) : List Swap :=
  ss.filter fun s => s.contributes && c.bothTradable s.makerCoin s.takerCoin

/-- The latest swap of each market, with the coins of the market. -/
def latestSwaps (c : Catalogue) (ss : List Swap) : Table ((String × String) × Swap) :=
  (tradableSwaps c ss).foldl (noteLatest c) .empty

/-- The last trade of each market. -/
def lastTrades (c : Catalogue) (ss : List Swap) : Run (Table LastTrade) :=
  (latestSwaps c ss).traverse fun _ e => LastTrade.ofSwap c e.1.1 e.1.2 e.2

/-- The seconds of a day. -/
def daySeconds : Int := 86400

/-- Whether a market is one between two coins, not between two variants of one. -/
def isMarket (tickerId : String) : Bool :=
  match Pair.sides (Pair.plain tickerId) with
  | .ok (b, q) => b != q
  | .error _ => false

/-- The markets of records not older than `since` whose coins can be traded. -/
def marketsSince (records : Table LastTrade) (c : Catalogue) (since : Int) :
    List (String × String) :=
  (records.values.filter fun r =>
    since ≤ r.swapTime && c.bothTradable r.base r.quote && isMarket r.tickerId).map
      fun r => (r.base, r.quote)

/-- The markets traded within a number of days before `now`. -/
def candidates (records : Table LastTrade) (c : Catalogue) (now days : Int) :
    Run (List (String × String)) := do
  let seconds ← Run.int64 (days * daySeconds)
  let since ← Run.int64 (now - seconds)
  return marketsSince records c since

end SwapMarket
