import SwapMarket.Coin.Catalogue
import SwapMarket.Market.Record
import SwapMarket.Swap.Trade

/-!
# The volume of a market

**`Volume.ofSwaps`** sums up what was traded on both sides of a market, in coins and in dollars.
The dollar volume of the market is the mean of its two sides if both coins have a price, and the
side with a price if only one has (**`usdVolume`**).
-/

namespace SwapMarket

/-- The volume of a market over some days. -/
structure Volume where
  /-- The identifier of the market. -/
  tickerId : String
  /-- The base. -/
  base : String
  /-- The quote. -/
  quote : String
  /-- The sum of the base amounts. -/
  baseVolume : String
  /-- The sum of the quote amounts. -/
  targetVolume : String
  /-- The base amounts in dollars. -/
  baseVolumeUsd : String
  /-- The quote amounts in dollars. -/
  quoteVolumeUsd : String
  /-- The volume in dollars. -/
  volumeUsd : String
  /-- The number of trades. -/
  trades : Nat
  deriving DecidableEq, Repr

/-- The dollar volume of a market, given the price and the dollar volume of each side. -/
def usdVolume (basePrice baseUsd quotePrice quoteUsd : Decimal) : Run Decimal :=
  match basePrice.isZero, quotePrice.isZero with
  | false, false => Run.inRange ((baseUsd + quoteUsd).quotient? (.ofInt 2))
  | false, true => .ok baseUsd
  | true, false => .ok quoteUsd
  | true, true => .ok .zero

/-- The name of a period of days. -/
def periodName (days : Nat) : String :=
  if days = 1 then "24h" else toString days ++ "d"

namespace Volume

/-- The names of the members. -/
def names : List String :=
  ["ticker_id", "base", "quote", "base_volume", "target_volume", "base_volume_usd",
    "quote_volume_usd", "volume_usd", "trades"]

/-- A record as JSON. -/
def toJson (r : Volume) : Json :=
  .obj [("ticker_id", .str r.tickerId), ("base", .str r.base), ("quote", .str r.quote),
    ("base_volume", .str r.baseVolume), ("target_volume", .str r.targetVolume),
    ("base_volume_usd", .str r.baseVolumeUsd), ("quote_volume_usd", .str r.quoteVolumeUsd),
    ("volume_usd", .str r.volumeUsd), ("trades", .nat r.trades)]

/-- Reads a record. -/
def ofJson? (v : Json) : Option Volume := do
  let m ← v.members names
  return {
    tickerId := ← m.text "ticker_id"
    base := ← m.text "base"
    quote := ← m.text "quote"
    baseVolume := ← m.text "base_volume"
    targetVolume := ← m.text "target_volume"
    baseVolumeUsd := ← m.text "base_volume_usd"
    quoteVolumeUsd := ← m.text "quote_volume_usd"
    volumeUsd := ← m.text "volume_usd"
    trades := ← m.nat64 "trades" }

/-- The record of a market without trades. -/
def blank (base quote : String) : Volume :=
  { tickerId := Pair.join base quote
    base := base
    quote := quote
    baseVolume := Decimal.publishedZero
    targetVolume := Decimal.publishedZero
    baseVolumeUsd := Decimal.publishedZero
    quoteVolumeUsd := Decimal.publishedZero
    volumeUsd := Decimal.publishedZero
    trades := 0 }

/-- The record seen from the other side. -/
def flip (r : Volume) : Volume :=
  { tickerId := Pair.flip r.tickerId
    base := r.quote
    quote := r.base
    baseVolume := r.targetVolume
    targetVolume := r.baseVolume
    baseVolumeUsd := r.quoteVolumeUsd
    quoteVolumeUsd := r.baseVolumeUsd
    volumeUsd := r.volumeUsd
    trades := r.trades }

instance : MarketRecord Volume := ⟨blank, fun r => .ok r.flip, toJson⟩

/-- The volume of a market over the given swaps. -/
def ofSwaps (c : Catalogue) (base quote : String) (ss : List Swap) : Run Volume := do
  let a ← Aggregate.ofSwaps ss base quote
  let basePrice := c.usdPrice base
  let quotePrice := c.usdPrice quote
  let baseUsd ← Run.inRange (a.baseVolume.product? basePrice)
  let quoteUsd ← Run.inRange (a.quoteVolume.product? quotePrice)
  let volumeUsd ← usdVolume basePrice baseUsd quotePrice quoteUsd
  return {
    tickerId := Pair.join base quote
    base := base
    quote := quote
    baseVolume := ← a.baseVolume.figure
    targetVolume := ← a.quoteVolume.figure
    baseVolumeUsd := ← baseUsd.figure
    quoteVolumeUsd := ← quoteUsd.figure
    volumeUsd := ← volumeUsd.figure
    trades := a.trades }

end Volume

/-- The volumes of markets over the given swaps. -/
def volumes (c : Catalogue) (markets : List (String × String)) (ss : List Swap) :
    Run (Table Volume) :=
  recordTable markets fun base quote => Volume.ofSwaps c base quote ss

end SwapMarket
