import SwapMarket.Item
import SwapMarket.Market.Summary
import SwapMarket.Reference.CoinPrices
import SwapMarket.Reference.Rates
import SwapMarket.Reference.SpotPrices

/-!
# The values of items

**`Item.Value`** is what an item holds when it is published, and **`Item.toJson`** and
**`Item.ofJson?`** write and read it. **`Item.fileText`** is the text of the file in which a value
is kept: indented lines, members in ascending order of their names.
-/

namespace SwapMarket.Item

/-- What an item holds. -/
def Value : Item → Type
  | .coinEntries => CoinEntries
  | .listedCoins => ListedCoins
  | .coinPrices => CoinPrices
  | .rates => Rates
  | .spotPrices => SpotPrices
  | .lastTrades => Table LastTrade
  | .dayPrices => Table DayPrices
  | .dayVolumes => Table Volume
  | .fortnightVolumes => Table Volume
  | .orderbooks => Table Orderbook
  | .summary => Summary

/-- A value as JSON. -/
def toJson : (n : Item) → n.Value → Json
  | .coinEntries, v => .ofTable CoinEntry.toJson v
  | .listedCoins, v => .ofTable ListedCoin.toJson v
  | .coinPrices, v => .ofTable CoinPrice.toJson v
  | .rates, v => Rates.toJson v
  | .spotPrices, v => .ofTable .str v
  | .lastTrades, v => .ofTable LastTrade.toJson v
  | .dayPrices, v => .ofTable DayPrices.toJson v
  | .dayVolumes, v => .ofTable Volume.toJson v
  | .fortnightVolumes, v => .ofTable Volume.toJson v
  | .orderbooks, v => .ofTable Orderbook.toJson v
  | .summary, v => Summary.toJson v

/-- Reads a value. -/
def ofJson? : (n : Item) → Json → Option n.Value
  | .coinEntries, v => v.table? CoinEntry.ofJson?
  | .listedCoins, v => v.table? ListedCoin.ofJson?
  | .coinPrices, v => v.table? CoinPrice.ofJson?
  | .rates, v => Rates.ofJson? v
  | .spotPrices, v => v.table? Json.text?
  | .lastTrades, v => v.table? LastTrade.ofJson?
  | .dayPrices, v => v.table? DayPrices.ofJson?
  | .dayVolumes, v => v.table? Volume.ofJson?
  | .fortnightVolumes, v => v.table? Volume.ofJson?
  | .orderbooks, v => v.table? Orderbook.ofJson?
  | .summary, v => Summary.ofJson? v

/-- The text of the file of a value. -/
def fileText (n : Item) (v : n.Value) : String := (n.toJson v).sorted.pretty

/-- Reads the text of a file. -/
def ofFileText (n : Item) (s : String) : Result n.Value :=
  match (Json.read s).bind n.ofJson? with
  | some v => .ok v
  | none => .error .json

end SwapMarket.Item
