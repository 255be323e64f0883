import SwapMarket.Fault
import SwapMarket.Schedule.Levels

/-!
# Items

The eleven things that the program keeps and publishes. Each is built from what it depends on, and
**`Item.all`** lists every item after its dependencies.
-/

namespace SwapMarket

/-- What the program keeps. -/
inductive Item where
  /-- The configuration of all tickers. -/
  | coinEntries
  /-- The older list of coins. -/
  | listedCoins
  /-- The prices of coins. -/
  | coinPrices
  /-- The rates of currencies. -/
  | rates
  /-- The prices of an exchange. -/
  | spotPrices
  /-- The last trade of each market. -/
  | lastTrades
  /-- The prices of a day. -/
  | dayPrices
  /-- The volumes of a day. -/
  | dayVolumes
  /-- The volumes of fourteen days. -/
  | fortnightVolumes
  /-- The orderbooks. -/
  | orderbooks
  /-- The summary of all markets. -/
  | summary
  deriving DecidableEq, Repr

namespace Item

/-- All items. -/
def all : List Item :=
  [.coinEntries, .listedCoins, .coinPrices, .rates, .spotPrices, .lastTrades, .dayPrices,
    .dayVolumes, .fortnightVolumes, .orderbooks, .summary]

/-- The name of an item. -/
def name : Item → String
  | .coinEntries => "coins_config"
  | .listedCoins => "coins"
  | .coinPrices => "gecko_source"
  | .rates => "fixer_rates"
  | .spotPrices => "binance_prices"
  | .lastTrades => "pair_last_traded"
  | .dayPrices => "pair_prices_24hr"
  | .dayVolumes => "pair_volumes_24hr"
  | .fortnightVolumes => "pair_volumes_14d"
  | .orderbooks => "pair_orderbook_extended"
  | .summary => "tickers_summary"

/-- The item of a name. -/
def ofName (s : String) : Result Item :=
  match all.find? fun n => n.name == s with
  | some n => .ok n
  | none => .error (.itemMissing s)

/-- The name of the file in which an item is kept. -/
def fileName (n : Item) : String := n.name ++ ".json"

/-- The items that have to be there before an item can be built. -/
def dependencies : Item → List Item
  | .coinEntries | .listedCoins | .rates | .spotPrices => []
  | .coinPrices | .lastTrades => [.coinEntries]
  | .dayPrices | .dayVolumes | .fortnightVolumes => [.coinEntries, .lastTrades]
  | .orderbooks => [.coinEntries, .lastTrades, .dayPrices, .dayVolumes]
  | .summary => [.orderbooks, .lastTrades]

/-- The place of an item among all. -/
def position (n : Item) : Nat := all.idxOf n

/-- The items with their dependencies. -/
def table : List (Schedule.Row Item) := all.map fun n => ⟨n, n.dependencies⟩

/-- The fault of a table that cannot be arranged. -/
def levelsFault : Schedule.LevelsFault Item → Fault
  | .unregistered a d => .unregistered a.name d.name
  | .cycle => .cycle

/-- The items, each after its dependencies. -/
def levels : Result (List (List Item)) := (Schedule.levels table).mapError levelsFault

/-- The list of all items is complete. -/
theorem mem_all (n : Item) : n ∈ all := by cases n <;> decide

end Item

end SwapMarket
