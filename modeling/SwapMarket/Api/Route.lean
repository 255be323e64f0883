import SwapMarket.Api.Market

/-!
# Routes

A **`Route`** is something that a client can ask for. Every route has one path, and a path that is
not exactly that of a route leads nowhere. Some routes take a parameter.
-/

namespace SwapMarket.Api

/-- What a client can ask for. -/
inductive Route where
  /-- The prices of coins. -/
  | coinPrices
  /-- The tickers under each identifier of the price service. -/
  | tickersById
  /-- The summary of all markets. -/
  | summary
  /-- A view of the markets. -/
  | market (v : MarketView)
  /-- The rates of currencies. -/
  | rates
  /-- The prices of the exchange. -/
  | spotPrices
  /-- Whether the client is served, by its country. -/
  | bouncer
  /-- The status of the items. -/
  | items
  /-- The version of the program. -/
  | version
  deriving DecidableEq, Repr

namespace Route

/-- All routes. -/
def all : List Route :=
  [.coinPrices, .tickersById, .summary] ++ MarketView.all.map .market
    ++ [.rates, .spotPrices, .bouncer, .items, .version]

/-- Where all paths start. -/
def root : String := "/api/v3/"

/-- The name of a route below the root. -/
def name : Route → String
  | .coinPrices => "gecko/source"
  | .tickersById => "gecko/coin_ids"
  | .summary => "tickers/summary"
  | .market .lastTrades => "pairs/last_traded"
  | .market .dayPrices => "pairs/prices_24hr"
  | .market .dayVolumes => "pairs/volumes_24hr"
  | .market .fortnightVolumes => "pairs/volumes_14d"
  | .market .orderbooks => "pairs/orderbook_extended"
  | .rates => "rates/fixer_io"
  | .spotPrices => "binance/ticker_price"
  | .bouncer => "utils/bouncer"
  | .items => "utils/cache_items"
  | .version => "utils/version"

/-- The path of a route. -/
def path (r : Route) : String := root ++ r.name

/-- The route of a path. -/
def ofPath? (p : String) : Option Route := all.find? fun r => r.path == p

/-- The name of the parameter that a route takes. -/
def parameterName? : Route → Option String
  | .market _ => some "pair"
  | .spotPrices => some "symbol"
  | _ => none

/-- A path leads to the route that it is the path of. -/
theorem ofPath?_path (r : Route) : ofPath? r.path = some r := by
  cases r with
  | market v => cases v <;> decide
  | _ => decide

end Route

end SwapMarket.Api
