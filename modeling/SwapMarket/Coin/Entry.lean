import SwapMarket.Fault
import SwapMarket.Json.Decode

/-!
# Coin data

Three tables describe coins: the configuration of each ticker (**`CoinEntry`**), the older list of
coins (**`ListedCoin`**), and the dollar prices under the identifiers of the price service
(**`CoinPrice`**). All three are kept as JSON.

**`completeEntries`**, **`listedCoins`** and **`coinPrices`** make the tables of what the services
answer. An empty answer is refused for the first two.
-/

namespace SwapMarket

/-- The configuration of a ticker. -/
structure CoinEntry where
  /-- The ticker, as the entry itself names it. -/
  coin : String
  /-- The kind of coin. -/
  coinType : String
  /-- The name of the coin. -/
  name : String
  /-- The identifier at the price service, perhaps with blanks, perhaps empty. -/
  priceId : String
  /-- Whether the coin belongs to a test network. -/
  isTestnet : Bool
  /-- Whether the coin can be held but not traded. -/
  walletOnly : Bool
  deriving DecidableEq, Repr

/-- A coin of the older list. -/
structure ListedCoin where
  /-- The ticker. -/
  coin : String
  /-- The name of the coin. -/
  fname : String
  /-- A mark of eight bits. -/
  mm2 : Option Nat
  /-- Whether the coin can be held but not traded. -/
  walletOnly : Bool
  deriving DecidableEq, Repr

/-- The dollar price and the market capitalisation of a coin, in published form. -/
structure CoinPrice where
  /-- The price. -/
  usdPrice : String
  /-- The market capitalisation. -/
  usdMarketCap : String
  deriving DecidableEq, Repr

/-- The configuration of all tickers. -/
abbrev CoinEntries := Table CoinEntry

/-- The older list, by ticker. -/
abbrev ListedCoins := Table ListedCoin

/-- Prices by identifier. -/
abbrev CoinPrices := Table CoinPrice

namespace CoinEntry

/-- The names of the members. -/
def names : List String := ["coin", "type", "name", "coingecko_id", "is_testnet", "wallet_only"]

/-- An entry as JSON. -/
def toJson (e : CoinEntry) : Json :=
  .obj [("coin", .str e.coin), ("type", .str e.coinType), ("name", .str e.name),
    ("coingecko_id", .str e.priceId), ("is_testnet", .bool e.isTestnet),
    ("wallet_only", .bool e.walletOnly)]

/-- Reads an entry; every member may be missing. -/
def ofJson? (v : Json) : Option CoinEntry := do
  let m ← v.members names
  return {
    coin := ← m.defaulted "coin" "" Json.text?
    coinType := ← m.defaulted "type" "" Json.text?
    name := ← m.defaulted "name" "" Json.text?
    priceId := ← m.defaulted "coingecko_id" "" Json.text?
    isTestnet := ← m.defaulted "is_testnet" false Json.bool?
    walletOnly := ← m.defaulted "wallet_only" false Json.bool? }

end CoinEntry

namespace ListedCoin

/-- The names of the members. -/
def names : List String := ["coin", "fname", "mm2", "wallet_only"]

/-- A coin as JSON. -/
def toJson (c : ListedCoin) : Json :=
  .obj [("coin", .str c.coin), ("fname", .str c.fname),
    ("mm2", .ofOption (c.mm2.map Json.nat)), ("wallet_only", .bool c.walletOnly)]

/-- Reads a coin; every member but the ticker may be missing. -/
def ofJson? (v : Json) : Option ListedCoin := do
  let m ← v.members names
  return {
    coin := ← m.text "coin"
    fname := ← m.defaulted "fname" "" Json.text?
    mm2 := ← m.defaulted "mm2" none (Json.option? (Json.nat? 8))
    walletOnly := ← m.defaulted "wallet_only" false Json.bool? }

end ListedCoin

namespace CoinPrice

/-- The names of the members. -/
def names : List String := ["usd_price", "usd_market_cap"]

/-- A price as JSON. -/
def toJson (p : CoinPrice) : Json :=
  .obj [("usd_price", .str p.usdPrice), ("usd_market_cap", .str p.usdMarketCap)]

/-- Reads a price. -/
def ofJson? (v : Json) : Option CoinPrice := do
  let m ← v.members names
  return { usdPrice := ← m.text "usd_price", usdMarketCap := ← m.text "usd_market_cap" }

end CoinPrice

/-- The configuration as it is published: an entry without a ticker gets that of its key. -/
def completeEntries (es : CoinEntries) : Result CoinEntries :=
  if es.isEmpty then .error (.answer .noCoins)
  else .ok (es.map fun ticker e => if e.coin = "" then { e with coin := ticker } else e)

/-- The older list as it is published: coins without a ticker are dropped, and the last one of a
ticker stays. -/
def listedCoins (cs : List ListedCoin) : Result ListedCoins :=
  if cs.isEmpty then .error (.answer .noCoinList)
  else .ok (.ofList ((cs.filter (·.coin ≠ "")).map fun c => (c.coin, c)))

end SwapMarket
