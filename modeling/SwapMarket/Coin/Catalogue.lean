import SwapMarket.Coin.Entry

/-!
# The catalogue of coins

A **`Catalogue`** joins the configuration of the tickers with the older list and the prices.

* A coin is tradable unless it is delisted, held only, or of a test network (**`tradable`**).
* The price and the market capitalisation of a variant without a value of its own are those of
  its plain ticker (**`usdPrice`**, **`marketCap`**).
* Of two tickers the one with the larger market capitalisation is the quote of their market, and
  of equals the one later in the alphabet (**`orientation`**).
-/

namespace SwapMarket

/-- A coin with what is known of it. -/
structure Coin where
  /-- The ticker. -/
  ticker : String
  /-- The variant of the ticker. -/
  variant : Option String
  /-- The kind of coin. -/
  coinType : String
  /-- Whether the coin belongs to a test network. -/
  isTestnet : Bool
  /-- Whether the coin can be held but not traded. -/
  isWalletOnly : Bool
  /-- Whether there is a segwit variant of the coin. -/
  hasSegwit : Bool
  /-- The identifier at the price service. -/
  priceId : Option String
  /-- The dollar price; zero if unknown. -/
  usdPrice : Decimal
  /-- The market capitalisation in dollars; zero if unknown. -/
  usdMarketCap : Decimal
  deriving DecidableEq, Repr

/-- Whether a coin can be traded. -/
def Coin.isTradable (c : Coin) : Bool :=
  !c.isTestnet && !c.isWalletOnly && c.coinType != "Delisted"

/-- The identifier that stands for coins of test networks. -/
def testPriceId : String := "test-coin"

/-- The usable identifier of an entry at the price service. -/
def CoinEntry.usableId (e : CoinEntry) : Option String :=
  let id := Text.trim e.priceId
  if id = "" ∨ id = testPriceId then none else some id

/-- The coins by ticker. -/
structure Catalogue where
  /-- The coins. -/
  coins : Table Coin
  deriving DecidableEq

namespace Catalogue

/-- The coin of an entry. -/
def coinOf (entries : CoinEntries) (listed : Option ListedCoins) (prices : Option CoinPrices)
    (ticker : String) (e : CoinEntry) : Coin :=
  let price := e.usableId.bind fun id => prices.bind fun t => t.find? id
  let read (f : CoinPrice → String) : Decimal :=
    match price with
    | some p => Decimal.readOrZero (f p)
    | none => .zero
  { ticker := ticker
    variant := Pair.variant? ticker
    coinType := e.coinType
    isTestnet := e.isTestnet
    isWalletOnly := e.walletOnly ||
      ((listed.bind fun t => t.find? ticker).map (·.walletOnly)).getD false
    hasSegwit := entries.contains (Pair.plainTicker ticker ++ "-segwit")
    priceId := e.usableId
    usdPrice := read (·.usdPrice)
    usdMarketCap := read (·.usdMarketCap) }

/-- The catalogue of a configuration, a list and prices. -/
def ofEntries (entries : CoinEntries) (listed : Option ListedCoins) (prices : Option CoinPrices) :
    Catalogue :=
  ⟨entries.map (coinOf entries listed prices)⟩

/-- The coin of a ticker. -/
def get (c : Catalogue) (ticker : String) : Result Coin :=
  match c.coins.find? ticker with
  | some coin => .ok coin
  | none => .error (.coinUnknown ticker)

/-- The coin of a ticker, if it can be traded. -/
def tradable (c : Catalogue) (ticker : String) : Result Coin :=
  match c.get ticker with
  | .ok coin => if coin.isTradable then .ok coin else .error (.coinWalletOnly ticker)
  | .error f => .error f

/-- Whether both coins can be traded. -/
def bothTradable (c : Catalogue) (a b : String) : Bool :=
  (c.tradable a).isOk && (c.tradable b).isOk

/-- A value of the coin of a ticker, or if it is zero or there is none, of the plain ticker. -/
def lookup (c : Catalogue) (f : Coin → Decimal) (ticker : String) : Decimal :=
  match (c.coins.find? ticker).map f with
  | some v =>
    if v.isZero then ((c.coins.find? (Pair.plainTicker ticker)).map f).getD .zero else v
  | none => ((c.coins.find? (Pair.plainTicker ticker)).map f).getD .zero

/-- The dollar price of a ticker; zero if unknown. -/
def usdPrice (c : Catalogue) (ticker : String) : Decimal := c.lookup (·.usdPrice) ticker

/-- The market capitalisation of a ticker; zero if unknown. -/
def marketCap (c : Catalogue) (ticker : String) : Decimal := c.lookup (·.usdMarketCap) ticker

/-- Whether `a` comes after `b` as the quote of their market. -/
def isQuoteOf (c : Catalogue) (a b : String) : Bool :=
  match Decimal.order (c.marketCap a) (c.marketCap b) with
  | .gt => true
  | .lt => false
  | .eq => b < a

/-- Two tickers as the base and the quote of their market. -/
def orientation (c : Catalogue) (a b : String) : String × String :=
  if c.isQuoteOf a b then (b, a) else (a, b)

/-- The identifiers in use at the price service, in ascending order. -/
def priceIds (c : Catalogue) : List String :=
  (Table.ofList ((c.coins.values.filterMap (·.priceId)).map fun id => (id, ()))).keys

/-- The tickers under each identifier, in ascending order. -/
def tickersById (c : Catalogue) : Table (List String) :=
  c.coins.values.foldl
    (fun t coin =>
      match coin.priceId with
      | some id => t.insert id ((t.find? id).getD [] ++ [coin.ticker])
      | none => t)
    .empty

end Catalogue

end SwapMarket
