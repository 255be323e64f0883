import SwapMarket.Board.Basic

/-!
# Producers

**`Board.produce`** makes the value of an item of what is on the board: the snapshots of other
items, the replicas and the services. Nothing on the board changes.

The views of the markets share a context (**`Board.context`**): the catalogue of coins and the
markets that are candidates. The volumes of a day and of fourteen days differ only in the number
of days. An orderbook that cannot be had counts as empty, and one that cannot be projected is
blank, so that one market cannot spoil the others.
-/

namespace SwapMarket.Board

/-- Asks a service. -/
def askService {α : Type} (b : Board) (decode : Json → Option α) (url : Result Url) : Asking α := do
  let u ← Asking.ofResult url
  ask b.network b.settings.timeout decode (.resource u)

/-- The configuration of the tickers, from the service. -/
def produceCoinEntries (b : Board) : Asking CoinEntries := do
  let es ← b.askService (Json.table? CoinEntry.ofJson?) (Settings.address b.settings.coinEntriesUrl)
  Asking.ofResult (completeEntries es)

/-- The older list of coins, from the service. -/
def produceListedCoins (b : Board) : Asking ListedCoins := do
  let cs ← b.askService (Json.list? ListedCoin.ofJson?) (Settings.address b.settings.coinsUrl)
  Asking.ofResult (listedCoins cs)

/-- The quotes of groups of identifiers, one request after the other. -/
def askQuotes (b : Board) : List (List String) → Asking (List PriceQuote)
  | [] => return []
  | g :: gs => do
    let qs ← b.askService (Json.list? PriceQuote.ofJson?) (b.settings.quotesUrl g)
    let rest ← askQuotes b gs
    return qs ++ rest

/-- The prices of the coins in use that the service lists. -/
def produceCoinPrices (b : Board) : Asking CoinPrices := do
  let entries ← Asking.ofRun (b.require .coinEntries)
  let c := Catalogue.ofEntries entries none none
  let listings ← b.askService (Json.list? PriceListing.ofJson?) b.settings.listingsUrl
  let ids := listedIds c.priceIds (listings.map (·.id))
  let qs ← b.askQuotes (groupsOf greatestGroup ids)
  return coinPrices qs

/-- The rates, from the service; without a key it is not asked. -/
def produceRates (b : Board) : Asking Rates := do
  if b.settings.rateKey = "" then Asking.ofResult (.error (.keyMissing "FIXER_API_KEY"))
  else
    let a ← b.askService RatesAnswer.ofJson? b.settings.ratesUrl
    Asking.ofResult (Rates.ofAnswer a)

/-- The prices of the exchange. -/
def produceSpotPrices (b : Board) : Asking SpotPrices := do
  let ps ← b.askService (Json.list? SpotPrice.ofJson?) b.settings.spotPricesUrl
  Asking.ofResult (spotPrices ps)

/-- The catalogue of the coins on the board. -/
def catalogue (b : Board) (entries : CoinEntries) : Catalogue :=
  Catalogue.ofEntries entries (b.slots .listedCoins) (b.slots .coinPrices)

/-- The last trade of each market. -/
def produceLastTrades (b : Board) : Run (Table LastTrade) := do
  let entries ← b.require .coinEntries
  let ss ← (lastSwaps b.settings b.disk .all).toRun
  lastTrades (b.catalogue entries) ss

/-- What the views of the markets have in common. -/
structure Context where
  /-- The coins. -/
  catalogue : Catalogue
  /-- The last trades. -/
  lastTrades : Table LastTrade
  /-- The markets that are shown. -/
  candidates : List (String × String)

/-- The context of the views of the markets. -/
def context (b : Board) : Run Context := do
  let entries ← b.require .coinEntries
  let last ← b.require .lastTrades
  let c := b.catalogue entries
  let ms ← candidates last c b.now b.settings.marketDays
  return ⟨c, last, ms⟩

/-- The swaps of some days up to now. -/
def swapsOfDays (b : Board) (days : Int) : Run (List Swap) := do
  let since ← Run.int64 (b.now - days * daySeconds)
  (swapsBetween b.settings b.disk .all since b.now).toRun

/-- The prices of the last day. -/
def produceDayPrices (b : Board) : Run (Table DayPrices) := do
  let x ← b.context
  let ss ← b.swapsOfDays 1
  dayPrices x.catalogue x.candidates ss

/-- The volumes of some days. -/
def produceVolumes (b : Board) (days : Int) : Run (Table Volume) := do
  let x ← b.context
  let ss ← b.swapsOfDays days
  volumes x.catalogue x.candidates ss

/-- The orderbook of a market, from the trading node. -/
def askBook (b : Board) (base quote : String) : Asking QuotedBook := do
  let u ← Asking.ofResult b.settings.orderbookUrl
  let book ← ask b.network b.settings.timeout QuotedBook.ofJson?
    (.orderbook u b.settings.nodePassword base quote)
  match book.error with
  | some cause => Asking.ofResult (.error (.refusal (.orderbook base quote cause)))
  | none => return book

/-- The orderbook of a market; empty if it cannot be had. -/
def bookOf (b : Board) (base quote : String) : Asking QuotedBook :=
  if b.settings.hasNode then
    ExceptT.mk do
      match ← (b.askBook base quote).run with
      | .ok book => return .ok book
      | .error _ => return .ok .empty
  else return .empty

/-- The projected book of a market; blank if it cannot be projected. -/
def bookRecord (c : Catalogue) (base quote : String) (book : QuotedBook) (f : Orderbook.Figures)
    (now : Int) : Run Orderbook :=
  match Orderbook.project c base quote book f now with
  | .error (.fault _) => .ok (.blank base quote)
  | r => r

/-- The orderbooks of markets, by identifier. -/
def bookRecords (b : Board) (x : Context) (prices : Table DayPrices) (vols : Table Volume) :
    List (String × String) → Asking (List (String × Orderbook))
  | [] => return []
  | (base, quote) :: rest => do
    let key := Pair.join base quote
    let book ← b.bookOf base quote
    let r ← Asking.ofRun (bookRecord x.catalogue base quote book
      ⟨prices.find? key, vols.find? key, x.lastTrades.find? key⟩ b.now)
    let rs ← bookRecords b x prices vols rest
    return (key, r) :: rs

/-- The orderbooks of all candidates. -/
def produceOrderbooks (b : Board) : Asking (Table Orderbook) := do
  let x ← Asking.ofRun b.context
  let prices ← Asking.ofRun (b.require .dayPrices)
  let vols ← Asking.ofRun (b.require .dayVolumes)
  let rs ← b.bookRecords x prices vols x.candidates
  return .ofList rs

/-- The summary of all markets. -/
def produceSummary (b : Board) : Run Summary := do
  let books ← b.require .orderbooks
  let last ← b.require .lastTrades
  Summary.ofBooks books last b.now

/-- The value of an item. -/
def produce (b : Board) : (n : Item) → Asking n.Value
  | .coinEntries => b.produceCoinEntries
  | .listedCoins => b.produceListedCoins
  | .coinPrices => b.produceCoinPrices
  | .rates => b.produceRates
  | .spotPrices => b.produceSpotPrices
  | .lastTrades => Asking.ofRun b.produceLastTrades
  | .dayPrices => Asking.ofRun b.produceDayPrices
  | .dayVolumes => Asking.ofRun (b.produceVolumes 1)
  | .fortnightVolumes => Asking.ofRun (b.produceVolumes 14)
  | .orderbooks => b.produceOrderbooks
  | .summary => Asking.ofRun b.produceSummary

end SwapMarket.Board
