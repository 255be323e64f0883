import SwapMarket.Item
import SwapMarket.Path
import SwapMarket.Url.Reader

/-!
# Settings

Where the program keeps its files, which services it asks and how often. **`Settings.check`**
admits settings only if every interval is above zero.
-/

namespace SwapMarket

/-- The settings of the program. -/
structure Settings where
  /-- The host on which requests are served. -/
  serverHost : String
  /-- The number of the socket on which requests are served. -/
  serverSocket : Nat
  /-- How many seconds a service may take. -/
  timeout : Nat
  /-- Whether the program is being tested. -/
  isTesting : Bool
  /-- Where the items are kept. -/
  itemFolder : String
  /-- Where the replicas are kept. -/
  replicaFolder : String
  /-- The networks whose replicas are read. -/
  netids : List Nat
  /-- The host from which replicas are copied; nothing if none are. -/
  seedHost : String
  /-- The user at that host. -/
  seedUser : String
  /-- Where that host keeps its replicas. -/
  seedPath : String
  /-- How many seconds lie between two copies. -/
  syncInterval : Nat
  /-- Where the older list of coins is. -/
  coinsUrl : String
  /-- Where the configuration of the tickers is. -/
  coinEntriesUrl : String
  /-- Where the price service is. -/
  priceService : String
  /-- Where the rate service is. -/
  rateService : String
  /-- The key for the rate service. -/
  rateKey : String
  /-- Where the exchange is. -/
  exchange : String
  /-- Where the trading node is; nothing if there is none. -/
  nodeUrl : String
  /-- The password for the trading node. -/
  nodePassword : String
  /-- The file of the countries of internet addresses. -/
  geoFile : String
  /-- The countries that are not served. -/
  blockedCountries : List String
  /-- How many seconds the coins are kept. -/
  coinsInterval : Nat
  /-- How many seconds the prices of coins are kept. -/
  pricesInterval : Nat
  /-- How many seconds the rates are kept. -/
  ratesInterval : Nat
  /-- How many seconds the prices of the exchange are kept. -/
  exchangeInterval : Nat
  /-- How many seconds the views of the markets are kept. -/
  marketsInterval : Nat
  /-- How many seconds the summary is kept. -/
  summaryInterval : Nat
  /-- How many seconds pass after a failure. -/
  retryInterval : Nat
  /-- How many seconds lie between two looks for items that are due. -/
  checkInterval : Nat
  /-- How many days a market stays after its last trade. -/
  marketDays : Int
  /-- How many seconds rates are served after they were taken. -/
  ratesMaxAge : Int
  /-- How many requests are under way at a time. -/
  maxRequests : Nat
  deriving DecidableEq, Repr, Inhabited

namespace Settings

/-- How many seconds an item is kept. -/
def ttl (s : Settings) : Item → Nat
  | .listedCoins | .coinEntries => s.coinsInterval
  | .coinPrices => s.pricesInterval
  | .rates => s.ratesInterval
  | .spotPrices => s.exchangeInterval
  | .lastTrades | .dayPrices | .dayVolumes | .fortnightVolumes | .orderbooks => s.marketsInterval
  | .summary => s.summaryInterval

/-- The settings that have to be above zero, by name. -/
def intervals (s : Settings) : List (String × Nat) :=
  [("SYNC_INTERVAL", s.syncInterval), ("COINS_INTERVAL", s.coinsInterval),
    ("GECKO_INTERVAL", s.pricesInterval), ("FIXER_INTERVAL", s.ratesInterval),
    ("BINANCE_INTERVAL", s.exchangeInterval), ("PAIRS_INTERVAL", s.marketsInterval),
    ("TICKERS_INTERVAL", s.summaryInterval), ("RETRY_INTERVAL", s.retryInterval),
    ("REFRESH_CHECK_INTERVAL", s.checkInterval), ("MAX_CONCURRENT_REQUESTS", s.maxRequests)]

/-- Whether the settings are admitted. -/
def check (s : Settings) : Result Unit :=
  match s.intervals.find? fun e => e.2 == 0 with
  | some e => .error (.settings (.notPositive e.1))
  | none =>
    if s.marketDays ≤ 0 ∨ s.ratesMaxAge ≤ 0 then .error (.settings .daysOrAge) else .ok ()

/-- The file of an item. -/
def itemFile (s : Settings) (n : Item) : String := Path.join s.itemFolder n.fileName

/-- The name under which the file of an item is first written. -/
def itemDraft (s : Settings) (n : Item) : String :=
  Path.join s.itemFolder ("." ++ n.fileName ++ ".tmp")

/-- The folder of the replicas of a network. -/
def netidFolder (s : Settings) (netid : Nat) : String :=
  Path.join s.replicaFolder (toString netid)

/-- Whether there is a trading node. -/
def hasNode (s : Settings) : Bool := s.nodeUrl != ""

/-- Whether replicas are copied from another host. -/
def hasSeed (s : Settings) : Bool := s.seedHost != ""

/-- Reads an address. -/
def address (t : String) : Result Url := (Url.parse t).mapError .address

/-- The address of the identifiers of the price service. -/
def listingsUrl (s : Settings) : Result Url := address (s.priceService ++ "/coins/list")

/-- The address of the prices of some identifiers. -/
def quotesUrl (s : Settings) (ids : List String) : Result Url :=
  (address (s.priceService ++ "/coins/markets")).map fun u =>
    u.withParameters [("vs_currency", "usd"), ("ids", ",".intercalate ids),
      ("per_page", toString (max ids.length 1)), ("page", "1")]

/-- The address of the latest rates. -/
def ratesUrl (s : Settings) : Result Url :=
  (address (s.rateService ++ "/latest")).map fun u =>
    u.withParameters [("access_key", s.rateKey)]

/-- The address of the prices of the exchange. -/
def spotPricesUrl (s : Settings) : Result Url := address (s.exchange ++ "/ticker/price")

/-- The address of the trading node. -/
def orderbookUrl (s : Settings) : Result Url := address s.nodeUrl

/-- The name of a replica that is copied. -/
def replicaFile : String := "MM2.db"

/-- The words of the command that copies the replica of a network. -/
def copyArguments (s : Settings) (netid : Nat) : List String :=
  let user := if s.seedUser = "" then "" else s.seedUser ++ "@"
  ["-az", "-e", "ssh -o BatchMode=yes", "--timeout=" ++ toString s.syncInterval,
    user ++ s.seedHost ++ ":" ++ s.seedPath ++ "/" ++ toString netid ++ "/" ++ replicaFile,
    Path.join (s.netidFolder netid) replicaFile]

end Settings

end SwapMarket
