import SwapMarket.Settings.Basic
import SwapMarket.Text.UpperCase

/-!
# Settings from variables

Settings come from variables. Those that the environment does not set are taken from two texts of
lines `NAME=VALUE`, the first line of a name before later ones and the first text before the
second (**`completed`**). Blank lines, lines that start with a number sign and lines without an
equals sign do not count.

A variable cannot have an empty name, and there is no null character in names and values: to set
such a variable ends the run.

**`Settings.ofVariables`** reads the settings. The first variable that is missing or not of its
kind is reported.
-/

namespace SwapMarket

open Text (IntegerFault)

/-- Variables by name. -/
abbrev Variables := Table String

namespace Variables

/-- The variable that a line sets. -/
def ofLine (line : String) : Option (String × String) :=
  let t := Text.trim line
  if t = "" ∨ t.toList.head? = some '#' then none
  else (Text.cut '=' t).map fun (k, v) => (Text.trim k, Text.trim v)

/-- The variables that the lines of a text set. -/
def ofText (text : String) : List (String × String) :=
  (Text.pieces '\n' text).filterMap ofLine

/-- Whether a variable can be set. -/
def canBeSet (k v : String) : Bool :=
  k ≠ "" && !k.toList.contains '\x00' && !v.toList.contains '\x00'

/-- Sets variables in turn, except those that are set already. -/
def addAll (env : Variables) : List (String × String) → Run Variables
  | [] => .ok env
  | (k, v) :: rest =>
    if env.contains k then addAll env rest
    else if canBeSet k v then addAll (env.insert k v) rest
    else .error .unsettable

/-- An environment with what two texts add to it; the first text may be missing, and the second
may not. -/
def completed (env : Variables) (first second : Option String) : Run Variables :=
  match second with
  | none => Run.fail .file
  | some t => env.addAll (((first.map ofText).getD []) ++ ofText t)

/-- The value of a variable. -/
def get (env : Variables) (k : String) : Result String :=
  match env.find? k with
  | some v => .ok v
  | none => .error .variable

/-- An integer variable. -/
def integer (env : Variables) (k : String) (b : Text.Bounds) : Result Int := do
  (Text.readInteger b (← env.get k)).mapError .integer

/-- An unsigned variable of so many bits. -/
def unsigned (env : Variables) (k : String) (bits : Nat) : Result Nat :=
  (env.integer k (.unsigned bits)).map Int.toNat

/-- A truth value. -/
def flag (env : Variables) (k : String) : Result Bool := do
  let v ← env.get k
  if v = "true" then return true
  if v = "false" then return false
  throw .boolean

/-- A list of unsigned integers of so many bits. -/
def unsignedItems (bits : Nat) : List String → Result (List Nat)
  | [] => .ok []
  | t :: ts =>
    match Text.readUnsigned bits t with
    | .error f => .error (.integer f)
    | .ok n => (unsignedItems bits ts).map (n :: ·)

end Variables

namespace Settings

/-- The settings that variables give, relative paths being below `root`. -/
def ofVariables (root : String) (env : Variables) : Result Settings := do
  let serverHost ← env.get "SERVER_HOST"
  let serverSocket ← env.unsigned "PORT" 16
  let timeout ← env.unsigned "TIMEOUT" 64
  let isTesting ← env.flag "IS_TESTING"
  let cacheFolder ← env.get "CACHE_DIRECTORY"
  let replicaFolder ← env.get "MM2_DB_DIRECTORY"
  let netids ← Variables.unsignedItems 16 (Text.items (← env.get "NETIDS"))
  if netids = [] then throw (.settings .noNetids)
  let seedHost ← env.get "SEED_NODE_HOST"
  let seedUser ← env.get "SEED_NODE_USER"
  let seedPath ← env.get "SEED_NODE_DB_PATH"
  let syncInterval ← env.unsigned "SYNC_INTERVAL" 64
  let coinsUrl ← env.get "COINS_URL"
  let coinEntriesUrl ← env.get "COINS_CONFIG_URL"
  let priceService ← env.get "COINGECKO_API"
  let rateService ← env.get "FIXER_API"
  let rateKey ← env.get "FIXER_API_KEY"
  let exchange ← env.get "BINANCE_API"
  let nodeUrl ← env.get "KDF_RPC_URL"
  let nodePassword ← env.get "KDF_USERPASS"
  let geoFile ← env.get "IP2LOCATION_DB"
  let blocked ← env.get "GEO_BLOCKLIST"
  let coinsInterval ← env.unsigned "COINS_INTERVAL" 64
  let pricesInterval ← env.unsigned "GECKO_INTERVAL" 64
  let ratesInterval ← env.unsigned "FIXER_INTERVAL" 64
  let exchangeInterval ← env.unsigned "BINANCE_INTERVAL" 64
  let marketsInterval ← env.unsigned "PAIRS_INTERVAL" 64
  let summaryInterval ← env.unsigned "TICKERS_INTERVAL" 64
  let retryInterval ← env.unsigned "RETRY_INTERVAL" 64
  let checkInterval ← env.unsigned "REFRESH_CHECK_INTERVAL" 64
  let marketDays ← env.integer "PAIRS_DAYS" (.signed 64)
  let ratesMaxAge ← env.integer "FIXER_MAX_AGE" (.signed 64)
  let maxRequests ← env.unsigned "MAX_CONCURRENT_REQUESTS" 64
  let cacheFolder := Path.join root cacheFolder
  let s : Settings := {
    serverHost := serverHost
    serverSocket := serverSocket
    timeout := timeout
    isTesting := isTesting
    itemFolder := if isTesting then Path.join cacheFolder "tests" else cacheFolder
    replicaFolder := Path.join root replicaFolder
    netids := netids
    seedHost := seedHost
    seedUser := seedUser
    seedPath := seedPath
    syncInterval := syncInterval
    coinsUrl := coinsUrl
    coinEntriesUrl := coinEntriesUrl
    priceService := priceService
    rateService := rateService
    rateKey := rateKey
    exchange := exchange
    nodeUrl := nodeUrl
    nodePassword := nodePassword
    geoFile := Path.join root geoFile
    blockedCountries := (Text.items blocked).map Text.upperCase
    coinsInterval := coinsInterval
    pricesInterval := pricesInterval
    ratesInterval := ratesInterval
    exchangeInterval := exchangeInterval
    marketsInterval := marketsInterval
    summaryInterval := summaryInterval
    retryInterval := retryInterval
    checkInterval := checkInterval
    marketDays := marketDays
    ratesMaxAge := ratesMaxAge
    maxRequests := maxRequests }
  s.check
  return s

end Settings

end SwapMarket
