import SwapMarket.Decimal.Reader
import SwapMarket.Json.Printer
import SwapMarket.Pair
import SwapMarket.Url.Basic

/-!
# What can go wrong

A **`Fault`** is a cause. Its **`kind`** decides the words before its details and the status with
which a request is answered; **`detail`** words the cause itself, and **`message`** is both.

A run can also be cut short, because a number leaves its range or a variable cannot be set. That
is not a fault to be reported but the end of the run: **`Stop`** tells the two apart.
-/

namespace SwapMarket

open Text (IntegerFault)

/-- The kinds of faults. -/
inductive FaultKind where
  /-- A file cannot be read or written. -/
  | file
  /-- A text is not a resource address. -/
  | address
  /-- A text is not an integer. -/
  | integer
  /-- A replica cannot be queried. -/
  | replica
  /-- A variable is not set. -/
  | variable
  /-- A text is not a decimal. -/
  | decimal
  /-- A text is not JSON of the wanted shape. -/
  | json
  /-- A text is not a table of comma separated values. -/
  | csv
  /-- A text is not a truth value. -/
  | boolean
  /-- A value is not what it should be. -/
  | value
  /-- The settings are not admitted. -/
  | configuration
  /-- The server ended. -/
  | server
  /-- A text does not name a market. -/
  | pair
  /-- A coin is not known. -/
  | coinUnknown
  /-- A coin cannot be traded. -/
  | coinWalletOnly
  /-- A swap is not known. -/
  | swapUnknown
  /-- An item is not known, or was never published. -/
  | itemMissing
  /-- The file of an item does not exist. -/
  | fileMissing
  /-- A request lacks a parameter. -/
  | parameterMissing
  /-- A service cannot be reached. -/
  | transport
  /-- A service answers something that cannot be used. -/
  | answer
  /-- A service refuses a request. -/
  | refusal
  /-- The data of a service are too old. -/
  | stale
  /-- A service takes too long. -/
  | timeout
  /-- A service cannot be asked without a key. -/
  | keyMissing
  /-- The client is in a country that is not served. -/
  | restricted
  deriving DecidableEq, Repr

namespace FaultKind

/-- The words before the details. -/
def heading : FaultKind → String
  | .configuration => "Configuration error: "
  | .server => "Server end with error: "
  | .pair => "Bad pair format: "
  | .coinUnknown => "Coin not found: "
  | .coinWalletOnly => "Coin is wallet only: "
  | .swapUnknown => "Uuid not found: "
  | .itemMissing => "Cache item not found: "
  | .fileMissing => "Cache file missing: "
  | .parameterMissing => "Missing params: "
  | .transport => "Upstream transport error: "
  | .answer => "Upstream decode error: "
  | .refusal => "Upstream error: "
  | .timeout => "Timeout: "
  | .keyMissing => "Api key missing: "
  | .restricted => "Geo restricted: "
  | _ => ""

/-- A message with its heading. -/
def message (k : FaultKind) (detail : String) : String := k.heading ++ detail

/-- The status with which a request is answered. -/
def status : FaultKind → Nat
  | .stale => 406
  | .restricted => 403
  | _ => 400

end FaultKind

/-- Why the settings are not admitted. -/
inductive SettingsFault where
  /-- A setting has to be above zero. -/
  | notPositive (key : String)
  /-- The days of a market or the age of rates have to be above zero. -/
  | daysOrAge
  /-- No network is named. -/
  | noNetids
  deriving DecidableEq, Repr

/-- The wording of a fault. -/
def SettingsFault.message : SettingsFault → String
  | .notPositive key => key ++ " must be positive"
  | .daysOrAge => "PAIRS_DAYS and FIXER_MAX_AGE must be positive"
  | .noNetids => "NETIDS must name at least one netid"

/-- Why the answer of a service cannot be used. -/
inductive AnswerFault where
  /-- The body cannot be decoded. -/
  | body
  /-- Rates come without a time. -/
  | noTimestamp
  /-- Rates come without a table. -/
  | noRates
  /-- There is no rate of the dollar in the table of this base. -/
  | noDollar (base : String)
  /-- There are no coins. -/
  | noCoins
  /-- There is no list of coins. -/
  | noCoinList
  /-- There are no prices. -/
  | noPrices
  deriving DecidableEq, Repr

/-- The wording of a fault. -/
def AnswerFault.message : AnswerFault → String
  | .body => ": error decoding response body"
  | .noTimestamp => "fixer response has no timestamp"
  | .noRates => "fixer response has no rates"
  | .noDollar base => "fixer response has no USD rate for base " ++ base
  | .noCoins => "coins_config is empty"
  | .noCoinList => "coins file is empty"
  | .noPrices => "binance returned no tickers"

/-- Why a service refuses a request. -/
inductive RefusalFault where
  /-- The status is one of failure. -/
  | status (place : String) (code : Nat) (reason : String)
  /-- The service gives a cause. -/
  | stated (code : Int) (kind info : String)
  /-- The service gives no cause. -/
  | noCause
  /-- There is no orderbook for a market. -/
  | orderbook (base quote cause : String)
  deriving DecidableEq, Repr

/-- The wording of a fault. -/
def RefusalFault.message : RefusalFault → String
  | .status place code reason => place ++ ": " ++ toString code ++ " " ++ reason
  | .stated code kind info => toString code ++ " " ++ kind ++ ": " ++ info
  | .noCause => "fixer request unsuccessful"
  | .orderbook base quote cause => "orderbook " ++ base ++ "/" ++ quote ++ ": " ++ cause

/-- Why a service cannot be reached. -/
inductive TransportFault where
  /-- A request gets no answer. -/
  | unanswered (url : Url)
  /-- No request can be made to an address. -/
  | unusable (url : Url)
  /-- Replicas could not be copied. -/
  | sync (netids : List Nat)
  /-- A producer gave up. -/
  | gaveUp (cause : String)
  deriving DecidableEq, Repr

/-- The wording of a fault. -/
def TransportFault.message : TransportFault → String
  | .unanswered url => url.place ++ ": error sending request for url (" ++ url.text ++ ")"
  | .unusable url => url.place ++ ": builder error for url (" ++ url.text ++ ")"
  | .sync netids => "seed sync failed for netids " ++ ",".intercalate (netids.map toString)
  | .gaveUp cause => cause

/-- Why something cannot be done. -/
inductive Fault where
  /-- A file cannot be read or written. -/
  | file
  /-- A text is not a resource address. -/
  | address (cause : UrlFault)
  /-- A text is not an integer. -/
  | integer (cause : IntegerFault)
  /-- A replica cannot be queried. -/
  | replica
  /-- A variable is not set. -/
  | variable
  /-- A text is not a decimal. -/
  | decimal (cause : DecimalFault)
  /-- A text is not JSON of the wanted shape. -/
  | json
  /-- A text is not a table of comma separated values. -/
  | csv
  /-- A text is not a truth value. -/
  | boolean
  /-- A JSON value does not stand for a decimal. -/
  | notDecimal (value : Json)
  /-- The settings are not admitted. -/
  | settings (cause : SettingsFault)
  /-- The items depend on each other in a cycle. -/
  | cycle
  /-- A text does not name a market. -/
  | pair (cause : PairFault)
  /-- A coin is not known. -/
  | coinUnknown (ticker : String)
  /-- A coin cannot be traded. -/
  | coinWalletOnly (ticker : String)
  /-- There is no item of this name, or it has no snapshot. -/
  | itemMissing (name : String)
  /-- An item depends on one that is not in the table. -/
  | unregistered (name dependency : String)
  /-- The file of an item does not exist. -/
  | fileMissing (path : String)
  /-- A service cannot be reached. -/
  | transport (cause : TransportFault)
  /-- A service answers something that cannot be used. -/
  | answer (cause : AnswerFault)
  /-- A service refuses a request. -/
  | refusal (cause : RefusalFault)
  /-- The data of a service are too old. -/
  | stale
  /-- A service takes too long. -/
  | timeout (place : String)
  /-- A service cannot be asked without a key. -/
  | keyMissing (key : String)
  /-- The client is in a country that is not served. -/
  | restricted (country : String)
  deriving Repr

namespace Fault

/-- The kind of a fault. -/
def kind : Fault → FaultKind
  | .file => .file
  | .address _ => .address
  | .integer _ => .integer
  | .replica => .replica
  | .variable => .variable
  | .decimal _ => .decimal
  | .json => .json
  | .csv => .csv
  | .boolean => .boolean
  | .notDecimal _ => .value
  | .settings _ => .configuration
  | .cycle => .configuration
  | .pair _ => .pair
  | .coinUnknown _ => .coinUnknown
  | .coinWalletOnly _ => .coinWalletOnly
  | .itemMissing _ => .itemMissing
  | .unregistered .. => .itemMissing
  | .fileMissing _ => .fileMissing
  | .transport _ => .transport
  | .answer _ => .answer
  | .refusal _ => .refusal
  | .stale => .stale
  | .timeout _ => .timeout
  | .keyMissing _ => .keyMissing
  | .restricted _ => .restricted

/-- The wording of the cause. Faults of files, replicas and formats are not worded. -/
def detail : Fault → String
  | .file => ""
  | .address cause => cause.message
  | .integer cause => cause.message
  | .replica => ""
  | .variable => "environment variable not found"
  | .decimal cause => cause.message
  | .json => ""
  | .csv => ""
  | .boolean => "provided string was not \x60true\x60 or \x60false\x60"
  | .notDecimal value => value.sorted.compact ++ " is not a decimal"
  | .settings cause => cause.message
  | .cycle => "cache item dependencies contain a cycle"
  | .pair cause => cause.message
  | .coinUnknown ticker => ticker
  | .coinWalletOnly ticker => ticker
  | .itemMissing name => name
  | .unregistered name dependency => name ++ " depends on unregistered " ++ dependency
  | .fileMissing path => path
  | .transport cause => cause.message
  | .answer cause => cause.message
  | .refusal cause => cause.message
  | .stale => "Data expired"
  | .timeout place => place
  | .keyMissing key => key
  | .restricted country => country

/-- The whole wording of a fault. -/
def message (f : Fault) : String := f.kind.message f.detail

end Fault

/-- Why a run ends without a value. -/
inductive Stop where
  /-- Something is wrong. -/
  | fault (cause : Fault)
  /-- A number or a date leaves its range. -/
  | overflow
  /-- A variable cannot be set. -/
  | unsettable
  deriving Repr

/-- A value, or the fault in its place. -/
abbrev Result (α : Type) := Except Fault α

/-- A value, or the end of the run in its place. -/
abbrev Run (α : Type) := Except Stop α

/-- A result as a run. -/
def Result.toRun {α : Type} (r : Result α) : Run α := r.mapError .fault

/-- A run that ends in a fault. -/
def Run.fail {α : Type} (f : Fault) : Run α := .error (.fault f)

/-- What cuts a run short, if anything other than a fault does. -/
def Run.cut? {α : Type} : Run α → Option Stop
  | .error (.fault _) => none
  | .error s => some s
  | .ok _ => none

/-- A value that is there unless a number leaves its range. -/
def Run.inRange {α : Type} : Option α → Run α
  | some v => .ok v
  | none => .error .overflow

/-- The integer `n` if 64 bits hold it with its sign. -/
def Run.int64 (n : Int) : Run Int :=
  if (Text.Bounds.signed 64).holds n then .ok n else .error .overflow

/-- The number `n` if 64 bits hold it. -/
def Run.nat64 (n : Nat) : Run Nat :=
  if n < Nat.pow 2 64 then .ok n else .error .overflow

end SwapMarket
