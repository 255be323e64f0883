import SwapMarket.Decimal.Division
import SwapMarket.Decimal.TenPlaces
import SwapMarket.Fault
import SwapMarket.Json.Decode

/-!
# Rates of currencies

A rate service answers with rates against a base of its own choice (**`RatesAnswer`**).
**`Rates.ofAnswer`** turns them into rates against the dollar: each rate is divided by that of the
dollar, the base gets one over it, and the dollar gets one. **`Rates.checkFresh`** refuses rates
that are too old.
-/

namespace SwapMarket

/-- Why a rate service gives no rates. -/
structure RatesError where
  /-- A number for the cause. -/
  code : Int
  /-- The kind of cause. -/
  kind : String
  /-- More words. -/
  info : String
  deriving DecidableEq, Repr

/-- The answer of a rate service. -/
structure RatesAnswer where
  /-- Whether the service gives rates. -/
  success : Bool
  /-- When the rates were taken. -/
  timestamp : Option Int
  /-- The currency to which the rates refer; the euro if none is named. -/
  base : Option String
  /-- The day of the rates. -/
  date : Option String
  /-- The rates by currency. -/
  rates : Option (Table Number)
  /-- Why there are no rates. -/
  error : Option RatesError

/-- Rates against the dollar. -/
structure Rates where
  /-- When the rates were taken. -/
  timestamp : Int
  /-- The day of the rates. -/
  date : String
  /-- The currency to which the rates refer. -/
  base : String
  /-- The rates by currency, in published form. -/
  rates : Table String
  deriving DecidableEq

namespace RatesError

/-- The names of the members. -/
def names : List String := ["code", "type", "info"]

/-- Reads a cause; every member may be missing. -/
def ofJson? (v : Json) : Option RatesError := do
  let m ← v.members names
  return {
    code := ← m.defaulted "code" 0 Json.int64?
    kind := ← m.defaulted "type" "" Json.text?
    info := ← m.defaulted "info" "" Json.text? }

end RatesError

namespace RatesAnswer

/-- The names of the members. -/
def names : List String := ["success", "timestamp", "base", "date", "rates", "error"]

/-- Reads an answer. -/
def ofJson? (v : Json) : Option RatesAnswer := do
  let m ← v.members names
  return {
    success := ← m.defaulted "success" false Json.bool?
    timestamp := ← m.optional "timestamp" Json.int64?
    base := ← m.optional "base" Json.text?
    date := ← m.optional "date" Json.text?
    rates := ← m.optional "rates" (Json.table? Json.number?)
    error := ← m.optional "error" RatesError.ofJson? }

end RatesAnswer

namespace Rates

/-- The currency of the published rates. -/
def dollar : String := "USD"

/-- The currency of an answer that names none. -/
def euro : String := "EUR"

/-- The names of the members. -/
def names : List String := ["timestamp", "date", "base", "rates"]

/-- Rates as JSON. -/
def toJson (r : Rates) : Json :=
  .obj [("timestamp", .int r.timestamp), ("date", .str r.date), ("base", .str r.base),
    ("rates", .ofTable Json.str r.rates)]

/-- Reads rates. -/
def ofJson? (v : Json) : Option Rates := do
  let m ← v.members names
  return {
    timestamp := ← m.int64 "timestamp"
    date := ← m.text "date"
    base := ← m.text "base"
    rates := ← m.required "rates" (Json.table? Json.text?) }

/-- The rates before any were published. -/
def blank : Rates := ⟨0, "", dollar, .empty⟩

/-- The rate of the dollar in a table of rates against a base. -/
def dollarRate (base : String) (rates : Table Number) : Decimal :=
  if base = dollar then .one else ((rates.find? dollar).map Number.decimal).getD .zero

/-- Rates against a base as rates against the dollar. -/
def rebase (base : String) (dollars : Decimal) (rates : Table Number) : Table String :=
  let divided := rates.map fun _ n => (n.decimal.quotient dollars).published
  (divided.insert base (Decimal.one.quotient dollars).published).insert dollar
    Decimal.one.published

/-- The rates of an answer against the dollar. -/
def ofAnswer (a : RatesAnswer) : Result Rates :=
  if !a.success then
    match a.error with
    | some e => .error (.refusal (.stated e.code e.kind e.info))
    | none => .error (.refusal .noCause)
  else
    match a.timestamp with
    | none => .error (.answer .noTimestamp)
    | some timestamp =>
      match a.rates with
      | none => .error (.answer .noRates)
      | some rates =>
        let base := a.base.getD euro
        let dollars := dollarRate base rates
        if dollars.isZero then .error (.answer (.noDollar base))
        else .ok ⟨timestamp, a.date.getD "", dollar, rebase base dollars rates⟩

/-- Refuses rates that are older than `maxAge` seconds. -/
def checkFresh (r : Rates) (now maxAge : Int) : Run Unit := do
  let age ← Run.int64 (now - r.timestamp)
  if maxAge < age then Run.fail .stale

end Rates

end SwapMarket
