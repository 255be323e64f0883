import SwapMarket.Fault
import SwapMarket.Json.Decode

/-!
# Spot prices

The prices of an exchange by symbol, in the words of the exchange. An empty answer is refused.
-/

namespace SwapMarket

/-- The price of a symbol. -/
structure SpotPrice where
  /-- The symbol. -/
  symbol : String
  /-- The price, as it was written. -/
  price : String
  deriving DecidableEq, Repr

/-- Prices by symbol. -/
abbrev SpotPrices := Table String

namespace SpotPrice

/-- The names of the members. -/
def names : List String := ["symbol", "price"]

/-- Reads a price. -/
def ofJson? (v : Json) : Option SpotPrice := do
  let m ← v.members names
  return { symbol := ← m.text "symbol", price := ← m.text "price" }

end SpotPrice

/-- The prices by symbol; the last price of a symbol stays. -/
def spotPrices (ps : List SpotPrice) : Result SpotPrices :=
  if ps.isEmpty then .error (.answer .noPrices)
  else .ok (.ofList (ps.map fun p => (p.symbol, p.price)))

end SwapMarket
