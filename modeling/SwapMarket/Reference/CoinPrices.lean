import SwapMarket.Coin.Entry
import SwapMarket.Decimal.TenPlaces

/-!
# Prices of coins

The price service knows coins under identifiers of its own. It is first asked which identifiers it
lists (**`PriceListing`**), then for the prices of those in use, in groups of at most 200
(**`groupsOf`**). **`coinPrices`** makes the table of the answers; what has no price has the price
zero.
-/

namespace SwapMarket

/-- An identifier that the price service lists. -/
structure PriceListing where
  /-- The identifier. -/
  id : String
  /-- The symbol of the coin. -/
  symbol : String
  deriving DecidableEq, Repr

/-- What the price service answers for an identifier. -/
structure PriceQuote where
  /-- The identifier. -/
  id : String
  /-- The dollar price. -/
  price : Option Number
  /-- The market capitalisation in dollars. -/
  marketCap : Option Number
  deriving DecidableEq, Repr

namespace PriceListing

/-- The names of the members. -/
def names : List String := ["id", "symbol"]

/-- Reads a listing. -/
def ofJson? (v : Json) : Option PriceListing := do
  let m ← v.members names
  return { id := ← m.text "id", symbol := ← m.defaulted "symbol" "" Json.text? }

end PriceListing

namespace PriceQuote

/-- The names of the members. -/
def names : List String := ["id", "current_price", "market_cap"]

/-- Reads a quote. -/
def ofJson? (v : Json) : Option PriceQuote := do
  let m ← v.members names
  return {
    id := ← m.text "id"
    price := ← m.defaulted "current_price" none (Json.option? Json.number?)
    marketCap := ← m.defaulted "market_cap" none (Json.option? Json.number?) }

/-- The published form of a number, that of zero if there is none. -/
def figure (n : Option Number) : String := ((n.map Number.decimal).getD .zero).published

/-- The published prices of a quote. -/
def toPrice (q : PriceQuote) : CoinPrice := ⟨figure q.price, figure q.marketCap⟩

end PriceQuote

/-- The greatest number of identifiers in one request. -/
def greatestGroup : Nat := 200

/-- A list cut into groups of at most `n`. -/
def groupsOf {α : Type} (n : Nat) (xs : List α) : List (List α) :=
  if xs = [] ∨ n = 0 then [] else xs.take n :: groupsOf n (xs.drop n)
termination_by xs.length
decreasing_by
  have : 0 < xs.length := List.length_pos_iff.2 (by simp_all)
  simp only [List.length_drop]
  omega

/-- The identifiers that are listed. -/
def listedIds (ids listed : List String) : List String := ids.filter fun id => listed.contains id

/-- The prices of quotes; the last quote of an identifier stays. -/
def coinPrices (qs : List PriceQuote) : CoinPrices :=
  .ofList (qs.map fun q => (q.id, q.toPrice))

end SwapMarket
