import SwapMarket.Market.Amount
import SwapMarket.Json.Decode

/-!
# Orders as a trading node quotes them

A **`QuotedBook`** is what a node answers for one market: orders on both sides, with prices in
quote per base. Prices and volumes are left as they came; **`Order.ofQuote`** reads them, and
takes what is missing for zero.
-/

namespace SwapMarket

/-- An order as it is quoted. -/
structure QuotedOrder where
  /-- The price. -/
  price : Json
  /-- The greatest volume in the base. -/
  baseVolume : Json
  /-- The greatest volume in the quote. -/
  quoteVolume : Json
  deriving Repr

/-- The orders of a market as they are quoted. -/
structure QuotedBook where
  /-- The orders that sell the base. -/
  asks : List QuotedOrder
  /-- The orders that buy the base. -/
  bids : List QuotedOrder
  /-- Why there are no orders. -/
  error : Option String
  deriving Repr

/-- An order that can be calculated with. -/
structure Order where
  /-- The price. -/
  price : Decimal
  /-- The volume in the base. -/
  baseVolume : Decimal
  /-- The volume in the quote. -/
  quoteVolume : Decimal
  deriving DecidableEq, Repr

namespace QuotedOrder

/-- The names of the members. -/
def names : List String := ["price", "base_max_volume", "rel_max_volume"]

/-- Reads an order; every member may be missing. -/
def ofJson? (v : Json) : Option QuotedOrder := do
  let m ← v.members names
  return {
    price := ← m.defaulted "price" .null Json.value?
    baseVolume := ← m.defaulted "base_max_volume" .null Json.value?
    quoteVolume := ← m.defaulted "rel_max_volume" .null Json.value? }

end QuotedOrder

namespace QuotedBook

/-- The book without orders. -/
def empty : QuotedBook := ⟨[], [], none⟩

instance : Inhabited QuotedBook := ⟨empty⟩

/-- The names of the members. -/
def names : List String := ["asks", "bids", "error"]

/-- Reads a book; the sides may be missing. -/
def ofJson? (v : Json) : Option QuotedBook := do
  let m ← v.members names
  return {
    asks := ← m.defaulted "asks" [] (Json.list? QuotedOrder.ofJson?)
    bids := ← m.defaulted "bids" [] (Json.list? QuotedOrder.ofJson?)
    error := ← m.optional "error" Json.text? }

end QuotedBook

namespace Order

/-- Reads a quoted order. -/
def ofQuote (q : QuotedOrder) : Result Order := do
  let price ← q.price.amount
  let baseVolume ← q.baseVolume.amount
  let quoteVolume ← q.quoteVolume.amount
  return ⟨price, baseVolume, quoteVolume⟩

/-- Reads quoted orders, up to the first that cannot be read. -/
def ofQuotes : List QuotedOrder → Result (List Order)
  | [] => .ok []
  | q :: qs =>
    match ofQuote q with
    | .error f => .error f
    | .ok o => (ofQuotes qs).map (o :: ·)

/-- The orders by ascending price; equal prices keep their order. -/
def ascending (os : List Order) : List Order :=
  os.mergeSort fun a b => Decimal.order a.price b.price != .gt

/-- The orders by descending price; equal prices keep their order. -/
def descending (os : List Order) : List Order :=
  os.mergeSort fun a b => Decimal.order b.price a.price != .gt

end Order

end SwapMarket
