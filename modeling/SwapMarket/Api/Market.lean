import SwapMarket.Board.Basic

/-!
# The views of the markets

Five items are tables of records of markets (**`MarketView`**). A client asks for a whole table or
for the record of one market. **`recordOf`** is the record of a market: the stored one, else the
stored one of the other side seen from this side, else the blank one. So a market always has a
record unless a number leaves its range, and a client never sees the figures of another market.
-/

namespace SwapMarket.Api

/-- A view of the markets. -/
inductive MarketView where
  /-- The last trades. -/
  | lastTrades
  /-- The prices of a day. -/
  | dayPrices
  /-- The volumes of a day. -/
  | dayVolumes
  /-- The volumes of fourteen days. -/
  | fortnightVolumes
  /-- The orderbooks. -/
  | orderbooks
  deriving DecidableEq, Repr

namespace MarketView

/-- All views. -/
def all : List MarketView := [.lastTrades, .dayPrices, .dayVolumes, .fortnightVolumes, .orderbooks]

/-- The item of a view. -/
def item : MarketView → Item
  | .lastTrades => .lastTrades
  | .dayPrices => .dayPrices
  | .dayVolumes => .dayVolumes
  | .fortnightVolumes => .fortnightVolumes
  | .orderbooks => .orderbooks

/-- The records of a view. -/
def Record : MarketView → Type
  | .lastTrades => LastTrade
  | .dayPrices => DayPrices
  | .dayVolumes => Volume
  | .fortnightVolumes => Volume
  | .orderbooks => Orderbook

instance (v : MarketView) : MarketRecord v.Record :=
  match v with
  | .lastTrades => inferInstanceAs (MarketRecord LastTrade)
  | .dayPrices => inferInstanceAs (MarketRecord DayPrices)
  | .dayVolumes => inferInstanceAs (MarketRecord Volume)
  | .fortnightVolumes => inferInstanceAs (MarketRecord Volume)
  | .orderbooks => inferInstanceAs (MarketRecord Orderbook)

/-- The table of a view, if it is published. -/
def table? (b : Board) : (v : MarketView) → Option (Table v.Record)
  | .lastTrades => b.slots .lastTrades
  | .dayPrices => b.slots .dayPrices
  | .dayVolumes => b.slots .dayVolumes
  | .fortnightVolumes => b.slots .fortnightVolumes
  | .orderbooks => b.slots .orderbooks

end MarketView

/-- The record of a market in a table of records. -/
def recordOf {α : Type} [MarketRecord α] (t : Table α) (base quote : String) : Run α :=
  let key := Pair.join base quote
  match t.find? key with
  | some r => .ok r
  | none =>
    match (t.find? (Pair.flip key)).map MarketRecord.inverse with
    | some (.error (.fault _)) => .ok (MarketRecord.blank base quote)
    | some r => r
    | none => .ok (MarketRecord.blank base quote)

/-- A stored record is shown as it is. -/
theorem recordOf_of_find? {α : Type} [MarketRecord α] {t : Table α} {base quote : String} {r : α}
    (h : t.find? (Pair.join base quote) = some r) : recordOf t base quote = .ok r := by
  simp [recordOf, h]

/-- A market that is stored from neither side has the blank record. -/
theorem recordOf_of_find?_eq_none {α : Type} [MarketRecord α] {t : Table α} {base quote : String}
    (h : t.find? (Pair.join base quote) = none)
    (h' : t.find? (Pair.flip (Pair.join base quote)) = none) :
    recordOf t base quote = .ok (MarketRecord.blank base quote) := by
  simp [recordOf, h, h']

/-- What a client sees of a view. -/
inductive Shown (α : Type) where
  /-- The record of one market. -/
  | one (r : α)
  /-- The records of all markets. -/
  | all (t : Table α)

namespace Shown

/-- What is shown, as JSON. -/
def toJson {α : Type} [MarketRecord α] : Shown α → Json
  | .one r => MarketRecord.toJson r
  | .all t => .ofTable MarketRecord.toJson t

/-- What is shown of a view, of the market of two tickers if they are given. -/
def ofTable {α : Type} [MarketRecord α] (t : Option (Table α)) :
    Option (String × String) → Run (Shown α)
  | some (base, quote) =>
    match t with
    | some t => (recordOf t base quote).map .one
    | none => .ok (.one (MarketRecord.blank base quote))
  | none => .ok (.all (t.getD .empty))

end Shown

end SwapMarket.Api
