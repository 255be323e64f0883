import SwapMarket.Decimal.Division
import SwapMarket.Fault
import SwapMarket.Swap.Basic

/-!
# Trades of a market

A swap between the coins of a market, in either direction, is a **`Trade`** of it: amounts as base
and quote, the price as quote per base, and the side, which is `buy` when the maker gave the base.
**`Swap.orient`** finds the trade of a swap; variants of a coin are different coins here.

**`Aggregate.ofSwaps`** sums up the trades of a market. A price whose scale leaves its range ends
the run.
-/

namespace SwapMarket

/-- The side of a trade. -/
inductive Side where
  /-- The maker gave the base. -/
  | buy
  /-- The maker gave the quote. -/
  | sell
  deriving DecidableEq, Repr

namespace Side

/-- The name of a side. -/
def text : Side → String
  | .buy => "buy"
  | .sell => "sell"

/-- The other side. -/
def other : Side → Side
  | .buy => .sell
  | .sell => .buy

end Side

/-- A swap as a trade of a market. -/
structure Trade where
  /-- The identifier of the swap. -/
  uuid : String
  /-- The amount of the base. -/
  baseAmount : Decimal
  /-- The amount of the quote. -/
  quoteAmount : Decimal
  /-- The amount of the quote for one of the base. -/
  price : Decimal
  /-- When the swap ended. -/
  finishedAt : Int
  /-- The side. -/
  side : Side
  deriving DecidableEq, Repr

/-- What the taker gave for one of the maker's coin; zero if the maker gave nothing. -/
def Swap.price (s : Swap) : Run Decimal := Run.inRange (s.takerAmount.quotient? s.makerAmount)

/-- A swap as a trade of the market of its maker's coin against its taker's. -/
def Trade.ofSwap (s : Swap) (side : Side) : Run Trade :=
  s.price.map fun price =>
    { uuid := s.uuid
      baseAmount := s.makerAmount
      quoteAmount := s.takerAmount
      price := price
      finishedAt := s.finishedAt
      side := side }

/-- A contributing swap as a trade of a market, if it is one. -/
def Swap.orient (s : Swap) (base quote : String) : Run (Option Trade) :=
  if !s.contributes then .ok none
  else if s.makerCoin = base ∧ s.takerCoin = quote then (Trade.ofSwap s .buy).map some
  else if s.makerCoin = quote ∧ s.takerCoin = base then (Trade.ofSwap s.flip .sell).map some
  else .ok none

/-- The trades of a market in the order of their swaps. -/
def Trade.unsorted (base quote : String) : List Swap → Run (List Trade)
  | [] => .ok []
  | s :: ss => do
    let t ← s.orient base quote
    let ts ← unsorted base quote ss
    return t.toList ++ ts

/-- Whether `a` comes before `b`, or may. -/
def Trade.notAfter (a b : Trade) : Bool :=
  a.finishedAt < b.finishedAt || (a.finishedAt == b.finishedAt && a.uuid ≤ b.uuid)

/-- The trades of a market in order of completion, then of identifiers. -/
def Trade.ofSwaps (ss : List Swap) (base quote : String) : Run (List Trade) :=
  (Trade.unsorted base quote ss).map fun ts => ts.mergeSort notAfter

/-- The first of the greatest values of a list. -/
def greatest? : List Decimal → Option Decimal
  | [] => none
  | d :: ds => some (ds.foldl (fun m x => if m.below x then x else m) d)

/-- The first of the least values of a list. -/
def least? : List Decimal → Option Decimal
  | [] => none
  | d :: ds => some (ds.foldl (fun m x => if x.below m then x else m) d)

/-- The figures of a market. -/
structure Aggregate where
  /-- The sum of the base amounts. -/
  baseVolume : Decimal
  /-- The sum of the quote amounts. -/
  quoteVolume : Decimal
  /-- The number of trades. -/
  trades : Nat
  /-- The trade that was completed first. -/
  oldest : Option Trade
  /-- The trade that was completed last. -/
  newest : Option Trade
  /-- The greatest price; zero if there is none. -/
  highestPrice : Decimal
  /-- The least price; zero if there is none. -/
  lowestPrice : Decimal
  deriving DecidableEq, Repr

namespace Aggregate

/-- The figures of trades in order of completion. -/
def ofTrades (ts : List Trade) : Aggregate :=
  { baseVolume := Decimal.sum (ts.map (·.baseAmount))
    quoteVolume := Decimal.sum (ts.map (·.quoteAmount))
    trades := ts.length
    oldest := ts.head?
    newest := ts.getLast?
    highestPrice := (greatest? (ts.map (·.price))).getD .zero
    lowestPrice := (least? (ts.map (·.price))).getD .zero }

/-- The figures of a market. -/
def ofSwaps (ss : List Swap) (base quote : String) : Run Aggregate :=
  (Trade.ofSwaps ss base quote).map ofTrades

/-- The change of the price from the oldest to the newest trade. -/
def priceChange (a : Aggregate) : Decimal :=
  match a.oldest, a.newest with
  | some o, some n => n.price - o.price
  | _, _ => .zero

/-- The change of the price in percent of the oldest price. -/
def priceChangePercent (a : Aggregate) : Run Decimal :=
  match a.oldest with
  | some o => (Run.inRange (a.priceChange.quotient? o.price)).map (· * .ofInt 100)
  | none => .ok .zero

end Aggregate

end SwapMarket
