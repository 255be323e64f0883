import SwapMarket.Decimal.Division
import SwapMarket.Decimal.TenPlaces
import SwapMarket.Fault
import SwapMarket.Json.Decode

/-!
# Records of a market

Every view of the markets is a table of records under the identifiers of the markets. A kind of
record (**`MarketRecord`**) has a blank one for every market, all of whose figures are zero, and
can be seen from the other side of its market: prices become reciprocals, and quantities of base
and quote change places.

Figures are kept in published form (**`Decimal.figure`**). The **`inverse`** of a record therefore
reads them, fails on a text that is not a decimal, and ends the run where a scale leaves its range.
-/

namespace SwapMarket

/-- What the records of a view have in common. -/
class MarketRecord (α : Type) where
  /-- The record of a market about which nothing is known. -/
  blank : String → String → α
  /-- The record seen from the other side of the market. -/
  inverse : α → Run α
  /-- The record as JSON. -/
  toJson : α → Json

/-- The records of markets in the order of their list, each with its identifier. -/
def recordList {α : Type} (record : String → String → Run α) :
    List (String × String) → Run (List (String × α))
  | [] => .ok []
  | (base, quote) :: rest => do
    let r ← record base quote
    let rs ← recordList record rest
    return (Pair.join base quote, r) :: rs

/-- The table of the records of markets. -/
def recordTable {α : Type} (markets : List (String × String))
    (record : String → String → Run α) : Run (Table α) :=
  (recordList record markets).map .ofList

/-- The published form of a value. -/
def Decimal.figure (d : Decimal) : Run String := Run.inRange d.published?

/-- One over a value; zero for zero. -/
def Decimal.reciprocal (d : Decimal) : Run Decimal := Run.inRange (Decimal.one.quotient? d)

/-- Reads a published figure. -/
def readFigure (s : String) : Run Decimal := Result.toRun ((Decimal.read s).mapError .decimal)

/-- The published reciprocal of a published figure. -/
def reciprocalFigure (s : String) : Run String := do
  let d ← readFigure s
  let r ← d.reciprocal
  r.figure

/-- The published change from one price to another, and the same in percent of the first. -/
def changeFigures (oldest newest : Decimal) : Run (String × String) := do
  let change := newest - oldest
  let part ← Run.inRange (change.quotient? oldest)
  return (← change.figure, ← (part * .ofInt 100).figure)

end SwapMarket
