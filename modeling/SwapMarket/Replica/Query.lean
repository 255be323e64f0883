import SwapMarket.Replica.Value
import SwapMarket.Swap.Basic

/-!
# Queries of a replica

Two queries find swaps in a replica: the successful ones finished after a time, in order of
completion (**`finishedAfter`**), and those successful ones that finished last among the successful
ones of the same two coins in the same direction (**`lastFinished`**). Both look at the values as
they are; only the rows found have to have columns of the right kinds (**`ReplicaRow.toSwapRow?`**).
-/

namespace SwapMarket

/-- A row of a replica. -/
structure ReplicaRow where
  /-- The identifier. -/
  uuid : ColumnValue
  /-- The coin that the maker gives. -/
  makerCoin : ColumnValue
  /-- The coin that the taker gives. -/
  takerCoin : ColumnValue
  /-- The amount that the maker gives. -/
  makerAmount : ColumnValue
  /-- The amount that the taker gives. -/
  takerAmount : ColumnValue
  /-- When the swap began. -/
  startedAt : ColumnValue
  /-- When the swap ended. -/
  finishedAt : ColumnValue
  /-- One if the swap succeeded. -/
  isSuccess : ColumnValue
  deriving DecidableEq, Repr

namespace ReplicaRow

/-- Whether the swap succeeded. -/
def succeeded (r : ReplicaRow) : Bool := r.isSuccess.equals (.integer 1)

/-- Whether two rows are swaps of the same coins in the same direction. -/
def sameDirection (a b : ReplicaRow) : Bool :=
  a.makerCoin.equals b.makerCoin && a.takerCoin.equals b.takerCoin

/-- The row, if its columns are of the right kinds. Amounts may be of any kind. -/
def toSwapRow? (r : ReplicaRow) : Option SwapRow := do
  return {
    uuid := ← r.uuid.textOrNull?
    makerCoin := ← r.makerCoin.textOrNull?
    takerCoin := ← r.takerCoin.textOrNull?
    makerAmount := r.makerAmount.castText
    takerAmount := r.takerAmount.castText
    startedAt := ← r.startedAt.integerOrNull?
    finishedAt := ← r.finishedAt.integerOrNull?
    isSuccess := ← r.isSuccess.integerOrNull? }

/-- Whether `a` comes before `b` in order of completion, or may. -/
def notAfter (a b : ReplicaRow) : Bool := !a.finishedAt.above b.finishedAt

end ReplicaRow

/-- A query of a replica. -/
inductive ReplicaQuery where
  /-- The successful swaps finished after a time. -/
  | finishedAfter (time : Int)
  /-- The successful swaps that finished last in their direction. -/
  | lastFinished
  deriving DecidableEq, Repr

namespace ReplicaQuery

/-- The successful rows finished after a time, in order of completion. -/
def finishedAfterRows (time : Int) (rs : List ReplicaRow) : List ReplicaRow :=
  (rs.filter fun r => r.succeeded && r.finishedAt.above (.integer time)).mergeSort
    ReplicaRow.notAfter

/-- The successful rows that finished last in their direction. -/
def lastFinishedRows (rs : List ReplicaRow) : List ReplicaRow :=
  let ok := rs.filter ReplicaRow.succeeded
  ok.filter fun r =>
    r.sameDirection r && r.finishedAt != .null
      && !ok.any fun o => o.sameDirection r && o.finishedAt.above r.finishedAt

/-- The rows that a query finds. -/
def select : ReplicaQuery → List ReplicaRow → List ReplicaRow
  | .finishedAfter time, rs => finishedAfterRows time rs
  | .lastFinished, rs => lastFinishedRows rs

/-- The swaps that a query finds; none at all if one of the rows cannot be read. -/
def run (q : ReplicaQuery) (rs : List ReplicaRow) : Option (List Swap) :=
  ((q.select rs).mapM ReplicaRow.toSwapRow?).map fun rows => rows.map Swap.ofRow

end ReplicaQuery

end SwapMarket
