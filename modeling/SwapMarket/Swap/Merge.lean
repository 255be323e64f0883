import SwapMarket.Swap.Basic
import SwapMarket.Table

/-!
# Merging the swaps of replicas

Several replicas may hold copies of one swap. **`merge`** keeps of each identifier the first of
the copies that finished last, and keeps every swap without an identifier. The result is in order
of completion, then of identifiers; swaps that agree in both keep their order.
-/

namespace SwapMarket.Swap

/-- Whether `a` comes before `b`, or may. -/
def notAfter (a b : Swap) : Bool :=
  a.finishedAt < b.finishedAt || (a.finishedAt == b.finishedAt && a.uuid ≤ b.uuid)

/-- Takes note of a copy, unless the one noted did not finish earlier. -/
def noteCopy (t : Table Swap) (s : Swap) : Table Swap :=
  match t.find? s.uuid with
  | some known => if s.finishedAt ≤ known.finishedAt then t else t.insert s.uuid s
  | none => t.insert s.uuid s

/-- The copies that finished last, by identifier. -/
def latestCopies (ss : List Swap) : Table Swap :=
  (ss.filter (·.uuid ≠ nilUuid)).foldl noteCopy .empty

/-- The swaps of replicas without superseded copies, in order of completion. -/
def merge (ss : List Swap) : List Swap :=
  ((latestCopies ss).values ++ ss.filter (·.uuid = nilUuid)).mergeSort notAfter

end SwapMarket.Swap
