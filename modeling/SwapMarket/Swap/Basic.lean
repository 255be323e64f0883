import SwapMarket.Decimal.Reader

/-!
# Swaps

A **`SwapRow`** is a row of a replica, any column of which may be missing. **`Swap.ofRow`** fills
in what is missing: the nil identifier, empty texts, zeros. An amount that is not a decimal counts
as zero.

Only a successful swap with positive amounts on both sides **`contributes`** to the figures of a
market.
-/

namespace SwapMarket

/-- The identifier of swaps without one. -/
def nilUuid : String := "00000000-0000-0000-0000-000000000000"

/-- A swap as a replica has it. -/
structure SwapRow where
  /-- The identifier. -/
  uuid : Option String
  /-- The coin that the maker gives. -/
  makerCoin : Option String
  /-- The coin that the taker gives. -/
  takerCoin : Option String
  /-- The amount that the maker gives. -/
  makerAmount : Option String
  /-- The amount that the taker gives. -/
  takerAmount : Option String
  /-- When the swap began. -/
  startedAt : Option Int
  /-- When the swap ended. -/
  finishedAt : Option Int
  /-- One if the swap succeeded. -/
  isSuccess : Option Int
  deriving DecidableEq, Repr

/-- A completed swap. -/
structure Swap where
  /-- The identifier. -/
  uuid : String
  /-- The coin that the maker gives. -/
  makerCoin : String
  /-- The coin that the taker gives. -/
  takerCoin : String
  /-- The amount that the maker gives. -/
  makerAmount : Decimal
  /-- The amount that the taker gives. -/
  takerAmount : Decimal
  /-- When the swap began. -/
  startedAt : Int
  /-- When the swap ended. -/
  finishedAt : Int
  /-- Whether the swap succeeded. -/
  isSuccess : Bool
  deriving DecidableEq, Repr

namespace Swap

/-- The swap of a row. -/
def ofRow (r : SwapRow) : Swap :=
  { uuid := r.uuid.getD nilUuid
    makerCoin := r.makerCoin.getD ""
    takerCoin := r.takerCoin.getD ""
    makerAmount := (r.makerAmount.map Decimal.readOrZero).getD .zero
    takerAmount := (r.takerAmount.map Decimal.readOrZero).getD .zero
    startedAt := r.startedAt.getD 0
    finishedAt := r.finishedAt.getD 0
    isSuccess := r.isSuccess.getD 0 == 1 }

/-- Whether a swap counts for the figures of its market. -/
def contributes (s : Swap) : Bool :=
  s.isSuccess && s.makerAmount.isPositive && s.takerAmount.isPositive

/-- The swap seen from the taker. -/
def flip (s : Swap) : Swap :=
  { s with
    makerCoin := s.takerCoin, takerCoin := s.makerCoin,
    makerAmount := s.takerAmount, takerAmount := s.makerAmount }

/-- To flip a swap twice changes nothing. -/
@[simp] theorem flip_flip (s : Swap) : s.flip.flip = s := rfl

/-- A swap contributes from both sides or from none. -/
theorem contributes_flip (s : Swap) : s.flip.contributes = s.contributes := by
  simp only [contributes, flip, Bool.and_assoc, Bool.and_comm s.takerAmount.isPositive]

end Swap

end SwapMarket
