import SwapMarket.Proofs.Run
import SwapMarket.Swap.Trade

/-!
# Which swaps are trades of a market

A swap **`feeds`** a market if it contributes and is between the coins of the market, in either
direction. It is a trade of exactly the markets that it feeds (`isSome_of_orient`), so the number of
trades of a market is the number of swaps that feed it (`trades_of_ofSwaps`).
-/

namespace SwapMarket

namespace Swap

/-- Whether a swap is between two coins, in either direction. -/
def isBetween (b q : String) (s : Swap) : Bool :=
  (s.makerCoin == b && s.takerCoin == q) || (s.makerCoin == q && s.takerCoin == b)

/-- Whether a swap counts for the figures of a market. -/
def feeds (b q : String) (s : Swap) : Bool := s.contributes && s.isBetween b q

variable {s : Swap} {b q : String}

/-- Which coin is the base does not matter for the market of a swap. -/
theorem isBetween_comm (b q : String) (s : Swap) : s.isBetween b q = s.isBetween q b :=
  Bool.or_comm _ _

theorem feeds_comm (b q : String) (s : Swap) : s.feeds b q = s.feeds q b := by
  unfold feeds
  rw [isBetween_comm]

/-- A swap is between two coins in either direction. -/
theorem isBetween_iff : s.isBetween b q = true ↔
    (s.makerCoin = b ∧ s.takerCoin = q) ∨ (s.makerCoin = q ∧ s.takerCoin = b) := by
  simp only [isBetween, Bool.or_eq_true, Bool.and_eq_true, beq_iff_eq]

/-- The ways in which a swap is oriented. -/
theorem orient_cases (s : Swap) (b q : String) :
    (s.feeds b q = false ∧ s.orient b q = .ok none) ∨
      (s.feeds b q = true ∧ s.makerCoin = b ∧ s.takerCoin = q ∧
        s.orient b q = (Trade.ofSwap s .buy).map some) ∨
      (s.feeds b q = true ∧ ¬(s.makerCoin = b ∧ s.takerCoin = q) ∧
        s.makerCoin = q ∧ s.takerCoin = b ∧
        s.orient b q = (Trade.ofSwap s.flip .sell).map some) := by
  unfold orient feeds
  cases hc : s.contributes with
  | false => exact .inl ⟨rfl, rfl⟩
  | true =>
    by_cases h₁ : s.makerCoin = b ∧ s.takerCoin = q
    · exact .inr (.inl ⟨isBetween_iff.2 (.inl h₁), h₁.1, h₁.2, by simp [h₁]⟩)
    · by_cases h₂ : s.makerCoin = q ∧ s.takerCoin = b
      · exact .inr (.inr ⟨isBetween_iff.2 (.inr h₂), h₁, h₂.1, h₂.2, by
          rw [if_neg (by simp), if_neg h₁, if_pos h₂]⟩)
      · refine .inl ⟨?_, by rw [if_neg (by simp), if_neg h₁, if_neg h₂]⟩
        rw [Bool.true_and, Bool.eq_false_iff]
        intro h
        exact (isBetween_iff.1 h).elim h₁ h₂

/-- A swap is a trade of the markets that it feeds. -/
theorem isSome_of_orient {t : Option Trade} (h : s.orient b q = .ok t) :
    t.isSome = s.feeds b q := by
  rcases s.orient_cases b q with ⟨hf, ho⟩ | ⟨hf, -, -, ho⟩ | ⟨hf, -, -, -, ho⟩
  · rw [ho] at h
    cases h
    exact hf.symm
  · rw [ho] at h
    obtain ⟨t', -, rfl⟩ := Run.map_ok_iff.1 h
    exact hf.symm
  · rw [ho] at h
    obtain ⟨t', -, rfl⟩ := Run.map_ok_iff.1 h
    exact hf.symm

/-- A swap is no trade of the markets that it does not feed. -/
theorem orient_of_not_feeds (h : s.feeds b q = false) : s.orient b q = .ok none := by
  rcases s.orient_cases b q with ⟨-, ho⟩ | ⟨hf, -⟩ | ⟨hf, -⟩
  · exact ho
  · rw [hf] at h
    cases h
  · rw [hf] at h
    cases h

end Swap

namespace Trade

variable {ss : List Swap} {b q : String} {ts : List Trade}

/-- The trades of a market are as many as the swaps that feed it. -/
theorem length_of_unsorted (h : unsorted b q ss = .ok ts) :
    ts.length = ss.countP (Swap.feeds b q) := by
  induction ss generalizing ts with
  | nil =>
    cases h
    rfl
  | cons s ss ih =>
    simp only [unsorted, Run.bind_ok_iff, Run.pure_eq_ok, Except.ok.injEq] at h
    obtain ⟨t, ht, us, hus, rfl⟩ := h
    have hs := Swap.isSome_of_orient ht
    rw [List.length_append, ih hus, List.countP_cons, Nat.add_comm]
    cases t with
    | none =>
      rw [← hs]
      rfl
    | some t =>
      rw [← hs]
      rfl

end Trade

namespace Aggregate

variable {ss : List Swap} {b q : String}

/-- The figures are those of the trades in order. -/
theorem ofSwaps_ok_iff_unsorted {a : Aggregate} : ofSwaps ss b q = .ok a ↔
    ∃ ts, Trade.unsorted b q ss = .ok ts ∧ ofTrades (ts.mergeSort Trade.notAfter) = a := by
  unfold ofSwaps Trade.ofSwaps
  simp only [Run.map_ok_iff]
  constructor
  · rintro ⟨_, ⟨ts, hts, rfl⟩, rfl⟩
    exact ⟨ts, hts, rfl⟩
  · rintro ⟨ts, hts, rfl⟩
    exact ⟨_, ⟨ts, hts, rfl⟩, rfl⟩

/-- The figures of a market in which a single swap is a trade. -/
theorem ofSwaps_of_single {s : Swap} {t : Trade} (h : Trade.unsorted b q [s] = .ok [t]) :
    ofSwaps [s] b q = .ok (.ofTrades [t]) :=
  ofSwaps_ok_iff_unsorted.2 ⟨[t], h, by rw [List.mergeSort_singleton]⟩

/-- The number of trades of a market is that of the swaps that feed it. -/
theorem trades_of_ofSwaps {a : Aggregate} (h : ofSwaps ss b q = .ok a) :
    a.trades = ss.countP (Swap.feeds b q) := by
  obtain ⟨ts, hts, rfl⟩ := ofSwaps_ok_iff_unsorted.1 h
  show (ts.mergeSort Trade.notAfter).length = _
  rw [List.length_mergeSort]
  exact Trade.length_of_unsorted hts

end Aggregate

end SwapMarket
