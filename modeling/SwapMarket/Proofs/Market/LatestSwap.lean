import SwapMarket.Market.LastTrade
import SwapMarket.Proofs.Swap.Merge

/-!
# The latest swap of a market

The record of the last trade of a market is that of its latest swap: of the swaps that count for the
market, the greatest in the order of time and identifier, and the first of those tied with it
(`find?_latestSwaps`).

If swaps are looked for in two lists, the first being what a query found of the second, the record
of a market is the same exactly if the query **finds the latest** swap of the market
(**`FindsLatest`**, `find?_latestSwaps_eq_iff`).
-/

namespace SwapMarket

namespace Swap

/-- The market of a swap, as its base and its quote. -/
def market (c : Catalogue) (s : Swap) : String × String := c.orientation s.makerCoin s.takerCoin

/-- The identifier of the market of a swap. -/
def marketId (c : Catalogue) (s : Swap) : String := Pair.join (s.market c).1 (s.market c).2

/-- Whether a swap is between two tradable coins of a market. -/
def isOn (c : Catalogue) (k : String) (s : Swap) : Bool :=
  c.bothTradable s.makerCoin s.takerCoin && s.marketId c == k

/-- Whether a swap counts for a market. -/
def countsFor (c : Catalogue) (k : String) (s : Swap) : Bool := s.contributes && s.isOn c k

/-- The coins of a swap tell its market. -/
theorem isOn_congr {c : Catalogue} {k : String} {s t : Swap} (hm : s.makerCoin = t.makerCoin)
    (ht : s.takerCoin = t.takerCoin) : s.isOn c k = t.isOn c k := by
  rw [isOn, isOn, marketId, marketId, market, market, hm, ht]

/-- One swap is after another one if it is not before it or tied with it. -/
theorem isAfter_eq (a b : Swap) : a.isAfter b = !a.notAfter b := by
  rw [Bool.eq_iff_iff, Bool.not_eq_true', Bool.eq_false_iff, ne_eq, notAfter_iff]
  simp only [isAfter, Bool.or_eq_true, Bool.and_eq_true, decide_eq_true_eq, beq_iff_eq]
  rw [← String.not_le]
  constructor
  · rintro (hlt | ⟨hf, hu⟩) (hlt' | ⟨hf', hu'⟩)
    · omega
    · omega
    · omega
    · exact hu hu'
  · intro h
    by_cases hlt : b.finishedAt < a.finishedAt
    · exact .inl hlt
    · have hf : b.finishedAt = a.finishedAt := by
        by_contra hne
        exact h (.inl (by omega))
      exact .inr ⟨hf, fun hu => h (.inr ⟨hf.symm, hu⟩)⟩

end Swap

/-- A swap is the latest of a market in a list. -/
abbrev IsLastOn (c : Catalogue) (k : String) (ss : List Swap) (w : Swap) : Prop :=
  IsFirstGreatest Swap.notAfter (Swap.countsFor c k) ss w

/-- What is noted of a market is its latest swap. -/
theorem find?_latestSwaps {c : Catalogue} {ss : List Swap} {k : String}
    {v : (String × String) × Swap} :
    (latestSwaps c ss).find? k = some v ↔ ∃ w, v = (w.market c, w) ∧ IsLastOn c k ss w := by
  have hstep : noteLatest c
      = noteGreatest Swap.notAfter (Swap.marketId c) (fun s => (s.market c, s)) Prod.snd := by
    funext t x
    unfold noteLatest noteGreatest Swap.marketId Swap.market
    simp only [Swap.isAfter_eq]
    generalize t.find? (Pair.join _ _) = known
    cases known with
    | none => rfl
    | some v => cases hv : x.notAfter v.2 <;> simp [hv]
  have hkind : (fun s : Swap => s.contributes && c.bothTradable s.makerCoin s.takerCoin
      && s.marketId c == k) = Swap.countsFor c k := by
    funext s
    rw [Swap.countsFor, Swap.isOn, Bool.and_assoc]
  rw [latestSwaps, hstep,
    find?_foldl_noteGreatest Swap.notAfter_trans Swap.notAfter_total fun _ => rfl]
  refine exists_congr fun w => and_congr_right fun _ => ?_
  rw [tradableSwaps, IsFirstGreatest.filter_iff, hkind]

/-- Every swap that counts for a market is noted, or a later one. -/
theorem exists_isLastOn {c : Catalogue} {k : String} {ss : List Swap} {x : Swap} (hx : x ∈ ss)
    (hc : x.countsFor c k = true) : ∃ w, IsLastOn c k ss w ∧ x.notAfter w = true := by
  obtain ⟨w, hw⟩ := exists_isFirstGreatest Swap.notAfter_trans Swap.notAfter_total ⟨x, hx, hc⟩
  exact ⟨w, hw, hw.greatest x hx hc⟩

/-- Of a market, some swaps are found of all: the latest one, as the first of its time and
identifier, and none that is later. -/
structure FindsLatest (c : Catalogue) (k : String) (found whole : List Swap) : Prop where
  /-- The latest swap is found. -/
  latest : ∀ w, IsLastOn c k whole w →
    found.find? (fun x => x.countsFor c k && tied Swap.notAfter w x) = some w
  /-- What counts and is found is not after the latest swap. -/
  nothingAfter : ∀ x ∈ found, x.countsFor c k = true →
    ∃ w, IsLastOn c k whole w ∧ x.notAfter w = true

/-- The latest swap of a market is the same in what is found and in all swaps exactly if it is
found, and nothing after it. -/
theorem find?_latestSwaps_eq_iff {c : Catalogue} {k : String} {found whole : List Swap} :
    (latestSwaps c found).find? k = (latestSwaps c whole).find? k
      ↔ FindsLatest c k found whole := by
  constructor
  · intro h
    -- What is the latest in one list is the latest in the other.
    have same : ∀ w, IsLastOn c k found w ↔ IsLastOn c k whole w := by
      intro w
      have hw : ∀ ss, IsLastOn c k ss w ↔ (latestSwaps c ss).find? k = some (w.market c, w) := by
        intro ss
        rw [find?_latestSwaps]
        constructor
        · intro hw
          exact ⟨w, rfl, hw⟩
        · rintro ⟨w', he, hw⟩
          obtain rfl : w = w' := (Prod.mk.inj he).2
          exact hw
      rw [hw, hw, h]
    constructor
    · intro w hw
      exact ((same w).2 hw).first
    · intro x hx hc
      obtain ⟨w, hw, hle⟩ := exists_isLastOn hx hc
      exact ⟨w, (same w).1 hw, hle⟩
  · intro h
    have same : ∀ w, IsLastOn c k found w ↔ IsLastOn c k whole w := by
      have hto : ∀ w, IsLastOn c k whole w → IsLastOn c k found w := by
        intro w hw
        refine ⟨fun x hx hc => ?_, h.latest w hw⟩
        obtain ⟨w', hw', hle⟩ := h.nothingAfter x hx hc
        rwa [hw.unique Swap.notAfter_trans hw']
      intro w
      refine ⟨fun hw => ?_, hto w⟩
      obtain ⟨w', hw', -⟩ := h.nothingAfter w hw.mem hw.holds
      rwa [hw.unique Swap.notAfter_trans (hto w' hw')]
    refine Option.ext fun v => ?_
    rw [find?_latestSwaps, find?_latestSwaps]
    simp only [same]

end SwapMarket
