import SwapMarket.Market.DayPrices
import SwapMarket.Market.LastTrade
import SwapMarket.Market.Volume
import SwapMarket.Proofs.Run
import SwapMarket.Proofs.Table

/-!
# Nothing is wrong with swaps

Whatever the swaps and the coins are, nothing can be found wrong with the figures of their markets:
a record may be cut short by a number out of its range, but it has no other way to fail
(**`faultless_lastTrades`**, **`faultless_dayPrices`**, **`faultless_volumes`**).
-/

namespace SwapMarket

variable {b q : String} {ss : List Swap} {c : Catalogue}

/-- Writing a figure can only leave the range. -/
theorem Decimal.faultless_figure (d : Decimal) : d.figure.Faultless := Run.faultless_inRange _

/-! ## Trades -/

theorem Swap.faultless_orient (s : Swap) (b q : String) : (s.orient b q).Faultless := by
  have trade : ∀ (s : Swap) (side : Side),
      Run.Faultless ((Trade.ofSwap s side).map some : Run (Option Trade)) :=
    fun s side => Run.Faultless.map (.map (Run.faultless_inRange _) _) _
  unfold orient
  split
  · exact Run.faultless_ok _
  split
  · exact trade s .buy
  split
  · exact trade s.flip .sell
  · exact Run.faultless_ok _

theorem Trade.faultless_unsorted (b q : String) (ss : List Swap) :
    (unsorted b q ss).Faultless := by
  induction ss with
  | nil => exact Run.faultless_ok []
  | cons s ss ih =>
    unfold unsorted
    exact (s.faultless_orient b q).bind fun t _ => ih.bind fun ts _ => Run.faultless_ok _

namespace Aggregate

/-- The figures of a market can only leave the range. -/
theorem faultless_ofSwaps (ss : List Swap) (b q : String) : (ofSwaps ss b q).Faultless :=
  Run.Faultless.map (.map (Trade.faultless_unsorted b q ss) _) _

theorem faultless_priceChangePercent (a : Aggregate) : a.priceChangePercent.Faultless := by
  unfold priceChangePercent
  split
  · exact Run.Faultless.map (Run.faultless_inRange _) _
  · exact Run.faultless_ok _

end Aggregate

/-! ## Records -/

open Decimal (faultless_figure)

/-- The record of a last trade can only leave the range. -/
theorem LastTrade.faultless_ofSwap (c : Catalogue) (b q : String) (s : Swap) :
    (ofSwap c b q s).Faultless := by
  unfold ofSwap
  refine (s.faultless_orient b q).bind fun t _ => ?_
  split
  · exact Run.faultless_ok _
  · iterate 3 refine (faultless_figure _).bind fun _ _ => ?_
    exact Run.faultless_ok _

theorem faultless_lastTrades (c : Catalogue) (ss : List Swap) : (lastTrades c ss).Faultless := by
  intro f h
  obtain ⟨k, e, -, hr⟩ := Table.exists_of_traverse_error h
  exact LastTrade.faultless_ofSwap c e.1.1 e.1.2 e.2 f hr

/-- The prices of a day can only leave the range. -/
theorem DayPrices.faultless_ofSwaps (c : Catalogue) (b q : String) (ss : List Swap) :
    (ofSwaps c b q ss).Faultless := by
  unfold ofSwaps
  refine (Aggregate.faultless_ofSwaps ss b q).bind fun a _ => ?_
  iterate 2 refine (faultless_figure _).bind fun _ _ => ?_
  split
  · refine a.faultless_priceChangePercent.bind fun _ _ => ?_
    iterate 6 refine (faultless_figure _).bind fun _ _ => ?_
    exact Run.faultless_ok _
  · exact Run.faultless_ok _

/-- A volume in dollars can only leave the range. -/
theorem faultless_usdVolume (basePrice baseUsd quotePrice quoteUsd : Decimal) :
    (usdVolume basePrice baseUsd quotePrice quoteUsd).Faultless := by
  unfold usdVolume
  split
  · exact Run.faultless_inRange _
  all_goals exact Run.faultless_ok _

theorem Volume.faultless_ofSwaps (c : Catalogue) (b q : String) (ss : List Swap) :
    (ofSwaps c b q ss).Faultless := by
  unfold ofSwaps
  refine (Aggregate.faultless_ofSwaps ss b q).bind fun a _ => ?_
  iterate 2 refine (Run.faultless_inRange _).bind fun _ _ => ?_
  refine (faultless_usdVolume _ _ _ _).bind fun _ _ => ?_
  iterate 5 refine (faultless_figure _).bind fun _ _ => ?_
  exact Run.faultless_ok _

/-! ## Tables of records -/

/-- A table of records can only leave the range, if each record can only do that. -/
theorem faultless_recordTable {α : Type} {record : String → String → Run α}
    (h : ∀ b q, (record b q).Faultless) (ms : List (String × String)) :
    (recordTable ms record).Faultless := by
  have list : (recordList record ms).Faultless := by
    induction ms with
    | nil => exact Run.faultless_ok []
    | cons m ms ih =>
      unfold recordList
      exact (h m.1 m.2).bind fun r _ => ih.bind fun rs _ => Run.faultless_ok _
  exact Run.Faultless.map list _

theorem faultless_dayPrices (c : Catalogue) (ms : List (String × String)) (ss : List Swap) :
    (dayPrices c ms ss).Faultless :=
  faultless_recordTable (fun b q => DayPrices.faultless_ofSwaps c b q ss) ms

theorem faultless_volumes (c : Catalogue) (ms : List (String × String)) (ss : List Swap) :
    (volumes c ms ss).Faultless :=
  faultless_recordTable (fun b q => Volume.faultless_ofSwaps c b q ss) ms

/-- Candidates can only leave the range of times. -/
theorem faultless_candidates (last : Table LastTrade) (c : Catalogue) (now days : Int) :
    (candidates last c now days).Faultless := by
  unfold candidates
  exact (Run.faultless_int64 _).bind fun _ _ => (Run.faultless_int64 _).bind fun _ _ =>
    Run.faultless_ok _

end SwapMarket
