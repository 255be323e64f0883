import SwapMarket.Market.LastTrade
import SwapMarket.Proofs.Json.Sorted
import SwapMarket.Proofs.Market.Record

/-!
# Candidates

If each last trade is under the identifier of its market (**`AreNamed`**), the markets of last
trades have different identifiers, and so have the candidates among them (`AreNamed.nodup_ids`).
There are candidates whenever 64 bits hold the time from which on a market is shown
(`candidates_ok_iff`).
-/

namespace SwapMarket

/-- The base and the quote of a last trade. -/
def LastTrade.sides (r : LastTrade) : String × String := (r.base, r.quote)

/-- Each last trade is under the identifier of its market. -/
def AreNamed (last : Table LastTrade) : Prop :=
  ∀ k r, last.find? k = some r → k = Pair.ofSides r.sides

/-- 64 bits hold the time from which on a market is shown. -/
structure WindowFits (now days : Int) : Prop where
  /-- How long a market is shown. -/
  length : Json.FitsInt64 (days * daySeconds)
  /-- The time of the oldest trade with which it is. -/
  since : Json.FitsInt64 (now - days * daySeconds)

variable {last : Table LastTrade} {c : Catalogue} {ms : List (String × String)} {now days : Int}

/-- The identifiers of the markets can be read off the sides of the last trades. -/
theorem AreNamed.ids_values (h : AreNamed last) :
    (last.values.map LastTrade.sides).map Pair.ofSides = last.keys := by
  rw [Table.values, Table.keys, List.map_map, List.map_map]
  refine List.map_congr_left fun e he => ?_
  exact (h e.1 e.2 (Table.find?_eq_some_iff.2 he)).symm

/-- Markets of named last trades have different identifiers. -/
theorem AreNamed.nodup_ids (h : AreNamed last)
    (hs : ms.Sublist (last.values.map LastTrade.sides)) : (ms.map Pair.ofSides).Nodup := by
  have hall : ((last.values.map LastTrade.sides).map Pair.ofSides).Nodup := by
    rw [h.ids_values]
    exact last.nodup_keys
  exact hall.sublist (hs.map _)

/-- The markets since a time are some of those of the last trades, in their order. -/
theorem sublist_marketsSince (last : Table LastTrade) (c : Catalogue) (since : Int) :
    (marketsSince last c since).Sublist (last.values.map LastTrade.sides) :=
  List.Sublist.map _ List.filter_sublist

/-- There are candidates unless a time leaves its range. -/
theorem candidates_ok_iff : candidates last c now days = .ok ms ↔
    WindowFits now days ∧ ms = marketsSince last c (now - days * daySeconds) := by
  unfold candidates
  simp only [Run.bind_ok_iff, Run.int64_ok_iff, Run.pure_eq_ok, Except.ok.injEq]
  constructor
  · rintro ⟨_, ⟨hlength, rfl⟩, _, ⟨hsince, rfl⟩, rfl⟩
    exact ⟨⟨hlength, hsince⟩, rfl⟩
  · rintro ⟨⟨hlength, hsince⟩, rfl⟩
    exact ⟨_, ⟨hlength, rfl⟩, _, ⟨hsince, rfl⟩, rfl⟩

/-- Candidates are markets of last trades. -/
theorem sublist_candidates (h : candidates last c now days = .ok ms) :
    ms.Sublist (last.values.map LastTrade.sides) := by
  obtain ⟨-, rfl⟩ := candidates_ok_iff.1 h
  exact sublist_marketsSince last c _

end SwapMarket
