import SwapMarket.Proofs.Table
import SwapMarket.Reference.CoinPrices

/-!
# Groups of identifiers and the table of their quotes

Identifiers are cut into groups that are neither empty nor too long, and in order they are the
groups one after the other (`flatten_groupsOf`). If no identifier is quoted twice, the table of the
quotes has every quote under its identifier (`find?_coinPrices`).
-/

namespace SwapMarket

/-! ## Groups -/

section Groups

variable {α : Type} {n : Nat} {xs g : List α}

/-- The groups one after the other are the list. -/
theorem flatten_groupsOf (h : n ≠ 0) (xs : List α) : (groupsOf n xs).flatten = xs := by
  induction xs using groupsOf.induct n with
  | case1 xs hend =>
    rw [groupsOf, if_pos hend]
    exact (hend.resolve_right h).symm
  | case2 xs hmore ih =>
    rw [groupsOf, if_neg hmore, List.flatten_cons, ih, List.take_append_drop]

/-- A group is not empty, and not longer than it may be. -/
theorem length_of_mem_groupsOf (h : g ∈ groupsOf n xs) : 1 ≤ g.length ∧ g.length ≤ n := by
  induction xs using groupsOf.induct n with
  | case1 xs hend =>
    rw [groupsOf, if_pos hend] at h
    cases h
  | case2 xs hmore ih =>
    rw [groupsOf, if_neg hmore] at h
    obtain rfl | h := List.mem_cons.1 h
    · obtain ⟨hne, hn⟩ := not_or.1 hmore
      have hpos := List.length_pos_iff.2 hne
      rw [List.length_take]
      omega
    · exact ih h

end Groups

/-- Asked for are the identifiers that are in use and listed. -/
theorem mem_listedIds {ids listed : List String} {id : String} :
    id ∈ listedIds ids listed ↔ id ∈ ids ∧ id ∈ listed := by
  rw [listedIds, List.mem_filter, List.contains_iff_mem]

/-! ## Quotes -/

section Quotes

variable {qs : List PriceQuote} {q : PriceQuote}

/-- Prices are stored under the identifiers of their quotes. -/
theorem keys_of_quotes (qs : List PriceQuote) :
    (qs.map fun q => (q.id, q.toPrice)).map Prod.fst = qs.map (·.id) := by
  rw [List.map_map]
  rfl

/-- Of quotes for different identifiers, each is found under its own. -/
theorem find?_coinPrices (h : (qs.map (·.id)).Nodup) (hq : q ∈ qs) :
    (coinPrices qs).find? q.id = some q.toPrice := by
  rw [← keys_of_quotes] at h
  exact Table.find?_ofList_of_mem h (List.mem_map_of_mem hq)

/-- The identifiers with a price are those that are quoted. -/
theorem keys_coinPrices_perm (h : (qs.map (·.id)).Nodup) :
    (coinPrices qs).keys.Perm (qs.map (·.id)) := by
  rw [← keys_of_quotes] at h ⊢
  exact (Table.entries_ofList_perm h).map _

end Quotes

end SwapMarket
