import SwapMarket.Coin.Catalogue
import SwapMarket.Proofs.Table

/-!
# The identifiers of coins at the price service

Several coins can share an identifier. The identifiers in use are listed in ascending order without
repetitions (**`Catalogue.priceIds`**), and the coins of each in the order of their tickers
(**`Catalogue.tickersById`**). Both come from the same coins: the identifiers in use are the keys
of the table of tickers (`keys_tickersById`), and what stands under a key is what a scan of all
coins for this identifier finds (`find?_tickersById`).
-/

namespace SwapMarket

namespace Catalogue

variable {c : Catalogue} {id : String}

/-- Some coin uses an identifier at the price service. -/
def UsesPriceId (c : Catalogue) (id : String) : Prop :=
  ∃ coin ∈ c.coins.values, coin.priceId = some id

/-- The identifiers in use are in ascending order. -/
theorem pairwise_priceIds (c : Catalogue) : c.priceIds.Pairwise (· < ·) := Table.pairwise_keys _

/-- The identifiers in use are those that some coin uses. -/
theorem mem_priceIds : id ∈ c.priceIds ↔ c.UsesPriceId id := by
  unfold priceIds UsesPriceId
  rw [Table.mem_keys]
  constructor
  · rintro ⟨v, hv⟩
    obtain ⟨i, hi, he⟩ := List.mem_map.1 (Table.mem_of_mem_ofList (Table.find?_eq_some_iff.1 hv))
    obtain ⟨rfl, -⟩ := Prod.mk.inj he
    exact List.mem_filterMap.1 hi
  · rintro ⟨coin, hcoin, hid⟩
    have hmem : (id, ()) ∈ (c.coins.values.filterMap (·.priceId)).map fun id => (id, ()) :=
      List.mem_map_of_mem (List.mem_filterMap.2 ⟨coin, hcoin, hid⟩)
    rw [Table.find?_ofList]
    cases hf : List.find? (fun e : String × Unit => e.1 == id) _ with
    | some e => exact ⟨e.2, rfl⟩
    | none =>
      exact absurd (List.find?_eq_none.1 hf _ (List.mem_reverse.2 hmem)) (by simp)

/-! ## The tickers of an identifier -/

/-- The tickers of the coins of a list that use an identifier. -/
def tickersOf (id : String) (coins : List Coin) : List String :=
  (coins.filter fun coin => coin.priceId = some id).map (·.ticker)

/-- A table of tickers with a coin added under its identifier. -/
def addTicker (t : Table (List String)) (coin : Coin) : Table (List String) :=
  match coin.priceId with
  | some id => t.insert id ((t.find? id).getD [] ++ [coin.ticker])
  | none => t

/-- A table holds the tickers of coins: under each identifier those that use it. -/
def HoldsTickers (t : Table (List String)) (coins : List Coin) : Prop :=
  ∀ id, t.find? id = if tickersOf id coins = [] then none else some (tickersOf id coins)

/-- The tickers of one more coin. -/
theorem tickersOf_concat (id : String) (coins : List Coin) (coin : Coin) :
    tickersOf id (coins ++ [coin])
      = tickersOf id coins ++ if coin.priceId = some id then [coin.ticker] else [] := by
  unfold tickersOf
  rw [List.filter_append, List.map_append]
  by_cases h : coin.priceId = some id
  · rw [List.filter_cons_of_pos (by simpa using h), if_pos h]
    rfl
  · rw [List.filter_cons_of_neg (by simpa using h), if_neg h]
    rfl

/-- A coin is added to those of its identifier, and no other identifier is affected. -/
theorem HoldsTickers.addTicker {t : Table (List String)} {coins : List Coin}
    (h : HoldsTickers t coins) (coin : Coin) :
    HoldsTickers (addTicker t coin) (coins ++ [coin]) := by
  intro id
  rw [tickersOf_concat]
  unfold Catalogue.addTicker
  cases hid : coin.priceId with
  | none =>
    simp only [reduceCtorEq, if_false, List.append_nil]
    exact h id
  | some own =>
    simp only
    rw [Table.find?_insert]
    by_cases howner : id = own
    · have hget : (t.find? own).getD [] = tickersOf own coins := by
        rw [h own]
        split
        · next hnil => exact hnil.symm
        · rfl
      subst howner
      rw [if_pos rfl, if_pos rfl, if_neg (by simp), hget]
    · rw [if_neg howner, if_neg fun he => howner (Option.some.inj he).symm, List.append_nil]
      exact h id

/-- Adding coins one by one collects their tickers under their identifiers. -/
theorem holdsTickers_foldl {t : Table (List String)} {before : List Coin}
    (h : HoldsTickers t before) (coins : List Coin) :
    HoldsTickers (coins.foldl Catalogue.addTicker t) (before ++ coins) := by
  induction coins generalizing t before with
  | nil =>
    rw [List.append_nil]
    exact h
  | cons coin coins ih =>
    have := ih (h.addTicker coin)
    rwa [List.append_assoc] at this

/-- Under an identifier stand the tickers of the coins that use it, if there are any. -/
theorem find?_tickersById (c : Catalogue) (id : String) : c.tickersById.find? id
    = if tickersOf id c.coins.values = [] then none else some (tickersOf id c.coins.values) := by
  have hempty : HoldsTickers .empty [] := fun _ => rfl
  exact holdsTickers_foldl hempty c.coins.values id

/-- An identifier has tickers exactly if it is in use. -/
theorem tickersOf_ne_nil_iff : tickersOf id c.coins.values ≠ [] ↔ c.UsesPriceId id := by
  unfold tickersOf UsesPriceId
  rw [ne_eq, List.map_eq_nil_iff, List.filter_eq_nil_iff]
  simp

/-- The identifiers in use are those under which tickers stand. -/
theorem keys_tickersById (c : Catalogue) : c.tickersById.keys = c.priceIds := by
  refine eq_of_ascending (Table.pairwise_keys _) c.pairwise_priceIds fun id => ?_
  rw [Table.mem_keys, mem_priceIds, ← tickersOf_ne_nil_iff, find?_tickersById]
  split
  · next hnil => simp [hnil]
  · next hne => simp [hne]

/-! ## Catalogues of entries -/

section Entries

variable {entries : CoinEntries} {listed : Option ListedCoins} {prices : Option CoinPrices}
  {ticker : String} {tickers : List String}

/-- Of a catalogue that is made of entries, in use are the identifiers of the entries. -/
theorem usesPriceId_ofEntries : (ofEntries entries listed prices).UsesPriceId id ↔
    ∃ ticker e, entries.find? ticker = some e ∧ e.usableId = some id := by
  unfold UsesPriceId ofEntries
  simp only [Table.mem_values, Table.find?_map, Option.map_eq_some_iff]
  constructor
  · rintro ⟨coin, ⟨ticker, e, he, rfl⟩, hid⟩
    exact ⟨ticker, e, he, hid⟩
  · rintro ⟨ticker, e, he, hid⟩
    exact ⟨_, ⟨ticker, e, he, rfl⟩, hid⟩

/-- The tickers of an identifier are those of the entries that have it, in their order. -/
theorem tickersOf_ofEntries : tickersOf id (ofEntries entries listed prices).coins.values
    = (entries.entries.filter fun e => e.2.usableId = some id).map (·.1) := by
  unfold tickersOf ofEntries Table.values
  rw [Table.entries_map, List.map_map, List.filter_map, List.map_map]
  rfl

/-- Under an identifier each coin that uses it stands once, and no other coin. -/
theorem mem_tickersById (h : (ofEntries entries listed prices).tickersById.find? id = some tickers) :
    tickers.Pairwise (· < ·) ∧
    ∀ ticker, ticker ∈ tickers ↔ ∃ e, entries.find? ticker = some e ∧ e.usableId = some id := by
  rw [find?_tickersById, tickersOf_ofEntries] at h
  split at h
  · cases h
  obtain rfl := Option.some.inj h
  refine ⟨(entries.pairwise_keys.sublist (List.filter_sublist.map _)), fun ticker => ?_⟩
  simp only [List.mem_map, List.mem_filter, decide_eq_true_eq, Prod.exists, exists_and_right,
    exists_eq_right, Table.find?_eq_some_iff]

end Entries

end Catalogue

end SwapMarket
