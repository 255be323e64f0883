import SwapMarket.Proofs.Api.Market
import SwapMarket.Proofs.Market.Counts

/-!
# Which markets can be asked for

The markets of the views are the candidates among those of the last trades. Whether a candidate is
a market at all is checked without the variants of its tickers (**`isMarket`**), but the identifiers
that clients ask for are checked with them (**`Pair.sides`**). So a candidate is published even if
there is an underscore in a variant of its tickers, or if the variants make its identifier too long,
but nobody can ask for it (`candidates_asked_for_variant`). For all other candidates the answer is
the stored record.

Main statement: **`candidates_asked_for`**.
-/

namespace SwapMarket

/-! ## Markets -/

section IsMarket

variable {base quote : String}

/-- The sides of a market are not empty. -/
theorem ne_empty_of_isMarket (hb : Pair.IsSide base) (h : isMarket (Pair.join base quote) = true) :
    base ≠ "" ∧ quote ≠ "" := by
  unfold isMarket Pair.plain at h
  rw [Pair.cut_join hb] at h
  dsimp only at h
  split at h
  · next hsides =>
    obtain ⟨rfl, rfl⟩ := Prod.mk.inj (Pair.eq_of_sides_join hsides)
    obtain ⟨-, -, -, hbase, hquote, -⟩ := Pair.sides_ok_iff.1 hsides
    refine ⟨fun he => hbase ?_, fun he => hquote ?_⟩
    · rw [he]
      rfl
    · rw [he]
      rfl
  · cases h

/-- A market of two tickers without variants can be asked for. -/
theorem canBeAsked_of_isMarket (h : isMarket (Pair.join base quote) = true)
    (hplain : Pair.variantMark ∉ (Pair.join base quote).toList) : Pair.CanBeAsked base quote := by
  unfold isMarket at h
  rw [Pair.plain_of_not_mem hplain] at h
  by_contra hask
  rw [Pair.sides_join_error hask] at h
  cases h

end IsMarket

/-! ## Candidates -/

section Candidates

variable {c c' : Catalogue} {ss : List Swap} {t : Table LastTrade} {ms : List (String × String)}
  {now days : Int} {base quote : String}

/-- A candidate is the market of a stored record. -/
theorem exists_of_mem_candidates (ht : lastTrades c' ss = .ok t)
    (hms : candidates t c now days = .ok ms) (hm : (base, quote) ∈ ms) :
    isMarket (Pair.join base quote) = true ∧
    ∃ r, t.find? (Pair.join base quote) = some r ∧ Names base quote r := by
  unfold candidates at hms
  simp only [Run.bind_ok_iff, Run.pure_eq_ok, Except.ok.injEq] at hms
  obtain ⟨-, -, since, -, rfl⟩ := hms
  obtain ⟨r, hr, hsides⟩ := List.mem_map.1 hm
  obtain ⟨rfl, rfl⟩ := Prod.mk.inj hsides
  obtain ⟨hr, hcandidate⟩ := List.mem_filter.1 hr
  simp only [Bool.and_eq_true] at hcandidate
  obtain ⟨k, hk⟩ := Table.mem_values.1 hr
  have hsound := isSound_of_lastTrades ht k r hk
  obtain rfl : k = Pair.join r.base r.quote := hsound.market
  have hid : r.tickerId = Pair.join r.base r.quote := hsound.tickerId
  rw [hid] at hcandidate
  exact ⟨hcandidate.2, r, hk, hid, rfl, rfl⟩

/-- No two candidates have the same identifier. -/
theorem nodup_ids_candidates (ht : lastTrades c' ss = .ok t)
    (hms : candidates t c now days = .ok ms) : (ms.map Pair.ofSides).Nodup :=
  (areNamed_lastTrades ht).nodup_ids (sublist_candidates hms)

end Candidates

namespace Api

/-- The last trades of a list of swaps give candidates, each with a base and a quote.

* Under the identifier of a candidate stands the record of its last trade.
* Its identifier is cut into its base and its quote again, as long as there is no underscore in them
  and it is not too long; else it is refused. It is not refused if no ticker carries a variant.
* A table of records of all candidates has its record under its identifier.
* What is stored in a view under its identifier is what a client gets that asks the view for it,
  unless it is refused. -/
theorem candidates_asked_for (c c' : Catalogue) (ss : List Swap) (t : Table LastTrade)
    (ht : lastTrades c ss = .ok t) (now days : Int) (ms : List (String × String))
    (hms : candidates t c' now days = .ok ms) (base quote : String) (hm : (base, quote) ∈ ms) :
    let p := Pair.join base quote
    (∃ r, t.find? p = some r ∧ r.tickerId = p ∧ r.base = base ∧ r.quote = quote) ∧
    (Pair.CanBeAsked base quote → Pair.sides p = .ok (base, quote)) ∧
    (¬ Pair.CanBeAsked base quote → Pair.sides p = .error (Pair.refusal p)) ∧
    (Pair.variantMark ∉ p.toList → Pair.CanBeAsked base quote) ∧
    ∀ v : MarketView,
      (∀ record t', recordTable ms record = .ok (t' : Table v.Record) →
        ∃ r, t'.find? p = some r ∧ record base quote = .ok r) ∧
      ∀ b t' r call, v.table? b = some t' → t'.find? p = some r → Call.AsksFor call v p →
        (Pair.CanBeAsked base quote →
          respond b call = .reading b v.item (.ok (MarketRecord.toJson r))) ∧
        (¬ Pair.CanBeAsked base quote →
          respond b call = .plain (Answer.ofFault (.pair (Pair.refusal p)))) := by
  obtain ⟨hmarket, r, hr, hnames⟩ := exists_of_mem_candidates ht hms hm
  have hsides (hask : Pair.CanBeAsked base quote) :
      Pair.sides (Pair.join base quote) = .ok (base, quote) := by
    obtain ⟨hb, hq⟩ := ne_empty_of_isMarket hask.base hmarket
    exact Pair.sides_join_ok hask hb hq
  refine ⟨⟨r, hr, hnames.tickerId, hnames.base, hnames.quote⟩, hsides, Pair.sides_join_error,
    canBeAsked_of_isMarket hmarket, fun v => ⟨fun record t' hrec => ?_, ?_⟩⟩
  · exact find?_recordTable (nodup_ids_candidates ht hms) hrec hm
  · intro b t' r' call ht' hr' hcall
    refine ⟨fun hask => ?_, fun hask => ?_⟩
    · rw [respond_market_shown hcall (hsides hask)]
      simp only [shownRecord, ht']
      rw [recordOf_of_find? hr']
      rfl
    · exact respond_market_refused hcall (Pair.sides_join_error hask)

/-! ## A market with a variant -/

/-- A catalogue of two coins without prices. -/
def twoCoins (a b : String) : Catalogue :=
  let coin (t : String) : Coin :=
    ⟨t, Pair.variant? t, "UTXO", false, false, false, none, .zero, .zero⟩
  ⟨.ofList [(a, coin a), (b, coin b)]⟩

/-- A swap of two coins. -/
def swapOf (a b : String) : Swap := ⟨"a", a, b, ⟨100, 0⟩, ⟨120, 0⟩, 0, 10, true⟩

/-- The record of the swap. -/
def recordOfSwap (a b : String) : LastTrade :=
  { tickerId := Pair.join a b
    base := a
    quote := b
    swapTime := 10
    swapUuid := "a"
    price := "1.2000000000"
    baseAmount := "100.0000000000"
    quoteAmount := "120.0000000000"
    side := "buy"
    priced := false }

/-- A market without variants is answered with its record. -/
theorem candidates_asked_for_plain :
    ∃ t, lastTrades (twoCoins "KMD" "LTC") [swapOf "KMD" "LTC"] = .ok t ∧
      candidates t (twoCoins "KMD" "LTC") 20 7 = .ok [("KMD", "LTC")] ∧
      Pair.sides "KMD_LTC" = .ok ("KMD", "LTC") ∧
      MarketView.lastTrades.table? (boardOf (recordOfSwap "KMD" "LTC")) = some t ∧
      respond (boardOf (recordOfSwap "KMD" "LTC")) (callFor "KMD_LTC")
        = .reading (boardOf (recordOfSwap "KMD" "LTC")) .lastTrades
            (.ok (recordOfSwap "KMD" "LTC").toJson) := by
  have ht : lastTrades (twoCoins "KMD" "LTC") [swapOf "KMD" "LTC"]
      = .ok ((.empty : Table LastTrade).insert "KMD_LTC" (recordOfSwap "KMD" "LTC")) :=
    Run.toOption_eq_some.1 (by decide +kernel)
  have hms : candidates ((.empty : Table LastTrade).insert "KMD_LTC" (recordOfSwap "KMD" "LTC"))
      (twoCoins "KMD" "LTC") 20 7 = .ok [("KMD", "LTC")] := rfl
  have hcall : (callFor "KMD_LTC").AsksFor .lastTrades "KMD_LTC" :=
    ⟨rfl, by decide +kernel, by decide +kernel⟩
  obtain ⟨-, hsides, -, hplain, hviews⟩ := candidates_asked_for (twoCoins "KMD" "LTC")
    (twoCoins "KMD" "LTC") [swapOf "KMD" "LTC"] _ ht 20 7 _ hms "KMD" "LTC" List.mem_cons_self
  have hask := hplain (by decide)
  exact ⟨_, ht, hms, hsides hask, table?_boardOf _,
    ((hviews .lastTrades).2 _ _ (recordOfSwap "KMD" "LTC") _ (table?_boardOf _) rfl hcall).1 hask⟩

/-- The record of a market with an underscore in a variant is published, and refused. -/
theorem candidates_asked_for_variant :
    ∃ t, lastTrades (twoCoins "ARRR" "ATOM-IBC_OSMO") [swapOf "ARRR" "ATOM-IBC_OSMO"] = .ok t ∧
      candidates t (twoCoins "ARRR" "ATOM-IBC_OSMO") 20 7 = .ok [("ARRR", "ATOM-IBC_OSMO")] ∧
      t.find? "ARRR_ATOM-IBC_OSMO" = some (recordOfSwap "ARRR" "ATOM-IBC_OSMO") ∧
      Pair.sides "ARRR_ATOM-IBC_OSMO" = .error (.separators "ARRR_ATOM-IBC_OSMO") ∧
      MarketView.lastTrades.table? (boardOf (recordOfSwap "ARRR" "ATOM-IBC_OSMO")) = some t ∧
      respond (boardOf (recordOfSwap "ARRR" "ATOM-IBC_OSMO")) (callFor "ARRR_ATOM-IBC_OSMO")
        = .plain (Answer.ofFault (.pair (.separators "ARRR_ATOM-IBC_OSMO"))) := by
  have ht : lastTrades (twoCoins "ARRR" "ATOM-IBC_OSMO") [swapOf "ARRR" "ATOM-IBC_OSMO"]
      = .ok ((.empty : Table LastTrade).insert "ARRR_ATOM-IBC_OSMO"
          (recordOfSwap "ARRR" "ATOM-IBC_OSMO")) :=
    Run.toOption_eq_some.1 (by decide +kernel)
  have hsides : Pair.sides "ARRR_ATOM-IBC_OSMO" = .error (.separators "ARRR_ATOM-IBC_OSMO") := rfl
  have hcall : (callFor "ARRR_ATOM-IBC_OSMO").AsksFor .lastTrades "ARRR_ATOM-IBC_OSMO" :=
    ⟨rfl, by decide +kernel, by decide +kernel⟩
  exact ⟨_, ht, rfl, rfl, hsides, table?_boardOf _, respond_market_refused hcall hsides⟩

end Api

end SwapMarket
