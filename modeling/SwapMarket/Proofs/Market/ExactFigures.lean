import SwapMarket.Proofs.Decimal.Sum
import SwapMarket.Proofs.Market.InversePrice

/-!
# The figures of a market sum up its trades

The trades of a market are those of the swaps that feed it, each seen from the base of the market
(**`Swap.tradeIn`**), in order of completion (`Trade.ofSwaps_ok_iff`). Hence its figures are what
**`Aggregate.IsSummary`** says, and nothing of it hangs on the order of the swaps, unless two of
them agree in time and identifier (`Aggregate.ofSwaps_of_perm`).

Main statement: `figures_sum_up`. There are no figures at all if the price of one of the swaps has a
scale out of range (`figures_sum_up_unless_priced`).
-/

namespace SwapMarket

variable {ss us : List Swap} {b q : String}

/-! ## The trades of a market -/

namespace Swap

/-- A swap as a trade of a market that it feeds. -/
def tradeIn (b q : String) (s : Swap) : Trade :=
  { uuid := s.uuid
    baseAmount := (s.seenFrom b q).makerAmount
    quoteAmount := (s.seenFrom b q).takerAmount
    price := (s.seenFrom b q).takerAmount.quotient (s.seenFrom b q).makerAmount
    finishedAt := s.finishedAt
    side := s.sideIn b q }

/-- A swap that feeds a market gives something of both coins. -/
theorem isPriced_tradeIn {s : Swap} (h : s.feeds b q = true) : (s.tradeIn b q).IsPriced := by
  have hc : s.contributes = true := (Bool.and_eq_true _ _ ▸ h).1
  unfold contributes Decimal.isPositive at hc
  simp only [Bool.and_eq_true, decide_eq_true_eq] at hc
  obtain ⟨⟨-, hm⟩, ht⟩ := hc
  have hboth : 0 < (s.seenFrom b q).makerAmount.coefficient ∧
      0 < (s.seenFrom b q).takerAmount.coefficient := by
    unfold seenFrom
    split
    · exact ⟨hm, ht⟩
    · exact ⟨ht, hm⟩
  exact ⟨hboth.1, hboth.2, rfl⟩

/-- The trade of a swap is found if the swap has a price. -/
theorem ofSwap_seenFrom {s : Swap} (h : (s.seenFrom b q).hasPrice = true) :
    Trade.ofSwap (s.seenFrom b q) (s.sideIn b q) = .ok (s.tradeIn b q) := by
  obtain ⟨p, hp⟩ := Option.isSome_iff_exists.1 h
  have huuid : (s.seenFrom b q).uuid = s.uuid := by
    unfold seenFrom
    split <;> rfl
  have htime : (s.seenFrom b q).finishedAt = s.finishedAt := by
    unfold seenFrom
    split <;> rfl
  refine Trade.ofSwap_ok_iff.2 ⟨p, Run.inRange_ok_iff.2 hp, ?_⟩
  rw [huuid, htime, Decimal.quotient_of_quotient? hp]
  rfl

end Swap

namespace Trade

/-- The trades of a market are those of the swaps that feed it. -/
theorem unsorted_ok_iff {ts : List Trade} : unsorted b q ss = .ok ts ↔
    ArePriced b q ss ∧ (ss.filter (Swap.feeds b q)).map (Swap.tradeIn b q) = ts := by
  have hfound : ArePriced b q ss →
      unsorted b q ss = .ok ((ss.filter (Swap.feeds b q)).map (Swap.tradeIn b q)) := by
    intro h
    induction ss with
    | nil => rfl
    | cons s ss ih =>
      obtain ⟨hs, hss⟩ := List.forall_mem_cons.1 h
      rw [unsorted, Swap.orient_eq, ih hss]
      by_cases hf : s.feeds b q = true
      · rw [if_pos hf, Swap.ofSwap_seenFrom (hs hf), List.filter_cons_of_pos hf]
        rfl
      · rw [if_neg hf, List.filter_cons_of_neg hf]
        rfl
  constructor
  · intro h
    rcases unsorted_cases b q ss with ⟨hp, -⟩ | ⟨-, he⟩
    · exact ⟨hp, Except.ok.inj ((hfound hp).symm.trans h)⟩
    · rw [he] at h
      cases h
  · rintro ⟨hp, rfl⟩
    exact hfound hp

/-- They are in order of completion. -/
theorem ofSwaps_ok_iff {ts : List Trade} : ofSwaps ss b q = .ok ts ↔ ArePriced b q ss ∧
    ((ss.filter (Swap.feeds b q)).mergeSort Swap.notAfter).map (Swap.tradeIn b q) = ts := by
  have hsort : ((ss.filter (Swap.feeds b q)).mergeSort Swap.notAfter).map (Swap.tradeIn b q)
      = ((ss.filter (Swap.feeds b q)).map (Swap.tradeIn b q)).mergeSort notAfter :=
    List.map_mergeSort fun _ _ _ _ => rfl
  unfold ofSwaps
  rw [Run.map_ok_iff, hsort]
  constructor
  · rintro ⟨_, h, rfl⟩
    obtain ⟨hp, rfl⟩ := unsorted_ok_iff.1 h
    exact ⟨hp, rfl⟩
  · rintro ⟨hp, rfl⟩
    exact ⟨_, unsorted_ok_iff.2 ⟨hp, rfl⟩, rfl⟩

end Trade

/-! ## Their figures -/

namespace Aggregate

/-- The figures of a market sum up the swaps that feed it. -/
structure IsSummary (b q : String) (ss : List Swap) (a : Aggregate) : Prop where
  /-- The number of trades is that of the swaps. -/
  trades : a.trades = ss.countP (Swap.feeds b q)
  /-- The base volume is the sum of what is given of the base. -/
  baseVolume : a.baseVolume.value
    = ((ss.filter (Swap.feeds b q)).map fun s => (s.seenFrom b q).makerAmount.value).sum
  /-- The quote volume is the sum of what is given of the quote. -/
  quoteVolume : a.quoteVolume.value
    = ((ss.filter (Swap.feeds b q)).map fun s => (s.seenFrom b q).takerAmount.value).sum
  /-- The oldest trade is that of the least swap, and of the first of those tied with it. -/
  oldest : ∀ t, a.oldest = some t ↔ ∃ w,
    IsFirstGreatest (fun x y => y.notAfter x) (Swap.feeds b q) ss w ∧ w.tradeIn b q = t
  /-- The newest trade is that of the greatest swap, and of the last of those tied with it. -/
  newest : ∀ t, a.newest = some t ↔ ∃ w,
    IsFirstGreatest Swap.notAfter (Swap.feeds b q) ss.reverse w ∧ w.tradeIn b q = t
  /-- The highest price is that of some trade, and none is higher. -/
  highest : (∃ s ∈ ss, s.feeds b q = true) →
    (∃ s ∈ ss, s.feeds b q = true ∧ (s.tradeIn b q).price = a.highestPrice) ∧
      ∀ s ∈ ss, s.feeds b q = true → (s.tradeIn b q).price.value ≤ a.highestPrice.value
  /-- The lowest price is that of some trade, and none is lower. -/
  lowest : (∃ s ∈ ss, s.feeds b q = true) →
    (∃ s ∈ ss, s.feeds b q = true ∧ (s.tradeIn b q).price = a.lowestPrice) ∧
      ∀ s ∈ ss, s.feeds b q = true → a.lowestPrice.value ≤ (s.tradeIn b q).price.value
  /-- Every price is positive, and is what is given of the quote for one of the base, up to one part
  in `10 ^ 99`. -/
  prices : ∀ s ∈ ss, s.feeds b q = true → 0 < (s.tradeIn b q).price.value ∧
    |(s.tradeIn b q).price.value * (s.seenFrom b q).makerAmount.value
        - (s.seenFrom b q).takerAmount.value| ≤ (s.seenFrom b q).takerAmount.value / 10 ^ 99
  /-- Without such swaps there is nothing. -/
  nothing : (∀ s ∈ ss, s.feeds b q = false) → a = ⟨.zero, .zero, 0, none, none, .zero, .zero⟩

/-- The figures are those of the swaps that feed the market, in order of completion. -/
theorem ofSwaps_ok_iff {a : Aggregate} : ofSwaps ss b q = .ok a ↔ ArePriced b q ss ∧
    ofTrades (((ss.filter (Swap.feeds b q)).mergeSort Swap.notAfter).map (Swap.tradeIn b q))
      = a := by
  unfold ofSwaps
  rw [Run.map_ok_iff]
  constructor
  · rintro ⟨_, h, rfl⟩
    obtain ⟨hp, rfl⟩ := Trade.ofSwaps_ok_iff.1 h
    exact ⟨hp, rfl⟩
  · rintro ⟨hp, rfl⟩
    exact ⟨_, Trade.ofSwaps_ok_iff.2 ⟨hp, rfl⟩, rfl⟩

/-- A sum of amounts does not hang on the order of the trades. -/
theorem value_sum_tradeIn (k : Trade → Decimal) (ss : List Swap) :
    (Decimal.sum (((ss.mergeSort Swap.notAfter).map (Swap.tradeIn b q)).map k)).value
      = (ss.map fun s => (k (s.tradeIn b q)).value).sum := by
  rw [Decimal.value_sum, List.map_map, List.map_map,
    ((List.mergeSort_perm ss Swap.notAfter).map _).sum_eq]
  rfl

/-- The prices of a market are those of the swaps that feed it. -/
theorem mem_prices {d : Decimal} :
    d ∈ (((ss.filter (Swap.feeds b q)).mergeSort Swap.notAfter).map (Swap.tradeIn b q)).map
        Trade.price ↔
      ∃ s ∈ ss, s.feeds b q = true ∧ (s.tradeIn b q).price = d := by
  rw [List.map_map, List.mem_map]
  refine exists_congr fun s => ?_
  rw [List.mem_mergeSort, List.mem_filter, and_assoc]
  rfl

/-- The figures of a market sum up its swaps. -/
theorem isSummary_of_ofSwaps {a : Aggregate} (h : ofSwaps ss b q = .ok a) :
    a.IsSummary b q ss := by
  have htrades := trades_of_ofSwaps h
  obtain ⟨-, rfl⟩ := ofSwaps_ok_iff.1 h
  have hne : (∃ s ∈ ss, s.feeds b q = true) →
      (((ss.filter (Swap.feeds b q)).mergeSort Swap.notAfter).map (Swap.tradeIn b q)).map
        Trade.price ≠ [] := by
    rintro ⟨s, hs, hf⟩
    exact List.ne_nil_of_mem (mem_prices.2 ⟨s, hs, hf, rfl⟩)
  refine ⟨htrades, value_sum_tradeIn _ _, value_sum_tradeIn _ _, fun t => ?oldest,
    fun t => ?newest, fun hs => ?highest, fun hs => ?lowest, fun s hs hf => ?prices,
    fun hno => ?nothing⟩
  case oldest =>
    show List.head? _ = some t ↔ _
    rw [List.head?_map, Option.map_eq_some_iff]
    simp only [head?_mergeSort_eq_some_iff Swap.notAfter_trans Swap.notAfter_total]
  case newest =>
    show List.getLast? _ = some t ↔ _
    rw [List.getLast?_map, Option.map_eq_some_iff]
    simp only [getLast?_mergeSort_eq_some_iff Swap.notAfter_trans Swap.notAfter_total]
  case highest =>
    obtain ⟨hmem, hle⟩ := value_greatest? (hne hs)
    exact ⟨mem_prices.1 hmem, fun s hs hf => hle _ (mem_prices.2 ⟨s, hs, hf, rfl⟩)⟩
  case lowest =>
    obtain ⟨hmem, hle⟩ := value_least? (hne hs)
    exact ⟨mem_prices.1 hmem, fun s hs hf => hle _ (mem_prices.2 ⟨s, hs, hf, rfl⟩)⟩
  case prices =>
    have hp := Swap.isPriced_tradeIn hf
    obtain ⟨hpos, hnear⟩ := Decimal.quotient_near hp.quote hp.base
    exact ⟨Decimal.value_pos hpos, hnear⟩
  case nothing =>
    have hnil : ss.filter (Swap.feeds b q) = [] :=
      List.filter_eq_nil_iff.2 fun s hs => Bool.eq_false_iff.1 (hno s hs)
    rw [hnil, List.mergeSort_nil]
    rfl

/-- Whatever the order of the swaps, a market has the same figures, if no two of its trades agree
in time and identifier. -/
theorem ofSwaps_of_perm (hp : us.Perm ss)
    (hkeys : ((ss.filter (Swap.feeds b q)).map fun s => (s.finishedAt, s.uuid)).Nodup) :
    ofSwaps us b q = ofSwaps ss b q := by
  have hfilter : (us.filter (Swap.feeds b q)).Perm (ss.filter (Swap.feeds b q)) := hp.filter _
  have hanti : ∀ x y, x ∈ (us.filter (Swap.feeds b q)).mergeSort Swap.notAfter →
      y ∈ (ss.filter (Swap.feeds b q)).mergeSort Swap.notAfter →
      x.notAfter y = true → y.notAfter x = true → x = y := by
    intro x y hx hy hxy hyx
    obtain ⟨hf, hu⟩ := Swap.tied_notAfter.1 (tied_eq_true.2 ⟨hxy, hyx⟩)
    refine List.inj_on_of_nodup_map hkeys (hfilter.mem_iff.1 (List.mem_mergeSort.1 hx))
      (List.mem_mergeSort.1 hy) ?_
    rw [hf, hu]
  have hsorted : (us.filter (Swap.feeds b q)).mergeSort Swap.notAfter
      = (ss.filter (Swap.feeds b q)).mergeSort Swap.notAfter :=
    List.Perm.eq_of_pairwise hanti
      (List.pairwise_mergeSort Swap.notAfter_trans Swap.notAfter_total _)
      (List.pairwise_mergeSort Swap.notAfter_trans Swap.notAfter_total _)
      ((List.mergeSort_perm _ _).trans (hfilter.trans (List.mergeSort_perm _ _).symm))
  have hpriced : ArePriced b q us ↔ ArePriced b q ss := by
    simp only [ArePriced, hp.mem_iff]
  by_cases h : ArePriced b q ss
  · rw [ofSwaps_ok_iff.2 ⟨h, rfl⟩, ofSwaps_ok_iff.2 ⟨hpriced.2 h, rfl⟩, hsorted]
  · rw [ofSwaps_of_not_arePriced h, ofSwaps_of_not_arePriced (mt hpriced.1 h)]

end Aggregate

/-- **The figures of a market** sum up the swaps that feed it, exactly and in whatever order the
swaps are, as long as no two of them agree in time and identifier. There are figures exactly if each
of these swaps has a price, as swaps of amounts that can be written do. -/
theorem figures_sum_up (ss : List Swap) (b q : String) :
    (∀ a, Aggregate.ofSwaps ss b q = .ok a → a.IsSummary b q ss) ∧
      ((∃ a, Aggregate.ofSwaps ss b q = .ok a) ↔
        ∀ s ∈ ss, s.feeds b q = true → (s.seenFrom b q).hasPrice = true) ∧
      ((∀ s ∈ ss, s.makerAmount.Within greatestPlaces ∧ s.takerAmount.Within greatestPlaces) →
        ∃ a, Aggregate.ofSwaps ss b q = .ok a) ∧
      ∀ us : List Swap, us.Perm ss →
        ((ss.filter (Swap.feeds b q)).map fun s => (s.finishedAt, s.uuid)).Nodup →
          Aggregate.ofSwaps us b q = Aggregate.ofSwaps ss b q := by
  refine ⟨fun a => Aggregate.isSummary_of_ofSwaps, Aggregate.exists_ofSwaps_iff, fun h => ?_,
    fun us hp hkeys => Aggregate.ofSwaps_of_perm hp hkeys⟩
  obtain ⟨ts, hts, -⟩ := Trade.unsorted_ok (fun s hs => (h s hs).1) (fun s hs => (h s hs).2) b q
  exact ⟨_, Aggregate.ofSwaps_ok_iff_unsorted.2 ⟨ts, hts, rfl⟩⟩

/-- The figures of two swaps, in either order: what is given of the base is summed up. -/
theorem figures_sum_up_bothWays :
    (∀ s ∈ bothWays, s.makerAmount.Within greatestPlaces ∧ s.takerAmount.Within greatestPlaces) ∧
      bothWays.reverse.Perm bothWays ∧
      ((bothWays.filter (Swap.feeds "KMD" "LTC")).map fun s => (s.finishedAt, s.uuid)).Nodup ∧
      ∃ a, Aggregate.ofSwaps bothWays "KMD" "LTC" = .ok a ∧
        Aggregate.ofSwaps bothWays.reverse "KMD" "LTC" = .ok a ∧
        a.trades = 2 ∧ a.baseVolume.value = 10 ∧ a.newest.map Trade.uuid = some "b" := by
  have hsmall : ∀ s ∈ bothWays,
      s.makerAmount.Within greatestPlaces ∧ s.takerAmount.Within greatestPlaces := by
    intro s hs
    obtain ⟨hm, ht⟩ := within_one_bothWays s hs
    exact ⟨hm.mono (by decide), ht.mono (by decide)⟩
  have hkeys : ((bothWays.filter (Swap.feeds "KMD" "LTC")).map
      fun s => (s.finishedAt, s.uuid)).Nodup := by decide
  obtain ⟨hsummary, -, hfound, hperm⟩ := figures_sum_up bothWays "KMD" "LTC"
  obtain ⟨a, ha⟩ := hfound hsmall
  have hsum := hsummary a ha
  refine ⟨hsmall, List.reverse_perm _, hkeys, a, ha,
    (hperm _ (List.reverse_perm _) hkeys).trans ha, hsum.trades, ?_, ?_⟩
  · have hamounts : (bothWays.filter (Swap.feeds "KMD" "LTC")).map
        (fun s => (s.seenFrom "KMD" "LTC").makerAmount) = [⟨2, 0⟩, ⟨8, 0⟩] := by decide
    rw [hsum.baseVolume, ← Function.comp_def Decimal.value, ← List.map_map, hamounts]
    norm_num [Decimal.value]
  · have hlast : IsFirstGreatest Swap.notAfter (Swap.feeds "KMD" "LTC") bothWays.reverse
        ⟨"b", "KMD", "LTC", ⟨8, 0⟩, ⟨2, 0⟩, 3, 5, true⟩ := ⟨by decide, by decide⟩
    rw [(hsum.newest _).2 ⟨_, hlast, rfl⟩]
    rfl

/-- A swap of a coin for next to nothing. -/
def unpricedSwap : Swap := ⟨"a", "KMD", "LTC", ⟨4, 0⟩, ⟨2, 9223372036854775807⟩, 1, 5, true⟩

/-- A market in which a swap has no price has no figures: the price has one place more than 64 bits
can count. -/
theorem figures_sum_up_unless_priced : unpricedSwap.feeds "KMD" "LTC" = true ∧
    Aggregate.ofSwaps [unpricedSwap] "KMD" "LTC" = .error .overflow := by
  refine ⟨by decide, Aggregate.ofSwaps_of_not_arePriced fun h => ?_⟩
  exact absurd (h unpricedSwap List.mem_cons_self (by decide)) (by decide +kernel)

end SwapMarket
