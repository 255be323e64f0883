import SwapMarket.Proofs.Market.Inverse
import SwapMarket.Proofs.Swap.Trade

/-!
# Records that can always be built

Only a scale out of the range of 64 bits can keep the record of a market from being built. If the
amounts of the swaps and the dollar prices of the coins have at most **`greatestPlaces`** digits and
places, and there are not absurdly many swaps (**`SizedData`**), nothing comes near that range: the
records of both sides of every market are built, and so are their inverses.
-/

namespace SwapMarket

/-- The number of digits and places considered, far more than what is written anywhere. -/
def greatestPlaces : Nat := 2 ^ 36

/-- Swaps and dollar prices have numbers of a size that can be written. -/
structure SizedData (c : Catalogue) (ss : List Swap) : Prop where
  /-- The amounts that makers give. -/
  maker : ∀ s ∈ ss, s.makerAmount.Within greatestPlaces
  /-- The amounts that takers give. -/
  taker : ∀ s ∈ ss, s.takerAmount.Within greatestPlaces
  /-- The number of swaps. -/
  count : ss.length < 10 ^ greatestPlaces
  /-- The dollar prices. -/
  usdPrice : ∀ t, (c.usdPrice t).Within greatestPlaces

/-- The numbers of a trade have at most a few times the places of amounts. -/
structure Trade.Sized (t : Trade) : Prop where
  /-- The amount of the base. -/
  base : t.baseAmount.Within greatestPlaces
  /-- The amount of the quote. -/
  quote : t.quoteAmount.Within greatestPlaces
  /-- The price. -/
  price : t.price.Within (3 * greatestPlaces + 101)

variable {c : Catalogue} {ss : List Swap} {b q : String}

/-! ## Trades -/

/-- A swap whose amounts can be written has a price. -/
theorem Swap.price_ok {s : Swap} (hm : s.makerAmount.Within greatestPlaces)
    (ht : s.takerAmount.Within greatestPlaces) :
    ∃ p, s.price = .ok p ∧ p.Within (3 * greatestPlaces + 101) := by
  refine ⟨s.takerAmount.quotient s.makerAmount, ?_, ht.quotient hm⟩
  unfold Swap.price
  rw [ht.quotient? hm (by decide)]
  rfl

/-- It is a trade of moderate size. -/
theorem Trade.ofSwap_ok {s : Swap} (hm : s.makerAmount.Within greatestPlaces)
    (ht : s.takerAmount.Within greatestPlaces) (side : Side) :
    ∃ t, Trade.ofSwap s side = .ok t ∧ t.Sized := by
  obtain ⟨p, hp, hw⟩ := s.price_ok hm ht
  refine ⟨⟨s.uuid, s.makerAmount, s.takerAmount, p, s.finishedAt, side⟩, ?_, hm, ht, hw⟩
  unfold Trade.ofSwap
  rw [hp]
  rfl

theorem Swap.orient_ok {s : Swap} (hm : s.makerAmount.Within greatestPlaces)
    (ht : s.takerAmount.Within greatestPlaces) (b q : String) :
    ∃ t, s.orient b q = .ok t ∧ ∀ u, t = some u → u.Sized := by
  rcases s.orient_cases b q with ⟨-, ho⟩ | ⟨-, -, -, ho⟩ | ⟨-, -, -, -, ho⟩
  · refine ⟨none, ho, ?_⟩
    intro u hu
    cases hu
  · obtain ⟨t, hto, hs⟩ := Trade.ofSwap_ok hm ht .buy
    refine ⟨some t, by rw [ho, hto]; rfl, ?_⟩
    intro u hu
    cases hu
    exact hs
  · obtain ⟨t, hto, hs⟩ := Trade.ofSwap_ok (s := s.flip) ht hm .sell
    refine ⟨some t, by rw [ho, hto]; rfl, ?_⟩
    intro u hu
    cases hu
    exact hs

theorem Trade.unsorted_ok (hm : ∀ s ∈ ss, s.makerAmount.Within greatestPlaces)
    (ht : ∀ s ∈ ss, s.takerAmount.Within greatestPlaces) (b q : String) :
    ∃ ts, Trade.unsorted b q ss = .ok ts ∧ ∀ t ∈ ts, t.Sized := by
  induction ss with
  | nil => exact ⟨[], rfl, fun t h => absurd h List.not_mem_nil⟩
  | cons s ss ih =>
    obtain ⟨hms, hmss⟩ := List.forall_mem_cons.1 hm
    obtain ⟨hts, htss⟩ := List.forall_mem_cons.1 ht
    obtain ⟨t, hto, hs⟩ := s.orient_ok hms hts b q
    obtain ⟨ts, htu, hss⟩ := ih hmss htss
    refine ⟨t.toList ++ ts, ?_, ?_⟩
    · rw [Trade.unsorted, hto, htu]
      rfl
    · intro u hu
      rcases List.mem_append.1 hu with hu | hu
      · exact hs u (Option.mem_toList.1 hu)
      · exact hss u hu

/-! ## Figures of a market -/

/-- The figures of a market have at most a few times the places of amounts. -/
structure Aggregate.Sized (a : Aggregate) : Prop where
  /-- The base volume. -/
  base : a.baseVolume.Within (4 * greatestPlaces)
  /-- The quote volume. -/
  quote : a.quoteVolume.Within (4 * greatestPlaces)
  /-- The oldest trade. -/
  oldest : ∀ t, a.oldest = some t → t.Sized
  /-- The newest trade. -/
  newest : ∀ t, a.newest = some t → t.Sized
  /-- The greatest price. -/
  highest : a.highestPrice.Within (3 * greatestPlaces + 101)
  /-- The least price. -/
  lowest : a.lowestPrice.Within (3 * greatestPlaces + 101)

/-- The value that a choice leaves standing is one of a list. -/
theorem foldl_choice_mem (f : Decimal → Decimal → Bool) (d : Decimal) (ds : List Decimal) :
    ds.foldl (fun m x => if f m x then x else m) d ∈ d :: ds := by
  induction ds generalizing d with
  | nil => exact List.mem_cons_self
  | cons e ds ih =>
    rw [List.foldl_cons]
    split
    · exact List.mem_cons_of_mem _ (ih e)
    · rcases List.mem_cons.1 (ih d) with h | h
      · rw [h]
        exact List.mem_cons_self
      · exact List.mem_cons_of_mem _ (List.mem_cons_of_mem _ h)

/-- The greatest of decimals of few places has few places. -/
theorem within_greatest? {k : Nat} {ds : List Decimal} (h : ∀ d ∈ ds, d.Within k) :
    ((greatest? ds).getD .zero).Within k := by
  cases ds with
  | nil => exact Decimal.within_zero k
  | cons d ds => exact h _ (foldl_choice_mem (fun m x => m.below x) d ds)

theorem within_least? {k : Nat} {ds : List Decimal} (h : ∀ d ∈ ds, d.Within k) :
    ((least? ds).getD .zero).Within k := by
  cases ds with
  | nil => exact Decimal.within_zero k
  | cons d ds => exact h _ (foldl_choice_mem (fun m x => x.below m) d ds)

/-- Swaps whose amounts can be written have figures of moderate size in every market. -/
theorem Aggregate.ofSwaps_ok (h : SizedData c ss) (b q : String) :
    ∃ a, Aggregate.ofSwaps ss b q = .ok a ∧ a.Sized := by
  obtain ⟨ts, hts, hs⟩ := Trade.unsorted_ok h.maker h.taker b q
  have hn : ts.length < 10 ^ greatestPlaces := by
    rw [Trade.length_of_unsorted hts]
    exact Nat.lt_of_le_of_lt List.countP_le_length h.count
  refine ⟨_, Aggregate.ofSwaps_ok_iff_unsorted.2 ⟨ts, hts, rfl⟩, ?_⟩
  have hperm := List.mergeSort_perm ts Trade.notAfter
  generalize ts.mergeSort Trade.notAfter = us at hperm ⊢
  have hus : ∀ t ∈ us, t.Sized := fun t ht => hs t (hperm.mem_iff.1 ht)
  have hlen : us.length < 10 ^ greatestPlaces := by
    rw [hperm.length_eq]
    exact hn
  have hprices : ∀ d ∈ us.map (·.price), d.Within (3 * greatestPlaces + 101) := by
    intro d hd
    obtain ⟨t, ht, rfl⟩ := List.mem_map.1 hd
    exact (hus t ht).price
  refine ⟨Decimal.within_sum ?_ ?_, Decimal.within_sum ?_ ?_, ?_, ?_, within_greatest? hprices,
    within_least? hprices⟩
  · intro d hd
    obtain ⟨t, ht, rfl⟩ := List.mem_map.1 hd
    exact (hus t ht).base
  · rw [List.length_map]
    exact hlen
  · intro d hd
    obtain ⟨t, ht, rfl⟩ := List.mem_map.1 hd
    exact (hus t ht).quote
  · rw [List.length_map]
    exact hlen
  · intro t ht
    exact hus t (List.mem_of_head? ht)
  · intro t ht
    exact hus t (List.mem_of_getLast? ht)

/-! ## Records -/

/-- A decimal of few places is written as a short figure. -/
theorem figure_short {d : Decimal} {k : Nat} (h : d.Within k) (hk : 2 * k + 23 ≤ greatestText) :
    d.figure = .ok d.published ∧ d.published.length ≤ greatestText := by
  have hlt : greatestText < 2 ^ 60 := by decide
  exact ⟨h.figure (by omega), Nat.le_trans h.length_published hk⟩

/-- The text of zero is short. -/
theorem length_publishedZero_le : Decimal.publishedZero.length ≤ greatestText :=
  (figure_short (Decimal.within_zero 0) (by decide)).2

/-- The last trade of a market is built, and its figures are short. -/
theorem LastTrade.ofSwap_ok (c : Catalogue) (b q : String) {s : Swap}
    (hm : s.makerAmount.Within greatestPlaces) (ht : s.takerAmount.Within greatestPlaces) :
    ∃ r, LastTrade.ofSwap c b q s = .ok r ∧ IsShort r := by
  obtain ⟨t, hto, hs⟩ := s.orient_ok hm ht b q
  unfold LastTrade.ofSwap
  rw [hto, Run.ok_bind]
  cases t with
  | none =>
    refine ⟨LastTrade.blank b q, rfl, ?_⟩
    unfold IsShort
    simp [MarketFigures.figures, LastTrade.blank, length_publishedZero_le]
  | some t =>
    have ht := hs t rfl
    obtain ⟨h₁, l₁⟩ := figure_short ht.price (by decide)
    obtain ⟨h₂, l₂⟩ := figure_short ht.base (by decide)
    obtain ⟨h₃, l₃⟩ := figure_short ht.quote (by decide)
    simp only [h₁, h₂, h₃, Run.ok_bind]
    refine ⟨_, rfl, ?_⟩
    unfold IsShort
    simp [MarketFigures.figures, l₁, l₂, l₃]

/-- The volume of a market is built. -/
theorem Volume.ofSwaps_ok (h : SizedData c ss) (b q : String) :
    ∃ r, Volume.ofSwaps c b q ss = .ok r := by
  obtain ⟨a, ha, hs⟩ := Aggregate.ofSwaps_ok h b q
  have hb : (c.usdPrice b).Within (4 * greatestPlaces) := (h.usdPrice b).mono (by decide)
  have hq : (c.usdPrice q).Within (4 * greatestPlaces) := (h.usdPrice q).mono (by decide)
  have hbu := hs.base.product? hb (by decide)
  have hqu := hs.quote.product? hq (by decide)
  have hbw := hs.base.mul hb
  have hqw := hs.quote.mul hq
  have htwo : (Decimal.ofInt 2).Within (3 * (2 * (4 * greatestPlaces)) + 1) := by
    refine ⟨Nat.lt_of_lt_of_le (by decide : (2 : Nat) < 10 ^ 1) ?_, Nat.zero_le _⟩
    exact Nat.pow_le_pow_right (by decide) (by decide)
  have husd : ∃ v, usdVolume (c.usdPrice b) (a.baseVolume * c.usdPrice b) (c.usdPrice q)
      (a.quoteVolume * c.usdPrice q) = .ok v ∧
        v.Within (3 * (3 * (2 * (4 * greatestPlaces)) + 1) + 101) := by
    unfold usdVolume
    cases (c.usdPrice b).isZero with
    | true =>
      cases (c.usdPrice q).isZero with
      | true => exact ⟨_, rfl, Decimal.within_zero _⟩
      | false => exact ⟨_, rfl, hqw.mono (by decide)⟩
    | false =>
      cases (c.usdPrice q).isZero with
      | true => exact ⟨_, rfl, hbw.mono (by decide)⟩
      | false =>
        have hsum := hbw.add hqw
        refine ⟨_, ?_, hsum.quotient htwo⟩
        simp only [hsum.quotient? htwo (by decide)]
        rfl
  obtain ⟨v, hv, hvw⟩ := husd
  unfold Volume.ofSwaps
  simp only [ha, hbu, hqu, Run.inRange, Run.ok_bind, hv, hs.base.figure (by decide),
    hs.quote.figure (by decide), hbw.figure (by decide), hqw.figure (by decide),
    hvw.figure (by decide)]
  exact ⟨_, rfl⟩

/-- The change of a price has few places. -/
theorem Aggregate.within_priceChange {a : Aggregate} (h : a.Sized) :
    a.priceChange.Within (3 * (3 * greatestPlaces + 101) + 1) := by
  unfold priceChange
  cases ho : a.oldest with
  | none => exact Decimal.within_zero _
  | some o =>
    cases hn : a.newest with
    | none => exact Decimal.within_zero _
    | some n => exact (h.newest n hn).price.sub (h.oldest o ho).price

/-- The change of the price in percent is found. -/
theorem Aggregate.priceChangePercent_ok {a : Aggregate} (h : a.Sized) :
    ∃ p, a.priceChangePercent = .ok p ∧ p.Within (54 * greatestPlaces + 2100) := by
  have hchange := within_priceChange h
  unfold priceChangePercent
  cases ho : a.oldest with
  | none => exact ⟨_, rfl, Decimal.within_zero _⟩
  | some o =>
    have hold : o.price.Within (3 * (3 * greatestPlaces + 101) + 1) :=
      (h.oldest o ho).price.mono (by decide)
    have hpart := hchange.quotient hold
    have hundred : (Decimal.ofInt 100).Within
        (3 * (3 * (3 * greatestPlaces + 101) + 1) + 101) := by
      refine ⟨Nat.lt_of_lt_of_le (by decide : (100 : Nat) < 10 ^ 3) ?_, Nat.zero_le _⟩
      exact Nat.pow_le_pow_right (by decide) (by decide)
    refine ⟨_, ?_, (hpart.mul hundred).mono (by decide)⟩
    simp only [hchange.quotient? hold (by decide)]
    rfl

/-- The prices of a day are built, and their figures are short. -/
theorem DayPrices.ofSwaps_ok (h : SizedData c ss) (b q : String) :
    ∃ r, DayPrices.ofSwaps c b q ss = .ok r ∧ IsShort r := by
  obtain ⟨a, ha, hs⟩ := Aggregate.ofSwaps_ok h b q
  obtain ⟨hb, lb⟩ := figure_short (h.usdPrice b) (by decide)
  obtain ⟨hq, lq⟩ := figure_short (h.usdPrice q) (by decide)
  unfold DayPrices.ofSwaps
  simp only [ha, hb, hq, Run.ok_bind]
  have hblank : IsShort { DayPrices.blank b q with
      basePriceUsd := (c.usdPrice b).published, quotePriceUsd := (c.usdPrice q).published } := by
    unfold IsShort
    simp [MarketFigures.figures, DayPrices.blank, length_publishedZero_le, lb, lq]
  cases ho : a.oldest with
  | none => exact ⟨_, rfl, hblank⟩
  | some o =>
    cases hn : a.newest with
    | none => exact ⟨_, rfl, hblank⟩
    | some n =>
      obtain ⟨p, hp, hpw⟩ := Aggregate.priceChangePercent_ok hs
      obtain ⟨h₁, l₁⟩ := figure_short (hs.oldest o ho).price (by decide)
      obtain ⟨h₂, l₂⟩ := figure_short (hs.newest n hn).price (by decide)
      obtain ⟨h₃, l₃⟩ := figure_short hs.highest (by decide)
      obtain ⟨h₄, l₄⟩ := figure_short hs.lowest (by decide)
      obtain ⟨h₅, l₅⟩ := figure_short (Aggregate.within_priceChange hs) (by decide)
      obtain ⟨h₆, l₆⟩ := figure_short hpw (by decide)
      simp only [hp, h₁, h₂, h₃, h₄, h₅, h₆, Run.ok_bind]
      refine ⟨_, rfl, ?_⟩
      unfold IsShort
      simp [MarketFigures.figures, l₁, l₂, l₃, l₄, l₅, l₆, lb, lq]

end SwapMarket
