import SwapMarket.Proofs.Decimal.Reciprocal
import SwapMarket.Proofs.Market.OtherSide

/-!
# How far inverse prices are off

The inverse of a stored price is computed from its ten published places, while the price that is
built for the flipped market is computed from the amounts (**`InvertsNear`**). The prices of a swap
in the two markets are quotients of the same amounts, hence reciprocal
(`Trade.IsPriced.reciprocal`), and so are the highest price of the one market and the lowest of the
other (`Aggregate.ReciprocalPrices`). What is lost in the ten places of a stored price above zero is
in `NearInverse`.

Main statement: `inverse_prices_near`.
-/

namespace SwapMarket

open Decimal (places)

/-! ## Prices of trades -/

namespace Decimal

variable {a b d : Decimal}

/-- A quotient that is found is the quotient. -/
theorem quotient_of_quotient? (h : a.quotient? b = some d) : d = a.quotient b := by
  unfold quotient? at h
  split at h
  · exact (Option.some.inj h).symm
  · split at h
    · unfold inRange? at h
      split at h
      · exact (Option.some.inj h).symm
      · cases h
    · cases h

/-- A figure is the published text. -/
theorem published_of_figure {s : String} (h : d.figure = .ok s) : s = d.published := by
  unfold figure published? at h
  split at h
  · exact (Option.some.inj (Run.inRange_ok_iff.1 h)).symm
  · cases h

end Decimal

namespace Trade

/-- A trade is of positive amounts, and its price is their quotient. -/
structure IsPriced (t : Trade) : Prop where
  /-- There is something of the base. -/
  base : 0 < t.baseAmount.coefficient
  /-- There is something of the quote. -/
  quote : 0 < t.quoteAmount.coefficient
  /-- The price. -/
  price : t.price = t.quoteAmount.quotient t.baseAmount

/-- A swap that contributes is a trade with a price. -/
theorem isPriced_of_ofSwap {s : Swap} {side : Side} {t : Trade} (hc : s.contributes = true)
    (h : ofSwap s side = .ok t) : t.IsPriced := by
  obtain ⟨p, hp, rfl⟩ := ofSwap_ok_iff.1 h
  unfold Swap.contributes Decimal.isPositive at hc
  simp only [Bool.and_eq_true, decide_eq_true_eq] at hc
  exact ⟨hc.1.2, hc.2, Decimal.quotient_of_quotient? (Run.inRange_ok_iff.1 hp)⟩

theorem isPriced_of_orient {s : Swap} {b q : String} {t : Trade}
    (h : s.orient b q = .ok (some t)) : t.IsPriced := by
  have contributes : s.feeds b q = true → s.contributes = true := fun hf =>
    (Bool.and_eq_true _ _ ▸ hf).1
  rcases s.orient_cases b q with ⟨-, ho⟩ | ⟨hf, -, -, ho⟩ | ⟨hf, -, -, -, ho⟩
  · rw [ho] at h
    cases h
  · rw [ho, Run.map_ok_iff] at h
    obtain ⟨t', ht, he⟩ := h
    cases he
    exact isPriced_of_ofSwap (contributes hf) ht
  · rw [ho, Run.map_ok_iff] at h
    obtain ⟨t', ht, he⟩ := h
    cases he
    exact isPriced_of_ofSwap (s.contributes_flip.trans (contributes hf)) ht

/-- All trades of a market have prices. -/
theorem isPriced_of_unsorted {ss : List Swap} {b q : String} {ts : List Trade}
    (h : unsorted b q ss = .ok ts) : ∀ t ∈ ts, t.IsPriced := by
  induction ss generalizing ts with
  | nil =>
    cases h
    exact fun t ht => absurd ht List.not_mem_nil
  | cons s ss ih =>
    simp only [unsorted, Run.bind_ok_iff, Run.pure_eq_ok, Except.ok.injEq] at h
    obtain ⟨t, ht, ts, hts, rfl⟩ := h
    intro u hu
    rcases List.mem_append.1 hu with hu | hu
    · rw [Option.mem_toList.1 hu] at ht
      exact isPriced_of_orient ht
    · exact ih hts u hu

/-- A trade has reciprocal prices in the two markets. -/
theorem IsPriced.reciprocal {t u : Trade} (ht : t.IsPriced) (hu : u.IsPriced)
    (h : u.withoutPrice = t.mirrored) : Reciprocal t.price.value u.price.value := by
  obtain ⟨-, hbase, hquote, -, -⟩ := mirror_iff.1 h
  rw [ht.price, hu.price, hbase, hquote]
  exact Decimal.reciprocal_quotient ht.quote ht.base

section Mirrored

variable {ts us : List Trade}

/-- Each trade of one side is one of the other side, mirrored. -/
theorem Mirror.exists_right (h : Mirror ts us) {t : Trade} (ht : t ∈ ts) :
    ∃ u ∈ us, u.withoutPrice = t.mirrored := by
  have hm : t.mirrored ∈ us.map withoutPrice := by
    rw [h]
    exact List.mem_map_of_mem ht
  exact List.mem_map.1 hm

theorem Mirror.exists_left (h : Mirror ts us) {u : Trade} (hu : u ∈ us) :
    ∃ t ∈ ts, u.withoutPrice = t.mirrored := by
  have hm : u.withoutPrice ∈ ts.map mirrored := by
    rw [← h]
    exact List.mem_map_of_mem hu
  obtain ⟨t, ht, he⟩ := List.mem_map.1 hm
  exact ⟨t, ht, he.symm⟩

end Mirrored

end Trade

/-! ## Extreme prices -/

section Extremes

variable {ds es : List Decimal}

/-- If the better of two values is chosen each time, none is better than the one left standing. -/
theorem le_foldl_choice {f : Decimal → Decimal → Bool} {v : Decimal → ℚ} {d : Decimal}
    (hf : ∀ x ∈ d :: ds, ∀ y ∈ d :: ds, f x y = true ↔ v x < v y) :
    ∀ x ∈ d :: ds, v x ≤ v (ds.foldl (fun m x => if f m x then x else m) d) := by
  induction ds generalizing d with
  | nil =>
    intro x hx
    rw [List.mem_singleton.1 hx]
    exact le_rfl
  | cons e ds ih =>
    intro x hx
    rw [List.foldl_cons]
    have hd : d ∈ d :: e :: ds := List.mem_cons_self
    have he : e ∈ d :: e :: ds := List.mem_cons_of_mem _ List.mem_cons_self
    generalize hm : (if f d e = true then e else d) = m
    have hbetter : v d ≤ v m ∧ v e ≤ v m ∧ m ∈ d :: e :: ds := by
      by_cases hde : f d e = true
      · rw [if_pos hde] at hm
        subst hm
        exact ⟨((hf d hd e he).1 hde).le, le_rfl, he⟩
      · rw [if_neg hde] at hm
        subst hm
        exact ⟨le_rfl, not_lt.1 fun h => hde ((hf d hd e he).2 h), hd⟩
    obtain ⟨hdm, hem, hmem⟩ := hbetter
    have hsub : ∀ y ∈ m :: ds, y ∈ d :: e :: ds := by
      intro y hy
      rcases List.mem_cons.1 hy with rfl | hy
      · exact hmem
      · exact List.mem_cons_of_mem _ (List.mem_cons_of_mem _ hy)
    have hrest := ih (d := m) fun x hx y hy => hf x (hsub x hx) y (hsub y hy)
    have hstanding := hrest m List.mem_cons_self
    rcases List.mem_cons.1 hx with rfl | hx
    · exact hdm.trans hstanding
    · rcases List.mem_cons.1 hx with rfl | hx
      · exact hem.trans hstanding
      · exact hrest x (List.mem_cons_of_mem _ hx)

/-- The greatest of some decimals is one of them, and none is above it. -/
theorem value_greatest? (hne : ds ≠ []) :
    (greatest? ds).getD .zero ∈ ds ∧ ∀ d ∈ ds, d.value ≤ ((greatest? ds).getD .zero).value := by
  cases ds with
  | nil => exact absurd rfl hne
  | cons d ds =>
    refine ⟨foldl_choice_mem (fun m x => m.below x) d ds, ?_⟩
    exact le_foldl_choice (v := Decimal.value) fun x _ y _ => Decimal.below_iff

/-- The least of some decimals is one of them, and none is below it. -/
theorem value_least? (hne : ds ≠ []) :
    (least? ds).getD .zero ∈ ds ∧ ∀ d ∈ ds, ((least? ds).getD .zero).value ≤ d.value := by
  cases ds with
  | nil => exact absurd rfl hne
  | cons d ds =>
    refine ⟨foldl_choice_mem (fun m x => x.below m) d ds, fun x hx => ?_⟩
    have hle := le_foldl_choice (f := fun m x => x.below m) (v := fun d => -d.value)
      (fun x _ y _ => Decimal.below_iff.trans neg_lt_neg_iff.symm) x hx
    exact neg_le_neg_iff.1 hle

/-- The least of some decimals is reciprocal to the greatest of their reciprocals. -/
theorem reciprocal_least?_greatest? (hne : ds ≠ []) (hne' : es ≠ [])
    (hde : ∀ d ∈ ds, ∃ e ∈ es, Reciprocal d.value e.value)
    (hed : ∀ e ∈ es, ∃ d ∈ ds, Reciprocal d.value e.value) :
    Reciprocal ((least? ds).getD .zero).value ((greatest? es).getD .zero).value := by
  obtain ⟨hleast, hle⟩ := value_least? hne
  obtain ⟨hgreatest, hge⟩ := value_greatest? hne'
  exact .of_extremes hde hed hleast hgreatest hle hge

end Extremes

namespace Trade

variable {ts us : List Trade}

/-- The lowest price of a market and the highest price of the flipped market are reciprocal. -/
theorem Mirror.reciprocal_extremes (h : Mirror ts us) (ht : ∀ t ∈ ts, t.IsPriced)
    (hu : ∀ u ∈ us, u.IsPriced) (hne : ts ≠ []) :
    Reciprocal ((least? (ts.map price)).getD .zero).value
        ((greatest? (us.map price)).getD .zero).value ∧
      Reciprocal ((greatest? (ts.map price)).getD .zero).value
        ((least? (us.map price)).getD .zero).value := by
  have hts : ts.map price ≠ [] := fun e => hne (List.map_eq_nil_iff.1 e)
  have hus : us.map price ≠ [] := by
    intro e
    have hlen := h.exchange.length
    rw [List.map_eq_nil_iff.1 e] at hlen
    exact hne (List.length_eq_zero_iff.1 hlen.symm)
  have hright : ∀ d ∈ ts.map price, ∃ e ∈ us.map price, Reciprocal d.value e.value := by
    intro d hd
    obtain ⟨t, htm, rfl⟩ := List.mem_map.1 hd
    obtain ⟨u, hum, hm⟩ := h.exists_right htm
    exact ⟨_, List.mem_map_of_mem hum, (ht t htm).reciprocal (hu u hum) hm⟩
  have hleft : ∀ e ∈ us.map price, ∃ d ∈ ts.map price, Reciprocal d.value e.value := by
    intro e he
    obtain ⟨u, hum, rfl⟩ := List.mem_map.1 he
    obtain ⟨t, htm, hm⟩ := h.exists_left hum
    exact ⟨_, List.mem_map_of_mem htm, (ht t htm).reciprocal (hu u hum) hm⟩
  refine ⟨reciprocal_least?_greatest? hts hus hright hleft, ?_⟩
  -- The other two extremes are these two, seen from the flipped market.
  refine (reciprocal_least?_greatest? hus hts ?_ ?_).symm
  · intro e he
    obtain ⟨d, hd, hr⟩ := hleft e he
    exact ⟨d, hd, hr.symm⟩
  · intro d hd
    obtain ⟨e, he, hr⟩ := hright d hd
    exact ⟨e, he, hr.symm⟩

end Trade

/-- The prices of a market are reciprocal to those of the flipped market. -/
structure Aggregate.ReciprocalPrices (a a' : Aggregate) : Prop where
  /-- The oldest price. -/
  oldest : ∃ t u, a.oldest = some t ∧ a'.oldest = some u ∧ Reciprocal t.price.value u.price.value
  /-- The newest price. -/
  newest : ∃ t u, a.newest = some t ∧ a'.newest = some u ∧ Reciprocal t.price.value u.price.value
  /-- The lowest price, which is the highest one of the flipped market. -/
  lowest : Reciprocal a.lowestPrice.value a'.highestPrice.value
  /-- The highest price. -/
  highest : Reciprocal a.highestPrice.value a'.lowestPrice.value

variable {c : Catalogue} {ss : List Swap} {b q : String}

/-- Seen from both sides, first, last, highest and lowest price are reciprocals. -/
theorem Aggregate.reciprocalPrices (hne : b ≠ q) {a a' : Aggregate} (h : ofSwaps ss b q = .ok a)
    (h' : ofSwaps ss q b = .ok a') (hs : ∃ s ∈ ss, s.feeds b q = true) :
    a.ReciprocalPrices a' := by
  obtain ⟨ts, hts, rfl⟩ := ofSwaps_ok_iff_unsorted.1 h
  obtain ⟨us, hus, rfl⟩ := ofSwaps_ok_iff_unsorted.1 h'
  have hm := Trade.Mirror.of_unsorted hne hts hus
  have hlen : (ts.mergeSort Trade.notAfter).length ≠ 0 := by
    rw [List.length_mergeSort, Trade.length_of_unsorted hts]
    exact (List.countP_pos_iff.2 hs).ne'
  have ht : ∀ t ∈ ts.mergeSort Trade.notAfter, t.IsPriced := fun t htm =>
    Trade.isPriced_of_unsorted hts t (List.mem_mergeSort.1 htm)
  have hu : ∀ u ∈ us.mergeSort Trade.notAfter, u.IsPriced := fun u hum =>
    Trade.isPriced_of_unsorted hus u (List.mem_mergeSort.1 hum)
  generalize ts.mergeSort Trade.notAfter = ts at hm hlen ht ⊢
  generalize us.mergeSort Trade.notAfter = us at hm hu ⊢
  have hnil : ts ≠ [] := fun e => hlen (List.length_eq_zero_iff.2 e)
  obtain ⟨hlowest, hhighest⟩ := hm.reciprocal_extremes ht hu hnil
  have pair : ∀ {x y : Option Trade}, x.isSome = true → (∀ t, x = some t → t ∈ ts) →
      (∀ u, y = some u → u ∈ us) → y.map Trade.withoutPrice = x.map Trade.mirrored →
      ∃ t u, x = some t ∧ y = some u ∧ Reciprocal t.price.value u.price.value := by
    intro x y hx hxm hym he
    obtain ⟨t, rfl⟩ := Option.isSome_iff_exists.1 hx
    obtain ⟨u, rfl, hu'⟩ := Option.map_eq_some_iff.1 he
    exact ⟨t, u, rfl, rfl, (ht t (hxm t rfl)).reciprocal (hu u (hym u rfl)) hu'⟩
  refine ⟨?_, ?_, hlowest, hhighest⟩
  · exact pair (List.isSome_head?.2 hnil) (fun t => List.mem_of_head?) (fun u => List.mem_of_head?)
      hm.exchange.head?
  · exact pair (List.getLast?_isSome.2 hnil) (fun t => List.mem_of_getLast?)
      (fun u => List.mem_of_getLast?) hm.exchange.getLast?

/-! ## Records -/

/-- The texts of a stored price, of its inverse and of the price of the flipped market. -/
def InvertsNear (stored inverse direct : String) : Prop :=
  ∃ n i d : ℤ, stored = Decimal.tickText n ∧ inverse = Decimal.tickText i ∧
    direct = Decimal.tickText d ∧ NearInverse n i d

/-- A reciprocal that is found is the quotient of one. -/
theorem reciprocal_of_ok {d r : Decimal} (h : d.reciprocal = .ok r) :
    r = Decimal.one.quotient d :=
  Decimal.quotient_of_quotient? (Run.inRange_ok_iff.1 h)

/-- The reciprocal of a published price is computed from its units and published. -/
theorem reciprocalFigure_published {p : Decimal} {s : String}
    (h : reciprocalFigure p.published = .ok s) :
    s = (Decimal.one.quotient ⟨p.ticks, places⟩).published := by
  unfold reciprocalFigure Decimal.published at h
  rw [readFigure_tickText, Run.ok_bind] at h
  obtain ⟨r, hr, h⟩ := Run.bind_ok_iff.1 h
  rw [← reciprocal_of_ok hr]
  exact Decimal.published_of_figure h

/-- Reciprocal prices are inverted nearly. -/
theorem Reciprocal.invertsNear {p p' : Decimal} (h : Reciprocal p.value p'.value) {s : String}
    (hs : reciprocalFigure p.published = .ok s) : InvertsNear p.published s p'.published :=
  ⟨_, _, _, rfl, reciprocalFigure_published hs, rfl, h.nearInverse⟩

/-- The prices of a record are those of the figures of the market. -/
theorem DayPrices.prices_of_ofSwaps {a : Aggregate} {r : DayPrices} {o n : Trade}
    (ha : Aggregate.ofSwaps ss b q = .ok a) (ho : a.oldest = some o) (hn : a.newest = some n)
    (h : DayPrices.ofSwaps c b q ss = .ok r) :
    r.oldestPrice = o.price.published ∧ r.newestPrice = n.price.published ∧
      r.highestPrice = a.highestPrice.published ∧ r.lowestPrice = a.lowestPrice.published := by
  unfold DayPrices.ofSwaps at h
  rw [ha, Run.ok_bind] at h
  obtain ⟨_, -, h⟩ := Run.bind_ok_iff.1 h
  obtain ⟨_, -, h⟩ := Run.bind_ok_iff.1 h
  simp only [ho, hn, Run.bind_ok_iff, Run.pure_eq_ok, Except.ok.injEq] at h
  obtain ⟨_, -, f₁, h₁, f₂, h₂, f₃, h₃, f₄, h₄, _, -, _, -, rfl⟩ := h
  exact ⟨Decimal.published_of_figure h₁, Decimal.published_of_figure h₂,
    Decimal.published_of_figure h₃, Decimal.published_of_figure h₄⟩

/-- The prices of an inverse are the reciprocals of those of the record; the highest and the lowest
change places. -/
theorem DayPrices.prices_of_inverse {r i : DayPrices} (h : r.inverse = .ok i) :
    reciprocalFigure r.oldestPrice = .ok i.oldestPrice ∧
      reciprocalFigure r.newestPrice = .ok i.newestPrice ∧
      reciprocalFigure r.lowestPrice = .ok i.highestPrice ∧
      reciprocalFigure r.highestPrice = .ok i.lowestPrice := by
  unfold DayPrices.inverse at h
  simp only [Run.bind_ok_iff, Run.pure_eq_ok, Except.ok.injEq] at h
  obtain ⟨o, ho, o', ho', n, hn, n', hn', _, -, f₁, h₁, f₂, h₂, f₃, h₃, f₄, h₄, rfl⟩ := h
  unfold reciprocalFigure at h₃ h₄ ⊢
  refine ⟨?_, ?_, h₃, h₄⟩
  · rw [ho, Run.ok_bind, ho', Run.ok_bind]
    exact h₁
  · rw [hn, Run.ok_bind, hn', Run.ok_bind]
    exact h₂

/-- All four prices of a day are inverted nearly. -/
theorem DayPrices.invertsNear (hne : b ≠ q) (hs : ∃ s ∈ ss, s.feeds b q = true)
    {r r' i : DayPrices} (h : DayPrices.ofSwaps c b q ss = .ok r)
    (h' : DayPrices.ofSwaps c q b ss = .ok r') (hi : r.inverse = .ok i) :
    InvertsNear r.oldestPrice i.oldestPrice r'.oldestPrice ∧
      InvertsNear r.newestPrice i.newestPrice r'.newestPrice ∧
      InvertsNear r.lowestPrice i.highestPrice r'.highestPrice ∧
      InvertsNear r.highestPrice i.lowestPrice r'.lowestPrice := by
  obtain ⟨a, ha, -⟩ := Run.bind_ok_iff.1 h
  obtain ⟨a', ha', -⟩ := Run.bind_ok_iff.1 h'
  obtain ⟨⟨o, o', ho, ho', hoo⟩, ⟨n, n', hn, hn', hnn⟩, hlow, hhigh⟩ :=
    Aggregate.reciprocalPrices hne ha ha' hs
  obtain ⟨e₁, e₂, e₃, e₄⟩ := DayPrices.prices_of_ofSwaps ha ho hn h
  obtain ⟨k₁, k₂, k₃, k₄⟩ := DayPrices.prices_of_ofSwaps ha' ho' hn' h'
  obtain ⟨i₁, i₂, i₃, i₄⟩ := DayPrices.prices_of_inverse hi
  rw [e₁] at i₁ ⊢
  rw [e₂] at i₂ ⊢
  rw [e₄] at i₃ ⊢
  rw [e₃] at i₄ ⊢
  rw [k₁, k₂, k₃, k₄]
  exact ⟨hoo.invertsNear i₁, hnn.invertsNear i₂, hlow.invertsNear i₃, hhigh.invertsNear i₄⟩

theorem LastTrade.invertsNear (hne : b ≠ q) {s : Swap} (hs : s.feeds b q = true)
    {r r' i : LastTrade} (h : LastTrade.ofSwap c b q s = .ok r)
    (h' : LastTrade.ofSwap c q b s = .ok r') (hi : r.inverse = .ok i) :
    InvertsNear r.price i.price r'.price := by
  have price : ∀ {b q : String} {r : LastTrade}, s.feeds b q = true →
      LastTrade.ofSwap c b q s = .ok r →
      ∃ t, s.orient b q = .ok (some t) ∧ r.price = t.price.published := by
    intro b q r hs h
    unfold LastTrade.ofSwap at h
    obtain ⟨t, ht, h⟩ := Run.bind_ok_iff.1 h
    have hsome := Swap.isSome_of_orient ht
    rw [hs] at hsome
    obtain ⟨t, rfl⟩ := Option.isSome_iff_exists.1 hsome
    simp only [Run.bind_ok_iff, Run.pure_eq_ok, Except.ok.injEq] at h
    obtain ⟨f, hf, _, -, _, -, rfl⟩ := h
    exact ⟨t, ht, Decimal.published_of_figure hf⟩
  obtain ⟨t, ht, e⟩ := price hs h
  obtain ⟨u, hu, k⟩ := price (Swap.feeds_comm b q s ▸ hs) h'
  have hm := Option.some.inj (Trade.mirror_of_orient hne ht hu)
  have hreciprocal := (Trade.isPriced_of_orient ht).reciprocal (Trade.isPriced_of_orient hu) hm
  unfold LastTrade.inverse at hi
  simp only [Run.bind_ok_iff, Run.pure_eq_ok, Except.ok.injEq] at hi
  obtain ⟨p, hp, rfl⟩ := hi
  rw [e] at hp ⊢
  rw [k]
  exact hreciprocal.invertsNear hp

/-- **Inverse prices.** For a market with at least one trade, the prices of the inverse of its
record that are inverted from stored prices above zero are near those of the record that is built
for the flipped market, as near as the ten places of the stored prices allow; and likewise for the
price of the last trade. The records of both sides can be built and inverted whenever the numbers of
the swaps and of the catalogue can be written. -/
theorem inverse_prices_near (c : Catalogue) (hne : b ≠ q) (ss : List Swap) :
    (∀ r r' i, (∃ s ∈ ss, s.feeds b q = true) → DayPrices.ofSwaps c b q ss = .ok r →
      DayPrices.ofSwaps c q b ss = .ok r' → r.inverse = .ok i →
        InvertsNear r.oldestPrice i.oldestPrice r'.oldestPrice ∧
        InvertsNear r.newestPrice i.newestPrice r'.newestPrice ∧
        InvertsNear r.lowestPrice i.highestPrice r'.highestPrice ∧
        InvertsNear r.highestPrice i.lowestPrice r'.lowestPrice) ∧
      (∀ s r r' i, s.feeds b q = true → LastTrade.ofSwap c b q s = .ok r →
        LastTrade.ofSwap c q b s = .ok r' → r.inverse = .ok i →
          InvertsNear r.price i.price r'.price) ∧
      (SizedData c ss →
        HasOtherSide (fun b q => DayPrices.ofSwaps c b q ss) b q ∧
        ∀ s ∈ ss, HasOtherSide (fun b q => LastTrade.ofSwap c b q s) b q) := by
  refine ⟨?_, ?_, ?_⟩
  · intro r r' i hs h h' hi
    exact DayPrices.invertsNear hne hs h h' hi
  · intro s r r' i hs h h' hi
    exact LastTrade.invertsNear hne hs h h' hi
  · intro h
    exact ⟨DayPrices.hasOtherSide h b q, fun s hs => LastTrade.hasOtherSide h b q hs⟩

/-- The inverse of a quarter: nine units of the last place are allowed. -/
theorem inverse_prices_near_bothWays : "KMD" ≠ "LTC" ∧ SizedData onePriced bothWays ∧
    (∃ s ∈ bothWays, s.feeds "KMD" "LTC" = true) ∧ ∃ r r' i,
      DayPrices.ofSwaps onePriced "KMD" "LTC" bothWays = .ok r ∧
      DayPrices.ofSwaps onePriced "LTC" "KMD" bothWays = .ok r' ∧ r.inverse = .ok i ∧
      InvertsNear r.oldestPrice i.oldestPrice r'.oldestPrice ∧
      InvertsNear r.lowestPrice i.highestPrice r'.highestPrice ∧
      r.newestPrice = Decimal.tickText 2500000000 ∧
      ∃ m n, i.newestPrice = Decimal.tickText m ∧ r'.newestPrice = Decimal.tickText n ∧
        |m - n| ≤ 9 := by
  have hne : "KMD" ≠ "LTC" := by decide
  obtain ⟨hnear, -, hall⟩ := inverse_prices_near onePriced hne bothWays
  obtain ⟨⟨r, r', i, h, h', hi⟩, -⟩ := hall sizedData_bothWays
  have hfeeds : ∃ s ∈ bothWays, s.feeds "KMD" "LTC" = true := by decide
  obtain ⟨holdest, hnewest, hlowest, -⟩ := hnear r r' i hfeeds h h' hi
  have hquarter : r.newestPrice = Decimal.tickText 2500000000 :=
    (DayPrices.prices_of_ofSwaps aggregate_bothWays rfl rfl h).2.1.trans (by decide +kernel)
  obtain ⟨k, m, n, hk, hm, hn, hinverse⟩ := hnewest
  obtain rfl : k = 2500000000 := Decimal.tickText_inj.1 (hk.symm.trans hquarter)
  exact ⟨hne, sizedData_bothWays, hfeeds, r, r', i, h, h', hi, holdest, hlowest, hquarter, m, n, hm,
    hn, (hinverse.near (by decide)).trans (by decide)⟩

/-- A swap of a coin for little of another one. -/
def cheapSwap : Swap := ⟨"a", "KMD", "LTC", ⟨3, 0⟩, ⟨4, 5⟩, 4, 5, true⟩

/-- The swap as a trade, from the side of its maker and from the other one. -/
def cheapTrade : Side → Trade
  | .buy => ⟨"a", ⟨3, 0⟩, ⟨4, 5⟩, (⟨4, 5⟩ : Decimal).quotient ⟨3, 0⟩, 5, .buy⟩
  | .sell => ⟨"a", ⟨4, 5⟩, ⟨3, 0⟩, (⟨3, 0⟩ : Decimal).quotient ⟨4, 5⟩, 5, .sell⟩

/-- The inverse of a small price is off by many units of the last place: here the price of the
flipped market is 75000, and the inverse of the stored one is 75000.1875004688. -/
theorem inverse_prices_near_unless_small :
    "KMD" ≠ "LTC" ∧ '_' ∉ "KMD".toList ∧ (∃ s ∈ [cheapSwap], s.feeds "KMD" "LTC" = true) ∧
      ∃ r r' i, DayPrices.ofSwaps onePriced "KMD" "LTC" [cheapSwap] = .ok r ∧
        DayPrices.ofSwaps onePriced "LTC" "KMD" [cheapSwap] = .ok r' ∧ r.inverse = .ok i ∧
        r.newestPrice = "0.0000133333" ∧ i.newestPrice = Decimal.tickText 750001875004688 ∧
        r'.newestPrice = Decimal.tickText 750000000000000 ∧
        ¬ |(750001875004688 : ℤ) - 750000000000000| ≤ 1 := by
  have ha : Aggregate.ofSwaps [cheapSwap] "KMD" "LTC" = .ok (.ofTrades [cheapTrade .buy]) :=
    Aggregate.ofSwaps_of_single (Run.toOption_eq_some.1 (by decide +kernel))
  have ha' : Aggregate.ofSwaps [cheapSwap] "LTC" "KMD" = .ok (.ofTrades [cheapTrade .sell]) :=
    Aggregate.ofSwaps_of_single (Run.toOption_eq_some.1 (by decide +kernel))
  have h : (DayPrices.ofSwaps onePriced "KMD" "LTC" [cheapSwap]).toOption.map
      (fun r => (r.newestPrice, r.inverse.toOption.map DayPrices.newestPrice))
        = some ("0.0000133333", some (Decimal.tickText 750001875004688)) := by
    unfold DayPrices.ofSwaps
    rw [ha]
    decide +kernel
  have h' : (DayPrices.ofSwaps onePriced "LTC" "KMD" [cheapSwap]).toOption.map
      DayPrices.newestPrice = some (Decimal.tickText 750000000000000) := by
    unfold DayPrices.ofSwaps
    rw [ha']
    decide +kernel
  obtain ⟨r, hr, e⟩ := Option.map_eq_some_iff.1 h
  obtain ⟨r', hr', e'⟩ := Option.map_eq_some_iff.1 h'
  obtain ⟨hstored, hinverse⟩ := Prod.mk.inj e
  obtain ⟨i, hi, hinverse⟩ := Option.map_eq_some_iff.1 hinverse
  exact ⟨by decide, by decide, by decide, r, r', i, Run.toOption_eq_some.1 hr,
    Run.toOption_eq_some.1 hr', Run.toOption_eq_some.1 hi, hstored, hinverse, e', by decide⟩

end SwapMarket
