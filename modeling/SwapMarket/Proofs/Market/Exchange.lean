import SwapMarket.Proofs.Market.Sized

/-!
# Markets with their coins exchanged

The coins of a market change places if all swaps are flipped, and also if the market is. Either way
every trade stays where it was in the order, which looks at times and identifiers only, and its
amounts are exchanged. A flipped swap is on the same side of the flipped market; the swap itself is
on the other side of it.

* **`Swap.Exchanges`**: what both ways have in common for a single swap.
* **`Trade.Exchange`**: what comes of it for the trades of a market.
* **`figures_exchanged`**: the figures of a market and those with the coins exchanged.

What differs are the prices, and with them the only thing that can go wrong: the price of an
exchanged trade may have a scale out of range though the price of the trade has not, and then there
are no figures at all (`figures_exchanged_unless_found`).
-/

namespace SwapMarket

variable {b q : String} {f : Side → Side}

namespace Swap

/-! ## Swaps -/

/-- A swap of a market, flipped if its maker does not give the base. -/
def seenFrom (b q : String) (s : Swap) : Swap :=
  if s.makerCoin = b ∧ s.takerCoin = q then s else s.flip

/-- The side of a swap of a market. -/
def sideIn (b q : String) (s : Swap) : Side :=
  if s.makerCoin = b ∧ s.takerCoin = q then .buy else .sell

/-- Whether the price of a swap has a scale in range. -/
def hasPrice (s : Swap) : Bool := (s.takerAmount.quotient? s.makerAmount).isSome

/-- A swap is seen from a market exactly if it feeds it, as a trade with a price of its own. -/
theorem orient_eq (s : Swap) (b q : String) : s.orient b q =
    if s.feeds b q = true then (Trade.ofSwap (s.seenFrom b q) (s.sideIn b q)).map some
    else .ok none := by
  unfold seenFrom sideIn
  rcases s.orient_cases b q with ⟨hf, ho⟩ | ⟨hf, hm, ht, ho⟩ | ⟨hf, hn, -, -, ho⟩
  · rw [ho, hf]
    rfl
  · rw [ho, if_pos hf, if_pos ⟨hm, ht⟩, if_pos ⟨hm, ht⟩]
  · rw [ho, if_pos hf, if_neg hn, if_neg hn]

/-- A swap feeds a market from either side. -/
theorem feeds_flip (s : Swap) (b q : String) : s.flip.feeds q b = s.feeds b q := by
  unfold feeds
  rw [contributes_flip]
  congr 1
  rw [Bool.eq_iff_iff, isBetween_iff, isBetween_iff]
  exact or_congr and_comm and_comm

/-- In the flipped market, the swap `s'` is what `s` is in the market, flipped and on the side that
`f` gives. -/
structure Exchanges (f : Side → Side) (b q : String) (s s' : Swap) : Prop where
  /-- Both are trades or none is. -/
  feeds : s'.feeds q b = s.feeds b q
  /-- The amounts are exchanged. -/
  seenFrom : s.feeds b q = true → s'.seenFrom q b = (s.seenFrom b q).flip
  /-- The side is known. -/
  sideIn : s.feeds b q = true → s'.sideIn q b = f (s.sideIn b q)

/-- The flipped swap is on the same side of the flipped market. -/
theorem exchanges_flip (b q : String) (s : Swap) : Exchanges id b q s s.flip := by
  have hcomm : (s.flip.makerCoin = q ∧ s.flip.takerCoin = b) ↔
      (s.makerCoin = b ∧ s.takerCoin = q) := and_comm
  refine ⟨feeds_flip s b q, fun _ => ?_, fun _ => ?_⟩
  · unfold seenFrom
    simp only [hcomm]
    split <;> rfl
  · unfold sideIn
    simp only [hcomm, id_eq]

/-- A swap is on the other side of the flipped market. -/
theorem exchanges_self (hne : b ≠ q) (s : Swap) : Exchanges Side.other b q s s := by
  have hother : s.feeds b q = true →
      ((s.makerCoin = q ∧ s.takerCoin = b) ↔ ¬(s.makerCoin = b ∧ s.takerCoin = q)) := by
    intro hf
    have hbetween : s.isBetween b q = true := (Bool.and_eq_true _ _ ▸ hf).2
    constructor
    · rintro ⟨hm, -⟩ ⟨hm', -⟩
      exact hne (hm'.symm.trans hm)
    · exact (isBetween_iff.1 hbetween).resolve_left
  refine ⟨feeds_comm q b s, fun hf => ?_, fun hf => ?_⟩
  · unfold seenFrom
    simp only [hother hf, ite_not]
    split <;> rfl
  · unfold sideIn
    simp only [hother hf, ite_not]
    split <;> rfl

end Swap

namespace Trade

/-! ## Trades -/

/-- A trade without its price. -/
def withoutPrice (t : Trade) : Trade := { t with price := .zero }

/-- A trade with its amounts exchanged, on the side that `f` gives, without its price. -/
def exchanged (f : Side → Side) (t : Trade) : Trade :=
  { t with
    baseAmount := t.quoteAmount, quoteAmount := t.baseAmount
    price := .zero, side := f t.side }

/-- Trades are other trades with their amounts exchanged, on the sides that `f` gives, but for their
prices. -/
def Exchange (f : Side → Side) (ts us : List Trade) : Prop :=
  us.map withoutPrice = ts.map (exchanged f)

/-- A trade is made of a swap with a price, and of nothing else. -/
theorem ofSwap_ok_iff {s : Swap} {side : Side} {t : Trade} : ofSwap s side = .ok t ↔
    ∃ p, s.price = .ok p ∧
      t = ⟨s.uuid, s.makerAmount, s.takerAmount, p, s.finishedAt, side⟩ := by
  unfold ofSwap
  rw [Run.map_ok_iff]
  exact exists_congr fun p => and_congr_right fun _ => eq_comm

/-- An exchanged swap is an exchanged trade. -/
theorem exchange_of_orient {s s' : Swap} (hs : Swap.Exchanges f b q s s') {t u : Option Trade}
    (h : s.orient b q = .ok t) (h' : s'.orient q b = .ok u) :
    u.map withoutPrice = t.map (exchanged f) := by
  rw [Swap.orient_eq] at h h'
  rw [hs.feeds] at h'
  by_cases hf : s.feeds b q = true
  · rw [if_pos hf, Run.map_ok_iff] at h h'
    rw [hs.seenFrom hf, hs.sideIn hf] at h'
    obtain ⟨t, ht, rfl⟩ := h
    obtain ⟨u, hu, rfl⟩ := h'
    obtain ⟨p, -, rfl⟩ := ofSwap_ok_iff.1 ht
    obtain ⟨p', -, rfl⟩ := ofSwap_ok_iff.1 hu
    rfl
  · rw [if_neg hf] at h h'
    cases h
    cases h'
    rfl

namespace Exchange

variable {ts us : List Trade}

/-- Exchanged swaps have exchanged trades, in the order of the swaps. -/
theorem of_unsorted {g : Swap → Swap} (hg : ∀ s, Swap.Exchanges f b q s (g s)) {ss : List Swap}
    (h : unsorted b q ss = .ok ts) (h' : unsorted q b (ss.map g) = .ok us) : Exchange f ts us := by
  unfold Exchange
  induction ss generalizing ts us with
  | nil =>
    cases h
    cases h'
    rfl
  | cons s ss ih =>
    simp only [List.map_cons, unsorted, Run.bind_ok_iff, Run.pure_eq_ok, Except.ok.injEq] at h h'
    obtain ⟨t, ht, ts, hts, rfl⟩ := h
    obtain ⟨u, hu, us, hus, rfl⟩ := h'
    have hhead : u.toList.map withoutPrice = t.toList.map (exchanged f) := by
      rw [← Option.toList_map, ← Option.toList_map, exchange_of_orient (hg s) ht hu]
    rw [List.map_append, List.map_append, hhead, ih hts hus]

/-- Sorting looks neither at amounts nor at prices nor at sides. -/
theorem sorted (h : Exchange f ts us) :
    Exchange f (ts.mergeSort notAfter) (us.mergeSort notAfter) := by
  have hu : (us.mergeSort notAfter).map withoutPrice = (us.map withoutPrice).mergeSort notAfter :=
    List.map_mergeSort fun _ _ _ _ => rfl
  have ht : (ts.mergeSort notAfter).map (exchanged f) = (ts.map (exchanged f)).mergeSort notAfter :=
    List.map_mergeSort fun _ _ _ _ => rfl
  unfold Exchange at h ⊢
  rw [hu, ht, h]

/-- What does not hang on prices can be read off the exchanged trades. -/
theorem map_eq {α : Type} (h : Exchange f ts us) {k m : Trade → α}
    (hk : ∀ t, k t.withoutPrice = k t) (hm : ∀ t, k (t.exchanged f) = m t) :
    us.map k = ts.map m := by
  have he := congrArg (List.map k) h
  rw [List.map_map, List.map_map] at he
  have hu : k ∘ withoutPrice = k := funext hk
  have ht : k ∘ exchanged f = m := funext hm
  rwa [hu, ht] at he

theorem length (h : Exchange f ts us) : us.length = ts.length := by
  have hl := congrArg List.length h
  rwa [List.length_map, List.length_map] at hl

/-- The first trades are the same, exchanged. -/
theorem head? (h : Exchange f ts us) :
    us.head?.map withoutPrice = ts.head?.map (exchanged f) := by
  have hh := congrArg List.head? h
  rwa [List.head?_map, List.head?_map] at hh

/-- The last trades are the same, exchanged. -/
theorem getLast? (h : Exchange f ts us) :
    us.getLast?.map withoutPrice = ts.getLast?.map (exchanged f) := by
  have hl := congrArg List.getLast? h
  rwa [List.getLast?_map, List.getLast?_map] at hl

end Exchange

end Trade

/-! ## When there are figures -/

/-- A swap with a price is a trade. -/
theorem Trade.ofSwap_of_hasPrice {s : Swap} (h : s.hasPrice = true) (side : Side) :
    ∃ t, Trade.ofSwap s side = .ok t := by
  obtain ⟨p, hp⟩ := Option.isSome_iff_exists.1 h
  exact ⟨_, Trade.ofSwap_ok_iff.2 ⟨p, Run.inRange_ok_iff.2 hp, rfl⟩⟩

/-- A swap without one leaves the range. -/
theorem Trade.ofSwap_of_not_hasPrice {s : Swap} (h : s.hasPrice = false) (side : Side) :
    Trade.ofSwap s side = .error .overflow := by
  have hnone : s.takerAmount.quotient? s.makerAmount = none := by
    rw [← Option.not_isSome_iff_eq_none]
    exact Bool.eq_false_iff.1 h
  unfold Trade.ofSwap Swap.price
  rw [hnone]
  rfl

/-- Whether each swap that feeds a market has a price in it. -/
def ArePriced (b q : String) (ss : List Swap) : Prop :=
  ∀ s ∈ ss, s.feeds b q = true → (s.seenFrom b q).hasPrice = true

/-- The trades of a market are found unless one of them has no price. -/
theorem Trade.unsorted_cases (b q : String) (ss : List Swap) :
    (ArePriced b q ss ∧ ∃ ts, unsorted b q ss = .ok ts) ∨
      (¬ ArePriced b q ss ∧ unsorted b q ss = .error .overflow) := by
  induction ss with
  | nil => exact .inl ⟨fun s hs => absurd hs List.not_mem_nil, [], rfl⟩
  | cons s ss ih =>
    have hcons : ArePriced b q (s :: ss) ↔
        (s.feeds b q = true → (s.seenFrom b q).hasPrice = true) ∧ ArePriced b q ss :=
      List.forall_mem_cons
    rw [hcons, unsorted, Swap.orient_eq]
    by_cases hs : s.feeds b q = true → (s.seenFrom b q).hasPrice = true
    · have hhead : ∃ t, (if s.feeds b q = true then
          (Trade.ofSwap (s.seenFrom b q) (s.sideIn b q)).map some else .ok none) = Except.ok t := by
        by_cases hf : s.feeds b q = true
        · obtain ⟨t, ht⟩ := Trade.ofSwap_of_hasPrice (hs hf) (s.sideIn b q)
          rw [if_pos hf, ht]
          exact ⟨some t, rfl⟩
        · rw [if_neg hf]
          exact ⟨none, rfl⟩
      obtain ⟨t, ht⟩ := hhead
      rw [ht]
      rcases ih with ⟨hss, ts, hts⟩ | ⟨hss, hts⟩
      · exact .inl ⟨⟨hs, hss⟩, t.toList ++ ts, by rw [hts]; rfl⟩
      · exact .inr ⟨fun h => hss h.2, by rw [hts]; rfl⟩
    · have hfeeds : s.feeds b q = true := by
        by_contra hf
        exact hs fun h => absurd h hf
      have hprice : (s.seenFrom b q).hasPrice = false := by
        rw [Bool.eq_false_iff]
        exact fun h => hs fun _ => h
      refine .inr ⟨fun h => hs h.1, ?_⟩
      rw [if_pos hfeeds, Trade.ofSwap_of_not_hasPrice hprice]
      rfl

/-- Without the price of a trade there are no figures. -/
theorem Aggregate.ofSwaps_of_not_arePriced {ss : List Swap} (h : ¬ ArePriced b q ss) :
    Aggregate.ofSwaps ss b q = .error .overflow := by
  have hts := ((Trade.unsorted_cases b q ss).resolve_left fun hp => h hp.1).2
  unfold ofSwaps Trade.ofSwaps
  rw [hts]
  rfl

/-- A market has figures exactly if each of its trades has a price. -/
theorem Aggregate.exists_ofSwaps_iff {ss : List Swap} :
    (∃ a, Aggregate.ofSwaps ss b q = .ok a) ↔ ArePriced b q ss := by
  constructor
  · rintro ⟨a, ha⟩
    by_contra hp
    rw [ofSwaps_of_not_arePriced hp] at ha
    cases ha
  · intro hp
    obtain ⟨-, ts, hts⟩ := (Trade.unsorted_cases b q ss).resolve_right fun h => h.1 hp
    exact ⟨_, ofSwaps_ok_iff_unsorted.2 ⟨ts, hts, rfl⟩⟩

/-! ## Figures -/

/-- The trades and figures of the flipped market `q`, `b` from the swaps `ss'` are those of the
market `b`, `q` from the swaps `ss` with the coins exchanged. -/
structure ExchangesFigures (f : Side → Side) (b q : String) (ss ss' : List Swap) : Prop where
  /-- Volumes are exchanged, and there are as many trades. -/
  figures : ∀ a a', Aggregate.ofSwaps ss b q = .ok a → Aggregate.ofSwaps ss' q b = .ok a' →
    a'.baseVolume = a.quoteVolume ∧ a'.quoteVolume = a.baseVolume ∧ a'.trades = a.trades
  /-- The oldest and the newest trade are of the same swaps. -/
  ends : ∀ a a', Aggregate.ofSwaps ss b q = .ok a → Aggregate.ofSwaps ss' q b = .ok a' →
    a'.oldest.map Trade.uuid = a.oldest.map Trade.uuid ∧
      a'.newest.map Trade.uuid = a.newest.map Trade.uuid
  /-- The trades are of the same swaps, in the same order, on the sides that `f` gives. -/
  trades : ∀ ts us, Trade.ofSwaps ss b q = .ok ts → Trade.ofSwaps ss' q b = .ok us →
    us.map (·.uuid) = ts.map (·.uuid) ∧ us.map (·.side) = ts.map fun t => f t.side
  /-- There are such figures exactly if the exchanged trades have prices. -/
  found : (∃ a', Aggregate.ofSwaps ss' q b = .ok a') ↔
    ∀ s ∈ ss, s.feeds b q = true → (s.seenFrom b q).flip.hasPrice = true

/-- Exchanged swaps have exchanged figures. -/
theorem exchangesFigures {g : Swap → Swap} (hg : ∀ s, Swap.Exchanges f b q s (g s))
    (ss : List Swap) : ExchangesFigures f b q ss (ss.map g) := by
  have hsorted : ∀ {ts us}, Trade.unsorted b q ss = .ok ts →
      Trade.unsorted q b (ss.map g) = .ok us →
      Trade.Exchange f (ts.mergeSort Trade.notAfter) (us.mergeSort Trade.notAfter) :=
    fun hts hus => (Trade.Exchange.of_unsorted hg hts hus).sorted
  have huuid : ∀ {x y : Option Trade}, y.map Trade.withoutPrice = x.map (Trade.exchanged f) →
      y.map Trade.uuid = x.map Trade.uuid := by
    intro x y h
    have hm := congrArg (Option.map Trade.uuid) h
    rwa [Option.map_map, Option.map_map] at hm
  refine ⟨fun a a' h h' => ?figures, fun a a' h h' => ?ends, fun ts us h h' => ?trades, ?found⟩
  case figures =>
    obtain ⟨ts, hts, rfl⟩ := Aggregate.ofSwaps_ok_iff_unsorted.1 h
    obtain ⟨us, hus, rfl⟩ := Aggregate.ofSwaps_ok_iff_unsorted.1 h'
    have he := hsorted hts hus
    refine ⟨congrArg Decimal.sum ?_, congrArg Decimal.sum ?_, he.length⟩
    · exact he.map_eq (fun _ => rfl) fun _ => rfl
    · exact he.map_eq (fun _ => rfl) fun _ => rfl
  case ends =>
    obtain ⟨ts, hts, rfl⟩ := Aggregate.ofSwaps_ok_iff_unsorted.1 h
    obtain ⟨us, hus, rfl⟩ := Aggregate.ofSwaps_ok_iff_unsorted.1 h'
    have he := hsorted hts hus
    exact ⟨huuid he.head?, huuid he.getLast?⟩
  case trades =>
    obtain ⟨ts, hts, rfl⟩ := Run.map_ok_iff.1 h
    obtain ⟨us, hus, rfl⟩ := Run.map_ok_iff.1 h'
    have he := hsorted hts hus
    exact ⟨he.map_eq (fun _ => rfl) fun _ => rfl, he.map_eq (fun _ => rfl) fun _ => rfl⟩
  case found =>
    rw [Aggregate.exists_ofSwaps_iff, ArePriced, List.forall_mem_map]
    refine forall₂_congr fun s _ => ?_
    rw [(hg s).feeds]
    exact forall_congr' fun hf => by rw [(hg s).seenFrom hf]

/-- **Exchanging the coins.** The flipped market of the flipped swaps has the figures of the market
with the coins exchanged, and the same trades on the same sides. So has, if the coins differ, the
flipped market of the same swaps, with the trades on the other sides. There are these figures
exactly if the exchanged trades have prices, as trades of amounts that can be written do. -/
theorem figures_exchanged (ss : List Swap) (b q : String) :
    ExchangesFigures id b q ss (ss.map Swap.flip) ∧
      (b ≠ q → ExchangesFigures Side.other b q ss ss) ∧
      ((∃ a, Aggregate.ofSwaps ss b q = .ok a) ↔
        ∀ s ∈ ss, s.feeds b q = true → (s.seenFrom b q).hasPrice = true) ∧
      ((∀ s ∈ ss, s.makerAmount.Within greatestPlaces ∧ s.takerAmount.Within greatestPlaces) →
        (∃ a, Aggregate.ofSwaps ss b q = .ok a) ∧ (∃ a, Aggregate.ofSwaps ss q b = .ok a) ∧
          ∃ a, Aggregate.ofSwaps (ss.map Swap.flip) q b = .ok a) := by
  have hself : b ≠ q → ExchangesFigures Side.other b q ss ss := by
    intro hne
    have := exchangesFigures (g := id) (Swap.exchanges_self hne) ss
    rwa [List.map_id] at this
  refine ⟨exchangesFigures (Swap.exchanges_flip b q) ss, hself, Aggregate.exists_ofSwaps_iff, ?_⟩
  intro h
  have hfound : ∀ {ss : List Swap} (b q : String),
      (∀ s ∈ ss, s.makerAmount.Within greatestPlaces ∧ s.takerAmount.Within greatestPlaces) →
        ∃ a, Aggregate.ofSwaps ss b q = .ok a := by
    intro ss b q h
    obtain ⟨ts, hts, -⟩ := Trade.unsorted_ok (fun s hs => (h s hs).1) (fun s hs => (h s hs).2) b q
    exact ⟨_, Aggregate.ofSwaps_ok_iff_unsorted.2 ⟨ts, hts, rfl⟩⟩
  refine ⟨hfound b q h, hfound q b h, hfound q b ?_⟩
  exact List.forall_mem_map.2 fun s hs => (h s hs).symm

/-- Swaps between the two coins, one either way, that end at the same time. -/
def bothWays : List Swap :=
  [⟨"a", "LTC", "KMD", ⟨1, 0⟩, ⟨2, 0⟩, 4, 5, true⟩, ⟨"b", "KMD", "LTC", ⟨8, 0⟩, ⟨2, 0⟩, 3, 5, true⟩]

/-- The amounts of both swaps have one digit. -/
theorem within_one_bothWays : ∀ s ∈ bothWays, s.makerAmount.Within 1 ∧ s.takerAmount.Within 1 := by
  intro s hs
  refine ⟨⟨?_, ?_⟩, ?_, ?_⟩ <;> (revert s; decide)

/-- The figures of the two swaps from both sides, and of the two swaps turned round. -/
theorem figures_exchanged_bothWays : "KMD" ≠ "LTC" ∧
    (∀ s ∈ bothWays, s.makerAmount.Within greatestPlaces ∧ s.takerAmount.Within greatestPlaces) ∧
    ∃ a a' a'', Aggregate.ofSwaps bothWays "KMD" "LTC" = .ok a ∧
      Aggregate.ofSwaps (bothWays.map Swap.flip) "LTC" "KMD" = .ok a' ∧
      Aggregate.ofSwaps bothWays "LTC" "KMD" = .ok a'' ∧
      a'.baseVolume = a.quoteVolume ∧ a''.baseVolume = a.quoteVolume ∧
      a''.newest.map Trade.uuid = a.newest.map Trade.uuid := by
  have hne : "KMD" ≠ "LTC" := by decide
  have hsmall : ∀ s ∈ bothWays,
      s.makerAmount.Within greatestPlaces ∧ s.takerAmount.Within greatestPlaces := by
    intro s hs
    obtain ⟨hm, ht⟩ := within_one_bothWays s hs
    exact ⟨hm.mono (by decide), ht.mono (by decide)⟩
  obtain ⟨hflipped, hself, -, hall⟩ := figures_exchanged bothWays "KMD" "LTC"
  obtain ⟨⟨a, ha⟩, ⟨a'', ha''⟩, a', ha'⟩ := hall hsmall
  exact ⟨hne, hsmall, a, a', a'', ha, ha', ha'', (hflipped.figures a a' ha ha').1,
    ((hself hne).figures a a'' ha ha'').1, ((hself hne).ends a a'' ha ha'').2⟩

/-- A swap of next to nothing. -/
def tinySwap : Swap := ⟨"a", "LTC", "KMD", ⟨2, 9223372036854775807⟩, ⟨4, 0⟩, 1, 5, true⟩

/-- The swap as a trade. -/
def tinyTrade : Trade :=
  ⟨"a", ⟨2, 9223372036854775807⟩, ⟨4, 0⟩, ⟨2, -9223372036854775807⟩, 5, .buy⟩

/-- A market may have figures and not be found from the other side: the price there has one place
more than 64 bits can count. -/
theorem figures_exchanged_unless_found :
    (∃ a, Aggregate.ofSwaps [tinySwap] "LTC" "KMD" = .ok a ∧ a.trades = 1 ∧
      a.baseVolume = ⟨2, 9223372036854775807⟩ ∧ a.quoteVolume = ⟨4, 0⟩) ∧
      Aggregate.ofSwaps ([tinySwap].map Swap.flip) "KMD" "LTC" = .error .overflow ∧
      Aggregate.ofSwaps [tinySwap] "KMD" "LTC" = .error .overflow := by
  refine ⟨⟨.ofTrades [tinyTrade], ?_, rfl, by decide +kernel, by decide +kernel⟩, ?_, ?_⟩
  · exact Aggregate.ofSwaps_of_single (Run.toOption_eq_some.1 (by decide +kernel))
  · exact Aggregate.ofSwaps_of_not_arePriced fun h =>
      absurd (h tinySwap.flip List.mem_cons_self (by decide)) (by decide +kernel)
  · exact Aggregate.ofSwaps_of_not_arePriced fun h =>
      absurd (h tinySwap List.mem_cons_self (by decide)) (by decide +kernel)

end SwapMarket
