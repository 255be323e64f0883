import SwapMarket.Proofs.Market.Exchange
import SwapMarket.Proofs.Pair

/-!
# A market seen from its other side

The record of a market can be had from the other side in two ways: by inverting the stored record,
which only reads figures, or by building the record of the flipped market from the same swaps. The
trades of the two markets are the same swaps with amounts and sides exchanged, in the same order
(`Trade.Mirror.of_unsorted`), for the order looks at times and identifiers only. Prices alone
differ: an inverted price is computed from the published price, a direct one from the amounts.

* `volume_otherSide`: of volumes, both ways give the same record.
* `dayPrices_otherSide`, `lastTrade_otherSide`: of the other two, the same record but for prices and
  price changes.

Numbers that can be written keep none of these records from being found (`Volume.hasOtherSide`,
`DayPrices.hasOtherSide`, `LastTrade.hasOtherSide`).
-/

namespace SwapMarket

variable {b q : String}

/-! ## Trades -/

namespace Trade

/-- A trade seen from the other side, without its price. -/
def mirrored (t : Trade) : Trade :=
  { t with
    baseAmount := t.quoteAmount, quoteAmount := t.baseAmount
    price := .zero, side := t.side.other }

/-- Of a trade and its mirror, amounts and sides are exchanged. -/
theorem mirror_iff {t u : Trade} : u.withoutPrice = t.mirrored ↔
    u.uuid = t.uuid ∧ u.baseAmount = t.quoteAmount ∧ u.quoteAmount = t.baseAmount ∧
      u.finishedAt = t.finishedAt ∧ u.side = t.side.other := by
  unfold withoutPrice mirrored
  simp only [Trade.mk.injEq, true_and]

/-- Trades are those of other trades seen from the other side, but for their prices. -/
def Mirror (ts us : List Trade) : Prop := us.map withoutPrice = ts.map mirrored

/-- From either side a swap is the same trade, mirrored. -/
theorem mirror_of_orient (hne : b ≠ q) {s : Swap} {t u : Option Trade}
    (h : s.orient b q = .ok t) (h' : s.orient q b = .ok u) :
    u.map withoutPrice = t.map mirrored :=
  exchange_of_orient (Swap.exchanges_self hne s) h h'

/-- Mirrored trades are exchanged ones on the other sides. -/
theorem Mirror.exchange {ts us : List Trade} (h : Mirror ts us) : Exchange Side.other ts us := h

/-- The trades of the flipped market are those of the market, mirrored and in the same order. -/
theorem Mirror.of_unsorted (hne : b ≠ q) {ss : List Swap} {ts us : List Trade}
    (h : unsorted b q ss = .ok ts) (h' : unsorted q b ss = .ok us) :
    Mirror (ts.mergeSort notAfter) (us.mergeSort notAfter) := by
  have hid : unsorted q b (ss.map id) = .ok us := by rwa [List.map_id]
  exact (Exchange.of_unsorted (Swap.exchanges_self hne) h hid).sorted

end Trade

/-- The figures of a market are those of the flipped market, mirrored, but for the prices. -/
structure Aggregate.Mirror (a a' : Aggregate) : Prop where
  /-- The base of the one is the quote of the other. -/
  base : a'.baseVolume = a.quoteVolume
  /-- The quote of the one is the base of the other. -/
  quote : a'.quoteVolume = a.baseVolume
  /-- There are as many trades. -/
  trades : a'.trades = a.trades
  /-- The oldest trade is the same. -/
  oldest : a'.oldest.map Trade.withoutPrice = a.oldest.map Trade.mirrored
  /-- The newest trade is the same. -/
  newest : a'.newest.map Trade.withoutPrice = a.newest.map Trade.mirrored

/-- Figures of a market and of the flipped one are those of mirrored trades. -/
theorem Aggregate.mirror_of_ofSwaps (hne : b ≠ q) {ss : List Swap} {a a' : Aggregate}
    (h : ofSwaps ss b q = .ok a) (h' : ofSwaps ss q b = .ok a') : a.Mirror a' := by
  obtain ⟨ts, hts, rfl⟩ := ofSwaps_ok_iff_unsorted.1 h
  obtain ⟨us, hus, rfl⟩ := ofSwaps_ok_iff_unsorted.1 h'
  have hm := (Trade.Mirror.of_unsorted hne hts hus).exchange
  refine ⟨congrArg Decimal.sum ?_, congrArg Decimal.sum ?_, hm.length, hm.head?, hm.getLast?⟩
  · exact hm.map_eq (fun _ => rfl) fun _ => rfl
  · exact hm.map_eq (fun _ => rfl) fun _ => rfl

/-! ## Volumes -/

namespace Decimal

/-- Zero is written as zero, whatever its scale is. -/
theorem figure_of_isZero {d : Decimal} (h : d.isZero = true) : d.figure = .ok publishedZero := by
  have hc : d.coefficient = 0 := beq_iff_eq.1 h
  have ht : d.ticks = 0 := by
    unfold ticks coefficientAt
    rw [hc]
    split <;> simp
  have hp : d.published = publishedZero := by
    unfold published
    rw [ht]
    rfl
  unfold figure published?
  rw [h, Bool.true_or, Bool.true_or, if_pos rfl, hp]
  rfl

/-- The order of the operands matters for the form of a sum only if both are zero. -/
theorem add_comm_of_not_isZero {x y : Decimal} (h : x.isZero = false ∨ y.isZero = false) :
    x + y = y + x := by
  show x.add y = y.add x
  unfold add
  cases hx : x.isZero with
  | true =>
    have hy : y.isZero = false := h.resolve_left (by rw [hx]; decide)
    rw [hy]
    rfl
  | false =>
    cases hy : y.isZero with
    | true => rfl
    | false =>
      show (⟨x.coefficientAt (max x.scale y.scale) + y.coefficientAt (max x.scale y.scale),
          max x.scale y.scale⟩ : Decimal)
        = ⟨y.coefficientAt (max y.scale x.scale) + x.coefficientAt (max y.scale x.scale),
          max y.scale x.scale⟩
      rw [Int.max_comm y.scale x.scale, Int.add_comm]

/-- Zeros add up to zero. -/
theorem isZero_add {x y : Decimal} (hx : x.isZero = true) (hy : y.isZero = true) :
    (x + y).isZero = true := by
  have hc : x.coefficient = 0 := beq_iff_eq.1 hx
  show (x.add y).isZero = true
  unfold add
  rw [if_pos hy]
  show (x.coefficientAt _ == 0) = true
  unfold coefficientAt
  rw [hc]
  rfl

/-- A zero is its own half. -/
theorem half_of_isZero {d : Decimal} (h : d.isZero = true) : d.quotient? (ofInt 2) = some d := by
  unfold quotient? quotient
  rw [h]
  rfl

end Decimal

/-- The published dollar volume does not hang on which coin is the base. -/
theorem figure_usdVolume_comm (basePrice baseUsd quotePrice quoteUsd : Decimal) :
    (usdVolume basePrice baseUsd quotePrice quoteUsd >>= Decimal.figure)
      = usdVolume quotePrice quoteUsd basePrice baseUsd >>= Decimal.figure := by
  unfold usdVolume
  cases basePrice.isZero with
  | true =>
    cases quotePrice.isZero with
    | true => rfl
    | false => rfl
  | false =>
    cases quotePrice.isZero with
    | true => rfl
    | false =>
      by_cases hz : baseUsd.isZero = true ∧ quoteUsd.isZero = true
      · have h₁ := Decimal.isZero_add hz.1 hz.2
        have h₂ := Decimal.isZero_add hz.2 hz.1
        simp only [Decimal.half_of_isZero h₁, Decimal.half_of_isZero h₂, Run.inRange, Run.ok_bind,
          Decimal.figure_of_isZero h₁, Decimal.figure_of_isZero h₂]
      · have hn : baseUsd.isZero = false ∨ quoteUsd.isZero = false := by
          cases hb : baseUsd.isZero with
          | false => exact .inl rfl
          | true =>
            refine .inr (Bool.eq_false_iff.2 fun hq => hz ⟨hb, hq⟩)
        simp only [Decimal.add_comm_of_not_isZero hn]

variable {c : Catalogue} {ss : List Swap}

/-- If the figures of both markets are found, the volume that is built from the other side is the
inverse of the volume. -/
theorem Volume.ofSwaps_flip (hb : Pair.IsSide b) {a a' : Aggregate}
    (ha : Aggregate.ofSwaps ss b q = .ok a) (ha' : Aggregate.ofSwaps ss q b = .ok a')
    (hm : a.Mirror a') {r : Volume} (h : Volume.ofSwaps c b q ss = .ok r) :
    Volume.ofSwaps c q b ss = .ok r.flip := by
  unfold Volume.ofSwaps at h
  simp only [ha, Run.ok_bind, Run.bind_ok_iff, Run.pure_eq_ok, Except.ok.injEq] at h
  obtain ⟨bu, hbu, qu, hqu, v, hv, f₁, h₁, f₂, h₂, f₃, h₃, f₄, h₄, f₅, h₅, rfl⟩ := h
  have hvolume : (usdVolume (c.usdPrice q) qu (c.usdPrice b) bu >>= Decimal.figure) = .ok f₅ := by
    rw [figure_usdVolume_comm, hv, Run.ok_bind, h₅]
  obtain ⟨w, hw, hf⟩ := Run.bind_ok_iff.1 hvolume
  unfold Volume.ofSwaps
  simp only [ha', Run.ok_bind, hm.base, hm.quote, hm.trades, hbu, hqu, hw, hf, h₁, h₂, h₃, h₄]
  unfold flip
  simp only [Pair.flip_join hb]
  rfl

/-- The inverse of a volume is the volume of the flipped market. -/
theorem volume_otherSide (hne : b ≠ q) (hb : Pair.IsSide b) {r r' : Volume}
    (h : Volume.ofSwaps c b q ss = .ok r) (h' : Volume.ofSwaps c q b ss = .ok r') :
    MarketRecord.inverse r = .ok r' := by
  obtain ⟨a, ha, -⟩ := Run.bind_ok_iff.1 h
  obtain ⟨a', ha', -⟩ := Run.bind_ok_iff.1 h'
  have hf := Volume.ofSwaps_flip hb ha ha' (Aggregate.mirror_of_ofSwaps hne ha ha') h
  exact hf.symm.trans h'

/-! ## Prices of the day -/

/-- A record without its prices and price changes. -/
def DayPrices.withoutPrices (r : DayPrices) : DayPrices :=
  { r with
    oldestPrice := "", newestPrice := "", highestPrice := "", lowestPrice := ""
    priceChange := "", priceChangePercent := "" }

/-- What the record of a market has besides prices and price changes. -/
theorem DayPrices.withoutPrices_ofSwaps {a : Aggregate} {r : DayPrices}
    (ha : Aggregate.ofSwaps ss b q = .ok a) (h : DayPrices.ofSwaps c b q ss = .ok r) :
    r.withoutPrices = { (blank b q).withoutPrices with
      oldestPriceTime := (a.oldest.map Trade.finishedAt).getD 0
      newestPriceTime := (a.newest.map Trade.finishedAt).getD 0
      basePriceUsd := r.basePriceUsd
      quotePriceUsd := r.quotePriceUsd
      trades := a.trades } ∧
      (c.usdPrice b).figure = .ok r.basePriceUsd ∧ (c.usdPrice q).figure = .ok r.quotePriceUsd := by
  obtain ⟨ts, -, hts⟩ := Aggregate.ofSwaps_ok_iff_unsorted.1 ha
  unfold DayPrices.ofSwaps at h
  rw [ha, Run.ok_bind] at h
  obtain ⟨bu, hbu, h⟩ := Run.bind_ok_iff.1 h
  obtain ⟨qu, hqu, h⟩ := Run.bind_ok_iff.1 h
  simp only at h
  split at h
  · next o n ho hn =>
    simp only [Run.bind_ok_iff, Run.pure_eq_ok, Except.ok.injEq] at h
    obtain ⟨percent, -, f₁, -, f₂, -, f₃, -, f₄, -, f₅, -, f₆, -, rfl⟩ := h
    rw [ho, hn]
    exact ⟨rfl, hbu, hqu⟩
  · next hnone =>
    cases h
    -- Without an oldest or without a newest trade there is none at all.
    have hnil : ts.mergeSort Trade.notAfter = [] := by
      rw [← hts] at hnone
      cases hs : ts.mergeSort Trade.notAfter with
      | nil => rfl
      | cons t us =>
        rw [hs] at hnone
        exact absurd (List.getLast?_eq_some_getLast (List.cons_ne_nil t us)) (hnone t _ rfl)
    rw [hnil] at hts
    rw [← hts]
    exact ⟨rfl, hbu, hqu⟩

/-- What the inverse of a record has besides prices and price changes. -/
theorem DayPrices.withoutPrices_inverse {r i : DayPrices} (h : r.inverse = .ok i) :
    i.withoutPrices = { r.withoutPrices with
      tickerId := Pair.flip r.tickerId
      base := r.quote
      quote := r.base
      basePriceUsd := r.quotePriceUsd
      quotePriceUsd := r.basePriceUsd } := by
  unfold inverse at h
  simp only [Run.bind_ok_iff, Run.pure_eq_ok, Except.ok.injEq] at h
  obtain ⟨_, _, _, _, _, _, _, _, _, _, _, _, _, _, _, _, _, _, rfl⟩ := h
  rfl

/-- The inverse of the prices of a day is the record of the flipped market, but for prices and
changes. -/
theorem dayPrices_otherSide (hne : b ≠ q) (hb : Pair.IsSide b) {r r' i : DayPrices}
    (h : DayPrices.ofSwaps c b q ss = .ok r) (h' : DayPrices.ofSwaps c q b ss = .ok r')
    (hi : r.inverse = .ok i) : i.withoutPrices = r'.withoutPrices := by
  obtain ⟨a, ha, -⟩ := Run.bind_ok_iff.1 h
  obtain ⟨a', ha', -⟩ := Run.bind_ok_iff.1 h'
  have hm := Aggregate.mirror_of_ofSwaps hne ha ha'
  obtain ⟨hr, hbu, hqu⟩ := DayPrices.withoutPrices_ofSwaps ha h
  obtain ⟨hr', hqu', hbu'⟩ := DayPrices.withoutPrices_ofSwaps ha' h'
  have hold : a'.oldest.map Trade.finishedAt = a.oldest.map Trade.finishedAt := by
    have := congrArg (Option.map Trade.finishedAt) hm.oldest
    rwa [Option.map_map, Option.map_map] at this
  have hnew : a'.newest.map Trade.finishedAt = a.newest.map Trade.finishedAt := by
    have := congrArg (Option.map Trade.finishedAt) hm.newest
    rwa [Option.map_map, Option.map_map] at this
  have hb' : r'.basePriceUsd = r.quotePriceUsd := Except.ok.inj (hqu'.symm.trans hqu)
  have hq' : r'.quotePriceUsd = r.basePriceUsd := Except.ok.inj (hbu'.symm.trans hbu)
  rw [DayPrices.withoutPrices_inverse hi, hr', hr, hold, hnew, hm.trades, hb', hq']
  have hid : r.tickerId = Pair.join b q := congrArg DayPrices.tickerId hr
  have hbase : r.base = b := congrArg DayPrices.base hr
  have hquote : r.quote = q := congrArg DayPrices.quote hr
  rw [hid, Pair.flip_join hb, hbase, hquote]
  rfl

/-! ## The last trade -/

/-- A record without its price. -/
def LastTrade.withoutPrice (r : LastTrade) : LastTrade := { r with price := "" }

/-- The text of the other side is the other text. -/
theorem LastTrade.otherSide_text (s : Side) : otherSide s.text = s.other.text := by
  cases s <;> decide

/-- The inverse of a last trade is the record of the flipped market, but for the price. -/
theorem lastTrade_otherSide (hne : b ≠ q) (hb : Pair.IsSide b) {s : Swap} {r r' i : LastTrade}
    (h : LastTrade.ofSwap c b q s = .ok r) (h' : LastTrade.ofSwap c q b s = .ok r')
    (hi : r.inverse = .ok i) : i.withoutPrice = r'.withoutPrice := by
  unfold LastTrade.inverse at hi
  simp only [Run.bind_ok_iff, Run.pure_eq_ok, Except.ok.injEq] at hi
  obtain ⟨p, -, rfl⟩ := hi
  unfold LastTrade.ofSwap at h h'
  obtain ⟨t, ht, h⟩ := Run.bind_ok_iff.1 h
  obtain ⟨u, hu, h'⟩ := Run.bind_ok_iff.1 h'
  have hm := Trade.mirror_of_orient hne ht hu
  cases t with
  | none =>
    cases u with
    | some u => cases hm
    | none =>
      cases h
      cases h'
      show LastTrade.mk (Pair.flip (Pair.join b q)) .. = _
      rw [Pair.flip_join hb]
      rfl
  | some t =>
    cases u with
    | none => cases hm
    | some u =>
      obtain ⟨huuid, hbase, hquote, htime, hside⟩ := Trade.mirror_iff.1 (Option.some.inj hm)
      simp only [Run.bind_ok_iff, Run.pure_eq_ok, Except.ok.injEq] at h h'
      obtain ⟨f₁, -, f₂, h₂, f₃, h₃, rfl⟩ := h
      obtain ⟨g₁, -, g₂, k₂, g₃, k₃, rfl⟩ := h'
      rw [hbase, h₃] at k₂
      rw [hquote, h₂] at k₃
      cases k₂
      cases k₃
      simp only [LastTrade.withoutPrice, Pair.flip_join hb, huuid, htime, hside,
        LastTrade.otherSide_text, Bool.and_comm]

/-! ## Both sides of a market -/

/-- The records of a market and of the flipped market are built, and the first is inverted. -/
def HasOtherSide {α : Type} [MarketRecord α] (record : String → String → Run α) (b q : String) :
    Prop :=
  ∃ r r' i, record b q = .ok r ∧ record q b = .ok r' ∧ MarketRecord.inverse r = .ok i

/-- A price in dollars is within the places of all prices of the catalogue. -/
theorem Catalogue.within_usdPrice {k : Nat} (h : ∀ coin ∈ c.coins.values, coin.usdPrice.Within k)
    (t : String) : (c.usdPrice t).Within k := by
  have hget : ∀ t, (((c.coins.find? t).map Coin.usdPrice).getD Decimal.zero).Within k := by
    intro t
    cases ht : c.coins.find? t with
    | none => exact Decimal.within_zero k
    | some coin => exact h coin (Table.mem_values.2 ⟨t, ht⟩)
  unfold usdPrice lookup
  cases ht : c.coins.find? t with
  | none => exact hget _
  | some coin =>
    simp only [Option.map_some]
    split
    · exact hget _
    · exact h coin (Table.mem_values.2 ⟨t, ht⟩)

/-- Few enough swaps with small numbers have a size that can be written. -/
theorem SizedData.of_small (k : Nat) (hk : k ≤ greatestPlaces)
    (hs : ∀ s ∈ ss, s.makerAmount.Within k ∧ s.takerAmount.Within k) (hn : ss.length < 10 ^ k)
    (hc : ∀ coin ∈ c.coins.values, coin.usdPrice.Within k) : SizedData c ss :=
  ⟨fun s h => (hs s h).1.mono hk, fun s h => (hs s h).2.mono hk,
    hn.trans_le (Nat.pow_le_pow_right (by decide) hk),
    fun t => (Catalogue.within_usdPrice hc t).mono hk⟩

/-- With numbers that can be written, a volume has another side. -/
theorem Volume.hasOtherSide (h : SizedData c ss) (b q : String) :
    HasOtherSide (fun b q => Volume.ofSwaps c b q ss) b q := by
  obtain ⟨r, hr⟩ := Volume.ofSwaps_ok h b q
  obtain ⟨r', hr'⟩ := Volume.ofSwaps_ok h q b
  exact ⟨r, r', r.flip, hr, hr', rfl⟩

theorem DayPrices.hasOtherSide (h : SizedData c ss) (b q : String) :
    HasOtherSide (fun b q => DayPrices.ofSwaps c b q ss) b q := by
  obtain ⟨r, hr, hshort⟩ := DayPrices.ofSwaps_ok h b q
  obtain ⟨r', hr', -⟩ := DayPrices.ofSwaps_ok h q b
  obtain ⟨i, hi⟩ := (DayPrices.gives_inverse (isSound_of_ofSwaps hr).published).value hshort
  exact ⟨r, r', i, hr, hr', hi⟩

theorem LastTrade.hasOtherSide (h : SizedData c ss) (b q : String) {s : Swap} (hs : s ∈ ss) :
    HasOtherSide (fun b q => LastTrade.ofSwap c b q s) b q := by
  obtain ⟨r, hr, hshort⟩ := LastTrade.ofSwap_ok c b q (h.maker s hs) (h.taker s hs)
  obtain ⟨r', hr', -⟩ := LastTrade.ofSwap_ok c q b (h.maker s hs) (h.taker s hs)
  obtain ⟨i, hi⟩ := (LastTrade.gives_inverse (isSound_of_ofSwap hr).published).value hshort
  exact ⟨r, r', i, hr, hr', hi⟩

/-- A catalogue of a coin with a price and one without. -/
def onePriced : Catalogue :=
  ⟨.ofList [("KMD", ⟨"KMD", none, "UTXO", false, false, false, none, ⟨2, 0⟩, ⟨1, 0⟩⟩),
    ("LTC", ⟨"LTC", none, "UTXO", false, false, false, none, .zero, .zero⟩)]⟩

/-- The swaps as trades of the market of the two coins. -/
def bothWaysTrades : List Trade :=
  [⟨"a", ⟨2, 0⟩, ⟨1, 0⟩, ⟨5, 1⟩, 5, .sell⟩, ⟨"b", ⟨8, 0⟩, ⟨2, 0⟩, ⟨25, 2⟩, 5, .buy⟩]

/-- The numbers of the two swaps and of the catalogue can be written. -/
theorem sizedData_bothWays : SizedData onePriced bothWays := by
  refine .of_small 2 (by decide) (fun s hs => ?_) (by decide) fun coin hcoin => ⟨?_, ?_⟩
  · obtain ⟨hm, ht⟩ := within_one_bothWays s hs
    exact ⟨hm.mono (by decide), ht.mono (by decide)⟩
  · revert coin
    decide
  · revert coin
    decide

/-- The figures of the market sum up these trades. -/
theorem aggregate_bothWays :
    Aggregate.ofSwaps bothWays "KMD" "LTC" = .ok (.ofTrades bothWaysTrades) := by
  refine Aggregate.ofSwaps_ok_iff_unsorted.2
    ⟨bothWaysTrades, Run.toOption_eq_some.1 (by decide +kernel), ?_⟩
  rw [List.mergeSort_of_pairwise (by decide)]

end SwapMarket
