import SwapMarket.Proofs.Market.LastTrades
import SwapMarket.Proofs.Market.PriceRange

/-!
# The record of the flipped market

A record that is stored of a market can be inverted, and the record of the flipped market can be
built from the same swaps. **`AgreesFromOtherSide`** says how the two are related, and when the
second is there at all: each trade has a price of its own from the other side, with a scale of its
own, so that a market may have a record and the flipped market none.

Main statement: `otherSide_agrees`.
-/

namespace SwapMarket

variable {c : Catalogue} {ms : List (String × String)} {ss : List Swap} {b q : String}

/-! ## When there is a volume -/

namespace Volume

/-- The numbers of a record have scales in range, those in dollars included. -/
structure ScalesFit (c : Catalogue) (b q : String) (a : Aggregate) : Prop where
  /-- The base volume can be written. -/
  base : ∃ s, a.baseVolume.figure = .ok s
  /-- The quote volume can be written. -/
  quote : ∃ s, a.quoteVolume.figure = .ok s
  /-- The dollar volumes can be computed and written. -/
  dollars : ∃ baseUsd quoteUsd usd,
    a.baseVolume.product? (c.usdPrice b) = some baseUsd ∧
    a.quoteVolume.product? (c.usdPrice q) = some quoteUsd ∧
    usdVolume (c.usdPrice b) baseUsd (c.usdPrice q) quoteUsd = .ok usd ∧
    ∀ d ∈ [baseUsd, quoteUsd, usd], ∃ s, d.figure = .ok s

/-- A market has a record exactly if its trades have prices and its numbers fit. -/
theorem exists_ofSwaps_iff : (∃ r, ofSwaps c b q ss = .ok r) ↔
    ArePriced b q ss ∧ ∀ a, Aggregate.ofSwaps ss b q = .ok a → ScalesFit c b q a := by
  rw [← Aggregate.exists_ofSwaps_iff]
  unfold ofSwaps
  simp only [Run.bind_ok_iff, Run.inRange_ok_iff, Run.pure_eq_ok, Except.ok.injEq]
  constructor
  · rintro ⟨r, a, ha, bu, hbu, qu, hqu, v, hv, f₁, h₁, f₂, h₂, f₃, h₃, f₄, h₄, f₅, h₅, -⟩
    refine ⟨⟨a, ha⟩, fun a' ha' => ?_⟩
    obtain rfl : a = a' := Except.ok.inj (ha.symm.trans ha')
    refine ⟨⟨f₁, h₁⟩, ⟨f₂, h₂⟩, bu, qu, v, hbu, hqu, hv, ?_⟩
    simp only [List.forall_mem_cons]
    exact ⟨⟨f₃, h₃⟩, ⟨f₄, h₄⟩, ⟨f₅, h₅⟩, List.forall_mem_nil _⟩
  · rintro ⟨⟨a, ha⟩, hfits⟩
    obtain ⟨⟨f₁, h₁⟩, ⟨f₂, h₂⟩, bu, qu, v, hbu, hqu, hv, hfigures⟩ := hfits a ha
    simp only [List.forall_mem_cons] at hfigures
    obtain ⟨⟨f₃, h₃⟩, ⟨f₄, h₄⟩, ⟨f₅, h₅⟩, -⟩ := hfigures
    exact ⟨_, a, ha, bu, hbu, qu, hqu, v, hv, f₁, h₁, f₂, h₂, f₃, h₃, f₄, h₄, f₅, h₅, rfl⟩

/-- The volume of the flipped market is the inverse, if each trade has a price from there. -/
theorem ofSwaps_flip_of_arePriced (hne : b ≠ q) (hb : Pair.IsSide b) {r : Volume}
    (h : ofSwaps c b q ss = .ok r) (hp : ArePriced q b ss) :
    ofSwaps c q b ss = .ok r.flip := by
  obtain ⟨a, ha, -⟩ := Run.bind_ok_iff.1 h
  obtain ⟨a', ha'⟩ := Aggregate.exists_ofSwaps_iff.2 hp
  exact ofSwaps_flip hb ha ha' (Aggregate.mirror_of_ofSwaps hne ha ha') h

/-- The volume of the flipped market is found exactly if each trade has a price from there: none of
its other numbers is new. -/
theorem exists_ofSwaps_flip_iff (hne : b ≠ q) (hb : Pair.IsSide b) {r : Volume}
    (h : ofSwaps c b q ss = .ok r) : (∃ r', ofSwaps c q b ss = .ok r') ↔ ArePriced q b ss :=
  ⟨fun h' => (exists_ofSwaps_iff.1 h').1, fun hp => ⟨_, ofSwaps_flip_of_arePriced hne hb h hp⟩⟩

end Volume

/-- The numbers of all records have scales in range, and the prices of all trades. -/
def VolumesFit (c : Catalogue) (ms : List (String × String)) (ss : List Swap) : Prop :=
  ∀ m ∈ ms, ArePriced m.1 m.2 ss ∧
    ∀ a, Aggregate.ofSwaps ss m.1 m.2 = .ok a → Volume.ScalesFit c m.1 m.2 a

/-- Markets have volumes exactly if each of them has one. -/
theorem exists_volumes_iff : (∃ t, volumes c ms ss = .ok t) ↔ VolumesFit c ms ss :=
  exists_recordTable_iff.trans (forall₂_congr fun _ _ => Volume.exists_ofSwaps_iff)

/-! ## Two records of one market -/

/-- How a record `r` of a market is related to the record `direct` that is built for the flipped
market, which is found exactly under the condition `fits`. -/
structure AgreesFromOtherSide {α β : Type} [MarketRecord α] [MarketFigures α] (rest : α → β)
    (direct : Run α) (fits : Prop) (r : α) : Prop where
  /-- When the record of the flipped market is found. -/
  found : (∃ r', direct = .ok r') ↔ fits
  /-- If it is not, a number has left its range, and nothing else is wrong. -/
  faultless : direct.Faultless
  /-- The record can be inverted, if none of its figures is longer than any memory. -/
  inverse : IsShort r → ∃ i, MarketRecord.inverse r = .ok i
  /-- The inverse is the record of the flipped market, as far as `rest` shows of them. -/
  agrees : ∀ r' i, direct = .ok r' → MarketRecord.inverse r = .ok i → rest i = rest r'

/-- The last trade of the flipped market is found exactly if the swap fits there, or is of another
market. -/
theorem LastTrade.exists_ofSwap_iff_of_feeds {m : String × String} {w : Swap} :
    (∃ r, ofSwap c m.1 m.2 w = .ok r) ↔ (w.feeds m.1 m.2 = true → CanBeMade m w) := by
  by_cases hf : w.feeds m.1 m.2 = true
  · rw [exists_ofSwap_iff hf]
    exact ⟨fun h _ => h, fun h => h hf⟩
  · have hnone : w.orient m.1 m.2 = .ok none := Swap.orient_of_not_feeds (Bool.eq_false_iff.2 hf)
    refine iff_of_true ⟨blank m.1 m.2, ?_⟩ fun h => absurd h hf
    unfold ofSwap
    rw [hnone]
    rfl

/-- **A market from its other side.** The inverse of the volume of a market is the volume that is
built for the flipped market; the inverse of the prices of a day and that of the last trade are the
records that are built there, but for prices and price changes.

* The volume of the flipped market is found exactly if each trade has a price from there; the other
  two records are, if moreover the numbers that are new there can be written.
* Numbers of swaps and of the catalogue that can be written keep no record and no inverse from being
  found. -/
theorem otherSide_agrees (c : Catalogue) (hne : b ≠ q) (hb : Pair.IsSide b) (ss : List Swap) :
    (∀ r, Volume.ofSwaps c b q ss = .ok r → MarketRecord.inverse r = .ok r.flip ∧
        AgreesFromOtherSide id (Volume.ofSwaps c q b ss) (ArePriced q b ss) r) ∧
      (∀ r, DayPrices.ofSwaps c b q ss = .ok r →
        AgreesFromOtherSide DayPrices.withoutPrices (DayPrices.ofSwaps c q b ss)
          (ArePriced q b ss ∧
            ∀ a, Aggregate.ofSwaps ss q b = .ok a → DayPrices.ScalesFit c q b a) r) ∧
      (∀ s r, LastTrade.ofSwap c b q s = .ok r →
        AgreesFromOtherSide LastTrade.withoutPrice (LastTrade.ofSwap c q b s)
          (s.feeds q b = true → LastTrade.CanBeMade (q, b) s) r) ∧
      (SizedData c ss →
        HasOtherSide (fun b q => Volume.ofSwaps c b q ss) b q ∧
        HasOtherSide (fun b q => DayPrices.ofSwaps c b q ss) b q ∧
        ∀ s ∈ ss, HasOtherSide (fun b q => LastTrade.ofSwap c b q s) b q) := by
  refine ⟨fun r h => ⟨rfl, ?volume⟩, fun r h => ?dayPrices, fun s r h => ?lastTrade,
    fun h => ?sized⟩
  case volume =>
    refine ⟨Volume.exists_ofSwaps_flip_iff hne hb h, Volume.faultless_ofSwaps c q b ss,
      fun _ => ⟨r.flip, rfl⟩, fun r' i h' hi => ?_⟩
    exact Except.ok.inj (hi.symm.trans (volume_otherSide hne hb h h'))
  case dayPrices =>
    refine ⟨DayPrices.exists_ofSwaps_iff, DayPrices.faultless_ofSwaps c q b ss, ?_,
      fun r' i h' hi => dayPrices_otherSide hne hb h h' hi⟩
    exact (DayPrices.gives_inverse (DayPrices.isSound_of_ofSwaps h).published).value
  case lastTrade =>
    refine ⟨LastTrade.exists_ofSwap_iff_of_feeds (m := (q, b)), LastTrade.faultless_ofSwap c q b s,
      ?_, fun r' i h' hi => lastTrade_otherSide hne hb h h' hi⟩
    exact (LastTrade.gives_inverse (LastTrade.isSound_of_ofSwap h).published).value
  case sized =>
    exact ⟨Volume.hasOtherSide h b q, DayPrices.hasOtherSide h b q,
      fun s hs => LastTrade.hasOtherSide h b q hs⟩

/-- The volume of the market of the two coins. -/
def bothWaysVolume : Volume :=
  { tickerId := "KMD_LTC"
    base := "KMD"
    quote := "LTC"
    baseVolume := "10.0000000000"
    targetVolume := "3.0000000000"
    baseVolumeUsd := "20.0000000000"
    quoteVolumeUsd := "0.0000000000"
    volumeUsd := "20.0000000000"
    trades := 2 }

/-- Two swaps that went opposite ways: the three records from the other side. -/
theorem otherSide_agrees_bothWays : "KMD" ≠ "LTC" ∧ Pair.IsSide "KMD" ∧
    SizedData onePriced bothWays ∧
    Volume.ofSwaps onePriced "KMD" "LTC" bothWays = .ok bothWaysVolume ∧
    Volume.ofSwaps onePriced "LTC" "KMD" bothWays = .ok bothWaysVolume.flip ∧
    (∃ r r' i, DayPrices.ofSwaps onePriced "KMD" "LTC" bothWays = .ok r ∧
      DayPrices.ofSwaps onePriced "LTC" "KMD" bothWays = .ok r' ∧ r.inverse = .ok i ∧
      i.withoutPrices = r'.withoutPrices) ∧
    ∀ s ∈ bothWays, ∃ r r' i, LastTrade.ofSwap onePriced "KMD" "LTC" s = .ok r ∧
      LastTrade.ofSwap onePriced "LTC" "KMD" s = .ok r' ∧ r.inverse = .ok i ∧
      i.withoutPrice = r'.withoutPrice := by
  have hne : "KMD" ≠ "LTC" := by decide
  have hside : Pair.IsSide "KMD" := by decide
  obtain ⟨hvolume, hprices, hlast, hall⟩ := otherSide_agrees onePriced hne hside bothWays
  obtain ⟨⟨-, v', -, -, hv', -⟩, ⟨r, r', i, hr, hr', hi⟩, htrades⟩ := hall sizedData_bothWays
  have hbuilt : Volume.ofSwaps onePriced "KMD" "LTC" bothWays = .ok bothWaysVolume := by
    refine Run.toOption_eq_some.1 ?_
    unfold Volume.ofSwaps
    rw [aggregate_bothWays]
    decide +kernel
  obtain ⟨hinverse, hagree⟩ := hvolume _ hbuilt
  obtain rfl : bothWaysVolume.flip = v' := hagree.agrees v' _ hv' hinverse
  refine ⟨hne, hside, sizedData_bothWays, hbuilt, hv',
    ⟨r, r', i, hr, hr', hi, (hprices r hr).agrees r' i hr' hi⟩, fun s hs => ?_⟩
  obtain ⟨l, l', j, hl, hl', hj⟩ := htrades s hs
  exact ⟨l, l', j, hl, hl', hj, (hlast s l hl).agrees l' j hl' hj⟩

/-- A swap that has a price from one side only: the market has a volume with an inverse, and the
flipped market has none. -/
theorem otherSide_agrees_unless_priced : "LTC" ≠ "KMD" ∧ Pair.IsSide "LTC" ∧
    ∃ r, Volume.ofSwaps priceless "LTC" "KMD" [tinySwap] = .ok r ∧
      MarketRecord.inverse r = .ok r.flip ∧ r.flip.tickerId = "KMD_LTC" ∧
      r.flip.baseVolume = "4.0000000000" ∧ r.flip.trades = 1 ∧
      Volume.ofSwaps priceless "KMD" "LTC" [tinySwap] = .error .overflow := by
  have ha : Aggregate.ofSwaps [tinySwap] "LTC" "KMD" = .ok (.ofTrades [tinyTrade]) :=
    Aggregate.ofSwaps_of_single (Run.toOption_eq_some.1 (by decide +kernel))
  have hnone : Aggregate.ofSwaps [tinySwap] "KMD" "LTC" = .error .overflow :=
    Aggregate.ofSwaps_of_not_arePriced fun h =>
      absurd (h tinySwap List.mem_cons_self (by decide)) (by decide +kernel)
  have h : (Volume.ofSwaps priceless "LTC" "KMD" [tinySwap]).toOption.map
      (fun r => (r.flip.tickerId, r.flip.baseVolume, r.flip.trades))
        = some ("KMD_LTC", "4.0000000000", 1) := by
    unfold Volume.ofSwaps
    rw [ha]
    decide +kernel
  obtain ⟨r, hr, e⟩ := Option.map_eq_some_iff.1 h
  simp only [Prod.mk.injEq] at e
  obtain ⟨hid, hbase, htrades⟩ := e
  refine ⟨by decide, by decide, r, Run.toOption_eq_some.1 hr, rfl, hid, hbase, htrades, ?_⟩
  unfold Volume.ofSwaps
  rw [hnone]
  rfl

end SwapMarket
