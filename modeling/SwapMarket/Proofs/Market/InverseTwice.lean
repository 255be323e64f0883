import SwapMarket.Proofs.Decimal.InverseTwice
import SwapMarket.Proofs.Market.Inverse
import SwapMarket.Proofs.Pair.Variants

/-!
# Records seen from the other side twice

What is served for the other side of a market can be turned round once more. The inverse of a record
reads only figures of the kinds that it computes, so whatever the figures of the record are, those
that the next inverse reads are published (**`CanBeInverted`**). What comes out is the record again
where nothing is rounded on the way: volumes always, and last trades at a price up to one, where no
digit of the price is lost (`Decimal.inverseUnits_inverseUnits`).

Main statement: `inverse_twice`.
-/

namespace SwapMarket

open Decimal (places tickText inverseUnits)

/-- Turning a volume round twice gives the volume. -/
theorem Volume.flip_flip {r : Volume} (h : r.tickerId.toList.count Pair.separator = 1) :
    r.flip.flip = r := by
  simp [flip, Pair.flip_flip h]

/-- A volume can always be inverted. -/
theorem Volume.canBeInverted (r : Volume) : CanBeInverted r :=
  ⟨Run.faultless_ok r.flip, fun _ => ⟨r.flip, rfl⟩⟩

/-- The inverse of the prices of a day can be inverted. -/
theorem DayPrices.canBeInverted_of_inverse {r i : DayPrices} (h : r.inverse = .ok i) :
    CanBeInverted i := by
  have hgives := gives_inverse_of_computed (isPublished_computed h)
  exact ⟨hgives.faultless, hgives.value⟩

theorem Orderbook.canBeInverted_of_inverse {r i : Orderbook} (h : r.inverse = .ok i) :
    CanBeInverted i := by
  obtain ⟨hbids, hasks⟩ := orders_of_inverse h
  have hgives := gives_inverse_of_computed (isPublished_computed h)
    (BookEntry.isPublished_of_inverses hbids) (BookEntry.isPublished_of_inverses hasks)
  exact ⟨hgives.faultless, hgives.value⟩

/-- A count of units that is not too long is inverted. -/
theorem reciprocalFigure_tickText {n : Int} (h : n.natAbs < 10 ^ 30) :
    reciprocalFigure (tickText n) = .ok (tickText (inverseUnits n)) := by
  have hn : (⟨n, places⟩ : Decimal).Within 30 := ⟨h, (by decide : (10 : Int).natAbs ≤ 30)⟩
  obtain ⟨hr, hw⟩ := hn.reciprocal (by decide) (by decide)
  unfold reciprocalFigure
  rw [readFigure_tickText, Run.ok_bind, hr, Run.ok_bind, hw.figure (by decide)]
  rfl

/-- The reciprocal of the reciprocal of a figure up to one is the figure. -/
theorem reciprocalFigure_reciprocalFigure {x : Decimal} (hx : 0 ≤ x.value) (hx₁ : x.value ≤ 1) :
    ∃ s, reciprocalFigure x.published = .ok s ∧ reciprocalFigure s = .ok x.published := by
  have hone : (Decimal.ofInt 1).ticks = 10 ^ 10 := by decide +kernel
  have hn : 0 ≤ x.ticks := Decimal.ticks_nonneg hx
  have hn₁ : x.ticks ≤ 10 ^ 10 := by
    rw [← hone]
    apply Decimal.ticks_le_ticks
    rw [Decimal.value_ofInt]
    exact_mod_cast hx₁
  have hm := Decimal.inverseUnits_nonneg hn
  have hm₁ := Decimal.inverseUnits_le_greatest hn
  have hfirst := reciprocalFigure_tickText (n := x.ticks) (by omega)
  have hsecond := reciprocalFigure_tickText (n := inverseUnits x.ticks) (by omega)
  rw [Decimal.inverseUnits_inverseUnits hn hn₁] at hsecond
  exact ⟨_, hfirst, hsecond⟩

/-- Above one it need not be: a unit of the last place counts more in a figure above one than in its
reciprocal. -/
example : (reciprocalFigure "3.0000000000").toOption = some "0.3333333333" ∧
    (reciprocalFigure "0.3333333333").toOption = some "3.0000000003" := by decide +kernel

namespace LastTrade

variable {r i : LastTrade}

/-- The other side of the other side is the side. -/
theorem otherSide_otherSide (s : String) : otherSide (otherSide s) = s := by
  unfold otherSide
  split
  · next h => simp [h, Side.text]
  · split
    · next h => simp [h]
    · rfl

/-- The inverse of a last trade can be inverted. -/
theorem canBeInverted_of_inverse (h : r.inverse = .ok i) : CanBeInverted i := by
  have hgives := gives_inverse_of_computed (isPublished_computed h)
  exact ⟨hgives.faultless, hgives.value⟩

/-- A last trade is found again if its price is. -/
theorem inverse_inverse (h : r.tickerId.toList.count Pair.separator = 1) {s : String}
    (hfirst : reciprocalFigure r.price = .ok s) (hsecond : reciprocalFigure s = .ok r.price) :
    ∃ i, r.inverse = .ok i ∧ i.inverse = .ok r := by
  unfold inverse
  rw [hfirst, Run.ok_bind]
  refine ⟨_, rfl, ?_⟩
  simp [hsecond, Pair.flip_flip h, otherSide_otherSide]

end LastTrade

/-- **Inverses of inverses.** Whatever the figures of a record are, if it has an inverse, so has the
inverse, unless a figure is longer than any memory; no fault is found in any case. In a market with
one underscore in its identifier, turning a volume round twice gives the volume, and turning a last
trade round twice gives the last trade if its price is the ten-place form of a value from zero to
one. The reciprocal of the reciprocal of such a figure is the figure. -/
theorem inverse_twice :
    (∀ r i : LastTrade, r.inverse = .ok i → CanBeInverted i) ∧
      (∀ r i : DayPrices, r.inverse = .ok i → CanBeInverted i) ∧
      (∀ r i : Volume, MarketRecord.inverse r = .ok i → CanBeInverted i) ∧
      (∀ r i : Orderbook, r.inverse = .ok i → CanBeInverted i) ∧
      (∀ r : Volume, r.tickerId.toList.count Pair.separator = 1 →
        ∃ i : Volume, MarketRecord.inverse r = .ok i ∧ MarketRecord.inverse i = .ok r) ∧
      (∀ (r : LastTrade) (x : Decimal), r.tickerId.toList.count Pair.separator = 1 →
        r.price = x.published → 0 ≤ x.value → x.value ≤ 1 →
          ∃ i, r.inverse = .ok i ∧ i.inverse = .ok r) ∧
      ∀ x : Decimal, 0 ≤ x.value → x.value ≤ 1 →
        ∃ s, reciprocalFigure x.published = .ok s ∧ reciprocalFigure s = .ok x.published := by
  refine ⟨fun r i h => LastTrade.canBeInverted_of_inverse h,
    fun r i h => DayPrices.canBeInverted_of_inverse h, fun r i _ => Volume.canBeInverted i,
    fun r i h => Orderbook.canBeInverted_of_inverse h, fun r h => ?_, fun r x h hprice hx hx₁ => ?_,
    fun x hx hx₁ => reciprocalFigure_reciprocalFigure hx hx₁⟩
  · exact ⟨r.flip, rfl, congrArg Except.ok (Volume.flip_flip h)⟩
  · obtain ⟨s, hfirst, hsecond⟩ := reciprocalFigure_reciprocalFigure hx hx₁
    rw [← hprice] at hfirst hsecond
    exact LastTrade.inverse_inverse h hfirst hsecond

/-- A trade at a third: its inverse is at a little more than three, and the inverse of this is at a
third. -/
def thirdTrade : LastTrade :=
  { LastTrade.blank "KMD" "LTC" with price := "0.3333333333", side := "buy" }

/-- A trade at a third is found again. -/
theorem inverse_twice_third : thirdTrade.tickerId.toList.count Pair.separator = 1 ∧
    ∃ i, thirdTrade.inverse = .ok i ∧ i.price = "3.0000000003" ∧ i.side = "sell" ∧
      CanBeInverted i ∧ i.inverse = .ok thirdTrade := by
  obtain ⟨hinvert, -, -, -, -, hagain, -⟩ := inverse_twice
  have hseparator : thirdTrade.tickerId.toList.count Pair.separator = 1 := by decide
  have hprice : thirdTrade.price = (⟨3333333333, 10⟩ : Decimal).published := by decide +kernel
  obtain ⟨i, hi, hback⟩ := hagain thirdTrade ⟨3333333333, 10⟩ hseparator hprice
    (by norm_num [Decimal.value]) (by norm_num [Decimal.value])
  have hfigures : thirdTrade.inverse.toOption.map (fun i => (i.price, i.side))
      = some ("3.0000000003", "sell") := by decide +kernel
  rw [hi] at hfigures
  obtain ⟨hp, hs⟩ := Prod.mk.inj (Option.some.inj hfigures)
  exact ⟨hseparator, i, hi, hp, hs, hinvert thirdTrade i hi, hback⟩

end SwapMarket
