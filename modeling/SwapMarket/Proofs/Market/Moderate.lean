import SwapMarket.Proofs.Market.Inverse

/-!
# Inverses of records with any figures

The figures of a record that was stored elsewhere can be any texts. Its inverse then may find a
fault, and it is cut short where a scale leaves the range of 64 bits. The second cannot happen if
all decimals among the figures are moderate (**`IsModerate`**), that is, have not more digits and
places than what fits into a memory: this is `completes_inverse` of each kind of record.

**`Run.Completes`** says of a run that it is not cut short and what its value is like.
-/

namespace SwapMarket

/-- A run that has a value with a property or finds a fault. -/
structure Run.Completes {α : Type} (post : α → Prop) (r : Run α) : Prop where
  /-- It is not cut short. -/
  uncut : r.cut? = none
  /-- Its value has the property. -/
  post : ∀ v, r = .ok v → post v

namespace Run

variable {α β : Type} {p : α → Prop} {q : β → Prop} {r : Run α}

/-- A value with the property is fine. -/
theorem completes_ok {v : α} (h : p v) : Completes p (.ok v : Run α) := by
  refine ⟨rfl, ?_⟩
  rintro w ⟨⟩
  exact h

theorem completes_fail (p : α → Prop) (f : Fault) : Completes p (Run.fail f : Run α) := by
  refine ⟨rfl, ?_⟩
  rintro w ⟨⟩

/-- What completes can be followed by what completes. -/
theorem Completes.bind {f : α → Run β} (h : Completes p r) (hf : ∀ a, p a → Completes q (f a)) :
    Completes q (r >>= f) := by
  cases r with
  | ok a => exact hf a (h.post a rfl)
  | error s =>
    cases s with
    | fault cause => exact completes_fail q cause
    | _ => cases h.uncut

end Run

open Run (Completes completes_ok completes_fail)

/-- If a text is a decimal, it is one with not too many digits and places. -/
def IsModerateText (s : String) : Prop := ∀ d, Decimal.read s = .ok d → d.Within greatestText

/-- All decimals among the figures of a record are moderate. -/
def IsModerate {α : Type} [MarketFigures α] (r : α) : Prop :=
  ∀ s ∈ MarketFigures.figures r, IsModerateText s

/-! ## Steps of an inverse -/

section Steps

variable {s : String} {a b d : Decimal} {k : Nat}

/-- A text of moderate size is read, if it can be read, as a decimal of few places. -/
theorem completes_readFigure (h : IsModerateText s) :
    Completes (·.Within greatestText) (readFigure s) := by
  unfold readFigure
  cases hr : Decimal.read s with
  | ok d => exact completes_ok (h d hr)
  | error f => exact completes_fail _ (.decimal f)

/-- A decimal of few places has a reciprocal, or is zero. -/
theorem completes_reciprocal (h : d.Within k) (h₁ : 0 < k) (hk : k < 2 ^ 60) :
    Completes (·.Within (3 * k + 101)) d.reciprocal := by
  obtain ⟨hr, hw⟩ := h.reciprocal h₁ hk
  rw [hr]
  exact completes_ok hw

/-- A decimal of few places is written as a figure. -/
theorem completes_figure (h : d.Within k) (hk : k < 2 ^ 60) :
    Completes (fun _ => True) d.figure := by
  rw [h.figure hk]
  exact completes_ok trivial

/-- A text of moderate size has a reciprocal, or is at fault. -/
theorem completes_reciprocalFigure (h : IsModerateText s) :
    Completes (fun _ => True) (reciprocalFigure s) := by
  unfold reciprocalFigure
  refine (completes_readFigure h).bind fun d hd => ?_
  refine (completes_reciprocal hd (by decide) (by decide)).bind fun r hr => ?_
  exact completes_figure hr (by decide)

/-- Two decimals of few places have changes, or the first is zero. -/
theorem completes_changeFigures (ha : a.Within k) (hb : b.Within k) (h₁ : 2 < k) (hk : k < 2 ^ 50) :
    Completes (fun _ => True) (changeFigures a b) := by
  obtain ⟨p, hp⟩ := ha.changeFigures hb h₁ hk
  rw [hp]
  exact completes_ok trivial

/-- The volume of an entry in the other coin has not many more places. -/
theorem completes_counterVolume (ha : a.Within greatestText) (hb : b.Within greatestText) :
    Completes (·.Within (2 * greatestText)) (BookEntry.counterVolume a b) := by
  unfold BookEntry.counterVolume
  split
  · exact completes_ok (Decimal.within_zero _)
  · rw [ha.product? hb (by decide)]
    exact completes_ok (ha.mul hb)

/-- An entry of moderate size can be inverted, or is at fault. -/
theorem BookEntry.completes_inverse {e : BookEntry} (hp : IsModerateText e.price)
    (hv : IsModerateText e.volume) : Completes (fun _ => True) e.inverse := by
  unfold BookEntry.inverse
  refine (completes_readFigure hp).bind fun price hprice => ?_
  refine (completes_readFigure hv).bind fun volume hvolume => ?_
  refine (completes_reciprocal hprice (by decide) (by decide)).bind fun inverted hinverted => ?_
  refine (completes_counterVolume hvolume hprice).bind fun counted hcounted => ?_
  refine (completes_figure hinverted (by decide)).bind fun _ _ => ?_
  exact (completes_figure hcounted (by decide)).bind fun _ _ => completes_ok trivial

theorem BookEntry.completes_inverses {es : List BookEntry}
    (h : ∀ s ∈ BookEntry.figures es, IsModerateText s) :
    Completes (fun _ => True) (BookEntry.inverses es) := by
  induction es with
  | nil => exact completes_ok trivial
  | cons e es ih =>
    obtain ⟨⟨hp, hv⟩, hes⟩ := BookEntry.forall_figures_cons.1 h
    unfold BookEntry.inverses
    refine (BookEntry.completes_inverse hp hv).bind fun _ _ => ?_
    exact (ih hes).bind fun _ _ => completes_ok trivial

end Steps

/-! ## Inverses -/

theorem LastTrade.completes_inverse {r : LastTrade} (h : IsModerate r) :
    Completes (fun _ => True) r.inverse := by
  unfold LastTrade.inverse
  exact (completes_reciprocalFigure (h _ List.mem_cons_self)).bind fun _ _ => completes_ok trivial

theorem DayPrices.completes_inverse {r : DayPrices} (h : IsModerate r) :
    Completes (fun _ => True) r.inverse := by
  unfold IsModerate at h
  simp only [MarketFigures.figures, List.forall_mem_cons] at h
  obtain ⟨ho, hn, hh, hl, -⟩ := h
  unfold DayPrices.inverse
  refine (completes_readFigure ho).bind fun o ho' => ?_
  refine (completes_reciprocal ho' (by decide) (by decide)).bind fun oldest holdest => ?_
  refine (completes_readFigure hn).bind fun n hn' => ?_
  refine (completes_reciprocal hn' (by decide) (by decide)).bind fun newest hnewest => ?_
  refine (completes_changeFigures holdest hnewest (by decide) (by decide)).bind fun _ _ => ?_
  refine (completes_figure holdest (by decide)).bind fun _ _ => ?_
  refine (completes_figure hnewest (by decide)).bind fun _ _ => ?_
  refine (completes_reciprocalFigure hl).bind fun _ _ => ?_
  exact (completes_reciprocalFigure hh).bind fun _ _ => completes_ok trivial

theorem Orderbook.completes_inverse {r : Orderbook} (h : IsModerate r) :
    Completes (fun _ => True) r.inverse := by
  have ht : ∀ s ∈ r.totals, IsModerateText s := fun s hs => h s (List.mem_append_left _ hs)
  have hbids : ∀ s ∈ BookEntry.figures r.bids, IsModerateText s := fun s hs =>
    h s (List.mem_append_right _ (List.mem_append_left _ hs))
  have hasks : ∀ s ∈ BookEntry.figures r.asks, IsModerateText s := fun s hs =>
    h s (List.mem_append_right _ (List.mem_append_right _ hs))
  simp only [Orderbook.totals, List.forall_mem_cons] at ht
  obtain ⟨hhb, hla, -, -, -, -, -, -, -, -, -, hn, hhi, hlo, hch, -⟩ := ht
  unfold Orderbook.inverse
  refine (completes_readFigure hn).bind fun known hknown => ?_
  refine (completes_readFigure hch).bind fun change hchange => ?_
  refine (completes_reciprocal hknown (by decide) (by decide)).bind fun newest hnewest => ?_
  refine (completes_reciprocal (hknown.sub hchange) (by decide) (by decide)).bind
    fun oldest holdest => ?_
  refine (completes_changeFigures holdest (hnewest.mono (by decide)) (by decide) (by decide)).bind
    fun _ _ => ?_
  refine (BookEntry.completes_inverses hasks).bind fun _ _ => ?_
  refine (BookEntry.completes_inverses hbids).bind fun _ _ => ?_
  refine (completes_reciprocalFigure hla).bind fun _ _ => ?_
  refine (completes_reciprocalFigure hhb).bind fun _ _ => ?_
  refine (completes_reciprocalFigure hlo).bind fun _ _ => ?_
  refine (completes_reciprocalFigure hhi).bind fun _ _ => ?_
  exact (completes_figure hnewest (by decide)).bind fun _ _ => completes_ok trivial

end SwapMarket
