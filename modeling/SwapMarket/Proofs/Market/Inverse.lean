import SwapMarket.Proofs.Market.Figures

/-!
# Inverses of sound records

A record whose figures are published can be seen from the other side of its market. Every figure is
read without a fault, what is computed of it is published again, and the only thing that could end
the run is a scale out of the range of 64 bits. For this the texts would have to be longer than any
memory (**`greatestText`**).

**`Run.Gives`** says these three things of a run at once, so that they are carried through the steps
of an inverse together: `gives_inverse` of each kind of record is assembled from the lemmas of its
steps.
-/

namespace SwapMarket

open Decimal (IsPublished isPublished_of_figure isPublished_zero)

/-- A run that finds no fault, whose value has a property, and that has a value under a
condition. -/
structure Run.Gives {α : Type} (condition : Prop) (post : α → Prop) (r : Run α) : Prop where
  /-- It finds no fault. -/
  faultless : r.Faultless
  /-- Its value has the property. -/
  post : ∀ v, r = .ok v → post v
  /-- Under the condition it has a value. -/
  value : condition → ∃ v, r = .ok v

namespace Run

variable {α β : Type} {condition : Prop} {p : α → Prop} {q : β → Prop} {r : Run α}

/-- A value with the property is given. -/
theorem gives_ok {v : α} (h : p v) : Gives condition p (.ok v : Run α) := by
  refine ⟨faultless_ok v, ?_, fun _ => ⟨v, rfl⟩⟩
  intro w hw
  cases hw
  exact h

/-- What gives a value with a property can be followed by what needs it. -/
theorem Gives.bind {f : α → Run β} (h : Gives condition p r)
    (hf : ∀ a, p a → Gives condition q (f a)) : Gives condition q (r >>= f) := by
  refine ⟨h.faultless.bind fun a ha => (hf a (h.post a ha)).faultless, ?_, ?_⟩
  · intro v hv
    obtain ⟨a, ha, hv⟩ := bind_ok_iff.1 hv
    exact (hf a (h.post a ha)).post v hv
  · intro hc
    obtain ⟨a, rfl⟩ := h.value hc
    exact (hf a (h.post a rfl)).value hc

end Run

open Run (Gives gives_ok)

/-- The length of the longest text considered, far more than what fits into a memory. -/
def greatestText : Nat := 2 ^ 44

/-! ## Steps of an inverse

In each step, what was read or computed is within some number of places provided that the texts are
short. Without this proviso nothing is known of its size, but the step finds no fault either. -/

section Steps

variable {short : Prop} {s : String} {a b d : Decimal} {k : Nat}

/-- The text of a count of units is read as this count. -/
theorem readFigure_tickText (n : Int) :
    readFigure (Decimal.tickText n) = .ok ⟨n, Decimal.places⟩ := by
  unfold readFigure
  rw [Decimal.read_tickText]
  rfl

/-- A published figure is read, as a decimal of few places if the text is short. -/
theorem gives_readFigure (h : IsPublished s) (hs : short → s.length ≤ greatestText) :
    Gives short (fun d => short → d.Within greatestText) (readFigure s) := by
  obtain ⟨t, hr, ht⟩ := h.read
  unfold readFigure
  rw [hr]
  refine gives_ok fun hc => ?_
  rw [← ht] at hs
  exact Decimal.within_tickText (hs hc)

/-- A decimal of few places has a reciprocal of not many more. -/
theorem gives_reciprocal (h : short → d.Within k) (h₁ : 0 < k) (hk : k < 2 ^ 60) :
    Gives short (fun r => short → r.Within (3 * k + 101)) d.reciprocal := by
  refine ⟨Run.faultless_inRange _, ?_, fun hc => ⟨_, ((h hc).reciprocal h₁ hk).1⟩⟩
  intro v hv hc
  obtain ⟨hr, hw⟩ := (h hc).reciprocal h₁ hk
  rw [hr] at hv
  cases hv
  exact hw

/-- A decimal of few places is written as a figure. -/
theorem gives_figure (h : short → d.Within k) (hk : k < 2 ^ 60) :
    Gives short IsPublished d.figure :=
  ⟨Run.faultless_inRange _, fun _ hv => isPublished_of_figure hv,
    fun hc => ⟨_, (h hc).figure hk⟩⟩

/-- A published figure has a published reciprocal. -/
theorem gives_reciprocalFigure (h : IsPublished s) (hs : short → s.length ≤ greatestText) :
    Gives short IsPublished (reciprocalFigure s) := by
  unfold reciprocalFigure
  refine (gives_readFigure h hs).bind fun d hd => ?_
  refine (gives_reciprocal hd (by decide) (by decide)).bind fun r hr => ?_
  exact gives_figure hr (by decide)

/-- The changes between two decimals of few places are published. -/
theorem gives_changeFigures (ha : short → a.Within k) (hb : short → b.Within k) (h₁ : 2 < k)
    (hk : k < 2 ^ 50) :
    Gives short (fun p => IsPublished p.1 ∧ IsPublished p.2) (changeFigures a b) := by
  refine ⟨?_, ?_, fun hc => (ha hc).changeFigures (hb hc) h₁ hk⟩
  · unfold changeFigures
    refine (Run.faultless_inRange _).bind fun _ _ => ?_
    refine (Run.faultless_inRange _).bind fun _ _ => ?_
    exact (Run.faultless_inRange _).bind fun _ _ => Run.faultless_ok _
  · intro p hp
    simp only [changeFigures, Run.bind_ok_iff, Run.pure_eq_ok, Except.ok.injEq] at hp
    obtain ⟨x, -, f₁, h₁, f₂, h₂, rfl⟩ := hp
    exact ⟨isPublished_of_figure h₁, isPublished_of_figure h₂⟩

/-- The volume of an entry in the other coin has not many more places. -/
theorem gives_counterVolume (ha : short → a.Within greatestText)
    (hb : short → b.Within greatestText) :
    Gives short (fun d => short → d.Within (2 * greatestText)) (BookEntry.counterVolume a b) := by
  unfold BookEntry.counterVolume
  split
  · exact gives_ok fun _ => Decimal.within_zero _
  · refine ⟨Run.faultless_inRange _, ?_, ?_⟩
    · intro v hv hc
      rw [(ha hc).product? (hb hc) (by decide)] at hv
      cases hv
      exact (ha hc).mul (hb hc)
    · intro hc
      rw [(ha hc).product? (hb hc) (by decide)]
      exact ⟨_, rfl⟩

/-- What is computed of orders is published. -/
theorem BookEntry.isPublished_of_inverses {es is : List BookEntry}
    (h : BookEntry.inverses es = .ok is) : ∀ s ∈ BookEntry.figures is, IsPublished s := by
  induction es generalizing is with
  | nil =>
    cases h
    simp [figures]
  | cons e es ih =>
    simp only [inverses, inverse, Run.bind_ok_iff, Run.pure_eq_ok, Except.ok.injEq] at h
    obtain ⟨i, ⟨_, -, _, -, _, -, _, -, p, hp, v, hv, rfl⟩, rest, hrest, rfl⟩ := h
    exact forall_figures_cons.2 ⟨⟨isPublished_of_figure hp, isPublished_of_figure hv⟩, ih hrest⟩

/-- The entries of a book can be inverted, if their figures are published and short. -/
theorem BookEntry.gives_inverses {es : List BookEntry}
    (h : ∀ s ∈ BookEntry.figures es, IsPublished s)
    (hs : short → ∀ s ∈ BookEntry.figures es, s.length ≤ greatestText) :
    Gives short (fun _ => True) (BookEntry.inverses es) := by
  induction es with
  | nil => exact gives_ok trivial
  | cons e es ih =>
    obtain ⟨⟨hp, hv⟩, htail⟩ := forall_figures_cons.1 h
    have hshort : short → _ := fun hc => forall_figures_cons.1 (hs hc)
    unfold BookEntry.inverses BookEntry.inverse
    refine Gives.bind (p := fun _ => True) ?_ fun i _ => ?_
    · refine (gives_readFigure hp fun hc => (hshort hc).1.1).bind fun price hprice => ?_
      refine (gives_readFigure hv fun hc => (hshort hc).1.2).bind fun volume hvolume => ?_
      refine (gives_reciprocal hprice (by decide) (by decide)).bind fun inverted hinverted => ?_
      refine (gives_counterVolume hvolume hprice).bind fun counted hcounted => ?_
      refine (gives_figure hinverted (by decide)).bind fun p _ => ?_
      exact (gives_figure hcounted (by decide)).bind fun v _ => gives_ok trivial
    · exact (ih htail fun hc => (hshort hc).2).bind fun is _ => gives_ok trivial

end Steps

/-! ## Inverses -/

/-- The figures of a record are no longer than what is considered. -/
def IsShort {α : Type} [MarketFigures α] (r : α) : Prop :=
  ∀ s ∈ MarketFigures.figures r, s.length ≤ greatestText

/-- All figures of a record are published. -/
def IsFigured {α : Type} [MarketFigures α] (r : α) : Prop :=
  ∀ s ∈ MarketFigures.figures r, IsPublished s

/-- A record that can be seen from the other side. -/
structure CanBeInverted {α : Type} [MarketRecord α] [MarketFigures α] (r : α) : Prop where
  /-- No fault is found in it. -/
  faultless : (MarketRecord.inverse r).Faultless
  /-- There is an inverse if no figure is longer than any memory. -/
  inverse : IsShort r → ∃ i, MarketRecord.inverse r = .ok i

/-! ### Figures that are computed

An inverse reads no figures but those of the kinds that it computes anew, and copies the others. -/

/-- The figures that an inverse computes. -/
def LastTrade.computed (r : LastTrade) : List String := [r.price]

/-- The figures that an inverse computes. -/
def DayPrices.computed (r : DayPrices) : List String :=
  [r.oldestPrice, r.newestPrice, r.highestPrice, r.lowestPrice, r.priceChange, r.priceChangePercent]

/-- The figures that an inverse computes, without those of the orders. -/
def Orderbook.computed (r : Orderbook) : List String :=
  [r.highestBid, r.lowestAsk, r.newestPrice, r.high, r.low, r.priceChange, r.priceChangePercent]

namespace LastTrade

variable {r i : LastTrade}

/-- Whatever the figures of a record are, what is computed of them is published. -/
theorem isPublished_computed (h : r.inverse = .ok i) : ∀ s ∈ i.computed, IsPublished s := by
  simp only [inverse, reciprocalFigure, Run.bind_ok_iff, Run.pure_eq_ok, Except.ok.injEq] at h
  obtain ⟨p, ⟨_, -, _, -, hp⟩, rfl⟩ := h
  simp [computed, isPublished_of_figure hp]

/-- A figure of the inverse was computed, or taken from the record. -/
theorem figures_of_inverse (h : r.inverse = .ok i) :
    ∀ s ∈ MarketFigures.figures i, s ∈ i.computed ∨ s ∈ MarketFigures.figures r := by
  obtain ⟨p, -, h⟩ := Run.bind_ok_iff.1 h
  cases h
  simp [MarketFigures.figures, computed]

/-- A last trade can be inverted, if the figures that are read are published and short. -/
theorem gives_inverse_of_computed (h : ∀ s ∈ r.computed, IsPublished s) :
    Gives (IsShort r) (fun _ => True) r.inverse := by
  unfold inverse
  refine (gives_reciprocalFigure (h _ List.mem_cons_self) fun hc => ?_).bind
    fun price _ => gives_ok trivial
  exact hc _ List.mem_cons_self

end LastTrade

namespace DayPrices

variable {r i : DayPrices}

/-- Whatever the figures of a record are, what is computed of them is published. -/
theorem isPublished_computed (h : r.inverse = .ok i) : ∀ s ∈ i.computed, IsPublished s := by
  simp only [inverse, reciprocalFigure, changeFigures, Run.bind_ok_iff, Run.pure_eq_ok,
    Except.ok.injEq] at h
  obtain ⟨_, -, _, -, _, -, _, -, _, ⟨_, -, f₁, h₁, f₂, h₂, rfl⟩, f₃, h₃, f₄, h₄,
    f₅, ⟨_, -, _, -, h₅⟩, f₆, ⟨_, -, _, -, h₆⟩, rfl⟩ := h
  simp [computed, isPublished_of_figure h₁, isPublished_of_figure h₂, isPublished_of_figure h₃,
    isPublished_of_figure h₄, isPublished_of_figure h₅, isPublished_of_figure h₆]

/-- A figure of the inverse was computed, or taken from the record. -/
theorem figures_of_inverse (h : r.inverse = .ok i) :
    ∀ s ∈ MarketFigures.figures i, s ∈ i.computed ∨ s ∈ MarketFigures.figures r := by
  simp only [inverse, Run.bind_ok_iff, Run.pure_eq_ok, Except.ok.injEq] at h
  obtain ⟨_, -, _, -, _, -, _, -, _, -, _, -, _, -, _, -, _, -, rfl⟩ := h
  simp [MarketFigures.figures, computed]

/-- The prices of a day can be inverted, if the figures that are read are published and short. -/
theorem gives_inverse_of_computed (h : ∀ s ∈ r.computed, IsPublished s) :
    Gives (IsShort r) (fun _ => True) r.inverse := by
  have short : ∀ s ∈ MarketFigures.figures r, IsShort r → s.length ≤ greatestText :=
    fun s hs hc => hc s hs
  simp only [MarketFigures.figures, computed, List.forall_mem_cons] at h short
  obtain ⟨ho, hn, hh, hl, -⟩ := h
  obtain ⟨so, sn, sh, sl, -⟩ := short
  unfold inverse
  refine (gives_readFigure ho so).bind fun o ho' => ?_
  refine (gives_reciprocal ho' (by decide) (by decide)).bind fun oldest holdest => ?_
  refine (gives_readFigure hn sn).bind fun n hn' => ?_
  refine (gives_reciprocal hn' (by decide) (by decide)).bind fun newest hnewest => ?_
  refine (gives_changeFigures holdest hnewest (by decide) (by decide)).bind fun change _ => ?_
  refine (gives_figure holdest (by decide)).bind fun _ _ => ?_
  refine (gives_figure hnewest (by decide)).bind fun _ _ => ?_
  refine (gives_reciprocalFigure hl sl).bind fun _ _ => ?_
  exact (gives_reciprocalFigure hh sh).bind fun _ _ => gives_ok trivial

end DayPrices

namespace Orderbook

variable {r i : Orderbook}

/-- Whatever the figures of a book are, what is computed of them is published. -/
theorem isPublished_computed (h : r.inverse = .ok i) : ∀ s ∈ i.computed, IsPublished s := by
  simp only [inverse, reciprocalFigure, changeFigures, Run.bind_ok_iff, Run.pure_eq_ok,
    Except.ok.injEq] at h
  obtain ⟨_, -, _, -, _, -, _, -, _, ⟨_, -, f₁, h₁, f₂, h₂, rfl⟩, _, -, _, -, f₃, ⟨_, -, _, -, h₃⟩,
    f₄, ⟨_, -, _, -, h₄⟩, f₅, ⟨_, -, _, -, h₅⟩, f₆, ⟨_, -, _, -, h₆⟩, f₇, h₇, rfl⟩ := h
  simp [computed, isPublished_of_figure h₁, isPublished_of_figure h₂, isPublished_of_figure h₃,
    isPublished_of_figure h₄, isPublished_of_figure h₅, isPublished_of_figure h₆,
    isPublished_of_figure h₇]

/-- The orders of an inverse are those of the other side. -/
theorem orders_of_inverse (h : r.inverse = .ok i) :
    BookEntry.inverses r.asks = .ok i.bids ∧ BookEntry.inverses r.bids = .ok i.asks := by
  simp only [inverse, Run.bind_ok_iff, Run.pure_eq_ok, Except.ok.injEq] at h
  obtain ⟨_, -, _, -, _, -, _, -, _, -, bids, hb, asks, ha, _, -, _, -, _, -, _, -, _, -, rfl⟩ := h
  exact ⟨hb, ha⟩

/-- A total of the inverse was computed, or taken from the book. -/
theorem totals_of_inverse (h : r.inverse = .ok i) :
    ∀ s ∈ i.totals, s ∈ i.computed ∨ s ∈ r.totals := by
  simp only [inverse, Run.bind_ok_iff, Run.pure_eq_ok, Except.ok.injEq] at h
  obtain ⟨_, -, _, -, _, -, _, -, _, -, _, -, _, -, _, -, _, -, _, -, _, -, _, -, rfl⟩ := h
  simp [totals, computed]

/-- A book can be inverted, if the figures that are read are published and short. -/
theorem gives_inverse_of_computed (h : ∀ s ∈ r.computed, IsPublished s)
    (hbids : ∀ s ∈ BookEntry.figures r.bids, IsPublished s)
    (hasks : ∀ s ∈ BookEntry.figures r.asks, IsPublished s) :
    Gives (IsShort r) (fun _ => True) r.inverse := by
  have short : ∀ s ∈ r.totals, IsShort r → s.length ≤ greatestText :=
    fun s hs hc => hc s (List.mem_append_left _ hs)
  have sbids : IsShort r → ∀ s ∈ BookEntry.figures r.bids, s.length ≤ greatestText :=
    fun hc s hs => hc s (List.mem_append_right _ (List.mem_append_left _ hs))
  have sasks : IsShort r → ∀ s ∈ BookEntry.figures r.asks, s.length ≤ greatestText :=
    fun hc s hs => hc s (List.mem_append_right _ (List.mem_append_right _ hs))
  simp only [totals, computed, List.forall_mem_cons] at h short
  obtain ⟨hhb, hla, hn, hhi, hlo, hch, -⟩ := h
  obtain ⟨shb, sla, -, -, -, -, -, -, -, -, -, sn, shi, slo, sch, -⟩ := short
  unfold inverse
  refine (gives_readFigure hn sn).bind fun known hknown => ?_
  refine (gives_readFigure hch sch).bind fun c hchange => ?_
  have holdest : IsShort r → (known - c).Within (3 * greatestText + 1) :=
    fun hc => (hknown hc).sub (hchange hc)
  refine (gives_reciprocal hknown (by decide) (by decide)).bind fun newest hnewest => ?_
  refine (gives_reciprocal holdest (by decide) (by decide)).bind fun oldest holdest => ?_
  have hnew : IsShort r → newest.Within (3 * (3 * greatestText + 1) + 101) :=
    fun hc => (hnewest hc).mono (by decide)
  refine (gives_changeFigures holdest hnew (by decide) (by decide)).bind fun change _ => ?_
  refine (BookEntry.gives_inverses hasks sasks).bind fun _ _ => ?_
  refine (BookEntry.gives_inverses hbids sbids).bind fun _ _ => ?_
  refine (gives_reciprocalFigure hla sla).bind fun _ _ => ?_
  refine (gives_reciprocalFigure hhb shb).bind fun _ _ => ?_
  refine (gives_reciprocalFigure hlo slo).bind fun _ _ => ?_
  refine (gives_reciprocalFigure hhi shi).bind fun _ _ => ?_
  exact (gives_figure hnewest (by decide)).bind fun _ _ => gives_ok trivial

end Orderbook

/-! ### Records whose figures are published -/

/-- A last trade with published figures has an inverse with published figures. -/
theorem LastTrade.gives_inverse {r : LastTrade} (h : IsFigured r) :
    Gives (IsShort r) IsFigured r.inverse := by
  have hgives : Gives (IsShort r) (fun _ => True) r.inverse := by
    apply gives_inverse_of_computed
    unfold IsFigured at h
    simp only [MarketFigures.figures, List.forall_mem_cons] at h
    simp [computed, h]
  refine ⟨hgives.faultless, fun i hi s hs => ?_, hgives.value⟩
  exact (figures_of_inverse hi s hs).elim (isPublished_computed hi s) (h s)

theorem DayPrices.gives_inverse {r : DayPrices} (h : IsFigured r) :
    Gives (IsShort r) IsFigured r.inverse := by
  have hgives : Gives (IsShort r) (fun _ => True) r.inverse := by
    apply gives_inverse_of_computed
    unfold IsFigured at h
    simp only [MarketFigures.figures, List.forall_mem_cons] at h
    simp [computed, h]
  refine ⟨hgives.faultless, fun i hi s hs => ?_, hgives.value⟩
  exact (figures_of_inverse hi s hs).elim (isPublished_computed hi s) (h s)

theorem Volume.gives_inverse {r : Volume} (h : IsFigured r) :
    Gives (IsShort r) IsFigured (MarketRecord.inverse r) := by
  refine gives_ok ?_
  unfold IsFigured at h ⊢
  simp only [MarketFigures.figures, List.forall_mem_cons] at h
  simp [MarketFigures.figures, Volume.flip, h]

theorem Orderbook.gives_inverse {r : Orderbook} (h : IsFigured r) :
    Gives (IsShort r) IsFigured r.inverse := by
  have htotals : ∀ s ∈ r.totals, IsPublished s := fun s hs => h s (List.mem_append_left _ hs)
  have hgives : Gives (IsShort r) (fun _ => True) r.inverse := by
    apply gives_inverse_of_computed
    · simp only [totals, List.forall_mem_cons] at htotals
      simp [computed, htotals]
    · exact fun s hs => h s (List.mem_append_right _ (List.mem_append_left _ hs))
    · exact fun s hs => h s (List.mem_append_right _ (List.mem_append_right _ hs))
  refine ⟨hgives.faultless, fun i hi => ?_, hgives.value⟩
  obtain ⟨hbids, hasks⟩ := orders_of_inverse hi
  refine forall_figures (fun s hs => ?_) (BookEntry.isPublished_of_inverses hbids)
    (BookEntry.isPublished_of_inverses hasks)
  exact (totals_of_inverse hi s hs).elim (isPublished_computed hi s) (htotals s)

end SwapMarket
