import SwapMarket.Proofs.Decimal.Order
import SwapMarket.Proofs.Decimal.Product
import SwapMarket.Proofs.Market.Books
import SwapMarket.Proofs.Market.OtherSide
import SwapMarket.Proofs.Market.InversePrice
import SwapMarket.Proofs.Sorting
import Mathlib.Data.List.Perm.Basic

/-!
# What an orderbook says of its orders

The book that a quoted book is projected to lists all of its orders, the best price first and orders
at one price as they came (**`Orderbook.IsSideOf`**), and its totals are those of the exact numbers:
nothing is rounded before it is written (**`Orderbook.IsMadeOf`**, `Decimal.IsTenPlaceForm`). So
best prices and totals do not show the order in which the orders came
(`Orderbook.IsMadeOf.overview_eq`).

Main statement: `book_projected`. The projection finds a fault if and only if some value does not
count as a decimal. What it does not find is a scale that leaves its range
(`book_projected_unless_cut`).
-/

namespace SwapMarket

namespace Decimal

variable {x : ℚ} {s t : String}

/-- A text is the ten-place form of a number: it counts units of the tenth place, rounded half to
even. -/
def IsTenPlaceForm (x : ℚ) (s : String) : Prop :=
  ∃ n : ℤ, s = tickText n ∧ IsRounded (x * 10 ^ 10) n

/-- A number has one ten-place form only. -/
theorem IsTenPlaceForm.unique (hs : IsTenPlaceForm x s) (ht : IsTenPlaceForm x t) : s = t := by
  obtain ⟨m, rfl, hm⟩ := hs
  obtain ⟨n, rfl, hn⟩ := ht
  rw [hm.unique hn]

/-- The published text of a decimal is the ten-place form of its value. -/
theorem isTenPlaceForm_published (d : Decimal) : IsTenPlaceForm d.value d.published :=
  ⟨d.ticks, rfl, isRounded_ticks d⟩

theorem isTenPlaceForm_of_figure {d : Decimal} (h : d.figure = .ok s) :
    IsTenPlaceForm d.value s := by
  rw [published_of_figure h]
  exact isTenPlaceForm_published d

/-- A product that is found has the product of the values. -/
theorem value_of_product? {a b p : Decimal} (h : a.product? b = some p) :
    p.value = a.value * b.value := by
  unfold product? inRange? at h
  split at h
  · cases h
    exact value_mul a b
  · cases h

end Decimal

open Decimal (IsTenPlaceForm isTenPlaceForm_published isTenPlaceForm_of_figure publishedZero)

/-! ## Orders by price -/

/-- The published form of an order. -/
def BookEntry.published (o : Order) : BookEntry := ⟨o.price.published, o.baseVolume.published⟩

namespace Order

/-- The exact sum of a volume over orders. -/
def total (volume : Order → Decimal) (os : List Order) : ℚ :=
  (os.map fun o => (volume o).value).sum

/-- A total does not hang on the order of the orders. -/
theorem total_of_perm {volume : Order → Decimal} {os os' : List Order} (h : os'.Perm os) :
    total volume os' = total volume os :=
  (h.map _).sum_eq

/-- Orders in an order of their prices, and those at one price as they came. -/
structure IsSorting (le : ℚ → ℚ → Prop) (os sorted : List Order) : Prop where
  /-- No order is lost or doubled. -/
  perm : sorted.Perm os
  /-- The prices are in order. -/
  pairwise : sorted.Pairwise fun a b => le a.price.value b.price.value
  /-- Orders at one price stay as they came. -/
  stable : ∀ x : ℚ, sorted.filter (fun o => o.price.value = x) =
    os.filter fun o => o.price.value = x

variable {le : ℚ → ℚ → Prop} {os sorted : List Order}

/-- Sorting by price is a sorting, and ties keep their order. -/
theorem isSorting_mergeSort [IsTrans ℚ le] [Std.Total le] (r : Order → Order → Bool)
    (hr : ∀ a b, r a b = true ↔ le a.price.value b.price.value) (os : List Order) :
    IsSorting le os (os.mergeSort r) := by
  have htrans : ∀ a b c, r a b = true → r b c = true → r a c = true := fun a b c hab hbc =>
    (hr a c).2 (trans_of le ((hr a b).1 hab) ((hr b c).1 hbc))
  have htotal : ∀ a b, (r a b || r b a) = true := by
    intro a b
    rw [Bool.or_eq_true, hr, hr]
    exact total_of le _ _
  refine ⟨List.mergeSort_perm os r, ?_, fun x => ?_⟩
  · exact (List.pairwise_mergeSort htrans htotal os).imp fun {a b} hab => (hr a b).1 hab
  · refine filter_mergeSort htrans htotal (fun a b ha hb => ?_) os
    rw [hr, of_decide_eq_true ha, of_decide_eq_true hb]
    exact refl_of le x

/-- Asks are sorted in ascending order. -/
theorem isSorting_ascending (os : List Order) : IsSorting (· ≤ ·) os (ascending os) :=
  isSorting_mergeSort _ (fun _ _ => Decimal.order_ne_gt_iff) os

/-- Bids are sorted in descending order. -/
theorem isSorting_descending (os : List Order) : IsSorting (· ≥ ·) os (descending os) :=
  isSorting_mergeSort (fun a b => Decimal.order b.price a.price != .gt)
    (fun _ _ => Decimal.order_ne_gt_iff) os

/-- The first order after sorting has the best price. -/
theorem IsSorting.head_le [Std.Refl le] (h : IsSorting le os sorted) {o : Order}
    {rest : List Order} (hs : sorted = o :: rest) : ∀ o' ∈ os, le o.price.value o'.price.value := by
  intro o' ho'
  rw [← h.perm.mem_iff, hs] at ho'
  have hpairwise := h.pairwise
  rw [hs, List.pairwise_cons] at hpairwise
  rcases List.mem_cons.1 ho' with rfl | ho'
  · exact refl_of le _
  · exact hpairwise.1 o' ho'

/-- What sorted orders add up to is what the orders add up to. -/
theorem IsSorting.value_sum (h : IsSorting le os sorted) (volume : Order → Decimal) :
    (Decimal.sum (sorted.map volume)).value = total volume os := by
  rw [Decimal.value_sum, List.map_map]
  exact total_of_perm h.perm

/-- Orders in another order are read in that order. -/
theorem perm_of_ofQuotes {qs qs' : List QuotedOrder} {os os' : List Order} (hp : qs'.Perm qs)
    (h : ofQuotes qs = .ok os) (h' : ofQuotes qs' = .ok os') : os'.Perm os := by
  obtain ⟨us, hus, hperm⟩ := List.perm_comp_forall₂ hp (ofQuotes_ok_iff.1 h)
  have hread : us = os' := Except.ok.inj ((ofQuotes_ok_iff.2 hus).symm.trans h')
  rwa [← hread]

end Order

/-- Entries are the published orders. -/
theorem BookEntry.eq_of_ofOrders {os : List Order} {es : List BookEntry}
    (h : BookEntry.ofOrders os = .ok es) : es = os.map BookEntry.published := by
  induction os generalizing es with
  | nil =>
    cases h
    rfl
  | cons o os ih =>
    simp only [ofOrders, ofOrder, Run.bind_ok_iff, Run.pure_eq_ok, Except.ok.injEq] at h
    obtain ⟨e, ⟨p, hp, v, hv, rfl⟩, rest, hrest, rfl⟩ := h
    rw [Decimal.published_of_figure hp, Decimal.published_of_figure hv, ih hrest]
    rfl

namespace Orderbook

/-! ## Sides and totals -/

/-- One side of a book: its orders by price, and the price of the first. -/
structure IsSideOf (le : ℚ → ℚ → Prop) (os : List Order) (entries : List BookEntry)
    (best : String) : Prop where
  /-- All orders are listed by price. -/
  listed : ∃ sorted, Order.IsSorting le os sorted ∧ entries = sorted.map BookEntry.published
  /-- The price of the first, or zero. -/
  first : best = (entries.head?.map (·.price)).getD publishedZero
  /-- It is the best of all prices. -/
  extreme : os ≠ [] →
    ∃ o ∈ os, best = o.price.published ∧ ∀ o' ∈ os, le o.price.value o'.price.value

/-- A book says of orders what they are: their prices and volumes on each side, and exact totals. -/
structure IsMadeOf (c : Catalogue) (base quote : String) (asks bids : List Order)
    (r : Orderbook) : Prop where
  /-- The asks by ascending price. -/
  asksListed : IsSideOf (· ≤ ·) asks r.asks r.lowestAsk
  /-- The bids by descending price. -/
  bidsListed : IsSideOf (· ≥ ·) bids r.bids r.highestBid
  /-- The volume of the asks in the base. -/
  asksBase : IsTenPlaceForm (Order.total (·.baseVolume) asks) r.totalAsksBase
  /-- The volume of the bids in the base. -/
  bidsBase : IsTenPlaceForm (Order.total (·.baseVolume) bids) r.totalBidsBase
  /-- The volume of the asks in the quote. -/
  asksQuote : IsTenPlaceForm (Order.total (·.quoteVolume) asks) r.totalAsksQuote
  /-- The volume of the bids in the quote. -/
  bidsQuote : IsTenPlaceForm (Order.total (·.quoteVolume) bids) r.totalBidsQuote
  /-- The base volume of the asks in dollars. -/
  asksUsd : IsTenPlaceForm (Order.total (·.baseVolume) asks * (c.usdPrice base).value)
    r.totalAsksBaseUsd
  /-- The quote volume of the bids in dollars. -/
  bidsUsd : IsTenPlaceForm (Order.total (·.quoteVolume) bids * (c.usdPrice quote).value)
    r.totalBidsQuoteUsd
  /-- Both together. -/
  liquidity : IsTenPlaceForm (Order.total (·.baseVolume) asks * (c.usdPrice base).value +
    Order.total (·.quoteVolume) bids * (c.usdPrice quote).value) r.liquidityUsd

/-- The best prices of a book and the totals of its orders. -/
def overview (r : Orderbook) : List String :=
  [r.highestBid, r.lowestAsk, r.totalAsksBase, r.totalBidsBase, r.totalAsksQuote, r.totalBidsQuote,
    r.totalAsksBaseUsd, r.totalBidsQuoteUsd, r.liquidityUsd]

variable {c : Catalogue} {base quote : String} {asks bids asks' bids' : List Order}
  {r r' : Orderbook} {now : Int}

section Sides

variable {le : ℚ → ℚ → Prop} {os os' sorted : List Order} {es es' : List BookEntry}
  {best best' : String}

/-- Sorted orders, their entries and the best price are a side of a book. -/
theorem isSideOf_of_ofOrders [Std.Refl le] (h : Order.IsSorting le os sorted)
    (he : BookEntry.ofOrders sorted = .ok es) (hb : bestPrice sorted = .ok best) :
    IsSideOf le os es best := by
  have hentries := BookEntry.eq_of_ofOrders he
  refine ⟨⟨sorted, h, hentries⟩, ?_, fun hne => ?_⟩
  · rw [hentries]
    cases sorted with
    | nil =>
      cases hb
      rfl
    | cons o rest => exact Decimal.published_of_figure hb
  · cases hs : sorted with
    | nil =>
      rw [hs] at h
      exact absurd h.perm.symm.eq_nil hne
    | cons o rest =>
      rw [hs] at hb
      have ho : o ∈ os := by
        rw [← h.perm.mem_iff, hs]
        exact List.mem_cons_self
      exact ⟨o, ho, Decimal.published_of_figure hb, h.head_le hs⟩

/-- A side lists as many orders as there are. -/
theorem IsSideOf.length_eq (h : IsSideOf le os es best) : es.length = os.length := by
  obtain ⟨sorted, hs, hes⟩ := h.listed
  rw [hes, List.length_map, hs.perm.length_eq]

/-- A side without orders lists none, and its best price is zero. -/
theorem IsSideOf.nil (h : IsSideOf le [] es best) : es = [] ∧ best = publishedZero := by
  obtain ⟨sorted, hs, hes⟩ := h.listed
  rw [hs.perm.eq_nil] at hes
  refine ⟨hes, ?_⟩
  rw [h.first, hes]
  rfl

/-- The best price does not hang on the order of the orders. -/
theorem IsSideOf.best_eq [Std.Antisymm le] (h : IsSideOf le os es best)
    (h' : IsSideOf le os' es' best') (hp : os'.Perm os) : best' = best := by
  by_cases hne : os = []
  · subst hne
    rw [hp.eq_nil] at h'
    rw [h.nil.2, h'.nil.2]
  · obtain ⟨o, ho, rfl, hle⟩ := h.extreme hne
    obtain ⟨o', ho', rfl, hle'⟩ := h'.extreme fun he => hne (he ▸ hp).symm.eq_nil
    have hvalue : o'.price.value = o.price.value :=
      antisymm_of le (hle' o (hp.mem_iff.2 ho)) (hle o' (hp.mem_iff.1 ho'))
    have hform := isTenPlaceForm_published o'.price
    rw [hvalue] at hform
    exact hform.unique (isTenPlaceForm_published o.price)

end Sides

/-- A book made of sorted orders says what they are. -/
theorem isMadeOf_of_ofOrders {A B : List Order} (ha : Order.IsSorting (· ≤ ·) asks A)
    (hb : Order.IsSorting (· ≥ ·) bids B) (h : ofOrders c base quote A B now = .ok r) :
    r.IsMadeOf c base quote asks bids := by
  unfold ofOrders at h
  simp only [Run.bind_ok_iff, Run.inRange_ok_iff, Run.pure_eq_ok, Except.ok.injEq] at h
  obtain ⟨au, hau, bu, hbu, bes, hbes, aes, haes, hbid, hhb, lask, hla, f₁, h₁, f₂, h₂, f₃, h₃,
    f₄, h₄, f₅, h₅, f₆, h₆, f₇, h₇, _, -, _, -, rfl⟩ := h
  have haValue := Decimal.value_of_product? hau
  have hbValue := Decimal.value_of_product? hbu
  have hliquidity := isTenPlaceForm_of_figure h₇
  rw [ha.value_sum] at haValue
  rw [hb.value_sum] at hbValue
  rw [Decimal.value_add, haValue, hbValue] at hliquidity
  refine ⟨isSideOf_of_ofOrders ha haes hla, isSideOf_of_ofOrders hb hbes hhb, ?_, ?_, ?_, ?_, ?_,
    ?_, hliquidity⟩
  · exact ha.value_sum (·.baseVolume) ▸ isTenPlaceForm_of_figure h₁
  · exact hb.value_sum (·.baseVolume) ▸ isTenPlaceForm_of_figure h₂
  · exact ha.value_sum (·.quoteVolume) ▸ isTenPlaceForm_of_figure h₃
  · exact hb.value_sum (·.quoteVolume) ▸ isTenPlaceForm_of_figure h₄
  · exact haValue ▸ isTenPlaceForm_of_figure h₅
  · exact hbValue ▸ isTenPlaceForm_of_figure h₆

/-- The figures of other views do not touch what a book says of its orders. -/
theorem IsMadeOf.withFigures (h : r.IsMadeOf c base quote asks bids) (f : Figures) :
    (r.withFigures f).IsMadeOf c base quote asks bids := by
  obtain ⟨prices, volume, last⟩ := f
  obtain ⟨h₁, h₂, h₃, h₄, h₅, h₆, h₇, h₈, h₉⟩ := h
  cases prices <;> cases volume <;> cases last <;>
    exact ⟨h₁, h₂, h₃, h₄, h₅, h₆, h₇, h₈, h₉⟩

/-- What a book says of its orders as a whole does not hang on the order in which they came. -/
theorem IsMadeOf.overview_eq (h : r.IsMadeOf c base quote asks bids)
    (h' : r'.IsMadeOf c base quote asks' bids') (ha : asks'.Perm asks) (hb : bids'.Perm bids) :
    r'.overview = r.overview := by
  obtain ⟨hask, hbid, h₁, h₂, h₃, h₄, h₅, h₆, h₇⟩ := h
  obtain ⟨hask', hbid', h₁', h₂', h₃', h₄', h₅', h₆', h₇'⟩ := h'
  simp only [Order.total_of_perm ha, Order.total_of_perm hb] at h₁' h₂' h₃' h₄' h₅' h₆' h₇'
  unfold overview
  rw [hask.best_eq hask' ha, hbid.best_eq hbid' hb, h₁'.unique h₁, h₂'.unique h₂, h₃'.unique h₃,
    h₄'.unique h₄, h₅'.unique h₅, h₆'.unique h₆, h₇'.unique h₇]

/-- What is projected says what the quoted orders are. -/
theorem isMadeOf_of_project {book : QuotedBook} {f : Figures}
    (h : project c base quote book f now = .ok r) : ∃ asks bids,
      Order.ofQuotes book.asks = .ok asks ∧ Order.ofQuotes book.bids = .ok bids ∧
        r.IsMadeOf c base quote asks bids := by
  simp only [project, Run.bind_ok_iff, Run.pure_eq_ok, Except.ok.injEq, Result.toRun_ok_iff] at h
  obtain ⟨asks, hasks, bids, hbids, r, hr, rfl⟩ := h
  have hmade := isMadeOf_of_ofOrders (Order.isSorting_ascending asks)
    (Order.isSorting_descending bids) hr
  exact ⟨asks, bids, hasks, hbids, hmade.withFigures f⟩

end Orderbook

/-- **The projection of a quoted book** finds a fault if and only if some value of an order does not
count as a decimal; null and a blank text count as zero, and a member that is left out counts as
null. What it makes says of the orders what they are: all of them, by price and at one price as they
came, the best price on each side, and the ten-place forms of the exact totals; best prices and
totals do not show the order in which the orders came. A book whose numbers can be written is
projected. -/
theorem book_projected (c : Catalogue) (base quote : String) (book : QuotedBook)
    (f : Orderbook.Figures) (now : Int) :
    ((∃ fault, Orderbook.project c base quote book f now = Run.fail fault) ↔
      ∃ q ∈ book.asks ++ book.bids, ∃ v ∈ q.values, ∀ d, ¬ v.CountsAs d) ∧
    (∀ fields q, QuotedOrder.ofJson? (.obj fields) = some q →
      ∀ m ∈ [("price", QuotedOrder.price), ("base_max_volume", QuotedOrder.baseVolume),
          ("rel_max_volume", QuotedOrder.quoteVolume)],
        m.2 q = ((fields.find? fun f => f.1 == m.1).map (·.2)).getD .null) ∧
    (∀ r, Orderbook.project c base quote book f now = .ok r → ∃ asks bids,
      List.Forall₂ QuotedOrder.Reads book.asks asks ∧
      List.Forall₂ QuotedOrder.Reads book.bids bids ∧ r.IsMadeOf c base quote asks bids) ∧
    (∀ (book' : QuotedBook) f' now' r r', book'.asks.Perm book.asks → book'.bids.Perm book.bids →
      Orderbook.project c base quote book f now = .ok r →
        Orderbook.project c base quote book' f' now' = .ok r' → r'.overview = r.overview) ∧
    ((∀ t, (c.usdPrice t).Within greatestPlaces) → book.IsSized →
      (∀ q ∈ book.asks ++ book.bids, ∀ v ∈ q.values, ∃ d, v.CountsAs d) →
        ∃ r, Orderbook.project c base quote book f now = .ok r) := by
  refine ⟨?_, fun fields q h => QuotedOrder.member_of_ofJson? h, fun r h => ?_,
    fun book' f' now' r r' hasks hbids h h' => ?_, fun hc hsized hread => ?_⟩
  · have hunreadable : (∃ q ∈ book.asks ++ book.bids, ∃ v ∈ q.values, ∀ d, ¬ v.CountsAs d) ↔
        ¬ book.IsReadable := by
      rw [QuotedBook.isReadable_iff]
      push Not
      rfl
    rw [hunreadable]
    constructor
    · rintro ⟨fault, hfault⟩ hreadable
      exact Orderbook.faultless_project hreadable fault hfault
    · exact Orderbook.project_of_not_isReadable
  · obtain ⟨asks, bids, hasks, hbids, hmade⟩ := Orderbook.isMadeOf_of_project h
    exact ⟨asks, bids, Order.ofQuotes_ok_iff.1 hasks, Order.ofQuotes_ok_iff.1 hbids, hmade⟩
  · obtain ⟨asks, bids, ha, hb, hmade⟩ := Orderbook.isMadeOf_of_project h
    obtain ⟨asks', bids', ha', hb', hmade'⟩ := Orderbook.isMadeOf_of_project h'
    exact hmade.overview_eq hmade' (Order.perm_of_ofQuotes hasks ha ha')
      (Order.perm_of_ofQuotes hbids hb hb')
  · obtain ⟨r, hr, -⟩ := Orderbook.project_ok hc hsized (QuotedBook.isReadable_iff.2 hread)
    exact ⟨r, hr⟩

namespace QuarterPriced

/-- A catalogue of a coin at a quarter of a dollar. -/
def catalogue : Catalogue :=
  ⟨.ofList [("KMD", ⟨"KMD", none, "UTXO", false, false, false, none, ⟨25, 2⟩, .zero⟩)]⟩

/-- No records of other views. -/
def noFigures : Orderbook.Figures := ⟨none, none, none⟩

/-- A book with two asks, the dearer one first, and the cheaper one of a blank volume. -/
def book : QuotedBook :=
  ⟨[⟨.str "2", .str "5", .str "10"⟩, ⟨.str "1", .str " ", .null⟩],
    [⟨.str "0.5", .str "4", .str "2"⟩], none⟩

/-- The asks as they are read. -/
def asks : List Order := [⟨⟨2, 0⟩, ⟨5, 0⟩, ⟨10, 0⟩⟩, ⟨⟨1, 0⟩, .zero, .zero⟩]

/-- The bid as it is read. -/
def bids : List Order := [⟨⟨5, 1⟩, ⟨4, 0⟩, ⟨2, 0⟩⟩]

/-- A book with one ask, whose volume has as many places as 64 bits hold. -/
def cutBook : QuotedBook :=
  ⟨[⟨.str "1", .str "1e-9223372036854775807", .str "1"⟩], [], none⟩

/-- The asks can be read. -/
theorem ofQuotes_asks : Order.ofQuotes book.asks = .ok asks := rfl

theorem ofQuotes_bids : Order.ofQuotes book.bids = .ok bids := rfl

theorem isReadable_book : book.IsReadable := ⟨⟨asks, ofQuotes_asks⟩, bids, ofQuotes_bids⟩

/-- Its numbers can be written. -/
theorem isSized_book : book.IsSized := by
  have hfew : ∀ n < 10 ^ 2, n < 10 ^ greatestPlaces := fun n hn =>
    hn.trans_le (Nat.pow_le_pow_right (by decide) (by decide))
  have hsmall : ∀ o ∈ asks ++ bids, ∀ d ∈ [o.price, o.baseVolume, o.quoteVolume],
      d.coefficient.natAbs < 10 ^ 2 ∧ d.scale.natAbs ≤ 2 := by decide
  have hsized : ∀ o ∈ asks ++ bids, o.IsSized := by
    intro o ho
    have hwithin : ∀ d ∈ [o.price, o.baseVolume, o.quoteVolume], d.Within greatestPlaces := by
      intro d hd
      obtain ⟨hdigits, hplaces⟩ := hsmall o ho d hd
      exact Decimal.Within.mono ⟨hdigits, hplaces⟩ (by decide)
    exact ⟨hwithin _ (by simp), hwithin _ (by simp), hwithin _ (by simp)⟩
  refine ⟨hfew _ (by decide), hfew _ (by decide), fun os h o ho => ?_, fun os h o ho => ?_⟩
  · cases ofQuotes_asks.symm.trans h
    exact hsized o (List.mem_append_left _ ho)
  · cases ofQuotes_bids.symm.trans h
    exact hsized o (List.mem_append_right _ ho)

/-- The prices in dollars can be written. -/
theorem within_usdPrice (t : String) : (catalogue.usdPrice t).Within greatestPlaces := by
  have hcoins : ∀ coin ∈ catalogue.coins.values,
      coin.usdPrice.coefficient.natAbs < 10 ^ 2 ∧ coin.usdPrice.scale.natAbs ≤ 2 := by decide
  refine (Catalogue.within_usdPrice (k := 2) (fun coin hcoin => ?_) t).mono (by decide)
  exact ⟨(hcoins coin hcoin).1, (hcoins coin hcoin).2⟩

end QuarterPriced

open QuarterPriced in
/-- The dearer ask comes first in the quoted book, and last in the book made of it. -/
theorem book_projected_dearFirst : ∃ r,
    Orderbook.project catalogue "KMD" "LTC" book noFigures 0 = .ok r ∧
      r.asks = [⟨"1.0000000000", "0.0000000000"⟩, ⟨"2.0000000000", "5.0000000000"⟩] ∧
      r.lowestAsk = "1.0000000000" ∧ r.totalAsksBaseUsd = "1.2500000000" := by
  obtain ⟨-, -, hmade, -, hbuilt⟩ := book_projected catalogue "KMD" "LTC" book noFigures 0
  obtain ⟨r, hr⟩ := hbuilt within_usdPrice isSized_book
    (QuotedBook.isReadable_iff.1 isReadable_book)
  obtain ⟨as, bids, ha, -, hr'⟩ := hmade r hr
  cases ofQuotes_asks.symm.trans (Order.ofQuotes_ok_iff.2 ha)
  obtain ⟨sorted, hsorted, hasks⟩ := hr'.asksListed.listed
  have hlisted : sorted = asks.reverse := by
    refine List.Perm.eq_of_pairwise (fun a b ha hb hab hba => ?_) hsorted.pairwise ?_
      (hsorted.perm.trans (List.reverse_perm asks).symm)
    · rw [hsorted.perm.mem_iff] at ha
      rw [List.mem_reverse] at hb
      have hprice : a.price.value = b.price.value := le_antisymm hab hba
      rcases List.mem_pair.1 ha with rfl | rfl <;> rcases List.mem_pair.1 hb with rfl | rfl
      all_goals first | rfl | norm_num [Decimal.value] at hprice
    · norm_num [asks, Decimal.value]
  have hpublished : sorted.map BookEntry.published
      = [⟨"1.0000000000", "0.0000000000"⟩, ⟨"2.0000000000", "5.0000000000"⟩] := by
    rw [hlisted]
    decide +kernel
  have husd := hr'.asksUsd
  have hvalue : Order.total (·.baseVolume) asks * (catalogue.usdPrice "KMD").value
      = (⟨125, 2⟩ : Decimal).value := by
    have hprice : catalogue.usdPrice "KMD" = ⟨25, 2⟩ := by decide
    norm_num [hprice, Order.total, asks, Decimal.value, Decimal.zero]
  rw [hvalue] at husd
  have hform : (⟨125, 2⟩ : Decimal).published = "1.2500000000" := by decide +kernel
  refine ⟨r, hr, hasks.trans hpublished, ?_, ?_⟩
  · rw [hr'.asksListed.first, hasks, hpublished]
    rfl
  · rw [← hform]
    exact husd.unique (Decimal.isTenPlaceForm_published _)

open QuarterPriced in
/-- An ask whose volume can be read, but not be counted in dollars: there is neither a book nor a
fault. -/
theorem book_projected_unless_cut :
    (∀ q ∈ cutBook.asks ++ cutBook.bids, ∀ v ∈ q.values, ∃ d, v.CountsAs d) ∧
      (∀ fault, Orderbook.project catalogue "KMD" "LTC" cutBook noFigures 0 ≠ Run.fail fault) ∧
      ∀ r, Orderbook.project catalogue "KMD" "LTC" cutBook noFigures 0 ≠ .ok r := by
  have hread : cutBook.IsReadable := ⟨⟨_, rfl⟩, _, rfl⟩
  have hcut : (Orderbook.project catalogue "KMD" "LTC" cutBook noFigures 0).cut?.isSome = true := by
    decide +kernel
  refine ⟨QuotedBook.isReadable_iff.1 hread, Orderbook.faultless_project hread, fun r hr => ?_⟩
  rw [hr] at hcut
  cases hcut

end SwapMarket
