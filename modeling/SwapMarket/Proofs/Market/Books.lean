import SwapMarket.Proofs.Market.Quotes
import SwapMarket.Proofs.Market.Sized

/-!
# Books that can be projected

A book whose orders can be read is projected without a fault (`Orderbook.faultless_project`), and
one with an order that cannot be read is not projected (`Orderbook.project_of_not_isReadable`). What
can still end the projection is a scale out of its range. If the numbers of the orders and of the
coins can be written (**`QuotedBook.IsSized`**), this does not happen either
(`Orderbook.project_ok`).
-/

namespace SwapMarket

/-- All orders of a book can be read. -/
def QuotedBook.IsReadable (book : QuotedBook) : Prop :=
  (∃ os, Order.ofQuotes book.asks = .ok os) ∧ ∃ os, Order.ofQuotes book.bids = .ok os

/-- An empty book can be read. -/
theorem QuotedBook.isReadable_empty : QuotedBook.empty.IsReadable := ⟨⟨[], rfl⟩, [], rfl⟩

/-- The orders of a book can be read if all their values count as decimals. -/
theorem QuotedBook.isReadable_iff {book : QuotedBook} :
    book.IsReadable ↔ ∀ q ∈ book.asks ++ book.bids, ∀ v ∈ q.values, ∃ d, v.CountsAs d := by
  unfold IsReadable
  rw [Order.exists_ofQuotes_iff, Order.exists_ofQuotes_iff, List.forall_mem_append]

namespace BookEntry

/-- Nothing but a number out of range keeps entries from being made. -/
theorem faultless_ofOrders (os : List Order) : (ofOrders os).Faultless := by
  induction os with
  | nil => exact Run.faultless_ok []
  | cons o os ih =>
    unfold ofOrders ofOrder
    refine Run.Faultless.bind ?_ fun e _ => ih.bind fun es _ => Run.faultless_ok _
    exact (Run.faultless_inRange _).bind fun p _ =>
      (Run.faultless_inRange _).bind fun v _ => Run.faultless_ok _

end BookEntry

namespace Orderbook

variable {c : Catalogue} {base quote : String} {book : QuotedBook} {f : Figures} {now : Int}

/-- Nothing but a number out of range keeps the best price from being written. -/
theorem faultless_bestPrice (os : List Order) : (bestPrice os).Faultless := by
  cases os with
  | nil => exact Run.faultless_ok _
  | cons o os => exact Run.faultless_inRange _

/-- Orders that are read are projected without a fault. -/
theorem faultless_ofOrders (asks bids : List Order) :
    (ofOrders c base quote asks bids now).Faultless := by
  have figure : ∀ d : Decimal, d.figure.Faultless := fun d => Run.faultless_inRange _
  unfold ofOrders
  refine (Run.faultless_inRange _).bind fun _ _ => (Run.faultless_inRange _).bind fun _ _ => ?_
  refine (BookEntry.faultless_ofOrders _).bind fun _ _ => ?_
  refine (BookEntry.faultless_ofOrders _).bind fun _ _ => ?_
  refine (faultless_bestPrice _).bind fun _ _ => (faultless_bestPrice _).bind fun _ _ => ?_
  iterate 9 refine (figure _).bind fun _ _ => ?_
  exact Run.faultless_ok _

/-- A book whose orders can be read is projected without a fault. -/
theorem faultless_project (h : book.IsReadable) : (project c base quote book f now).Faultless := by
  obtain ⟨⟨asks, hasks⟩, bids, hbids⟩ := h
  unfold project
  rw [hasks, hbids]
  exact (faultless_ofOrders _ _).bind fun r _ => Run.faultless_ok _

/-- An order that cannot be read is a fault of its book. -/
theorem project_of_not_isReadable (h : ¬ book.IsReadable) :
    ∃ fault, project c base quote book f now = Run.fail fault := by
  unfold project
  cases hasks : Order.ofQuotes book.asks with
  | error fault => exact ⟨fault, rfl⟩
  | ok asks =>
    cases hbids : Order.ofQuotes book.bids with
    | error fault => exact ⟨fault, rfl⟩
    | ok bids => exact absurd ⟨⟨asks, hasks⟩, bids, hbids⟩ h

end Orderbook

/-! ## Orders of a size that can be written -/

/-- The numbers of an order can be written. -/
structure Order.IsSized (o : Order) : Prop where
  /-- The price. -/
  price : o.price.Within greatestPlaces
  /-- The volume in the base. -/
  base : o.baseVolume.Within greatestPlaces
  /-- The volume in the quote. -/
  quote : o.quoteVolume.Within greatestPlaces

/-- The numbers of all orders that can be read can be written. -/
structure QuotedBook.IsSized (book : QuotedBook) : Prop where
  /-- There are not absurdly many asks. -/
  asksCount : book.asks.length < 10 ^ greatestPlaces
  /-- There are not absurdly many bids. -/
  bidsCount : book.bids.length < 10 ^ greatestPlaces
  /-- The asks. -/
  asks : ∀ os, Order.ofQuotes book.asks = .ok os → ∀ o ∈ os, o.IsSized
  /-- The bids. -/
  bids : ∀ os, Order.ofQuotes book.bids = .ok os → ∀ o ∈ os, o.IsSized

/-- The book without orders. -/
theorem QuotedBook.isSized_empty : QuotedBook.empty.IsSized := by
  refine ⟨Nat.pow_pos (by decide), Nat.pow_pos (by decide), fun os h => ?_, fun os h => ?_⟩
  · cases h
    exact List.forall_mem_nil _
  · cases h
    exact List.forall_mem_nil _

/-- As many orders are read as are quoted. -/
theorem Order.length_of_ofQuotes {qs : List QuotedOrder} {os : List Order}
    (h : Order.ofQuotes qs = .ok os) : os.length = qs.length :=
  (Order.ofQuotes_ok_iff.1 h).length_eq.symm

/-- Orders whose numbers can be written have entries, with figures of moderate length. -/
theorem BookEntry.ofOrders_ok {os : List Order} (h : ∀ o ∈ os, o.IsSized) :
    ∃ es, BookEntry.ofOrders os = .ok es ∧
      ∀ s ∈ BookEntry.figures es, s.length ≤ greatestText := by
  induction os with
  | nil => exact ⟨[], rfl, fun s hs => absurd hs List.not_mem_nil⟩
  | cons o os ih =>
    obtain ⟨ho, hos⟩ := List.forall_mem_cons.1 h
    obtain ⟨es, hes, hshort⟩ := ih hos
    obtain ⟨h₁, l₁⟩ := figure_short ho.price (by decide)
    obtain ⟨h₂, l₂⟩ := figure_short ho.base (by decide)
    unfold ofOrders ofOrder
    rw [h₁, h₂, hes]
    exact ⟨_, rfl, forall_figures_cons.2 ⟨⟨l₁, l₂⟩, hshort⟩⟩

namespace Orderbook

variable {c : Catalogue} {base quote : String} {book : QuotedBook} {f : Figures} {now : Int}

/-- They have a best price of moderate length. -/
theorem bestPrice_ok {os : List Order} (h : ∀ o ∈ os, o.IsSized) :
    ∃ s, bestPrice os = .ok s ∧ s.length ≤ greatestText := by
  cases os with
  | nil => exact ⟨_, rfl, length_publishedZero_le⟩
  | cons o os =>
    obtain ⟨hf, hl⟩ := figure_short (h o List.mem_cons_self).price (by decide)
    exact ⟨_, hf, hl⟩

/-- Orders with numbers that can be written are projected, and the figures are short. -/
theorem ofOrders_ok (hc : ∀ t, (c.usdPrice t).Within greatestPlaces) {asks bids : List Order}
    (ha : ∀ o ∈ asks, o.IsSized) (hb : ∀ o ∈ bids, o.IsSized)
    (hna : asks.length < 10 ^ greatestPlaces) (hnb : bids.length < 10 ^ greatestPlaces) :
    ∃ r, ofOrders c base quote asks bids now = .ok r ∧ IsShort r := by
  have total : ∀ (os : List Order) (volume : Order → Decimal), os.length < 10 ^ greatestPlaces →
      (∀ o ∈ os, (volume o).Within greatestPlaces) →
        (Decimal.sum (os.map volume)).Within (4 * greatestPlaces) := by
    intro os volume hn h
    refine Decimal.within_sum ?_ (by rw [List.length_map]; exact hn)
    intro d hd
    obtain ⟨o, ho, rfl⟩ := List.mem_map.1 hd
    exact h o ho
  have hab := total asks (·.baseVolume) hna fun o ho => (ha o ho).base
  have haq := total asks (·.quoteVolume) hna fun o ho => (ha o ho).quote
  have hbb := total bids (·.baseVolume) hnb fun o ho => (hb o ho).base
  have hbq := total bids (·.quoteVolume) hnb fun o ho => (hb o ho).quote
  have hbase : (c.usdPrice base).Within (4 * greatestPlaces) := (hc base).mono (by decide)
  have hquote : (c.usdPrice quote).Within (4 * greatestPlaces) := (hc quote).mono (by decide)
  have hau := hab.mul hbase
  have hbu := hbq.mul hquote
  obtain ⟨bidEntries, hbe, lbe⟩ := BookEntry.ofOrders_ok hb
  obtain ⟨askEntries, hae, lae⟩ := BookEntry.ofOrders_ok ha
  obtain ⟨bid, hbid, lbid⟩ := bestPrice_ok hb
  obtain ⟨ask, hask, lask⟩ := bestPrice_ok ha
  obtain ⟨h₁, l₁⟩ := figure_short hab (by decide)
  obtain ⟨h₂, l₂⟩ := figure_short hbb (by decide)
  obtain ⟨h₃, l₃⟩ := figure_short haq (by decide)
  obtain ⟨h₄, l₄⟩ := figure_short hbq (by decide)
  obtain ⟨h₅, l₅⟩ := figure_short hau (by decide)
  obtain ⟨h₆, l₆⟩ := figure_short hbu (by decide)
  obtain ⟨h₇, l₇⟩ := figure_short (hau.add hbu) (by decide)
  obtain ⟨h₈, l₈⟩ := figure_short hbase (by decide)
  obtain ⟨h₉, l₉⟩ := figure_short hquote (by decide)
  unfold ofOrders
  simp only [hab.product? hbase (by decide), hbq.product? hquote (by decide), Run.inRange,
    Run.ok_bind, hbe, hae, hbid, hask, h₁, h₂, h₃, h₄, h₅, h₆, h₇, h₈, h₉]
  refine ⟨_, rfl, forall_figures ?_ lbe lae⟩
  simp [totals, blank, length_publishedZero_le, lbid, lask, l₁, l₂, l₃, l₄, l₅, l₆, l₇, l₈, l₉]

/-- The records that a book repeats are short. -/
structure Figures.IsShort (f : Figures) : Prop where
  /-- The prices of the day. -/
  prices : ∀ p, f.prices = some p → SwapMarket.IsShort p
  /-- The volume of the day. -/
  volume : ∀ v, f.volume = some v → SwapMarket.IsShort v

/-- A book with numbers that can be written is projected, or one of its orders cannot be read. Its
figures are short if those that it repeats are. -/
theorem project_ok (hc : ∀ t, (c.usdPrice t).Within greatestPlaces) (hs : book.IsSized)
    (h : book.IsReadable) :
    ∃ r, project c base quote book f now = .ok r ∧ (f.IsShort → IsShort r) := by
  obtain ⟨⟨asks, hasks⟩, bids, hbids⟩ := h
  have hascending := List.mergeSort_perm asks fun a b => Decimal.order a.price b.price != .gt
  have hdescending := List.mergeSort_perm bids fun a b => Decimal.order b.price a.price != .gt
  obtain ⟨r, hr, hshort⟩ : ∃ r, ofOrders c base quote (Order.ascending asks)
      (Order.descending bids) now = .ok r ∧ IsShort r := by
    refine ofOrders_ok hc (fun o ho => ?_) (fun o ho => ?_) ?_ ?_
    · exact hs.asks asks hasks o (hascending.mem_iff.1 ho)
    · exact hs.bids bids hbids o (hdescending.mem_iff.1 ho)
    · rw [Order.ascending, hascending.length_eq, Order.length_of_ofQuotes hasks]
      exact hs.asksCount
    · rw [Order.descending, hdescending.length_eq, Order.length_of_ofQuotes hbids]
      exact hs.bidsCount
  unfold project
  rw [hasks, hbids]
  show ∃ r, (ofOrders c base quote _ _ now >>= _) = .ok r ∧ _
  rw [hr]
  exact ⟨_, rfl, fun hf => forall_withFigures hshort hf.prices hf.volume⟩

/-- Such a book can be seen from the other side. -/
theorem exists_inverse_of_project (hc : ∀ t, (c.usdPrice t).Within greatestPlaces)
    (hs : book.IsSized) (h : book.IsReadable) (hf : f.IsSound) (hshort : f.IsShort) :
    ∃ r i, project c base quote book f now = .ok r ∧ r.inverse = .ok i := by
  obtain ⟨r, hr, hrshort⟩ : ∃ r, project c base quote book f now = .ok r ∧
      (f.IsShort → IsShort r) := project_ok hc hs h
  have hfigured := (isSound_of_project hf hr).published
  obtain ⟨i, hi⟩ := (gives_inverse hfigured).value (hrshort hshort)
  exact ⟨r, i, hr, hi⟩

end Orderbook

end SwapMarket
