import SwapMarket.Board.Build
import SwapMarket.Proofs.Market.Inverse

/-!
# Producers give published figures

**`Item.IsSound`** says of the value of an item that its market records are sound and that its
prices and rates are published decimals. Whatever the services answer and the replicas hold, what a
producer makes is sound, provided that the snapshots it copies figures from are sound
(`Board.produce_yields`). Only orderbooks and the summary copy figures; every other producer writes
its own.
-/

namespace SwapMarket

open Decimal (IsPublished isPublished_published)

/-! ## Values of items -/

/-- All prices of coins are published. -/
def CoinPrices.IsSound (t : CoinPrices) : Prop :=
  ∀ k p, t.find? k = some p → IsPublished p.usdPrice ∧ IsPublished p.usdMarketCap

/-- All rates are published. -/
def Rates.IsSound (r : Rates) : Prop := ∀ k s, r.rates.find? k = some s → IsPublished s

/-- The market records of a value are sound, and its prices and rates are published. The words of
other services are left as they are. -/
def Item.IsSound : (n : Item) → n.Value → Prop
  | .coinEntries, _ => True
  | .listedCoins, _ => True
  | .coinPrices, (t : CoinPrices) => t.IsSound
  | .rates, (r : Rates) => r.IsSound
  | .spotPrices, _ => True
  | .lastTrades, (t : Table LastTrade) => t.IsSound
  | .dayPrices, (t : Table DayPrices) => t.IsSound
  | .dayVolumes, (t : Table Volume) => t.IsSound
  | .fortnightVolumes, (t : Table Volume) => t.IsSound
  | .orderbooks, (t : Table Orderbook) => t.IsSound
  | .summary, (s : Summary) => ∀ f ∈ s.figures, IsPublished f

/-- All snapshots are sound. -/
def Slots.IsSound (slots : Slots) : Prop := ∀ n v, slots n = some v → n.IsSound v

/-- Prices of coins have published figures. -/
theorem coinPrices_isSound (qs : List PriceQuote) : (coinPrices qs).IsSound := by
  intro k p hp
  have hm := Table.mem_of_mem_ofList (Table.find?_eq_some_iff.1 hp)
  obtain ⟨q, -, hq⟩ := List.mem_map.1 hm
  obtain ⟨-, rfl⟩ := Prod.mk.inj hq
  exact ⟨isPublished_published _, isPublished_published _⟩

/-- Rates against the dollar are published, those of the base and of the dollar included. -/
theorem Rates.isPublished_rebase {base : String} {dollars : Decimal} {rates : Table Number}
    {k s : String} (h : (rebase base dollars rates).find? k = some s) : IsPublished s := by
  unfold rebase at h
  rw [Table.find?_insert] at h
  split at h
  · cases h
    exact isPublished_published _
  rw [Table.find?_insert] at h
  split at h
  · cases h
    exact isPublished_published _
  have hm := Table.find?_eq_some_iff.1 h
  rw [Table.entries_map] at hm
  obtain ⟨e, -, he⟩ := List.mem_map.1 hm
  obtain ⟨-, rfl⟩ := Prod.mk.inj he
  exact isPublished_published _

/-- Rates that the service answers have published figures. -/
theorem Rates.isSound_of_ofAnswer {a : RatesAnswer} {r : Rates} (h : ofAnswer a = .ok r) :
    r.IsSound := by
  unfold ofAnswer at h
  split at h
  · split at h <;> cases h
  split at h
  · cases h
  split at h
  · cases h
  simp only at h
  split at h
  · cases h
  cases h
  intro k s hs
  exact isPublished_rebase hs

/-! ## Runs that send requests -/

namespace Asking

variable {α β : Type} {a : Asking α} {p : α → Prop} {q : β → Prop}

/-- Whatever a run gives has a property, whichever requests were sent before. -/
def Yields (a : Asking α) (p : α → Prop) : Prop :=
  ∀ log v log', a.run.run log = (.ok v, log') → p v

/-- Nothing is asked of what a run gives. -/
theorem yields_true (a : Asking α) : a.Yields fun _ => True := fun _ _ _ _ => trivial

/-- A constant that is so is a run that gives nothing else. -/
theorem yields_pure {v : α} (h : p v) : (pure v : Asking α).Yields p := by
  intro log w log' hw
  cases hw
  exact h

/-- A run gives only what its outcome may be. -/
theorem yields_ofRun {r : Run α} (h : ∀ v, r = .ok v → p v) : (ofRun r).Yields p := by
  intro log v log' hv
  exact h v (Prod.mk.inj hv).1

theorem yields_ofResult {r : Result α} (h : ∀ v, r = .ok v → p v) : (ofResult r).Yields p :=
  yields_ofRun fun v hv => h v (Result.toRun_ok_iff.1 hv)

/-- A run of two steps, with the requests before it. -/
theorem run_bind (a : Asking α) (f : α → Asking β) (log : List Request) :
    (a >>= f).run.run log = match a.run.run log with
      | (.ok v, l) => (f v).run.run l
      | (.error s, l) => (.error s, l) := by
  show (ExceptT.bindCont f (a.run.run log).1).run (a.run.run log).2 = _
  generalize a.run.run log = x
  obtain ⟨r, l⟩ := x
  cases r <;> rfl

/-- If the second step gives only what it may from what the first gives, so does the whole run. -/
theorem Yields.bind {f : α → Asking β} (h : a.Yields p) (hf : ∀ v, p v → (f v).Yields q) :
    (a >>= f).Yields q := by
  intro log w log' hw
  rw [run_bind] at hw
  cases hr : a.run.run log with
  | mk r l =>
    rw [hr] at hw
    cases r with
    | error s =>
      cases hw
    | ok v => exact hf v (h log v l hr) l w log' hw

/-- The outcome of a run is what it gives before any other request. -/
theorem Yields.outcome (h : a.Yields p) {v : α} (hv : a.outcome.1 = .ok v) : p v :=
  h [] v a.outcome.2 (Prod.ext hv rfl)

end Asking

open Asking (yields_true yields_pure yields_ofRun yields_ofResult)

/-! ## Producers -/

namespace Board

variable {b : Board}

/-- The producer of prices gives published figures only. -/
theorem produceCoinPrices_yields (b : Board) : b.produceCoinPrices.Yields CoinPrices.IsSound := by
  unfold produceCoinPrices
  refine (yields_true _).bind fun entries _ => ?_
  refine (yields_true _).bind fun listings _ => ?_
  refine (yields_true _).bind fun qs _ => ?_
  exact yields_pure (coinPrices_isSound qs)

theorem produceRates_yields (b : Board) : b.produceRates.Yields Rates.IsSound := by
  unfold produceRates
  split
  · exact yields_ofResult fun r hr => by cases hr
  · refine (yields_true _).bind fun a _ => ?_
    exact yields_ofResult fun r hr => Rates.isSound_of_ofAnswer hr

/-- Last trades are stored under their own identifiers, with published figures. -/
theorem isSound_produceLastTrades {t : Table LastTrade} (h : b.produceLastTrades = .ok t) :
    t.IsSound := by
  unfold produceLastTrades at h
  simp only [Run.bind_ok_iff] at h
  obtain ⟨entries, -, ss, -, h⟩ := h
  exact isSound_of_lastTrades h

theorem isSound_produceDayPrices {t : Table DayPrices} (h : b.produceDayPrices = .ok t) :
    t.IsSound := by
  unfold produceDayPrices at h
  simp only [Run.bind_ok_iff] at h
  obtain ⟨x, -, ss, -, h⟩ := h
  exact isSound_of_recordTable (fun _ _ _ => DayPrices.isSound_of_ofSwaps) h

theorem isSound_produceVolumes {days : Int} {t : Table Volume} (h : b.produceVolumes days = .ok t) :
    t.IsSound := by
  unfold produceVolumes at h
  simp only [Run.bind_ok_iff] at h
  obtain ⟨x, -, ss, -, h⟩ := h
  exact isSound_of_recordTable (fun _ _ _ => Volume.isSound_of_ofSwaps) h

/-- What is required of a board is what is published on it. -/
theorem require_ok_iff {n : Item} {v : n.Value} : b.require n = .ok v ↔ b.slots n = some v := by
  unfold require
  cases b.slots n with
  | none =>
    constructor
    · intro h
      cases h
    · intro h
      cases h
  | some w =>
    constructor
    · intro h
      rw [Except.ok.inj h]
    · intro h
      rw [Option.some.inj h]

/-- The book of a market is sound, also where it cannot be projected. -/
theorem isSound_bookRecord {c : Catalogue} {base quote : String} {book : QuotedBook}
    {f : Orderbook.Figures} {now : Int} {r : Orderbook} (hf : f.IsSound)
    (h : bookRecord c base quote book f now = .ok r) : IsSound (Pair.join base quote) r := by
  unfold bookRecord at h
  split at h
  · cases h
    exact Orderbook.isSound_blank
  · exact Orderbook.isSound_of_project hf h

/-- The records of books have published figures, if those that they carry over have. -/
theorem bookRecords_yields {x : Context} {prices : Table DayPrices} {vols : Table Volume}
    (hp : prices.IsSound) (hv : vols.IsSound) (ms : List (String × String)) :
    (b.bookRecords x prices vols ms).Yields fun rs => ∀ e ∈ rs, IsSound e.1 e.2 := by
  induction ms with
  | nil =>
    refine yields_pure ?_
    intro e he
    cases he
  | cons m ms ih =>
    obtain ⟨base, quote⟩ := m
    unfold bookRecords
    simp only
    refine (yields_true _).bind fun book _ => ?_
    have hf : Orderbook.Figures.IsSound ⟨prices.find? (Pair.join base quote),
        vols.find? (Pair.join base quote), x.lastTrades.find? (Pair.join base quote)⟩ :=
      ⟨fun p h => (hp _ p h).published, fun v h => (hv _ v h).published⟩
    refine (yields_ofRun fun r hr => isSound_bookRecord hf hr).bind fun r hr => ?_
    refine ih.bind fun rs hrs => yields_pure ?_
    intro e he
    rcases List.mem_cons.1 he with rfl | he
    · exact hr
    · exact hrs e he

/-- The producer of books gives published figures from snapshots with published figures. -/
theorem produceOrderbooks_yields (h : b.slots.IsSound) :
    b.produceOrderbooks.Yields Table.IsSound := by
  have hprices : (Asking.ofRun (b.require .dayPrices)).Yields
      fun t : Table DayPrices => t.IsSound :=
    yields_ofRun fun t ht => h .dayPrices t (require_ok_iff.1 ht)
  have hvols : (Asking.ofRun (b.require .dayVolumes)).Yields fun t : Table Volume => t.IsSound :=
    yields_ofRun fun t ht => h .dayVolumes t (require_ok_iff.1 ht)
  unfold produceOrderbooks
  refine (yields_true _).bind fun x _ => ?_
  refine hprices.bind fun prices hp => ?_
  refine hvols.bind fun vols hv => ?_
  exact (bookRecords_yields hp hv x.candidates).bind fun rs hrs =>
    yields_pure (Table.isSound_ofList hrs)

theorem isPublished_produceSummary (h : b.slots.IsSound) {s : Summary}
    (hs : b.produceSummary = .ok s) : ∀ f ∈ s.figures, IsPublished f := by
  unfold produceSummary at hs
  simp only [Run.bind_ok_iff, require_ok_iff] at hs
  obtain ⟨books, hb, last, hl, hs⟩ := hs
  exact Summary.isPublished_of_ofBooks (h .orderbooks books hb) (h .lastTrades last hl) hs

/-- What is produced of sound snapshots is sound, whatever the services answer and the replicas
hold. -/
theorem produce_yields (h : b.slots.IsSound) (n : Item) : (b.produce n).Yields n.IsSound := by
  cases n with
  | coinEntries => exact yields_true _
  | listedCoins => exact yields_true _
  | coinPrices => exact b.produceCoinPrices_yields
  | rates => exact b.produceRates_yields
  | spotPrices => exact yields_true _
  | lastTrades => exact yields_ofRun fun _ => isSound_produceLastTrades
  | dayPrices => exact yields_ofRun fun _ => isSound_produceDayPrices
  | dayVolumes => exact yields_ofRun fun _ => isSound_produceVolumes
  | fortnightVolumes => exact yields_ofRun fun _ => isSound_produceVolumes
  | orderbooks => exact produceOrderbooks_yields h
  | summary => exact yields_ofRun fun _ => isPublished_produceSummary h

/-- With orderbooks and last trades in place, the summary is produced unless there are too many
trades to be counted: no figure of the snapshots is in the way. -/
theorem produceSummary_of_isSound (h : b.slots.IsSound) {books : Table Orderbook}
    {last : Table LastTrade} (hb : b.slots .orderbooks = some books)
    (hl : b.slots .lastTrades = some last) :
    (tradesIn books < 2 ^ 64 → ∃ s, b.produceSummary = .ok s) ∧
      (2 ^ 64 ≤ tradesIn books → b.produceSummary = .error .overflow) := by
  have hs : b.produceSummary = Summary.ofBooks books last b.now := by
    unfold produceSummary
    rw [require_ok_iff.2 hb, require_ok_iff.2 hl]
    rfl
  rw [hs]
  exact Summary.ofBooks_of_isSound (h .orderbooks books hb) (h .lastTrades last hl) b.now

end Board

end SwapMarket
