import SwapMarket.Proofs.Board.Reach
import SwapMarket.Proofs.Board.Round

/-!
# What every snapshot holds

In every state that the program can get into (**`Reaches`**), what is published is sound: records
are under the identifiers of their markets, their figures are published decimals, they can be seen
from the other side, and the summary can be made of them.

A call that is left alone builds its item (`Reaches.build`), and calls that are left alone one after
the other build theirs in this order (`Reaches.inOrder`): so the states that the builds lead to are
among those that can be reached.

Main statement: `snapshots_are_sound`.
-/

namespace SwapMarket

open Decimal (IsPublished)

/-! ## Builds one after the other -/

namespace Reaches

variable {item : Nat → Item} {seen : List Board} {s : Calls item}

/-- A call that is left alone builds its item. -/
theorem build (h : Reaches seen s) {c : Nat} (hw : s.phase c = .waiting)
    (hfit : s.board.ProducesFitting (item c)) :
    ∃ (seen' : List Board) (s' : Calls item), Reaches seen' s' ∧
      s'.board = (s.board.build (item c)).1 ∧ ∀ d, d ≠ c → s'.phase d = s.phase d := by
  by_cases hs : s.board.starts (item c) = .ok true
  · let r := (s.board.produce (item c)).outcome.1
    have hrecalls : s.board.Recalls ((s.step (.ask c)).board :: s.board :: seen) :=
      fun n v hv => ⟨s.board, by simp, hv⟩
    have hproduced := (h.move (m := .ask c) (by simp)).produce c hrecalls hfit
    have hended := ((hproduced.move (m := .write c none) (by simp)).move (m := .publish c)
      (by simp)).move (m := .finish c) (by simp)
    refine ⟨_, _, hended, ?_, fun d hd => ?_⟩
    · obtain ⟨o, -, hrun⟩ := Calls.runBuild_eq_run hw hs (List.forall_mem_nil _) r
      have hbegun : (s.run [.ask c]).board = s.board.begin (item c) := by
        rw [Calls.run_cons, Calls.run_nil, Calls.step_ask hw hs]
        rfl
      unfold Board.build Board.buildReading
      simp only [Board.runBuild, hs] at hrun ⊢
      rw [hbegun] at hrun
      exact (congrArg Prod.fst hrun).symm
    · have hothers : ∀ m ∈ [.ask c, .produce c r, .write c none, .publish c, .finish c],
          (m : Move item).call? ≠ some d := by
        simp [Move.call?, hd.symm]
      exact Calls.phase_run_of_ne hothers s
  · refine ⟨seen, s, h, ?_, fun d hd => rfl⟩
    unfold Board.build Board.buildReading
    split
    · rfl
    · rfl
    · next he => exact absurd he hs

/-- Calls that are left alone one after the other build their items. -/
theorem inOrder (h : Reaches seen s) {cs : List Nat} (hn : cs.Nodup)
    (hw : ∀ c ∈ cs, s.phase c = .waiting)
    (hfit : ∀ a ∈ s.board.attempts (cs.map item), a.source.ProducesFitting a.item) :
    ∃ (seen' : List Board) (s' : Calls item), Reaches seen' s' ∧
      s'.board = s.board.buildInOrder (cs.map item) := by
  induction cs generalizing seen s with
  | nil => exact ⟨seen, s, h, rfl⟩
  | cons c cs ih =>
    obtain ⟨hc, hcs⟩ := List.nodup_cons.1 hn
    obtain ⟨hfirst, hrest⟩ := List.forall_mem_cons.1 hfit
    obtain ⟨seen', s', h', hboard, hphase⟩ := h.build (hw c List.mem_cons_self) hfirst
    have hw' : ∀ d ∈ cs, s'.phase d = .waiting := by
      intro d hd
      rw [hphase d fun he => hc (he ▸ hd)]
      exact hw d (List.mem_cons_of_mem _ hd)
    obtain ⟨seen'', s'', h'', hboard'⟩ := ih h' hcs hw' (by rw [hboard]; exact hrest)
    refine ⟨seen'', s'', h'', ?_⟩
    rw [hboard', hboard]
    rfl

end Reaches

instance (b : Board) (n : Item) : Decidable (b.ProducesFitting n) :=
  decidable_of_iff (∀ v ∈ (b.produce n).outcome.1.toOption, n.Fits v) <| by
    refine forall_congr' fun v => ?_
    rw [Option.mem_def, Run.toOption_eq_some]

/-! ## Main statement -/

/-- **Every snapshot is sound.** In every state that can be reached:

* each record of a view of the markets is under its identifier, which is made of its base and its
  quote, and its figures are published decimals;
* its inverse finds no fault, and it has a value, with published figures again, unless the figures
  are longer than any memory;
* the prices of coins and the rates are published decimals;
* with orderbooks and last trades that were published at some time, the summary is produced, unless
  64 bits do not hold the number of trades. -/
theorem snapshots_are_sound (item : Nat → Item) {seen : List Board} {s : Calls item}
    (h : Reaches seen s) :
    (∀ (v : Api.MarketView) (t : Table v.Record) (k : String) (r : v.Record),
      v.table? s.board = some t → t.find? k = some r →
        (MarketFigures.tickerId r = k ∧
          k = Pair.join (MarketFigures.base r) (MarketFigures.quote r) ∧
          ∀ f ∈ MarketFigures.figures r, IsPublished f) ∧
        (∀ fault, MarketRecord.inverse r ≠ Run.fail fault) ∧
        ((∀ f ∈ MarketFigures.figures r, f.length ≤ greatestText) →
          ∃ r', MarketRecord.inverse r = .ok r' ∧
            ∀ f ∈ MarketFigures.figures r', IsPublished f)) ∧
    (∀ (t : CoinPrices) (k : String) (p : CoinPrice), s.board.slots .coinPrices = some t →
      t.find? k = some p → IsPublished p.usdPrice ∧ IsPublished p.usdMarketCap) ∧
    (∀ (r : Rates) (k f : String), s.board.slots .rates = some r → r.rates.find? k = some f →
      IsPublished f) ∧
    (∀ (source : Board) (books : Table Orderbook) (last : Table LastTrade),
      source.Recalls (s.board :: seen) → source.slots .orderbooks = some books →
      source.slots .lastTrades = some last →
        (tradesIn books < 2 ^ 64 → ∃ v, source.produceSummary = .ok v) ∧
        (2 ^ 64 ≤ tradesIn books → source.produceSummary = .error .overflow)) := by
  obtain ⟨hs, hseen⟩ := h.isSound
  refine ⟨?_, ?_, ?_, ?_⟩
  · intro v t k r ht hr
    have hsound : IsSound k r := Api.MarketView.isSound_table? hs.slots ht k r hr
    have hinv := Api.MarketView.gives_inverse (v := v) hsound.published
    refine ⟨⟨hsound.tickerId, hsound.market, hsound.published⟩, hinv.faultless, ?_⟩
    intro hshort
    obtain ⟨r', hr'⟩ := hinv.value hshort
    exact ⟨r', hr', hinv.post r' hr'⟩
  · intro t k p ht hp
    exact hs.slots .coinPrices t ht k p hp
  · intro r k f hr hf
    exact hs.slots .rates r hr k f hf
  · intro source books last hsource hbooks hlast
    have hall : ∀ b ∈ s.board :: seen, b.slots.IsSound :=
      List.forall_mem_cons.2 ⟨hs.slots, hseen⟩
    exact Board.produceSummary_of_isSound (hsource.isSound hall) hbooks hlast

namespace OneSwap

/-- The settings of a program whose services are on its own machine. -/
def settings : Settings :=
  { (default : Settings) with
    itemFolder := "cache"
    replicaFolder := "DB"
    netids := [7777]
    coinEntriesUrl := "http://[::1]/entries"
    rateService := "http://[::1]"
    rateKey := "k"
    marketDays := 1 }

/-- A disk with one replica, in which there is a swap of KMD for LTC. -/
def disk : Disk :=
  ⟨[(["DB"], .folder), (["DB", "7777"], .folder), (["DB", "7777", "MM2.db"], .replica
    [⟨.text "a", .text "KMD", .text "LTC", .text "1", .text "2", .null, .integer 100000,
      .integer 1⟩])]⟩

/-- Services that know the two coins and two currencies. -/
def network : Network :=
  ⟨true, .ofList [
    ("http://[::1]/entries", ⟨200, "\x7b\"KMD\":\x7b\x7d,\"LTC\":\x7b\x7d\x7d", 0, false⟩),
    ("http://[::1]/latest?access_key=k", ⟨200,
      "\x7b\"success\":true,\"timestamp\":5,\"rates\":\x7b\"USD\":1,\"GBP\":2\x7d\x7d", 0, false⟩)]⟩

/-- A program that has built nothing yet. -/
def board : Board := .start settings .empty disk network 150000

/-- The items that it builds, up to the orderbooks. -/
def items : List Item := [.rates, .coinEntries, .lastTrades, .dayPrices, .dayVolumes, .orderbooks]

/-- The item of each call. -/
def item (c : Nat) : Item := items.getD c .summary

/-- What it builds has its numbers in their ranges. -/
theorem producesFitting : ∀ a ∈ board.attempts ((List.range 6).map item),
    a.source.ProducesFitting a.item := by
  decide +kernel

/-- The program gets as far as these builds. -/
theorem reaches : ∃ (seen : List Board) (s : Calls item), Reaches seen s ∧
    s.board = board.buildInOrder ((List.range 6).map item) := by
  have hstart : Reaches [] (Calls.start board : Calls item) :=
    .start fun n => by cases n <;> rfl
  exact hstart.inOrder List.nodup_range (fun c _ => rfl) producesFitting

/-- What is published then: the prices of the market, a rate, and the books. -/
theorem published : let b := board.buildInOrder ((List.range 6).map item)
    ((b.slots .dayPrices).bind (·.find? "KMD_LTC")).map
        (fun r => (r.newestPrice, decide (∀ f ∈ MarketFigures.figures r, f.length ≤ 12)))
      = some ("2.0000000000", true) ∧
    (b.slots .rates).bind (·.rates.find? "GBP") = some "2.0000000000" ∧
    (b.slots .lastTrades).isSome = true ∧ (b.slots .orderbooks).map tradesIn = some 1 := by
  decide +kernel

end OneSwap

/-- With one swap in the replica: the prices of its market and their inverse, a rate, and the
summary. -/
theorem snapshots_are_sound_oneSwap : ∃ (seen : List Board) (s : Calls OneSwap.item)
    (t : Table DayPrices) (r i : DayPrices) (rates : Rates), Reaches seen s ∧
      s.board.slots .dayPrices = some t ∧ t.find? "KMD_LTC" = some r ∧
      r.newestPrice = "2.0000000000" ∧ (∀ f ∈ MarketFigures.figures r, IsPublished f) ∧
      r.inverse = .ok i ∧ (∀ f ∈ MarketFigures.figures i, IsPublished f) ∧
      s.board.slots .rates = some rates ∧ rates.rates.find? "GBP" = some "2.0000000000" ∧
      IsPublished "2.0000000000" ∧ ∃ v, s.board.produceSummary = .ok v := by
  obtain ⟨seen, s, hreach, hboard⟩ := OneSwap.reaches
  obtain ⟨hrecord, hrate, hlast, hbooks⟩ := OneSwap.published
  rw [← hboard] at hrecord hrate hlast hbooks
  obtain ⟨r, hr, e⟩ := Option.map_eq_some_iff.1 hrecord
  obtain ⟨t, ht, hr⟩ := Option.bind_eq_some_iff.1 hr
  obtain ⟨hprice, hshort⟩ := Prod.mk.inj e
  obtain ⟨rates, hrates, hrate⟩ := Option.bind_eq_some_iff.1 hrate
  obtain ⟨books, hbooks, hcount⟩ := Option.map_eq_some_iff.1 hbooks
  obtain ⟨last, hlast⟩ := Option.isSome_iff_exists.1 hlast
  obtain ⟨hviews, -, hpublished, hsummary⟩ := snapshots_are_sound OneSwap.item hreach
  obtain ⟨⟨-, -, hfigures⟩, -, hinverse⟩ := hviews .dayPrices t "KMD_LTC" r ht hr
  have hwords : ∀ f ∈ MarketFigures.figures r, f.length ≤ greatestText := fun f hf =>
    (of_decide_eq_true hshort f hf).trans (by decide)
  obtain ⟨i, hi, hifigures⟩ := hinverse hwords
  have hrecalls : s.board.Recalls (s.board :: seen) := fun n v hv =>
    ⟨s.board, List.mem_cons_self, hv⟩
  have hmade := (hsummary s.board books last hrecalls hbooks hlast).1 (by rw [hcount]; decide)
  exact ⟨seen, s, t, r, i, rates, hreach, ht, hr, hprice, hfigures, hi, hifigures, hrates, hrate,
    hpublished rates "GBP" _ hrates hrate, hmade⟩

end SwapMarket
