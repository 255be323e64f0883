import SwapMarket.Proofs.Board.Books
import SwapMarket.Proofs.Board.SoundSnapshots
import SwapMarket.Proofs.Market.RepeatedFigures

/-!
# Figures that are carried over

An orderbook repeats the volume and the prices that the views of the day hold under the identifier
of its market, and shows none where they hold none (**`Orderbook.ShowsVolume`**,
**`Orderbook.ShowsPrices`**, `Orderbook.shows_of_project`). The views hold a market in the
orientation that it had when they were built (`mem_keys_volumes_iff`). The prices of the coins
decide on it and can change in the meantime. Then the views hold the market under the identifier of
the other side, which no orderbook looks up.

Main statement: **`figures_carried_over`**.
-/

namespace SwapMarket

/-! ## Views of the day -/

namespace Board

variable {b : Board}

/-- The volumes are those of the markets that were candidates when they were built. -/
theorem mem_keys_volumes_iff {days : Int} {x : Context} {vols : Table Volume}
    (hx : b.context = .ok x) (h : b.produceVolumes days = .ok vols) (k : String) :
    (vols.find? k).isSome = true ↔ k ∈ x.candidates.map Pair.ofSides := by
  unfold produceVolumes at h
  simp only [Run.bind_ok_iff, hx, Except.ok.injEq] at h
  obtain ⟨_, rfl, ss, -, h⟩ := h
  exact find?_isSome_recordTable_iff h k

/-- The prices of the day are those of the markets that were candidates when they were built. -/
theorem mem_keys_dayPrices_iff {x : Context} {prices : Table DayPrices}
    (hx : b.context = .ok x) (h : b.produceDayPrices = .ok prices) (k : String) :
    (prices.find? k).isSome = true ↔ k ∈ x.candidates.map Pair.ofSides := by
  unfold produceDayPrices at h
  simp only [Run.bind_ok_iff, hx, Except.ok.injEq] at h
  obtain ⟨_, rfl, ss, -, h⟩ := h
  exact find?_isSome_recordTable_iff h k

/-- Orderbooks are made of last trades, prices and volumes that are there. -/
theorem inputs_of_produceOrderbooks {t : Table Orderbook}
    (h : b.produceOrderbooks.outcome.1 = .ok t) :
    ∃ (x : Context) (prices : Table DayPrices) (vols : Table Volume), b.context = .ok x ∧
      b.slots .lastTrades = some x.lastTrades ∧ b.slots .dayPrices = some prices ∧
      b.slots .dayVolumes = some vols ∧
      x.candidates.Sublist (x.lastTrades.values.map LastTrade.sides) ∧
      recordTable x.candidates (b.bookOn x prices vols) = .ok t := by
  rw [outcome_produceOrderbooks] at h
  simp only [Run.bind_ok_iff, require_ok_iff] at h
  obtain ⟨x, hx, prices, hprices, vols, hvols, htable⟩ := h
  have hlast : b.slots .lastTrades = some x.lastTrades ∧
      x.candidates.Sublist (x.lastTrades.values.map LastTrade.sides) := by
    unfold context at hx
    simp only [Run.bind_ok_iff, require_ok_iff, Run.pure_eq_ok, Except.ok.injEq] at hx
    obtain ⟨entries, -, last, hlast, ms, hms, rfl⟩ := hx
    exact ⟨hlast, sublist_candidates hms⟩
  exact ⟨x, prices, vols, hx, hlast.1, hprices, hvols, hlast.2, htable⟩

end Board

/-- A record under the identifier of a market that can be named is of this market. -/
theorem IsSound.sides_eq {α : Type} [MarketFigures α] {base quote : String} {r : α}
    (h : IsSound (Pair.join base quote) r) (hb : Pair.IsSide base) (hq : Pair.IsSide quote) :
    MarketFigures.base r = base ∧ MarketFigures.quote r = quote := by
  have hcount := Pair.count_join_eq_one_iff.2 ⟨hb, hq⟩
  rw [h.market] at hcount
  exact Pair.join_inj (Pair.count_join_eq_one_iff.1 hcount).1 hb h.market.symm

/-! ## What orderbooks show -/

/-- Whatever states a program has gone through, orderbooks are made of last trades, prices and
volumes such that:

* the book of a market whose orders are projected is published under the identifier of the market,
  with the volume and the prices that the views hold under this identifier, and with none if they
  hold none there, whatever they hold of the other side;
* what the views hold under the identifier of a market has its base and its quote;
* a view that was built earlier holds what was a candidate then, in the orientation of then. -/
theorem figures_carried_over (item : Nat → Item) {seen : List Board} {s : Calls item}
    (h : Reaches seen s) {b : Board} (hb : b.Recalls (s.board :: seen)) {t : Table Orderbook}
    (ht : b.produceOrderbooks.outcome.1 = .ok t) :
    ∃ (x : Board.Context) (prices : Table DayPrices) (vols : Table Volume), b.context = .ok x ∧
      b.slots .dayPrices = some prices ∧ b.slots .dayVolumes = some vols ∧
      (∀ m ∈ x.candidates, ∀ r, Orderbook.project x.catalogue m.1 m.2 (b.quotedBook m.1 m.2)
          (viewsOf prices vols x.lastTrades m) b.now = .ok r →
        t.find? (Pair.ofSides m) = some r ∧
          r.ShowsVolume ((vols.find? (Pair.ofSides m)).getD (.blank m.1 m.2)) ∧
          r.ShowsPrices ((prices.find? (Pair.ofSides m)).getD (.blank m.1 m.2))) ∧
      (∀ base quote, Pair.IsSide base → Pair.IsSide quote →
        (∀ v, vols.find? (Pair.join base quote) = some v → v.base = base ∧ v.quote = quote) ∧
        ∀ p, prices.find? (Pair.join base quote) = some p → p.base = base ∧ p.quote = quote) ∧
      ∀ (earlier : Board) (y : Board.Context), earlier.context = .ok y → ∀ k,
        (earlier.produceVolumes 1 = .ok vols →
          ((vols.find? k).isSome = true ↔ k ∈ y.candidates.map Pair.ofSides)) ∧
        (earlier.produceDayPrices = .ok prices →
          ((prices.find? k).isSome = true ↔ k ∈ y.candidates.map Pair.ofSides)) := by
  obtain ⟨hstate, hseen⟩ := h.isSound
  have hsound : b.slots.IsSound := hb.isSound (List.forall_mem_cons.2 ⟨hstate.slots, hseen⟩)
  obtain ⟨x, prices, vols, hx, hlast, hprices, hvols, hcandidates, htable⟩ :=
    Board.inputs_of_produceOrderbooks ht
  have hnamed : AreNamed x.lastTrades := fun k r hr => (hsound .lastTrades _ hlast k r hr).market
  have hids : (x.candidates.map Pair.ofSides).Nodup := hnamed.nodup_ids hcandidates
  refine ⟨x, prices, vols, hx, hprices, hvols, ?_, ?_, ?_⟩
  · intro m hm r hr
    obtain ⟨r', hfound, hbook⟩ := find?_recordTable hids htable hm
    unfold Board.bookOn Board.bookRecord at hbook
    rw [hr] at hbook
    obtain rfl : r = r' := Except.ok.inj hbook
    exact ⟨hfound, Orderbook.shows_of_project hr⟩
  · intro base quote hbase hquote
    refine ⟨fun v hv => ?_, fun p hp => ?_⟩
    · exact (hsound .dayVolumes vols hvols _ v hv).sides_eq hbase hquote
    · exact (hsound .dayPrices prices hprices _ p hp).sides_eq hbase hquote
  · intro earlier y hy k
    exact ⟨fun hv => Board.mem_keys_volumes_iff hy hv k,
      fun hp => Board.mem_keys_dayPrices_iff hy hp k⟩

/-! ## A market that turns round -/

namespace Turning

/-- The settings of a program whose services are on its own machine. -/
def settings : Settings :=
  { (default : Settings) with
    itemFolder := "cache"
    replicaFolder := "DB"
    netids := [7777]
    coinEntriesUrl := "http://[::1]/entries"
    priceService := "http://[::1]"
    marketDays := 1 }

/-- A disk with one replica, in which there is a swap of KMD for LTC. -/
def disk : Disk :=
  ⟨[(["DB"], .folder), (["DB", "7777"], .folder), (["DB", "7777", "MM2.db"], .replica
    [⟨.text "a", .text "KMD", .text "LTC", .text "1", .text "2", .null, .integer 100000,
      .integer 1⟩])]⟩

/-- Services that know the two coins, and the price of KMD. -/
def network : Network :=
  ⟨true, .ofList [("http://[::1]/entries", ⟨200,
      "\x7b\"KMD\":\x7b\"coingecko_id\":\"k\"\x7d,\"LTC\":\x7b\x7d\x7d", 0, false⟩),
    ("http://[::1]/coins/list", ⟨200, "[\x7b\"id\":\"k\"\x7d]", 0, false⟩),
    ("http://[::1]/coins/markets?vs_currency=usd&ids=k&per_page=1&page=1", ⟨200,
      "[\x7b\"id\":\"k\",\"current_price\":2,\"market_cap\":9\x7d]", 0, false⟩)]⟩

/-- A program that has built nothing yet. -/
def board : Board := .start settings .empty disk network 150000

/-- The items that it builds first, while it has no prices of coins. -/
def before : List Item := [.coinEntries, .lastTrades, .dayPrices, .dayVolumes]

/-- The items that it builds then. -/
def after : List Item := [.coinPrices, .lastTrades]

/-- The item of each call. -/
def item (c : Nat) : Item := (before ++ after).getD c .summary

/-- The figures of a market on a board. -/
structure Overview where
  /-- The markets that are shown. -/
  markets : List (String × String)
  /-- The trades that the volumes hold under an identifier. -/
  trades : Option Nat
  /-- The time that the prices hold under it. -/
  time : Option Int
  /-- The trades and the time in the book of the market. -/
  book : Nat × Int
  deriving DecidableEq

/-- The figures of a market and of an identifier, if the book of the market is projected. -/
def overview (b : Board) (m : String × String) (id : String) : Option Overview := do
  let x ← b.context.toOption
  let prices ← b.slots .dayPrices
  let vols ← b.slots .dayVolumes
  let _ ← (Orderbook.project x.catalogue m.1 m.2 (b.quotedBook m.1 m.2)
    (viewsOf prices vols x.lastTrades m) b.now).toOption
  let t ← b.produceOrderbooks.outcome.1.toOption
  let r ← t.find? (Pair.ofSides m)
  return ⟨x.candidates, (vols.find? id).map Volume.trades,
    (prices.find? id).map DayPrices.newestPriceTime, r.trades, r.newestPriceTime⟩

/-- What an overview of a market shows, part by part. -/
theorem overview_eq_some {b : Board} {m : String × String} {id : String} {o : Overview}
    (h : overview b m id = some o) :
    ∃ (x : Board.Context) (prices : Table DayPrices) (vols : Table Volume) (t : Table Orderbook)
      (r : Orderbook), b.context = .ok x ∧ b.slots .dayPrices = some prices ∧
        b.slots .dayVolumes = some vols ∧ b.produceOrderbooks.outcome.1 = .ok t ∧
        (∃ r', Orderbook.project x.catalogue m.1 m.2 (b.quotedBook m.1 m.2)
          (viewsOf prices vols x.lastTrades m) b.now = .ok r') ∧
        t.find? (Pair.ofSides m) = some r ∧
        o = ⟨x.candidates, (vols.find? id).map Volume.trades,
          (prices.find? id).map DayPrices.newestPriceTime, r.trades, r.newestPriceTime⟩ := by
  unfold overview at h
  simp only [bind, pure, Option.bind_eq_some_iff, Run.toOption_eq_some, Option.some.injEq] at h
  obtain ⟨x, hx, prices, hprices, vols, hvols, r', hr', t, ht, r, hr, ho⟩ := h
  exact ⟨x, prices, vols, t, r, hx, hprices, hvols, ht, ⟨r', hr'⟩, hr, ho.symm⟩

/-- The program after its first builds, and after the others. -/
theorem overviews :
    (∀ a ∈ board.attempts ((List.range 6).map item), a.source.ProducesFitting a.item) ∧
      overview (board.buildInOrder ((List.range 4).map item)) ("KMD", "LTC") "KMD_LTC"
        = some ⟨[("KMD", "LTC")], some 1, some 100000, 1, 100000⟩ ∧
      overview (board.buildInOrder ((List.range 6).map item)) ("LTC", "KMD") "KMD_LTC"
        = some ⟨[("LTC", "KMD")], some 1, some 100000, 0, 0⟩ := by
  decide +kernel

/-- The program gets as far as its builds in this order. -/
theorem reaches {k : Nat} (hk : k ≤ 6) :
    ∃ (seen : List Board) (s : Calls item), Reaches seen s ∧
      s.board = board.buildInOrder ((List.range k).map item) := by
  have hstart : Reaches [] (Calls.start board : Calls item) :=
    .start fun n => by cases n <;> rfl
  refine hstart.inOrder List.nodup_range (fun c _ => rfl) fun a ha => overviews.1 a ?_
  obtain ⟨l, hl⟩ := Nat.exists_eq_add_of_le hk
  rw [hl, List.range_add, List.map_append, Board.attempts_append]
  exact List.mem_append_left _ ha

end Turning

/-- A reachable board in which a book carries over the figures of its market. -/
theorem figures_carried_over_unturned : ∃ (seen : List Board) (s : Calls Turning.item)
    (t : Table Orderbook) (r : Orderbook), Reaches seen s ∧ s.board.Recalls (s.board :: seen) ∧
      s.board.produceOrderbooks.outcome.1 = .ok t ∧ t.find? "KMD_LTC" = some r ∧
      r.trades = 1 ∧ r.newestPriceTime = 100000 := by
  obtain ⟨seen, s, hreach, hboard⟩ := Turning.reaches (k := 4) (by decide)
  have hrecalls : s.board.Recalls (s.board :: seen) := fun n v hv =>
    ⟨s.board, List.mem_cons_self, hv⟩
  obtain ⟨-, ho, -⟩ := Turning.overviews
  rw [← hboard] at ho
  obtain ⟨x, prices, vols, t, r, hx, hprices, hvols, ht, ⟨r', hr'⟩, hr, ho⟩ :=
    Turning.overview_eq_some ho
  obtain ⟨x', prices', vols', hx', hprices', hvols', hshown, -, -⟩ :=
    figures_carried_over Turning.item hreach hrecalls ht
  obtain rfl : x = x' := Except.ok.inj (hx.symm.trans hx')
  obtain rfl : prices = prices' := Option.some.inj (hprices.symm.trans hprices')
  obtain rfl : vols = vols' := Option.some.inj (hvols.symm.trans hvols')
  injection ho with hms htrades htime
  obtain ⟨hfound, hvolume, hprice⟩ := hshown ("KMD", "LTC") (hms ▸ List.mem_singleton.2 rfl) r' hr'
  obtain ⟨v, hv, hvtrades⟩ := Option.map_eq_some_iff.1 htrades.symm
  obtain ⟨p, hp, hptime⟩ := Option.map_eq_some_iff.1 htime.symm
  have hv' : vols.find? (Pair.ofSides ("KMD", "LTC")) = some v := hv
  have hp' : prices.find? (Pair.ofSides ("KMD", "LTC")) = some p := hp
  rw [hv'] at hvolume
  rw [hp'] at hprice
  exact ⟨seen, s, t, r', hreach, hrecalls, ht, hfound, hvolume.trades.trans hvtrades,
    hprice.time.trans hptime⟩

/-- The views of the day hold a market, the prices of the coins turn it round, and its book shows
none of its figures. -/
theorem figures_carried_over_unless_turned : ∃ (seen : List Board) (s : Calls Turning.item)
    (x : Board.Context) (prices : Table DayPrices) (vols : Table Volume) (t : Table Orderbook)
    (r : Orderbook), Reaches seen s ∧ s.board.context = .ok x ∧ ("LTC", "KMD") ∈ x.candidates ∧
      s.board.slots .dayPrices = some prices ∧ s.board.slots .dayVolumes = some vols ∧
      (∃ r', Orderbook.project x.catalogue "LTC" "KMD" (s.board.quotedBook "LTC" "KMD")
        (viewsOf prices vols x.lastTrades ("LTC", "KMD")) s.board.now = .ok r') ∧
      (vols.find? "KMD_LTC").map Volume.trades = some 1 ∧
      (prices.find? "KMD_LTC").map DayPrices.newestPriceTime = some 100000 ∧
      s.board.produceOrderbooks.outcome.1 = .ok t ∧ t.find? "LTC_KMD" = some r ∧
      r.trades = 0 ∧ r.newestPriceTime = 0 := by
  obtain ⟨seen, s, hreach, hboard⟩ := Turning.reaches (k := 6) le_rfl
  obtain ⟨-, -, ho⟩ := Turning.overviews
  rw [← hboard] at ho
  obtain ⟨x, prices, vols, t, r, hx, hprices, hvols, ht, hr', hr, ho⟩ :=
    Turning.overview_eq_some ho
  injection ho with hms htrades htime hbook
  injection hbook with hbooktrades hbooktime
  exact ⟨seen, s, x, prices, vols, t, r, hreach, hx, hms ▸ List.mem_singleton.2 rfl, hprices, hvols,
    hr', htrades.symm, htime.symm, ht, hr, hbooktrades.symm, hbooktime.symm⟩

end SwapMarket
