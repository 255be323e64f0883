import SwapMarket.Api.Answer
import SwapMarket.Proofs.Board.Reach
import SwapMarket.Proofs.Market.Moderate
import SwapMarket.Proofs.Pair

/-!
# What a client gets of a market

A client asks a view for the market of a text. A text that names no market is refused, and nothing
is built. Otherwise the record that the client gets names the market of the text
(`names_recordOf`): the stored one, the one stored for the other side seen from this side, or the
blank one. For this the records of the view have to be stored under their own names
(**`Table.IsNamed`**); their figures can be any texts.

Only one thing keeps a client from getting a record: a stored record of the other side whose inverse
is cut short by a scale out of range (`respond_market_cut_short`). Moderate decimals have no such
inverse.

Main statement: **`respond_market_names`**.
-/

namespace SwapMarket

/-- A record names the market of two tickers. -/
structure Names {α : Type} [MarketFigures α] (base quote : String) (r : α) : Prop where
  /-- The identifier. -/
  tickerId : MarketFigures.tickerId r = Pair.join base quote
  /-- The base. -/
  base : MarketFigures.base r = base
  /-- The quote. -/
  quote : MarketFigures.quote r = quote

/-- Each record is stored under its identifier, which is made of its base and its quote. -/
def Table.IsNamed {α : Type} [MarketFigures α] (t : Table α) : Prop :=
  ∀ k r, t.find? k = some r →
    MarketFigures.tickerId r = k ∧ k = Pair.join (MarketFigures.base r) (MarketFigures.quote r)

/-- A record that is stored under an identifier with one underscore names its market. -/
theorem Table.IsNamed.names {α : Type} [MarketFigures α] {t : Table α} (h : t.IsNamed)
    {base quote : String} {r : α} (hb : Pair.IsSide base) (hq : Pair.IsSide quote)
    (hr : t.find? (Pair.join base quote) = some r) : Names base quote r := by
  obtain ⟨hid, hmarket⟩ := h _ _ hr
  have hcount := Pair.count_join_eq_one_iff.2 ⟨hb, hq⟩
  rw [hmarket] at hcount
  obtain ⟨hside, -⟩ := Pair.count_join_eq_one_iff.1 hcount
  obtain ⟨rfl, rfl⟩ := Pair.join_inj hb hside hmarket
  exact ⟨hid, rfl, rfl⟩

/-! ## Sides of an inverse -/

/-- The names of a record with its sides exchanged. -/
structure IsFlipped {α : Type} [MarketFigures α] (r i : α) : Prop where
  /-- The identifier. -/
  tickerId : MarketFigures.tickerId i = Pair.flip (MarketFigures.tickerId r)
  /-- The base. -/
  base : MarketFigures.base i = MarketFigures.quote r
  /-- The quote. -/
  quote : MarketFigures.quote i = MarketFigures.base r

/-- The inverse of a last trade has base and quote exchanged. -/
theorem LastTrade.isFlipped_inverse {r i : LastTrade} (h : r.inverse = .ok i) : IsFlipped r i := by
  simp only [inverse, Run.bind_ok_iff, Run.pure_eq_ok, Except.ok.injEq] at h
  obtain ⟨_, -, rfl⟩ := h
  exact ⟨rfl, rfl, rfl⟩

/-- The inverse of the prices of a day has base and quote exchanged. -/
theorem DayPrices.isFlipped_inverse {r i : DayPrices} (h : r.inverse = .ok i) : IsFlipped r i := by
  simp only [inverse, Run.bind_ok_iff, Run.pure_eq_ok, Except.ok.injEq] at h
  obtain ⟨_, -, _, -, _, -, _, -, _, -, _, -, _, -, _, -, _, -, rfl⟩ := h
  exact ⟨rfl, rfl, rfl⟩

/-- The inverse of a book has base and quote exchanged. -/
theorem Orderbook.isFlipped_inverse {r i : Orderbook} (h : r.inverse = .ok i) : IsFlipped r i := by
  simp only [inverse, Run.bind_ok_iff, Run.pure_eq_ok, Except.ok.injEq] at h
  obtain ⟨_, -, _, -, _, -, _, -, _, -, _, -, _, -, _, -, _, -, _, -, _, -, _, -, rfl⟩ := h
  exact ⟨rfl, rfl, rfl⟩

namespace Api

/-! ## Records of a view -/

namespace MarketView

/-- The blank record of a market names the market. -/
theorem names_blank (v : MarketView) (base quote : String) :
    Names base quote (MarketRecord.blank base quote : v.Record) := by
  cases v <;> exact ⟨rfl, rfl, rfl⟩

/-- Seen from the other side, a record has its sides exchanged. -/
theorem isFlipped_inverse {v : MarketView} {r i : v.Record}
    (h : MarketRecord.inverse r = .ok i) : IsFlipped r i := by
  cases v with
  | lastTrades => exact LastTrade.isFlipped_inverse h
  | dayPrices => exact DayPrices.isFlipped_inverse h
  | dayVolumes | fortnightVolumes =>
    cases h
    exact ⟨rfl, rfl, rfl⟩
  | orderbooks => exact Orderbook.isFlipped_inverse h

/-- A record whose figures are of moderate size can be inverted without a fault. -/
theorem completes_inverse {v : MarketView} {r : v.Record} (h : IsModerate r) :
    Run.Completes (fun _ => True) (MarketRecord.inverse r) := by
  cases v with
  | lastTrades => exact LastTrade.completes_inverse h
  | dayPrices => exact DayPrices.completes_inverse h
  | dayVolumes | fortnightVolumes => exact Run.completes_ok trivial
  | orderbooks => exact Orderbook.completes_inverse h

/-- The inverse of a record that names a market names the other side. -/
theorem names_inverse {v : MarketView} {base quote : String} {r i : v.Record}
    (h : Names base quote r) (hb : Pair.IsSide base) (hi : MarketRecord.inverse r = .ok i) :
    Names quote base i := by
  have hf := isFlipped_inverse hi
  refine ⟨?_, hf.base.trans h.quote, hf.quote.trans h.base⟩
  rw [hf.tickerId, h.tickerId, Pair.flip_join hb]

end MarketView

section Records

variable {v : MarketView} {t : Table v.Record} {base quote : String} {r i : v.Record}

/-- A market of which only the other side is stored has its inverse as its record, the blank record
if the inverse finds a fault, and none if the inverse is cut short. -/
theorem recordOf_of_otherSide (h : t.find? (Pair.join base quote) = none)
    (hr : t.find? (Pair.flip (Pair.join base quote)) = some r) :
    (∀ i, MarketRecord.inverse r = .ok i → recordOf t base quote = .ok i) ∧
    (∀ f, MarketRecord.inverse r = Run.fail f →
      recordOf t base quote = .ok (MarketRecord.blank base quote)) ∧
    ∀ s, (MarketRecord.inverse r).cut? = some s → recordOf t base quote = .error s := by
  unfold recordOf
  simp only [h, hr, Option.map_some]
  refine ⟨fun i hi => ?_, fun f hf => ?_, fun s hs => ?_⟩
  · rw [hi]
  · rw [hf]
    rfl
  · cases hi : MarketRecord.inverse r with
    | ok i =>
      rw [hi] at hs
      cases hs
    | error e =>
      rw [hi] at hs
      cases e with
      | fault f => cases hs
      | _ =>
        cases hs
        rfl

/-- A record is found for the market that is asked for, and for no other. -/
theorem names_recordOf (h : t.IsNamed) (hb : Pair.IsSide base) (hq : Pair.IsSide quote)
    (hr : recordOf t base quote = .ok r) : Names base quote r := by
  cases hf : t.find? (Pair.join base quote) with
  | some s =>
    rw [recordOf_of_find? hf] at hr
    cases hr
    exact h.names hb hq hf
  | none =>
    cases hf' : t.find? (Pair.flip (Pair.join base quote)) with
    | none =>
      rw [recordOf_of_find?_eq_none hf hf'] at hr
      cases hr
      exact v.names_blank base quote
    | some s =>
      obtain ⟨hok, hfail, hcut⟩ := recordOf_of_otherSide hf hf'
      rcases (MarketRecord.inverse s).ok_or_fail_or_cut with ⟨i, hi⟩ | ⟨f, hi⟩ | ⟨e, hi⟩
      · rw [hok i hi] at hr
        cases hr
        rw [Pair.flip_join hb] at hf'
        exact MarketView.names_inverse (h.names hq hb hf') hq hi
      · rw [hfail f hi] at hr
        cases hr
        exact v.names_blank base quote
      · rw [hcut e hi] at hr
        cases hr

/-- The record that a client sees of a market, also of a view that was never built. -/
def shownRecord (v : MarketView) (b : Board) (base quote : String) : Run v.Record :=
  match v.table? b with
  | some t => recordOf t base quote
  | none => .ok (MarketRecord.blank base quote)

/-- The record that is shown names the market that was asked for, whichever side is stored. -/
theorem names_shownRecord {b : Board} (h : ∀ t, v.table? b = some t → t.IsNamed)
    (hb : Pair.IsSide base) (hq : Pair.IsSide quote)
    (hr : shownRecord v b base quote = .ok r) : Names base quote r := by
  unfold shownRecord at hr
  cases ht : v.table? b with
  | some t =>
    rw [ht] at hr
    exact names_recordOf (h t ht) hb hq hr
  | none =>
    rw [ht] at hr
    cases hr
    exact v.names_blank base quote

end Records

/-! ## Calls -/

section Calls

variable {b : Board} {v : MarketView} {c : Call} {p base quote : String}

/-- A call for a market of a view. -/
structure Call.AsksFor (c : Call) (v : MarketView) (p : String) : Prop where
  /-- The method. -/
  method : c.method = "GET"
  /-- The path. -/
  path : c.path = (Route.market v).path
  /-- The text that is to name the market. -/
  pair : c.values "pair" = [p]

/-- A call that asks a view for a market is answered with the record of the market. -/
theorem respond_market (h : c.AsksFor v p) : respond b c = respondMarket b v (some p) := by
  unfold respond
  rw [if_neg (not_not.2 h.method), h.path, Route.ofPath?_path]
  simp only [Route.parameterName?, h.pair, respondRoute]

/-- A text that names no market is refused. -/
theorem respond_market_refused (h : c.AsksFor v p) {f : PairFault} (hp : Pair.sides p = .error f) :
    respond b c = .plain (Answer.ofFault (.pair f)) := by
  rw [respond_market h, respondMarket, hp]

/-- A text that names a market is answered with the record of the market. -/
theorem respond_market_shown (h : c.AsksFor v p) (hp : Pair.sides p = .ok (base, quote)) :
    respond b c = .reading b v.item ((shownRecord v b base quote).map MarketRecord.toJson) := by
  rw [respond_market h, respondMarket, hp]
  simp only [shownRecord, Shown.ofTable]
  cases v.table? b with
  | none => rfl
  | some t =>
    simp only
    cases recordOf t base quote <;> rfl

/-- The end of the inverse of a stored record is the end of the answer. -/
theorem respond_market_cut (h : c.AsksFor v p) (hp : Pair.sides p = .ok (base, quote))
    {t : Table v.Record} {r : v.Record} {s : Stop} (ht : v.table? b = some t)
    (hnone : t.find? p = none) (hr : t.find? (Pair.flip p) = some r)
    (hs : (MarketRecord.inverse r).cut? = some s) : (respond b c).answer = .error s := by
  obtain ⟨rfl, -⟩ := Pair.sides_ok_iff.1 hp
  have hcut := (recordOf_of_otherSide hnone hr).2.2 s hs
  rw [respond_market_shown h hp]
  simp only [shownRecord, ht, hcut]
  cases s with
  | fault f => exact absurd hs (Run.cut?_ne_fault _ f)
  | overflow | unsettable => rfl

end Calls

/-- A client asks a view for the market of a text. All records of the view are stored under their
identifiers, which are made of their bases and quotes; their figures can be any texts.

* A text that names no market is refused with the reason, and nothing is built.
* Otherwise the answer is a record that names the market of the text, and the item of the view is
  built if it was not before. The record is
  * the one that is stored under the text;
  * or else the inverse of the one that is stored under the text with its sides exchanged, and the
    blank one if the inverse finds a fault;
  * or else, and if the view was never built, the blank one.
* The only exception is a record of the other side whose inverse is cut short, which cuts the answer
  short. It is not if all decimals of the record are moderate. -/
theorem respond_market_names (b : Board) (v : MarketView)
    (hb : ∀ t, v.table? b = some t → t.IsNamed) (c : Call) (p : String) (hc : c.AsksFor v p) :
    (∀ f, Pair.sides p = .error f → respond b c = .plain (Answer.ofFault (.pair f))) ∧
    ∀ base quote, Pair.sides p = .ok (base, quote) →
      ∃ r : Run v.Record,
        respond b c = .reading b v.item (r.map MarketRecord.toJson) ∧
        (∀ a, r = .ok a → MarketFigures.tickerId a = p ∧ MarketFigures.base a = base ∧
          MarketFigures.quote a = quote) ∧
        (∀ t a, v.table? b = some t → t.find? p = some a → r = .ok a) ∧
        (∀ t a, v.table? b = some t → t.find? p = none → t.find? (Pair.flip p) = some a →
          (∀ i, MarketRecord.inverse a = .ok i → r = .ok i) ∧
          (∀ f, MarketRecord.inverse a = Run.fail f → r = .ok (MarketRecord.blank base quote)) ∧
          (∀ s, (MarketRecord.inverse a).cut? = some s → r = .error s) ∧
          (IsModerate a → (MarketRecord.inverse a).cut? = none)) ∧
        ((∀ t, v.table? b = some t → t.find? p = none ∧ t.find? (Pair.flip p) = none) →
          r = .ok (MarketRecord.blank base quote)) := by
  refine ⟨fun f hf => respond_market_refused hc hf, fun base quote hp => ?_⟩
  obtain ⟨rfl, hbase, hquote, -⟩ := Pair.sides_ok_iff.1 hp
  refine ⟨shownRecord v b base quote, respond_market_shown hc hp, ?_, ?_, ?_, ?_⟩
  · intro a ha
    have hnames := names_shownRecord hb hbase hquote ha
    exact ⟨hnames.tickerId, hnames.base, hnames.quote⟩
  · intro t a ht ha
    simp only [shownRecord, ht]
    exact recordOf_of_find? ha
  · intro t a ht hnone ha
    simp only [shownRecord, ht]
    obtain ⟨hok, hfail, hcut⟩ := recordOf_of_otherSide hnone ha
    exact ⟨hok, hfail, hcut, fun hm => (MarketView.completes_inverse hm).uncut⟩
  · intro h
    unfold shownRecord
    cases ht : v.table? b with
    | none => rfl
    | some t => exact recordOf_of_find?_eq_none (h t ht).1 (h t ht).2

/-! ## A market that is asked for from the other side -/

/-- The last trade of one market at a price. -/
def tradeAt (price : String) : LastTrade := { LastTrade.blank "KMD" "LTC" with price := price }

/-- A board on which only this trade is published. -/
def boardOf (r : LastTrade) : Board :=
  (Board.start default .empty .empty default 0).publish .lastTrades
    ((.empty : Table LastTrade).insert r.tickerId r)

/-- A call for the last trade of a market. -/
def callFor (p : String) : Call := ⟨"GET", "/api/v3/pairs/last_traded?pair=" ++ p, [], none⟩

/-- The call asks for the market from its other side. -/
theorem asksFor_otherSide : (callFor "LTC_KMD").AsksFor .lastTrades "LTC_KMD" :=
  ⟨rfl, by decide +kernel, by decide +kernel⟩

/-- The board has the one record in its view of last trades. -/
theorem table?_boardOf (r : LastTrade) : MarketView.lastTrades.table? (boardOf r)
    = some ((.empty : Table LastTrade).insert r.tickerId r) :=
  Board.slots_publish_self _ _ _

/-- The only record of the board is stored under its own identifier. -/
theorem isNamed_boardOf (price : String) (t : Table LastTrade)
    (ht : MarketView.lastTrades.table? (boardOf (tradeAt price)) = some t) : t.IsNamed := by
  obtain rfl := Option.some.inj ((table?_boardOf _).symm.trans ht)
  intro k r hr
  rw [Table.find?_insert] at hr
  split at hr
  · next hk =>
    cases hr
    exact ⟨hk.symm, hk⟩
  · cases hr

/-- The reciprocal of two, as it is published. -/
theorem reciprocalFigure_two : reciprocalFigure "2" = .ok "0.5000000000" := by
  have hread : readFigure "2" = .ok ⟨2, 0⟩ := rfl
  have hquotient : Decimal.one.quotient? ⟨2, 0⟩ = some ⟨5, 1⟩ := by decide +kernel
  have hpublished : (⟨5, 1⟩ : Decimal).published? = some "0.5000000000" := by decide +kernel
  unfold reciprocalFigure Decimal.reciprocal Decimal.figure
  rw [hread, Run.ok_bind, hquotient]
  exact congrArg Run.inRange hpublished

/-- The price is seen from the other side. -/
theorem respond_market_names_otherSide :
    (∀ t, MarketView.lastTrades.table? (boardOf (tradeAt "2")) = some t → t.IsNamed) ∧
    (callFor "LTC_KMD").AsksFor .lastTrades "LTC_KMD" ∧
    respond (boardOf (tradeAt "2")) (callFor "LTC_KMD")
      = .reading (boardOf (tradeAt "2")) .lastTrades (.ok (LastTrade.toJson
          { LastTrade.blank "LTC" "KMD" with price := "0.5000000000" })) := by
  have hinverse : (tradeAt "2").inverse
      = .ok { LastTrade.blank "LTC" "KMD" with price := "0.5000000000" } := by
    show (reciprocalFigure "2" >>= _) = _
    rw [reciprocalFigure_two]
    rfl
  refine ⟨isNamed_boardOf "2", asksFor_otherSide, ?_⟩
  obtain ⟨r, hr, -, -, hother, -⟩ := (respond_market_names (boardOf (tradeAt "2")) .lastTrades
    (isNamed_boardOf "2") (callFor "LTC_KMD") "LTC_KMD" asksFor_otherSide).2 "LTC" "KMD" rfl
  rw [hr, (hother _ (tradeAt "2") (table?_boardOf _) rfl rfl).1 _ hinverse]
  rfl

/-- A price whose reciprocal has a scale that 64 bits do not hold cuts the answer short. -/
theorem respond_market_cut_short :
    (∀ t, MarketView.lastTrades.table? (boardOf (tradeAt "2e9223372036854775807")) = some t →
      t.IsNamed) ∧
    (callFor "LTC_KMD").AsksFor .lastTrades "LTC_KMD" ∧ Pair.sides "LTC_KMD" = .ok ("LTC", "KMD") ∧
    (respond (boardOf (tradeAt "2e9223372036854775807")) (callFor "LTC_KMD")).answer
      = .error .overflow := by
  have hread : readFigure "2e9223372036854775807" = .ok ⟨2, -9223372036854775807⟩ := rfl
  have hquotient : Decimal.one.quotient? ⟨2, -9223372036854775807⟩ = none := by decide +kernel
  have hinverse : (tradeAt "2e9223372036854775807").inverse = .error .overflow := by
    show (reciprocalFigure "2e9223372036854775807" >>= _) = _
    unfold reciprocalFigure Decimal.reciprocal
    rw [hread, Run.ok_bind, hquotient]
    rfl
  have hsides : Pair.sides "LTC_KMD" = .ok ("LTC", "KMD") := rfl
  have hstop : (tradeAt "2e9223372036854775807").inverse.cut? = some .overflow := by
    rw [hinverse]
    rfl
  exact ⟨isNamed_boardOf _, asksFor_otherSide, hsides,
    respond_market_cut asksFor_otherSide hsides (table?_boardOf _) rfl rfl hstop⟩

end Api

end SwapMarket
