import SwapMarket.Proofs.Board.Dependencies
import SwapMarket.Proofs.Coin.PriceIds
import SwapMarket.Proofs.Market.ProjectedBook
import SwapMarket.Proofs.Reference.CoinPrices
import SwapMarket.Proofs.Text.Form

/-!
# The prices of coins, request by request

The price service is asked for its identifiers and then for the quotes of those in use, group by
group. What a request gives and which requests it adds does not hang on the requests before
(**`Asking.IsAdditive`**), so the outcome of the run is put together from what the service answers
to each (**`Board.listingsAnswer`**, **`Board.quotesAnswer`**; `outcome_askQuotes_ok`,
`outcome_askQuotes_error`).

Main statement: **`coinPrices_complete`**. No identifier is lost between the coins and the published
table, none is asked for twice, and one request without an answer is the end of the build.
-/

namespace SwapMarket

/-! ## Runs that add requests -/

/-- What has a body was reached. -/
theorem Network.reaches_of_body {w : Network} {timeout : Nat} {r : Request} {t : String}
    (h : w.body timeout r = .ok t) : w.reaches r = true := by
  unfold body at h
  unfold reaches
  cases hr : w.reachable with
  | false =>
    rw [hr] at h
    split at h
    · cases h
    · split at h
      · cases h
      · next hnot => exact absurd rfl hnot
  | true =>
    cases hu : r.isUsable with
    | false =>
      rw [hu] at h
      cases h
    | true => rfl

namespace Asking

variable {α β : Type} {a : Asking α}

/-- What a run gives, and the requests that it adds, do not hang on the requests before. -/
def IsAdditive (a : Asking α) : Prop := ∀ log, a.run.run log = (a.outcome.1, log ++ a.outcome.2)

theorem isAdditive_ofRun (r : Run α) : (ofRun r).IsAdditive := fun log => by
  show (r, log) = (r, log ++ [])
  rw [List.append_nil]

/-- A result adds no request. -/
theorem isAdditive_ofResult (r : Result α) : (ofResult r).IsAdditive := isAdditive_ofRun _

theorem isAdditive_pure (v : α) : (pure v : Asking α).IsAdditive := isAdditive_ofRun (.ok v)

/-- A run of two steps, with the requests before it. -/
theorem run_bind_of_isAdditive {f : α → Asking β} (h : a.IsAdditive) (hf : ∀ v, (f v).IsAdditive)
    (log : List Request) : (a >>= f).run.run log = match a.outcome.1 with
      | .ok v => ((f v).outcome.1, log ++ (a.outcome.2 ++ (f v).outcome.2))
      | .error s => (.error s, log ++ a.outcome.2) := by
  rw [run_bind, h log]
  cases a.outcome.1 with
  | error s => rfl
  | ok v =>
    simp only
    rw [hf v, List.append_assoc]

/-- A run of two steps adds the requests of the first, and then those of the second. -/
theorem outcome_bind_of_isAdditive {f : α → Asking β} (h : a.IsAdditive)
    (hf : ∀ v, (f v).IsAdditive) : (a >>= f).outcome = match a.outcome.1 with
      | .ok v => ((f v).outcome.1, a.outcome.2 ++ (f v).outcome.2)
      | .error s => (.error s, a.outcome.2) := by
  unfold outcome
  rw [run_bind_of_isAdditive h hf]
  rfl

/-- Two steps that only add requests make a run that only adds requests. -/
theorem IsAdditive.bind {f : α → Asking β} (h : a.IsAdditive) (hf : ∀ v, (f v).IsAdditive) :
    (a >>= f).IsAdditive := by
  intro log
  rw [run_bind_of_isAdditive h hf, outcome_bind_of_isAdditive h hf]
  cases a.outcome.1 <;> rfl

/-- A change of what a run gives adds no request. -/
theorem outcome_bind_pure (a : Asking α) (f : α → β) :
    (a >>= fun v => pure (f v)).outcome = (a.outcome.1 >>= fun v => .ok (f v), a.outcome.2) := by
  unfold outcome
  rw [run_bind]
  generalize a.run.run [] = x
  obtain ⟨r, log⟩ := x
  cases r <;> rfl

/-- What a request comes to, apart from the requests before. -/
def answerTo (w : Network) (timeout : Nat) (decode : Json → Option α) (r : Request) : Run α :=
  (w.body timeout r).toRun >>= fun body =>
    match (Json.read body).bind decode with
    | some v => .ok v
    | none => Run.fail (.answer .body)

/-- A request is added if it reaches a service. -/
theorem ask_eq (w : Network) (timeout : Nat) (decode : Json → Option α) (r : Request) :
    ask w timeout decode r = (if w.reaches r then
      modify (· ++ [r]) >>= fun _ => ofRun (answerTo w timeout decode r)
    else ofRun (answerTo w timeout decode r)) := by
  have hrest : (ofResult (w.body timeout r) >>= fun body =>
      match (Json.read body).bind decode with
      | some v => pure v
      | none => ofRun (Run.fail (.answer .body))) = ofRun (answerTo w timeout decode r) := by
    unfold answerTo
    cases w.body timeout r with
    | error f => rfl
    | ok body =>
      show (match (Json.read body).bind decode with
        | some v => pure v
        | none => ofRun (Run.fail (.answer .body)))
        = ofRun (match (Json.read body).bind decode with
          | some v => .ok v
          | none => Run.fail (.answer .body))
      cases (Json.read body).bind decode <;> rfl
  refine Eq.trans ?_ (congrArg (fun rest => if w.reaches r then
    modify (· ++ [r]) >>= fun _ => rest else rest) hrest)
  unfold ask
  cases w.reaches r <;> rfl

/-- A request only adds itself, if it is sent at all. -/
theorem isAdditive_ask (w : Network) (timeout : Nat) (decode : Json → Option α) (r : Request) :
    (ask w timeout decode r).IsAdditive := by
  rw [ask_eq]
  split
  · exact IsAdditive.bind (fun log => rfl) fun _ => isAdditive_ofRun _
  · exact isAdditive_ofRun _

/-- A request that is answered was sent. -/
theorem outcome_ask_ok {w : Network} {timeout : Nat} {decode : Json → Option α} {r : Request}
    {v : α} (h : (ask w timeout decode r).outcome.1 = .ok v) :
    (ask w timeout decode r).outcome = (.ok v, [r]) := by
  refine Prod.ext h ?_
  rw [ask_eq] at h ⊢
  cases hr : w.reaches r with
  | true => rfl
  | false =>
    rw [hr, if_neg Bool.false_ne_true] at h
    have hanswer : answerTo w timeout decode r = .ok v := h
    obtain ⟨body, hbody, -⟩ := Run.bind_ok_iff.1 hanswer
    have hreached := Network.reaches_of_body (Result.toRun_ok_iff.1 hbody)
    rw [hr] at hreached
    cases hreached

end Asking

open Asking

namespace Board

variable {b : Board}

/-! ## What the price service answers -/

section Service

variable {α : Type} {decode : Json → Option α} {url : Result Url}

theorem isAdditive_askService (b : Board) (decode : Json → Option α) (url : Result Url) :
    (b.askService decode url).IsAdditive :=
  (isAdditive_ofResult url).bind fun _ => isAdditive_ask _ _ _ _

/-- A request goes to an address. -/
def GoesTo (r : Request) (url : Result Url) : Prop := ∃ u, url = .ok u ∧ r = .resource u

/-- A service that answers was asked once, at its address. -/
theorem outcome_askService_ok {v : α} (h : (b.askService decode url).outcome.1 = .ok v) :
    ∃ r, GoesTo r url ∧ (b.askService decode url).outcome = (.ok v, [r]) := by
  cases url with
  | error f => cases h
  | ok u =>
    have hu : b.askService decode (.ok u) = ask b.network b.settings.timeout decode (.resource u) :=
      rfl
    rw [hu] at h ⊢
    exact ⟨.resource u, ⟨u, rfl, rfl⟩, outcome_ask_ok h⟩

end Service

/-- The answer of the price service to the question which identifiers it lists. -/
def listingsAnswer (b : Board) : Run (List PriceListing) :=
  (b.askService (Json.list? PriceListing.ofJson?) b.settings.listingsUrl).outcome.1

/-- The answer of the price service to the request for a group of identifiers. -/
def quotesAnswer (b : Board) (g : List String) : Run (List PriceQuote) :=
  (b.askService (Json.list? PriceQuote.ofJson?) (b.settings.quotesUrl g)).outcome.1

theorem isAdditive_askQuotes (b : Board) (gs : List (List String)) :
    (b.askQuotes gs).IsAdditive := by
  induction gs with
  | nil => exact isAdditive_pure []
  | cons g gs ih =>
    unfold askQuotes
    exact (b.isAdditive_askService _ _).bind fun qs => ih.bind fun rest => isAdditive_pure _

/-- The quotes of the first group are asked for, and those of the others only if it is answered. -/
theorem outcome_askQuotes_cons (b : Board) (g : List String) (gs : List (List String)) :
    (b.askQuotes (g :: gs)).outcome = match b.quotesAnswer g with
      | .ok qs => ((b.askQuotes gs).outcome.1 >>= fun rest => .ok (qs ++ rest),
          (b.askService (Json.list? PriceQuote.ofJson?) (b.settings.quotesUrl g)).outcome.2
            ++ (b.askQuotes gs).outcome.2)
      | .error s => (.error s,
          (b.askService (Json.list? PriceQuote.ofJson?) (b.settings.quotesUrl g)).outcome.2) := by
  have hrest : ∀ qs : List PriceQuote,
      (b.askQuotes gs >>= fun rest => pure (qs ++ rest) : Asking (List PriceQuote)).IsAdditive :=
    fun qs => (b.isAdditive_askQuotes gs).bind fun rest => isAdditive_pure _
  refine (outcome_bind_of_isAdditive (b.isAdditive_askService _ _) hrest).trans ?_
  unfold quotesAnswer
  cases (b.askService (Json.list? PriceQuote.ofJson?) (b.settings.quotesUrl g)).outcome.1 with
  | error s => rfl
  | ok qs => simp only [outcome_bind_pure]

/-- If every group is answered, each was asked for once, and all answers are there. -/
theorem outcome_askQuotes_ok {gs : List (List String)}
    (h : ∀ g ∈ gs, ∃ qs, b.quotesAnswer g = .ok qs) :
    ∃ qss rs, List.Forall₂ (fun g qs => b.quotesAnswer g = .ok qs) gs qss ∧
      List.Forall₂ (fun g r => GoesTo r (b.settings.quotesUrl g)) gs rs ∧
      (b.askQuotes gs).outcome = (.ok qss.flatten, rs) := by
  induction gs with
  | nil => exact ⟨[], [], .nil, .nil, rfl⟩
  | cons g gs ih =>
    obtain ⟨⟨qs, hqs⟩, hrest⟩ := List.forall_mem_cons.1 h
    obtain ⟨qss, rs, hqss, hrs, hgs⟩ := ih hrest
    obtain ⟨r, hr, hasked⟩ := outcome_askService_ok hqs
    refine ⟨qs :: qss, r :: rs, hqss.cons hqs, hrs.cons hr, ?_⟩
    rw [outcome_askQuotes_cons, hqs, hgs, hasked]
    rfl

/-- If a group is not answered, no quotes are had at all. -/
theorem outcome_askQuotes_error {gs : List (List String)} {g : List String} {s : Stop} (hg : g ∈ gs)
    (h : b.quotesAnswer g = .error s) : ∃ s', (b.askQuotes gs).outcome.1 = .error s' := by
  induction gs with
  | nil => cases hg
  | cons g' gs ih =>
    rw [outcome_askQuotes_cons]
    cases h' : b.quotesAnswer g' with
    | error s' => exact ⟨s', rfl⟩
    | ok qs =>
      have hmem : g ∈ gs := by
        obtain rfl | hmem := List.mem_cons.1 hg
        · rw [h] at h'
          cases h'
        · exact hmem
      obtain ⟨s', hs'⟩ := ih hmem
      refine ⟨s', ?_⟩
      simp only [hs', Run.error_bind]

/-! ## The producer -/

/-- The groups of identifiers that are asked for, given those that are listed. -/
def priceGroups (entries : CoinEntries) (listings : List PriceListing) : List (List String) :=
  groupsOf greatestGroup
    (listedIds (Catalogue.ofEntries entries none none).priceIds (listings.map (·.id)))

/-- The prices of groups of identifiers are made of what the requests for them give. -/
theorem isAdditive_pricesOf (b : Board) (gs : List (List String)) :
    (b.askQuotes gs >>= fun qs => pure (coinPrices qs) : Asking CoinPrices).IsAdditive :=
  (b.isAdditive_askQuotes gs).bind fun _ => isAdditive_pure _

/-- The prices are those of the quotes for all groups. -/
theorem outcome_produceCoinPrices {entries : CoinEntries}
    (he : b.slots .coinEntries = some entries) : (b.produce .coinPrices).outcome
      = match b.listingsAnswer with
        | .ok listings =>
          let gs := priceGroups entries listings
          ((b.askQuotes gs).outcome.1 >>= fun qs => .ok (coinPrices qs),
            (b.askService (Json.list? PriceListing.ofJson?) b.settings.listingsUrl).outcome.2
              ++ (b.askQuotes gs).outcome.2)
        | .error s => (.error s,
            (b.askService (Json.list? PriceListing.ofJson?) b.settings.listingsUrl).outcome.2) := by
  have hproduce : (b.produce .coinPrices).outcome
      = (b.askService (Json.list? PriceListing.ofJson?) b.settings.listingsUrl >>= fun listings =>
          b.askQuotes (priceGroups entries listings) >>= fun qs => pure (coinPrices qs)).outcome := by
    show b.produceCoinPrices.outcome = _
    unfold produceCoinPrices
    rw [require_ok_iff.2 he]
    rfl
  rw [hproduce, outcome_bind_of_isAdditive (b.isAdditive_askService _ _) fun listings =>
    b.isAdditive_pricesOf _]
  unfold listingsAnswer
  cases (b.askService (Json.list? PriceListing.ofJson?) b.settings.listingsUrl).outcome.1 with
  | error s => rfl
  | ok listings =>
    simp only [outcome_bind_pure]
    rfl

/-! ## Groups and answers -/

section Groups

variable {entries : CoinEntries} {listings : List PriceListing} {g : List String} {id : String}

/-- The groups together are the identifiers that are in use and listed. -/
theorem flatten_priceGroups (entries : CoinEntries) (listings : List PriceListing) :
    (priceGroups entries listings).flatten
      = listedIds (Catalogue.ofEntries entries none none).priceIds (listings.map (·.id)) :=
  flatten_groupsOf (by decide) _

/-- All groups together are in ascending order, so nothing is asked for twice. -/
theorem pairwise_flatten_priceGroups (entries : CoinEntries) (listings : List PriceListing) :
    (priceGroups entries listings).flatten.Pairwise (· < ·) := by
  rw [flatten_priceGroups]
  exact (Catalogue.pairwise_priceIds _).sublist List.filter_sublist

/-- All groups together are the identifiers that some coin uses and the service lists. -/
theorem mem_flatten_priceGroups : id ∈ (priceGroups entries listings).flatten ↔
    (∃ ticker e, entries.find? ticker = some e ∧ e.usableId = some id) ∧
      ∃ l ∈ listings, l.id = id := by
  rw [flatten_priceGroups, mem_listedIds, Catalogue.mem_priceIds, Catalogue.usesPriceId_ofEntries,
    List.mem_map]

/-- The answer for a group has one quote for each of its identifiers and no other. -/
def AnswersExactly (b : Board) (g : List String) : Prop :=
  ∃ qs, b.quotesAnswer g = .ok qs ∧ (qs.map (·.id)).Perm g

/-- Exact answers for all groups together quote the identifiers of all groups. -/
theorem ids_perm_of_answersExactly {gs : List (List String)} {qss : List (List PriceQuote)}
    (hqss : List.Forall₂ (fun g qs => b.quotesAnswer g = .ok qs) gs qss)
    (h : ∀ g ∈ gs, b.AnswersExactly g) : (qss.flatten.map (·.id)).Perm gs.flatten := by
  induction hqss with
  | nil => exact .refl _
  | @cons g qs gs qss hqs _ ih =>
    obtain ⟨⟨qs', hqs', hperm⟩, hrest⟩ := List.forall_mem_cons.1 h
    obtain rfl : qs' = qs := Except.ok.inj (hqs'.symm.trans hqs)
    rw [List.flatten_cons, List.map_append, List.flatten_cons]
    exact hperm.append (ih hrest)

/-- The quotes for a group are among those for all. -/
theorem mem_flatten_of_quotesAnswer {gs : List (List String)} {qss : List (List PriceQuote)}
    (hqss : List.Forall₂ (fun g qs => b.quotesAnswer g = .ok qs) gs qss) (hg : g ∈ gs)
    {qs : List PriceQuote} (hqs : b.quotesAnswer g = .ok qs) {q : PriceQuote} (hq : q ∈ qs) :
    q ∈ qss.flatten := by
  induction hqss with
  | nil => cases hg
  | @cons g' qs' gs qss hqs' _ ih =>
    rw [List.flatten_cons, List.mem_append]
    obtain rfl | hg := List.mem_cons.1 hg
    · rw [hqs] at hqs'
      exact .inl (Except.ok.inj hqs' ▸ hq)
    · exact .inr (ih hg)

end Groups

end Board

namespace PriceQuote

/-- A number of dollars that the service quotes; zero if it quotes none. -/
def amount (n : Option Number) : ℚ := (n.map fun n => n.decimal.value).getD 0

/-- A figure is the ten-place form of the number that is quoted. -/
theorem isTenPlaceForm_figure (n : Option Number) :
    Decimal.IsTenPlaceForm (amount n) (figure n) := by
  unfold amount figure
  cases n with
  | none =>
    have h := Decimal.isTenPlaceForm_published .zero
    rwa [Decimal.value_zero] at h
  | some n => exact Decimal.isTenPlaceForm_published n.decimal

/-- A published price has the ten-place forms of what is quoted. -/
structure IsPricedAs (q : PriceQuote) (p : CoinPrice) : Prop where
  /-- The price. -/
  price : Decimal.IsTenPlaceForm (amount q.price) p.usdPrice
  /-- The market capitalisation. -/
  marketCap : Decimal.IsTenPlaceForm (amount q.marketCap) p.usdMarketCap

/-- A price is published as it is quoted. -/
theorem isPricedAs_toPrice (q : PriceQuote) : q.IsPricedAs q.toPrice :=
  ⟨isTenPlaceForm_figure _, isTenPlaceForm_figure _⟩

end PriceQuote

/-- An address asks for the quotes of identifiers: it is that of the service, and the fields added
to its query ask for dollars and for the identifiers, as many on the first page as there are. What
stands between the commas are the identifiers, unless one of them has a comma itself. -/
def Settings.AsksForQuotes (s : Settings) (ids : List String) (u : Url) : Prop :=
  ∃ service, address (s.priceService ++ "/coins/markets") = .ok service ∧
    { u with query := service.query } = service ∧
    u.fields = service.fields ++ [("vs_currency", "usd"), ("ids", ",".intercalate ids),
      ("per_page", toString ids.length), ("page", "1")] ∧
    ((∀ id ∈ ids, ',' ∉ id.toList) → Text.pieces ',' (",".intercalate ids) = ids)

/-- The address of a group asks for the identifiers of the group and no others. -/
theorem Settings.asksForQuotes_of_quotesUrl {s : Settings} {ids : List String} {u : Url}
    (hne : ids ≠ []) (h : s.quotesUrl ids = .ok u) : s.AsksForQuotes ids u := by
  unfold quotesUrl at h
  cases hservice : address (s.priceService ++ "/coins/markets") with
  | error f =>
    rw [hservice] at h
    cases h
  | ok service =>
    rw [hservice] at h
    cases h
    have hlength : max ids.length 1 = ids.length :=
      Nat.max_eq_left (List.length_pos_iff.2 hne)
    refine ⟨service, hservice, rfl, ?_, fun hcommas => ?_⟩
    · rw [Url.fields_withParameters, hlength]
    · exact Text.pieces_intercalate (by decide) hcommas hne

open Board

/-- A build of the prices that starts, with the entries of the tickers in place.

* The identifiers in use are in ascending order. They are the keys of the table of tickers, in which
  each coin that has one stands once, under its own.
* The identifiers that are in use and listed are cut into groups of 1 to 200, each in one of them.
  The address of a group names its identifiers and no others.
* If the service answers every request for a group with one quote for each of its identifiers, it
  was asked for the list and then once for each group. The prices have these identifiers for keys
  and under each the ten-place forms of its quote, and they are published if they can be kept.
* If it does not answer one of these requests, the build fails and changes nothing but its times. -/
theorem coinPrices_complete (b : Board) {entries : CoinEntries}
    (hs : b.starts .coinPrices = .ok true) (he : b.slots .coinEntries = some entries) :
    (∀ listed prices, let c := Catalogue.ofEntries entries listed prices
      c.priceIds = c.tickersById.keys ∧ c.priceIds.Pairwise (· < ·) ∧
      (∀ id, id ∈ c.priceIds ↔ ∃ ticker e, entries.find? ticker = some e ∧ e.usableId = some id) ∧
      ∀ id tickers, c.tickersById.find? id = some tickers → tickers.Nodup ∧
        ∀ ticker, ticker ∈ tickers ↔ ∃ e, entries.find? ticker = some e ∧ e.usableId = some id) ∧
    (∀ listings, b.listingsAnswer = .ok listings →
      let groups := priceGroups entries listings
      (∀ g ∈ groups, 1 ≤ g.length ∧ g.length ≤ 200) ∧ groups.flatten.Nodup ∧
      (∀ g ∈ groups, ∀ u, b.settings.quotesUrl g = .ok u → b.settings.AsksForQuotes g u) ∧
      (∀ id, id ∈ groups.flatten ↔
        (∃ ticker e, entries.find? ticker = some e ∧ e.usableId = some id) ∧
          ∃ l ∈ listings, l.id = id) ∧
      ((∀ g ∈ groups, b.AnswersExactly g) → ∃ (t : CoinPrices) (first : Request)
        (rest : List Request), (b.produce .coinPrices).outcome = (.ok t, first :: rest) ∧
          GoesTo first b.settings.listingsUrl ∧
          List.Forall₂ (fun g r => GoesTo r (b.settings.quotesUrl g)) groups rest ∧
          t.keys = groups.flatten ∧
          (∀ g ∈ groups, ∀ qs, b.quotesAnswer g = .ok qs →
            ∀ q ∈ qs, ∃ p, t.find? q.id = some p ∧ q.IsPricedAs p) ∧
          (b.build .coinPrices).2
            = (if b.canKeep .coinPrices then .ok .built else Run.fail .file, first :: rest) ∧
          (b.canKeep .coinPrices = true → (b.build .coinPrices).1.slots .coinPrices = some t))) ∧
    (((∃ s, b.listingsAnswer = .error s) ∨ ∃ listings, b.listingsAnswer = .ok listings ∧
        ∃ g ∈ priceGroups entries listings, ∃ s, b.quotesAnswer g = .error s) →
      (∃ s, (b.build .coinPrices).2.1 = .error s) ∧
        ∃ stamps, (b.build .coinPrices).1 = { b with stamps := stamps }) := by
  refine ⟨fun listed prices => ?_, fun listings hlistings => ?_, fun hfailed => ?_⟩
  · refine ⟨(Catalogue.keys_tickersById _).symm, Catalogue.pairwise_priceIds _, fun id => ?_,
      fun id tickers h => ?_⟩
    · rw [Catalogue.mem_priceIds, Catalogue.usesPriceId_ofEntries]
    · obtain ⟨hasc, hmem⟩ := Catalogue.mem_tickersById h
      exact ⟨nodup_of_ascending hasc, hmem⟩
  · have hasc := pairwise_flatten_priceGroups entries listings
    have hnames : ∀ g ∈ priceGroups entries listings, ∀ u,
        b.settings.quotesUrl g = .ok u → b.settings.AsksForQuotes g u := by
      intro g hg u hu
      have hlength : 1 ≤ g.length := (length_of_mem_groupsOf hg).1
      exact Settings.asksForQuotes_of_quotesUrl (List.length_pos_iff.1 hlength) hu
    refine ⟨fun g hg => length_of_mem_groupsOf hg, nodup_of_ascending hasc, hnames,
      fun id => mem_flatten_priceGroups, fun hexact => ?_⟩
    obtain ⟨qss, rest, hqss, hrest, hasked⟩ := outcome_askQuotes_ok fun g hg =>
      let ⟨qs, hqs, _⟩ := hexact g hg
      ⟨qs, hqs⟩
    obtain ⟨first, hfirst, hlisted⟩ := outcome_askService_ok hlistings
    have hids := ids_perm_of_answersExactly hqss hexact
    have hnodup : (qss.flatten.map (·.id)).Nodup := hids.nodup_iff.2 (nodup_of_ascending hasc)
    have hproduce : (b.produce .coinPrices).outcome
        = (.ok (coinPrices qss.flatten), first :: rest) := by
      rw [outcome_produceCoinPrices he, hlistings]
      simp only [hasked, hlisted]
      rfl
    refine ⟨coinPrices qss.flatten, first, rest, hproduce, hfirst, hrest, ?_, ?_, ?_, fun hk => ?_⟩
    · refine eq_of_ascending (Table.pairwise_keys _) hasc fun id => ?_
      exact ((keys_coinPrices_perm hnodup).trans hids).mem_iff
    · intro g hg qs hqs q hq
      exact ⟨q.toPrice, find?_coinPrices hnodup (mem_flatten_of_quotesAnswer hqss hg hqs hq),
        q.isPricedAs_toPrice⟩
    · rw [build_of_starts hs, hproduce]
      rfl
    · exact (buildReading_built hs (congrArg Prod.fst hproduce) hk).2
  · have hproduce : ∃ s, (b.produce .coinPrices).outcome.1 = .error s := by
      rw [outcome_produceCoinPrices he]
      rcases hfailed with ⟨s, hs⟩ | ⟨listings, hlistings, g, hg, s, hs⟩
      · rw [hs]
        exact ⟨s, rfl⟩
      · obtain ⟨s', hs'⟩ := outcome_askQuotes_error hg hs
        rw [hlistings]
        simp only [hs']
        exact ⟨s', rfl⟩
    obtain ⟨s, hproduce⟩ := hproduce
    constructor
    · rw [build_of_starts hs, hproduce]
      exact ⟨s, rfl⟩
    · rcases buildReading_cases b b .coinPrices with ⟨stamps, hb, -⟩ | ⟨v, d, stamps, hv, -⟩
      · exact ⟨stamps, hb⟩
      · rw [hproduce] at hv
        cases hv

/-! ## Two groups of coins with one identifier each -/

namespace Pricing

/-- An entry with an identifier at the price service. -/
def entry (id : String) : CoinEntry := ⟨"", "UTXO", "", id, false, false⟩

/-- Two coins with one identifier, one with another, one with an identifier that is not listed, one
of a test network, and one without an identifier. -/
def entries : CoinEntries :=
  .ofList [("KMD", entry " komodo"), ("KMD-BEP20", entry "komodo"), ("LTC", entry "litecoin"),
    ("DGB", entry "digibyte"), ("RICK", entry "test-coin"), ("MORTY", entry " ")]

/-- A price service that lists two of the identifiers, and quotes both. -/
def network : Network :=
  ⟨true, .ofList [
    ("http://[::1]/coins/list",
      ⟨200, "[\x7b\"id\":\"litecoin\"\x7d,\x7b\"id\":\"komodo\"\x7d]", 0, false⟩),
    ("http://[::1]/coins/markets?vs_currency=usd&ids=komodo%2Clitecoin&per_page=2&page=1",
      ⟨200, "[\x7b\"id\":\"litecoin\",\"current_price\":70,\"market_cap\":null\x7d,"
        ++ "\x7b\"id\":\"komodo\",\"current_price\":2,\"market_cap\":9\x7d]", 0, false⟩)]⟩

/-- A program that asks it. -/
def board : Board :=
  (Board.start { (default : Settings) with priceService := "http://[::1]" } .empty .empty network
    0).publish .coinEntries entries

/-- The service lists both identifiers. -/
theorem listingsAnswer_board :
    board.listingsAnswer = .ok [⟨"litecoin", ""⟩, ⟨"komodo", ""⟩] :=
  Run.toOption_eq_some.1 (by decide +kernel)

/-- Both identifiers fit into one group. -/
theorem priceGroups_board :
    priceGroups entries [⟨"litecoin", ""⟩, ⟨"komodo", ""⟩] = [["komodo", "litecoin"]] := by
  decide +kernel

/-- The quotes that it answers. -/
def quotes : List PriceQuote :=
  [⟨"litecoin", some (.int 70), none⟩, ⟨"komodo", some (.int 2), some (.int 9)⟩]

/-- The service answers the request for this group. -/
theorem quotesAnswer_board : board.quotesAnswer ["komodo", "litecoin"] = .ok quotes :=
  Run.toOption_eq_some.1 (by decide +kernel)

end Pricing

/-- Two coins share an identifier, one is not listed: there are two prices, and a figure that is not
quoted is zero. -/
theorem coinPrices_complete_shared : Pricing.board.starts .coinPrices = .ok true ∧
    ∃ t : CoinPrices, (Pricing.board.build .coinPrices).1.slots .coinPrices = some t ∧
      t.keys = ["komodo", "litecoin"] ∧ ∃ p, t.find? "litecoin" = some p ∧
        p.usdPrice = "70.0000000000" ∧ p.usdMarketCap = "0.0000000000" := by
  have hs : Pricing.board.starts .coinPrices = .ok true := rfl
  obtain ⟨-, hcomplete, -⟩ := coinPrices_complete Pricing.board hs rfl
  obtain ⟨-, -, -, -, hbuilt⟩ := hcomplete _ Pricing.listingsAnswer_board
  rw [Pricing.priceGroups_board] at hbuilt
  have hexact : ∀ g ∈ [["komodo", "litecoin"]], Pricing.board.AnswersExactly g := by
    intro g hg
    obtain rfl := List.mem_singleton.1 hg
    exact ⟨Pricing.quotes, Pricing.quotesAnswer_board, by decide⟩
  obtain ⟨t, first, rest, -, -, -, hkeys, hprices, -, hslot⟩ := hbuilt hexact
  obtain ⟨p, hp, hform⟩ := hprices _ List.mem_cons_self _ Pricing.quotesAnswer_board
    ⟨"litecoin", some (.int 70), none⟩ List.mem_cons_self
  have hprice := hform.price.unique (PriceQuote.isTenPlaceForm_figure _)
  have hcap := hform.marketCap.unique (PriceQuote.isTenPlaceForm_figure _)
  exact ⟨hs, t, hslot (by decide +kernel), hkeys, p, hp, hprice.trans (by decide +kernel),
    hcap.trans (by decide +kernel)⟩

end SwapMarket
