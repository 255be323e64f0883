import SwapMarket.Proofs.Board.Figures
import SwapMarket.Proofs.Market.Books
import SwapMarket.Proofs.Market.Counts

/-!
# Orderbooks market by market

The trading node is asked for the book of one market after the other, and what it answers does not
hang on the requests before (**`Asking.IsOblivious`**). So the orderbooks are a table with one
record for each market that is shown, and each record is made of the answer for its own market and
of what the other views hold of it (**`Board.bookOn`**, `produceOrderbooks_ok_iff`). An answer has
one of three effects (**`Board.FollowsAnswer`**).

What ends a build is a number out of its range in the book of any market: no such number is confined
to its market. The main statement **`orderbooks_isolated`** says when the orderbooks are built, and
that then each market is isolated from the others.
-/

namespace SwapMarket

/-! ## Runs that do not look back -/

namespace Asking

variable {α β : Type} {a : Asking α}

/-- What a run gives does not hang on the requests that were sent before. -/
def IsOblivious (a : Asking α) : Prop := ∀ log, (a.run.run log).1 = a.outcome.1

theorem isOblivious_ofRun (r : Run α) : (ofRun r).IsOblivious := fun _ => rfl

/-- A result does not hang on the requests before. -/
theorem isOblivious_ofResult (r : Result α) : (ofResult r).IsOblivious := fun _ => rfl

theorem isOblivious_pure (v : α) : (pure v : Asking α).IsOblivious := fun _ => rfl

/-- A run of two steps gives what the second step gives for what the first gives. -/
theorem outcome_bind {f : α → Asking β} (hf : ∀ v, (f v).IsOblivious) :
    (a >>= f).outcome.1 = a.outcome.1 >>= fun v => (f v).outcome.1 := by
  unfold outcome
  rw [run_bind]
  generalize a.run.run [] = x
  obtain ⟨r, log⟩ := x
  cases r with
  | error s => rfl
  | ok v => exact hf v log

/-- Two steps that do not hang on the requests before make a run that does not. -/
theorem IsOblivious.bind {f : α → Asking β} (h : a.IsOblivious) (hf : ∀ v, (f v).IsOblivious) :
    (a >>= f).IsOblivious := by
  intro log
  rw [outcome_bind hf, run_bind, ← h log]
  generalize a.run.run log = x
  obtain ⟨r, log'⟩ := x
  cases r with
  | error s => rfl
  | ok v => exact hf v log'

/-- What a request comes to does not hang on the requests before. -/
theorem isOblivious_ask (n : Network) (timeout : Nat) (decode : Json → Option α) (r : Request) :
    (ask n timeout decode r).IsOblivious := by
  unfold ask
  split
  on_goal 1 => refine IsOblivious.bind (fun log => rfl) fun _ => ?_
  all_goals
    refine (isOblivious_ofResult _).bind fun body => ?_
    split
    · exact isOblivious_pure _
    · exact isOblivious_ofRun _

end Asking

open Asking

/-! ## Answers of the trading node -/

namespace Board

variable {b : Board}

theorem isOblivious_askBook (b : Board) (base quote : String) :
    (b.askBook base quote).IsOblivious := by
  unfold askBook
  refine (isOblivious_ofResult _).bind fun u => (isOblivious_ask _ _ _ _).bind fun book => ?_
  split
  · exact isOblivious_ofResult _
  · exact isOblivious_pure book

/-- What the trading node answers when it is asked for the book of a market. -/
def answer (b : Board) (base quote : String) : Run QuotedBook := (b.askBook base quote).outcome.1

/-- The book that counts for a market: the one that the node answers, or else the empty one. -/
def quotedBook (b : Board) (base quote : String) : QuotedBook :=
  if b.settings.hasNode then (b.answer base quote).toOption.getD .empty else .empty

/-- A book is always had, whatever the node answers. -/
theorem run_bookOf (b : Board) (base quote : String) (log : List Request) :
    ((b.bookOf base quote).run.run log).1 = .ok (b.quotedBook base quote) := by
  unfold bookOf quotedBook
  split
  · unfold answer
    rw [← b.isOblivious_askBook base quote log]
    -- The outcome of the request is looked at outside of its run, which no bind of runs can do.
    rw [ExceptT.run_mk, StateT.run_bind]
    generalize (b.askBook base quote).run.run log = x
    obtain ⟨r, log'⟩ := x
    cases r <;> rfl
  · rfl

/-- The book of a market is what was quoted, or an empty one: it is never a failure. -/
theorem outcome_bookOf (b : Board) (base quote : String) :
    (b.bookOf base quote).outcome.1 = .ok (b.quotedBook base quote) := run_bookOf b base quote []

/-- The book of a market does not hang on the requests before. -/
theorem isOblivious_bookOf (b : Board) (base quote : String) :
    (b.bookOf base quote).IsOblivious := by
  intro log
  rw [run_bookOf, outcome_bookOf]

/-- What is published of a market: its book, with what the other views hold of it. -/
def bookOn (b : Board) (x : Context) (prices : Table DayPrices) (vols : Table Volume)
    (base quote : String) : Run Orderbook :=
  bookRecord x.catalogue base quote (b.quotedBook base quote)
    (viewsOf prices vols x.lastTrades (base, quote)) b.now

theorem isOblivious_bookRecords (b : Board) (x : Context) (prices : Table DayPrices)
    (vols : Table Volume) (ms : List (String × String)) :
    (b.bookRecords x prices vols ms).IsOblivious := by
  induction ms with
  | nil => exact isOblivious_pure []
  | cons m ms ih =>
    unfold bookRecords
    refine (b.isOblivious_bookOf _ _).bind fun book => (isOblivious_ofRun _).bind fun r => ?_
    exact ih.bind fun rs => isOblivious_pure _

/-- The books of markets are what comes of each of them. -/
theorem outcome_bookRecords (b : Board) (x : Context) (prices : Table DayPrices)
    (vols : Table Volume) (ms : List (String × String)) :
    (b.bookRecords x prices vols ms).outcome.1 = recordList (b.bookOn x prices vols) ms := by
  induction ms with
  | nil => rfl
  | cons m ms ih =>
    have hrest : ∀ r, (b.bookRecords x prices vols ms >>= fun rs =>
        (return (Pair.join m.1 m.2, r) :: rs : Asking (List (String × Orderbook)))).IsOblivious :=
      fun r => (b.isOblivious_bookRecords x prices vols ms).bind fun rs => isOblivious_pure _
    unfold bookRecords recordList
    rw [outcome_bind fun book => (isOblivious_ofRun _).bind hrest, outcome_bookOf, Run.ok_bind,
      outcome_bind hrest]
    show (b.bookOn x prices vols m.1 m.2 >>= _) = _
    congr 1
    funext r
    rw [outcome_bind fun rs => isOblivious_pure _, ih]
    rfl

/-- The books of markets as a table. -/
def bookTable (b : Board) (x : Context) (prices : Table DayPrices) (vols : Table Volume) :
    Asking (Table Orderbook) :=
  b.bookRecords x prices vols x.candidates >>= fun rs => return .ofList rs

theorem isOblivious_bookTable (b : Board) (x : Context) (prices : Table DayPrices)
    (vols : Table Volume) : (b.bookTable x prices vols).IsOblivious :=
  (b.isOblivious_bookRecords x prices vols _).bind fun _ => isOblivious_pure _

/-- The table of all books is made market by market, each book from its own answer. -/
theorem outcome_bookTable (b : Board) (x : Context) (prices : Table DayPrices)
    (vols : Table Volume) :
    (b.bookTable x prices vols).outcome.1 = recordTable x.candidates (b.bookOn x prices vols) := by
  unfold bookTable recordTable
  rw [outcome_bind fun _ => isOblivious_pure _, outcome_bookRecords]
  cases recordList (b.bookOn x prices vols) x.candidates <;> rfl

/-- The orderbooks are a table of what comes of each candidate. -/
theorem outcome_produceOrderbooks (b : Board) : b.produceOrderbooks.outcome.1
    = b.context >>= fun x => b.require .dayPrices >>= fun prices =>
      b.require .dayVolumes >>= fun vols =>
        recordTable x.candidates (b.bookOn x prices vols) := by
  have hvols : ∀ x prices, (ofRun (b.require .dayVolumes) >>= fun vols =>
      b.bookTable x prices vols).IsOblivious := fun x prices =>
    (isOblivious_ofRun _).bind (b.isOblivious_bookTable x prices)
  refine (outcome_bind fun x => (isOblivious_ofRun _).bind (hvols x)).trans ?_
  show (b.context >>= fun x => _) = _
  congr 1
  funext x
  refine (outcome_bind (hvols x)).trans ?_
  show (b.require .dayPrices >>= fun prices => _) = _
  congr 1
  funext prices
  refine (outcome_bind (b.isOblivious_bookTable x prices)).trans ?_
  show (b.require .dayVolumes >>= fun vols => _) = _
  congr 1
  funext vols
  exact b.outcome_bookTable x prices vols

/-! ## The record of one market -/

section Record

variable {c : Catalogue} {base quote : String} {book : QuotedBook} {f : Orderbook.Figures}
  {now : Int}

/-- A book that can be read is projected. -/
theorem bookRecord_of_isReadable (h : book.IsReadable) :
    bookRecord c base quote book f now = Orderbook.project c base quote book f now := by
  have hf : (Orderbook.project c base quote book f now).Faultless := Orderbook.faultless_project h
  unfold bookRecord
  split
  · next fault he => exact absurd he (hf fault)
  · rfl

/-- A book that cannot be read leaves the blank record of its market. -/
theorem bookRecord_of_not_isReadable (h : ¬ book.IsReadable) :
    bookRecord c base quote book f now = .ok (.blank base quote) := by
  obtain ⟨fault, hp⟩ : ∃ fault, Orderbook.project c base quote book f now = Run.fail fault :=
    Orderbook.project_of_not_isReadable h
  unfold bookRecord
  rw [hp]
  rfl

/-- Nothing but a number out of range keeps the record of a book from being made. -/
theorem faultless_bookRecord : (bookRecord c base quote book f now).Faultless := by
  by_cases h : book.IsReadable
  · rw [bookRecord_of_isReadable h]
    exact Orderbook.faultless_project h
  · rw [bookRecord_of_not_isReadable h]
    exact Run.faultless_ok _

end Record

variable {x : Context} {prices : Table DayPrices} {vols : Table Volume}

/-- What is published of a market follows the answer for it. -/
structure FollowsAnswer (b : Board) (x : Context) (prices : Table DayPrices) (vols : Table Volume)
    (m : String × String) (r : Orderbook) : Prop where
  /-- A book whose orders can be read is projected. -/
  answered : ∀ book, b.settings.hasNode = true → b.answer m.1 m.2 = .ok book → book.IsReadable →
    Orderbook.project x.catalogue m.1 m.2 book (viewsOf prices vols x.lastTrades m) b.now = .ok r
  /-- Without an answer the book is empty, with the figures of the market. -/
  unanswered : (b.settings.hasNode = true → ∃ e, b.answer m.1 m.2 = .error e) →
    Orderbook.project x.catalogue m.1 m.2 .empty (viewsOf prices vols x.lastTrades m) b.now = .ok r
  /-- With an order that cannot be read the book is blank. -/
  malformed : ∀ book, b.settings.hasNode = true → b.answer m.1 m.2 = .ok book →
    ¬ book.IsReadable → r = .blank m.1 m.2

/-- With a node that answers, the quoted book is the answer. -/
theorem quotedBook_of_answer {base quote : String} {book : QuotedBook}
    (hnode : b.settings.hasNode = true) (h : b.answer base quote = .ok book) :
    b.quotedBook base quote = book := by
  unfold quotedBook
  rw [if_pos hnode, h]
  rfl

/-- Without a node, or if it does not answer, the quoted book is empty. -/
theorem quotedBook_of_error {base quote : String}
    (h : b.settings.hasNode = true → ∃ e, b.answer base quote = .error e) :
    b.quotedBook base quote = .empty := by
  unfold quotedBook
  split
  · next hnode =>
    obtain ⟨e, he⟩ := h hnode
    rw [he]
    rfl
  · rfl

/-- The record of a market follows the answer of the node to the request for its book. -/
theorem followsAnswer_of_bookOn {m : String × String} {r : Orderbook}
    (h : b.bookOn x prices vols m.1 m.2 = .ok r) : b.FollowsAnswer x prices vols m r where
  answered book hnode ha hr := by
    unfold bookOn at h
    rw [quotedBook_of_answer hnode ha, bookRecord_of_isReadable hr] at h
    exact h
  unanswered he := by
    unfold bookOn at h
    rw [quotedBook_of_error he, bookRecord_of_isReadable QuotedBook.isReadable_empty] at h
    exact h
  malformed book hnode ha hr := by
    unfold bookOn at h
    rw [quotedBook_of_answer hnode ha, bookRecord_of_not_isReadable hr] at h
    exact (Except.ok.inj h).symm

/-- A book is not cut short if the numbers of the coins and of its orders can be written. -/
theorem uncut_bookOn (hc : ∀ t, (x.catalogue.usdPrice t).Within greatestPlaces)
    {base quote : String} (h : (b.quotedBook base quote).IsSized) :
    (b.bookOn x prices vols base quote).cut? = none := by
  refine faultless_bookRecord.exists_ok_iff.1 ?_
  by_cases hr : (b.quotedBook base quote).IsReadable
  · rw [bookRecord_of_isReadable hr]
    obtain ⟨r, hr, -⟩ := Orderbook.project_ok hc h hr
    exact ⟨r, hr⟩
  · rw [bookRecord_of_not_isReadable hr]
    exact ⟨_, rfl⟩

/-! ## All markets -/

/-- The markets of last trades that are shown. -/
def shownMarkets (b : Board) (c : Catalogue) (last : Table LastTrade) : List (String × String) :=
  marketsSince last c (b.now - b.settings.marketDays * daySeconds)

/-- Whether the time from which on a market is shown can be computed. -/
def hasWindow (b : Board) : Prop := WindowFits b.now b.settings.marketDays

/-- With coins and last trades in place, the context is there unless a time leaves its range. -/
theorem context_ok_iff {entries : CoinEntries} {last : Table LastTrade} {x : Context}
    (he : b.slots .coinEntries = some entries) (hl : b.slots .lastTrades = some last) :
    let c := b.catalogue entries
    b.context = .ok x ↔ b.hasWindow ∧ x = ⟨c, last, b.shownMarkets c last⟩ := by
  intro c
  have hcontext : b.context = candidates last c b.now b.settings.marketDays
      >>= fun ms => .ok ⟨c, last, ms⟩ := by
    unfold context
    rw [require_ok_iff.2 he, require_ok_iff.2 hl]
    rfl
  rw [hcontext, Run.bind_ok_iff]
  simp only [candidates_ok_iff]
  constructor
  · rintro ⟨ms, ⟨hw, rfl⟩, hx⟩
    exact ⟨hw, (Except.ok.inj hx).symm⟩
  · rintro ⟨hw, rfl⟩
    exact ⟨_, ⟨hw, rfl⟩, rfl⟩

/-- The table of the books of markets is made if none of them is cut short. -/
theorem exists_bookTable_iff {ms : List (String × String)} :
    (∃ t, recordTable ms (b.bookOn x prices vols) = .ok t) ↔
      ∀ m ∈ ms, (b.bookOn x prices vols m.1 m.2).cut? = none := by
  rw [exists_recordTable_iff]
  refine forall₂_congr fun m _ => ?_
  exact faultless_bookRecord.exists_ok_iff

/-- One answer has no effect on what comes of another market. -/
theorem bookOn_congr {network : Network} {base quote : String}
    (h : { b with network := network }.answer base quote = b.answer base quote) :
    { b with network := network }.bookOn x prices vols base quote
      = b.bookOn x prices vols base quote := by
  unfold bookOn quotedBook
  rw [h]

/-- The orderbooks are those of the markets that are shown. -/
theorem produceOrderbooks_ok_iff {entries : CoinEntries} {last : Table LastTrade}
    (he : b.slots .coinEntries = some entries) (hl : b.slots .lastTrades = some last)
    (hp : b.slots .dayPrices = some prices) (hv : b.slots .dayVolumes = some vols)
    {t : Table Orderbook} :
    let c := b.catalogue entries
    let ms := b.shownMarkets c last
    b.produceOrderbooks.outcome.1 = .ok t ↔
      b.hasWindow ∧ recordTable ms (b.bookOn ⟨c, last, ms⟩ prices vols) = .ok t := by
  intro c ms
  rw [outcome_produceOrderbooks, require_ok_iff.2 hp, require_ok_iff.2 hv, Run.bind_ok_iff]
  simp only [context_ok_iff he hl]
  constructor
  · rintro ⟨_, ⟨hw, rfl⟩, ht⟩
    exact ⟨hw, ht⟩
  · rintro ⟨hw, ht⟩
    exact ⟨_, ⟨hw, rfl⟩, ht⟩

/-- The orderbooks of the markets that are shown, if the last trades are under their identifiers:

* they are built if and only if the time from which on a market is shown can be computed and no book
  is cut short while it is projected, and this is so whenever the numbers of the coins and of the
  orders can be written;
* there is one for each market and no other, whatever the order in which the answers come;
* each follows the answer for its own market: the book that was answered, the empty one with the
  figures of the market if there is no answer, a blank one if an order cannot be read;
* if another network answers differently for one market only, the books are built unless that one
  is cut short, and at most that one is different. -/
theorem orderbooks_isolated {entries : CoinEntries} {last : Table LastTrade}
    (he : b.slots .coinEntries = some entries) (hl : b.slots .lastTrades = some last)
    (hp : b.slots .dayPrices = some prices) (hv : b.slots .dayVolumes = some vols)
    (hn : AreNamed last) :
    let c := b.catalogue entries
    let ms := b.shownMarkets c last
    let x : Context := ⟨c, last, ms⟩
    ((∃ t, b.produceOrderbooks.outcome.1 = .ok t) ↔
      b.hasWindow ∧ ∀ m ∈ ms, (b.bookOn x prices vols m.1 m.2).cut? = none) ∧
    (b.hasWindow → (∀ t, (c.usdPrice t).Within greatestPlaces) →
      (∀ m ∈ ms, (b.quotedBook m.1 m.2).IsSized) → ∃ t, b.produceOrderbooks.outcome.1 = .ok t) ∧
    ∀ t, b.produceOrderbooks.outcome.1 = .ok t →
      t.keys.Perm (ms.map Pair.ofSides) ∧
      (∀ order, order.Perm ms →
        (b.bookRecords x prices vols order).outcome.1.map Table.ofList = .ok t) ∧
      (∀ m ∈ ms, ∃ r, t.find? (Pair.ofSides m) = some r ∧ b.FollowsAnswer x prices vols m r) ∧
      ∀ m ∈ ms, ∀ network, let b' := { b with network := network }
        (∀ m' ∈ ms, m' ≠ m → b'.answer m'.1 m'.2 = b.answer m'.1 m'.2) →
          ((∃ t', b'.produceOrderbooks.outcome.1 = .ok t') ↔
            (b'.bookOn x prices vols m.1 m.2).cut? = none) ∧
          ∀ t', b'.produceOrderbooks.outcome.1 = .ok t' →
            ∃ r, t' = t.insert (Pair.ofSides m) r := by
  intro c ms x
  have hids : (ms.map Pair.ofSides).Nodup := hn.nodup_ids (sublist_marketsSince last c _)
  have hok : ∀ t, b.produceOrderbooks.outcome.1 = .ok t ↔
      b.hasWindow ∧ recordTable ms (b.bookOn x prices vols) = .ok t := fun t =>
    produceOrderbooks_ok_iff he hl hp hv
  refine ⟨?_, ?_, ?_⟩
  · simp only [hok, exists_and_left, exists_bookTable_iff]
  · intro hw hc hbooks
    simp only [hok, exists_and_left, exists_bookTable_iff]
    exact ⟨hw, fun m hm => uncut_bookOn hc (hbooks m hm)⟩
  · intro t ht
    obtain ⟨hw, htable⟩ := (hok t).1 ht
    refine ⟨keys_recordTable hids htable, ?_, ?_, ?_⟩
    · intro order horder
      rw [outcome_bookRecords]
      exact recordTable_perm hids htable horder
    · intro m hm
      obtain ⟨r, hr, hbook⟩ := find?_recordTable hids htable hm
      exact ⟨r, hr, followsAnswer_of_bookOn hbook⟩
    · intro m hm network b' hsame
      have hok' : ∀ t, b'.produceOrderbooks.outcome.1 = .ok t ↔
          b.hasWindow ∧ recordTable ms (b'.bookOn x prices vols) = .ok t := fun t =>
        produceOrderbooks_ok_iff (b := b') he hl hp hv
      have hbooks : ∀ m' ∈ ms, m' ≠ m →
          b'.bookOn x prices vols m'.1 m'.2 = b.bookOn x prices vols m'.1 m'.2 := fun m' hm' hne =>
        bookOn_congr (hsame m' hm' hne)
      constructor
      · simp only [hok', exists_and_left]
        constructor
        · rintro ⟨-, ht'⟩
          exact exists_bookTable_iff.1 ht' m hm
        · intro hcut
          obtain ⟨r, hr⟩ := faultless_bookRecord.exists_ok_iff.2 hcut
          exact ⟨hw, _, recordTable_insert hids htable hm hbooks hr⟩
      · intro t' ht'
        obtain ⟨-, htable'⟩ := (hok' t').1 ht'
        obtain ⟨r, -, hr⟩ := find?_recordTable hids htable' hm
        have hinsert := recordTable_insert hids htable hm hbooks hr
        exact ⟨r, Except.ok.inj (htable'.symm.trans hinsert)⟩

end Board

/-! ## One order that ends the build -/

namespace Quoting

/-- The settings of a program with a trading node on its own machine. -/
def settings : Settings := { (default : Settings) with nodeUrl := "http://[::1]", marketDays := 1 }

/-- The entries of three coins. -/
def entries : CoinEntries :=
  .ofList (["DGB", "KMD", "LTC"].map fun t => (t, ⟨t, "UTXO", t, t, false, false⟩))

/-- The price of one of them. -/
def coinPrices : CoinPrices := .ofList [("KMD", ⟨"0.2500000000", "0.0000000000"⟩)]

/-- The last trade of a market with LTC. -/
def lastTrade (base : String) : LastTrade :=
  { LastTrade.blank base "LTC" with swapTime := 100000 }

/-- The last trades of two markets. -/
def last : Table LastTrade := .ofList (["DGB", "KMD"].map fun t => (Pair.join t "LTC", lastTrade t))

/-- The volume of a day of one of them. -/
def volume : Volume := { Volume.blank "DGB" "LTC" with trades := 3 }

/-- A network with a trading node that has an order of some volume for the one market, and knows
nothing of the other. -/
def network (volume : String) : Network :=
  ⟨true, .ofList [("http://[::1]/#KMD/LTC", ⟨200,
    "\x7b\"asks\":[\x7b\"price\":\"1\",\"base_max_volume\":\"" ++ volume
      ++ "\",\"rel_max_volume\":\"1\"\x7d]\x7d", 0, false⟩)]⟩

/-- A program that asks it. -/
def board (volume : String) : Board where
  settings := settings
  geo := .empty
  disk := .empty
  network := network volume
  now := 150000
  slots
    | .coinEntries => some entries
    | .coinPrices => some coinPrices
    | .lastTrades => some last
    | .dayPrices => some (.empty : Table DayPrices)
    | .dayVolumes => some (.ofList [("DGB_LTC", Quoting.volume)] : Table Volume)
    | _ => none
  stamps _ := default
  building _ := false

/-- The last trades are stored under their own identifiers. -/
theorem areNamed_last : AreNamed last := by
  have h : ∀ e ∈ last.entries, e.1 = Pair.ofSides e.2.sides := by decide
  exact fun k r hr => h (k, r) (Table.find?_eq_some_iff.1 hr)

/-- Both markets are shown. -/
theorem shown (volume : String) :
    (board volume).shownMarkets ((board volume).catalogue entries) last
      = [("DGB", "LTC"), ("KMD", "LTC")] := by
  show marketsSince last (Catalogue.ofEntries entries none (some coinPrices))
    (150000 - 1 * daySeconds) = _
  decide +kernel

/-- A volume that is no number is an answer with an order that cannot be read. -/
theorem answer_malformed :
    ∃ book, (board "x").answer "KMD" "LTC" = .ok book ∧ ¬ book.IsReadable := by
  have h : ((board "x").answer "KMD" "LTC").toOption.map
      (fun book => (Order.ofQuotes book.asks).toOption.isSome) = some false := by
    decide +kernel
  obtain ⟨book, hbook, hasks⟩ := Option.map_eq_some_iff.1 h
  refine ⟨book, Run.toOption_eq_some.1 hbook, ?_⟩
  rintro ⟨⟨os, hos⟩, -⟩
  rw [hos] at hasks
  cases hasks

/-- Of the other market the node knows nothing. -/
theorem answer_missing : ∃ e, (board "x").answer "DGB" "LTC" = .error e := by
  have h : ((board "x").answer "DGB" "LTC").toOption.isSome = false := by decide +kernel
  cases ha : (board "x").answer "DGB" "LTC" with
  | error e => exact ⟨e, rfl⟩
  | ok book =>
    rw [ha] at h
    cases h

end Quoting

/-- One of two books has a volume that cannot be read: its record is blank, and the other market has
its own figures. -/
theorem orderbooks_isolated_malformed : AreNamed Quoting.last ∧
    ∃ t, (Quoting.board "x").produceOrderbooks.outcome.1 = .ok t ∧
      t.keys.Perm ["DGB_LTC", "KMD_LTC"] ∧ t.find? "KMD_LTC" = some (.blank "KMD" "LTC") ∧
      ∃ r, t.find? "DGB_LTC" = some r ∧ r.trades = 3 := by
  have hnamed := Quoting.areNamed_last
  obtain ⟨-, -, h⟩ :=
    Board.orderbooks_isolated (b := Quoting.board "x") rfl rfl rfl rfl hnamed
  have hbuilt : (Quoting.board "x").produceOrderbooks.outcome.1.toOption.isSome = true := by
    decide +kernel
  obtain ⟨t, ht⟩ := Option.isSome_iff_exists.1 hbuilt
  have ht := Run.toOption_eq_some.1 ht
  obtain ⟨hkeys, -, hbooks, -⟩ := h t ht
  rw [Quoting.shown] at hkeys hbooks
  obtain ⟨r, hr, hfollows⟩ := hbooks ("KMD", "LTC") (by simp)
  obtain ⟨r', hr', hfollows'⟩ := hbooks ("DGB", "LTC") (by simp)
  obtain ⟨book, hanswer, hmalformed⟩ := Quoting.answer_malformed
  have hblank := hfollows.malformed book rfl hanswer hmalformed
  have hproject := hfollows'.unanswered fun _ => Quoting.answer_missing
  have htrades := Orderbook.trades_of_project (v := Quoting.volume) (by decide +kernel) hproject
  refine ⟨hnamed, t, ht, hkeys, ?_, r', hr', htrades⟩
  rw [← hblank]
  exact hr

/-- One order with a volume below all that 64 bits of places hold ends the build of all books,
although all that the books are made of is there. -/
theorem orderbooks_isolated_unless_cut : ∃ (b : Board) (entries : CoinEntries)
    (last : Table LastTrade), b.slots .coinEntries = some entries ∧
      b.slots .lastTrades = some last ∧ (b.slots .dayPrices).isSome = true ∧
      (b.slots .dayVolumes).isSome = true ∧ AreNamed last ∧
      b.shownMarkets (b.catalogue entries) last = [("DGB", "LTC"), ("KMD", "LTC")] ∧
      b.produceOrderbooks.outcome.1.cut?.isSome = true := by
  refine ⟨Quoting.board "1e-9223372036854775807", Quoting.entries, Quoting.last, rfl, rfl, rfl, rfl,
    Quoting.areNamed_last, Quoting.shown _, ?_⟩
  decide +kernel

end SwapMarket
