import SwapMarket.Proofs.Board.Reach
import SwapMarket.Proofs.Board.Timing
import SwapMarket.Proofs.Market.Candidates
import SwapMarket.Proofs.Reference.Rates

/-!
# Times that leave their range

Times are added up and subtracted in three places: to find out what is due, which markets are
candidates, and how old rates are. Settings are admitted with any durations above zero, so what is
computed of them can leave its range even if the clock never shows a time of more than four digits
for the year (**`Schedule.IsFourDigit`**).

What is noted of an item is a time that the clock has shown (`Reaches.notes`). So the durations
after it end within the calendar unless they are longer than the rest of the calendar, and shorter
than those that count as a hundred years (**`Schedule.IsAddable`**).

Main statement: **`times_in_range`**, with the exact conditions. They can fail
(`times_in_range_unless_long`).
-/

namespace SwapMarket

/-! ## Durations and times -/

namespace Schedule

/-- A time of the years 1970 to 9999. -/
def IsFourDigit (t : Int) : Prop := 0 ≤ t ∧ t ≤ 253402300799

/-- A duration that ends within the calendar after any time until 9999, or that counts as a hundred
years. -/
def IsAddable (n : Nat) : Prop := n ≤ 7956864576000 ∨ greatestDuration < n

instance (t : Int) : Decidable (IsFourDigit t) := inferInstanceAs (Decidable (_ ∧ _))

instance (n : Nat) : Decidable (IsAddable n) := inferInstanceAs (Decidable (_ ∨ _))

/-- Durations that can be added are those that end within the calendar after any time. -/
theorem isAddable_iff {n : Nat} :
    IsAddable n ↔ ∀ t, IsFourDigit t → t + duration n ≤ greatestTime := by
  unfold IsAddable IsFourDigit duration greatestTime greatestDuration century
  constructor
  · rintro h t ⟨-, ht⟩
    split <;> omega
  · intro h
    have hlast := h 253402300799 (by omega)
    split at hlast <;> omega

/-- Durations that can be added to what is noted end within the calendar. -/
theorem endsInCalendar_of_isAddable {ttl retry : Nat} {s : Stamps} {now : Int}
    (hs : ∀ t, s.lastBuilt = some t ∨ s.lastAttempt = some t → IsFourDigit t)
    (ht : IsAddable ttl) (hr : IsAddable retry) : EndsInCalendar ttl retry s now where
  built c hc := isAddable_iff.1 ht c (hs c (.inl hc))
  attempt a ha _ := isAddable_iff.1 hr a (hs a (.inr ha))

end Schedule

open Schedule

/-- Settings that are admitted look back for a number of days. -/
theorem Settings.marketDays_pos {s : Settings} (h : s.check = .ok ()) : 0 < s.marketDays := by
  unfold check at h
  split at h
  · cases h
  · split at h
    · cases h
    · next hpos => exact Int.not_le.1 fun hd => hpos (.inl hd)

/-- The markets of so many days can be found at any time until 9999, or never. -/
theorem windowFits_iff {now days : Int} (hnow : IsFourDigit now) (hdays : 0 < days) :
    WindowFits now days ↔ days ≤ 106751991167300 := by
  have hday : daySeconds = 86400 := rfl
  obtain ⟨hfirst, hlast⟩ := hnow
  constructor
  · rintro ⟨hlength, -⟩
    rw [Json.fitsInt64_iff, hday] at hlength
    omega
  · intro h
    constructor
    · rw [Json.fitsInt64_iff, hday]
      omega
    · rw [Json.fitsInt64_iff, hday]
      omega

/-! ## What is noted -/

namespace Board

variable {b c : Board} {n : Item} {t : Int}

/-- A time is noted of an item. -/
def Notes (b : Board) (t : Int) : Prop :=
  ∃ n, (b.stamps n).lastBuilt = some t ∨ (b.stamps n).lastAttempt = some t

/-- A step from one board to another notes no time but that of the clock. -/
def NotesNow (b c : Board) : Prop := ∀ t, c.Notes t → b.Notes t ∨ t = b.now

/-- A board that changes no notes has noted nothing. -/
theorem notesNow_of_stamps (h : c.stamps = b.stamps) : b.NotesNow c := by
  rintro t ⟨n, ht⟩
  rw [h] at ht
  exact .inl ⟨n, ht⟩

/-- Notes of two steps in a row. -/
theorem NotesNow.trans {d : Board} (h : b.NotesNow c) (hnow : c.now = b.now)
    (h' : c.NotesNow d) : b.NotesNow d := by
  intro t ht
  rcases h' t ht with ht | ht
  · exact h t ht
  · exact .inr (ht.trans hnow)

/-- The notes on an item are changed to ones with the time of the clock. -/
theorem notesNow_setStamps {s : Stamps} (hb : ∀ t, s.lastBuilt = some t →
      (b.stamps n).lastBuilt = some t ∨ t = b.now)
    (ha : ∀ t, s.lastAttempt = some t → (b.stamps n).lastAttempt = some t ∨ t = b.now) :
    b.NotesNow (b.setStamps n s) := by
  rintro t ⟨m, ht⟩
  rw [stamps_setStamps] at ht
  split at ht
  · rcases ht with ht | ht
    · exact (hb t ht).imp_left fun h => ⟨n, .inl h⟩
    · exact (ha t ht).imp_left fun h => ⟨n, .inr h⟩
  · exact .inl ⟨m, ht⟩

/-- Starting a build notes the attempt at the time of the board. -/
theorem notesNow_begin (b : Board) (n : Item) : b.NotesNow (b.begin n) :=
  notesNow_setStamps (b := b.setBuilding n true) (fun _ h => .inl h) fun _ h =>
    .inr (Option.some.inj h).symm

/-- Stamping notes the success at the time of the board. -/
theorem notesNow_stamp (b : Board) (n : Item) : b.NotesNow (b.stamp n) :=
  notesNow_setStamps (fun _ h => .inr (Option.some.inj h).symm) fun _ h => .inl h

theorem notesNow_complete (b : Board) (n : Item) (v : n.Value) :
    b.NotesNow (b.complete n v).1 := by
  cases hp : b.persist n v with
  | error f =>
    rw [complete_of_error hp]
    exact notesNow_of_stamps rfl
  | ok c =>
    rw [complete_of_ok hp]
    obtain ⟨⟨d, rfl⟩, -⟩ := persist_ok hp
    exact notesNow_stamp (({ b with disk := d } : Board).publish n v) n

/-- A build notes no time but that of the clock. -/
theorem notesNow_build (b : Board) (n : Item) : b.NotesNow (b.build n).1 := by
  unfold build buildReading
  cases hs : b.starts n with
  | error e => exact notesNow_of_stamps rfl
  | ok starts =>
    cases starts with
    | false => exact notesNow_of_stamps rfl
    | true =>
      simp only [runBuild, hs]
      cases (b.produce n).outcome.1 with
      | error e => exact notesNow_begin b n
      | ok v => exact (notesNow_begin b n).trans rfl (notesNow_complete (b.begin n) n v)

/-- What a call of a client builds is noted at the time of the board. -/
theorem notesNow_visit (b : Board) (call : Api.Call) : b.NotesNow (Api.visit b call).1 := by
  unfold Api.visit
  simp only
  split
  · exact notesNow_build b _
  · exact notesNow_of_stamps rfl

/-- A load notes nothing. -/
theorem notesNow_load (h : b.load n = .ok c) : b.NotesNow c := by
  unfold load at h
  cases hs : b.stored n with
  | error f =>
    rw [hs] at h
    cases h
  | ok v =>
    rw [hs] at h
    cases h
    exact notesNow_of_stamps rfl

end Board

variable {item : Nat → Item}

/-- A move notes no time but that of the clock. -/
theorem Calls.Effect.notesNow {s t : Calls item} {a : Option Nat} (h : Effect s a t) :
    s.board.NotesNow t.board := by
  cases h with
  | begun => exact Board.notesNow_begin _ _
  | written hp hb =>
    obtain ⟨⟨d, rfl⟩, -⟩ := Board.persist_ok hb
    exact Board.notesNow_of_stamps rfl
  | built => exact Board.notesNow_stamp _ _
  | _ => exact Board.notesNow_of_stamps rfl

/-- What is noted is a time that the clock has shown since the program was started. -/
theorem Reaches.notes {seen : List Board} {s : Calls item} (h : Reaches seen s) {t : Int}
    (ht : s.board.Notes t) : ∃ b ∈ seen, b.now = t := by
  have hstep {seen : List Board} {b c : Board} (ih : ∀ t, b.Notes t → ∃ d ∈ seen, d.now = t)
      (hbc : b.NotesNow c) (t : Int) (ht : c.Notes t) : ∃ d ∈ b :: seen, d.now = t := by
    rcases hbc t ht with ht | rfl
    · obtain ⟨d, hd, hnow⟩ := ih t ht
      exact ⟨d, List.mem_cons_of_mem _ hd, hnow⟩
    · exact ⟨b, List.mem_cons_self, rfl⟩
  induction h generalizing t with
  | start =>
    obtain ⟨n, h | h⟩ := ht
    · cases h
    · cases h
  | produce _ c _ _ ih => exact hstep (fun _ => ih) (Calls.step_effect _ _).notesNow t ht
  | move _ _ ih => exact hstep (fun _ => ih) (Calls.step_effect _ _).notesNow t ht
  | visit _ call _ ih => exact hstep (fun _ => ih) (Board.notesNow_visit _ call) t ht
  | load _ hb ih => exact hstep (fun _ => ih) (Board.notesNow_load hb) t ht
  | restart =>
    obtain ⟨n, h | h⟩ := ht
    · cases h
    · cases h

/-! ## Main statement -/

/-- In every state that can be reached with admitted settings while the clock shows times of the
years 1970 to 9999, at any such time:

* it is found what is due if and only if, of each item, the durations that are looked at end within
  the calendar, and they do if they end within it after any time until 9999 or count as a hundred
  years;
* the candidates of any last trades and coins are found if and only if the markets are shown for no
  more than `106751991167300` days;
* rates that were made of an answer, whatever 64 bits it gives as their time, are found to be fresh
  or stale if they are younger than `2 ^ 63` seconds, and only then. -/
theorem times_in_range (item : Nat → Item) {seen : List Board} {s : Calls item}
    (h : Reaches seen s) (hseen : ∀ b ∈ seen, IsFourDigit b.now)
    (hcheck : s.board.settings.check = .ok ()) {now : Int} (hnow : IsFourDigit now) :
    ((∃ due, ({ s.board with now := now } : Board).dueItems = .ok due) ↔
      ∀ n, EndsInCalendar (s.board.settings.ttl n) s.board.settings.retryInterval
        (s.board.stamps n) now) ∧
    ((∀ n, IsAddable (s.board.settings.ttl n)) → IsAddable s.board.settings.retryInterval →
      ∃ due, ({ s.board with now := now } : Board).dueItems = .ok due) ∧
    (∀ last c, (∃ ms, candidates last c now s.board.settings.marketDays = .ok ms) ↔
      s.board.settings.marketDays ≤ 106751991167300) ∧
    ∀ a r, (∀ t, a.timestamp = some t → Json.FitsInt64 t) → Rates.ofAnswer a = .ok r →
      r.checkFresh now s.board.settings.ratesMaxAge =
        if now - r.timestamp < 2 ^ 63 then
          if s.board.settings.ratesMaxAge < now - r.timestamp then Run.fail .stale else .ok ()
        else .error .overflow := by
  have hclock : 0 ≤ now ∧ now ≤ greatestTime := by
    unfold IsFourDigit at hnow
    unfold greatestTime
    omega
  have hdue : (∃ due, ({ s.board with now := now } : Board).dueItems = .ok due) ↔
      ∀ n, EndsInCalendar (s.board.settings.ttl n) s.board.settings.retryInterval
        (s.board.stamps n) now :=
    (Board.exists_dueItems_iff hclock).trans (forall_congr' fun _ => exists_isDue_iff)
  refine ⟨hdue, ?_, ?_, ?_⟩
  · intro httl hretry
    rw [hdue]
    intro n
    refine endsInCalendar_of_isAddable ?_ (httl n) hretry
    intro t ht
    obtain ⟨b, hb, rfl⟩ := h.notes ⟨n, ht⟩
    exact hseen b hb
  · intro last c
    rw [← windowFits_iff hnow (Settings.marketDays_pos hcheck)]
    simp only [candidates_ok_iff, exists_and_left, exists_eq, and_true]
  · intro a r ha hr
    obtain ⟨-, timestamp, rates, ht, -, -, rfl⟩ := Rates.ofAnswer_ok_iff.1 hr
    have hfits := Json.fitsInt64_iff.1 (ha timestamp ht)
    have hage : Json.FitsInt64 (now - timestamp) ↔ now - timestamp < 2 ^ 63 := by
      unfold IsFourDigit at hnow
      rw [Json.fitsInt64_iff]
      omega
    rw [Rates.checkFresh_eq]
    simp only [hage]

/-! ## A program that has tried to build an item -/

/-- An empty disk has no files of items. -/
theorem Board.file_of_empty (settings : Settings) (geo : GeoDatabase) (network : Network)
    (now : Int) (n : Item) : (Board.start settings geo .empty network now).file n = none := by
  show Disk.empty.find? (settings.itemLocation n) = none
  rw [Settings.itemLocation_eq]
  exact if_neg (by simp)

namespace Attempting

/-- Settings with intervals of a second, except that after a failure. -/
def settings (retry : Nat) (days : Int) : Settings :=
  { (default : Settings) with
    syncInterval := 1, coinsInterval := 1, pricesInterval := 1, ratesInterval := 1,
    exchangeInterval := 1, marketsInterval := 1, summaryInterval := 1, retryInterval := retry,
    checkInterval := 1, maxRequests := 1, marketDays := days, ratesMaxAge := 900 }

/-- A program that has just been started. -/
def board (retry : Nat) (days : Int) : Board :=
  .start (settings retry days) .empty .empty default 1700000000

/-- A build of the rates has begun. -/
def calls (retry : Nat) (days : Int) : Calls fun _ => Item.rates :=
  (Calls.start (board retry days)).step (.ask 0)

/-- The calls of the client are a run of the board. -/
theorem reaches_calls (retry : Nat) (days : Int) :
    Reaches [board retry days] (calls retry days) := by
  have hstart : Reaches [] (Calls.start (board retry days) : Calls fun _ => Item.rates) :=
    .start (Board.file_of_empty _ _ _ _)
  exact hstart.move (m := .ask 0) (by simp)

/-- An answer that quotes nothing but its base, the dollar. -/
def answer (timestamp : Int) : RatesAnswer :=
  ⟨true, some timestamp, some "USD", none, some .empty, none⟩

end Attempting

open Attempting

/-- Settings and times that are in range: builds start, the items that are due are found, and so are
the candidates. -/
theorem times_in_range_attempting : Reaches [board 30 30] (calls 30 30) ∧
    (∀ b ∈ [board 30 30], IsFourDigit b.now) ∧ (settings 30 30).check = .ok () ∧
    (∃ due, ({ (calls 30 30).board with now := 1700000030 } : Board).dueItems = .ok due) ∧
    (∀ last c, ∃ ms, candidates last c 1700000030 30 = .ok ms) ∧
    ∃ r, Rates.ofAnswer (answer 1700000000) = .ok r ∧
      r.checkFresh 1700000030 900 = .ok () := by
  have hseen : ∀ b ∈ [board 30 30], IsFourDigit b.now := by
    intro b hb
    obtain rfl := List.mem_singleton.1 hb
    decide
  have hcheck : (settings 30 30).check = .ok () := rfl
  have hnow : IsFourDigit 1700000030 := by decide
  obtain ⟨-, hdue, hmarkets, hrates⟩ := times_in_range _ (reaches_calls 30 30) hseen hcheck hnow
  refine ⟨reaches_calls 30 30, hseen, hcheck, hdue (fun n => by cases n <;> decide) (by decide),
    fun last c => (hmarkets last c).2 (by decide), ?_⟩
  have hanswer : ∃ r, Rates.ofAnswer (answer 1700000000) = .ok r ∧ r.timestamp = 1700000000 :=
    ⟨_, rfl, rfl⟩
  obtain ⟨r, hr, htime⟩ := hanswer
  refine ⟨r, hr, (hrates _ r (fun t ht => ?_) hr).trans ?_⟩
  · obtain rfl := Option.some.inj ht
    decide
  · rw [htime]
    rfl

/-- A retry interval that is almost the longest one, markets that are shown for as many days as 64
bits hold, and rates with the least time that 64 bits hold: all of this is admitted, and all of it
leaves its range. -/
theorem times_in_range_unless_long : ∃ (seen : List Board) (s : Calls fun _ => Item.rates),
    Reaches seen s ∧ (∀ b ∈ s.board :: seen, IsFourDigit b.now) ∧
    s.board.settings.check = .ok () ∧
    s.board.dueItems = .error .overflow ∧
    (∀ last c, candidates last c s.board.now s.board.settings.marketDays = .error .overflow) ∧
    ∃ a r, (∀ t, a.timestamp = some t → Json.FitsInt64 t) ∧ Rates.ofAnswer a = .ok r ∧
      r.checkFresh s.board.now s.board.settings.ratesMaxAge = .error .overflow := by
  refine ⟨_, calls 9223372036854775 9223372036854775807, reaches_calls _ _, ?_, rfl, rfl,
    fun last c => rfl, answer (-9223372036854775808), _, fun t ht => ?_, rfl, rfl⟩
  · intro b hb
    rcases List.mem_cons.1 hb with rfl | hb
    · decide
    · obtain rfl := List.mem_singleton.1 hb
      decide
  · obtain rfl := Option.some.inj ht
    decide

end SwapMarket
