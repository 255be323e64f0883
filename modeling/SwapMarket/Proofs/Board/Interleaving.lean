import SwapMarket.Proofs.Board.Tokens

/-!
# What holds while calls build items at the same time

Two invariants of calls that start on a board on which no build is under way, besides `Tokens`.

* **`Recorded`**: snapshot, file and time of success of each item are what the log says was last
  published, written and built, and what they were at the start if the log says nothing.
* **`Coherent`**: what was last written of an item, last published and last built is one value,
  except between the steps of a call that is about to publish or to note its success.

Main statement: `builds_interleave`.
-/

namespace SwapMarket

/-- What was last written of an item, last published and last built is one value, but for what a
call in this phase is about to publish or to note. -/
def Phase.Agrees {item : Nat → Item} {n : Item} (p : Phase n)
    (log : List (Event item)) : Prop :=
  match p with
  | .written v =>
    lastWritten n log = some v ∧ lastPublished n log = (lastBuilt n log).map Prod.fst
  | .published v => lastWritten n log = some v ∧ lastPublished n log = some v
  | _ =>
    lastWritten n log = lastPublished n log ∧
      lastPublished n log = (lastBuilt n log).map Prod.fst

namespace Calls

variable {item : Nat → Item} {s t : Calls item} {a : Option Nat} {b : Board}

/-! ## The log says what is on the board -/

/-- Snapshot, file and time of success of each item are what the log says was last published,
written and built, and otherwise what another board has. -/
structure Recorded (b : Board) (s : Calls item) : Prop where
  /-- The settings do not change. -/
  settings : s.board.settings = b.settings
  /-- The snapshot of an item is what was last published. -/
  slot : ∀ n, s.board.slots n = (lastPublished n s.log).or (b.slots n)
  /-- The file of an item has the text of what was last written. -/
  file : ∀ n, s.board.file n
    = ((lastWritten n s.log).map fun v => .text (n.fileText v)).or (b.file n)
  /-- A file that was written can be read. -/
  opened : ∀ n, (lastWritten n s.log).isSome = true → s.board.isOpen n = true
  /-- The time of success of an item is when it was last built. -/
  built : ∀ n, (s.board.stamps n).lastBuilt
    = ((lastBuilt n s.log).map Prod.snd).or (b.stamps n).lastBuilt

/-- At the start nothing is in the log, and the board is as it was. -/
theorem Recorded.start (b : Board) : Recorded b (start b : Calls item) where
  settings := rfl
  slot n := by simp [Calls.start]
  file n := by simp [Calls.start]
  opened n h := by simp [Calls.start] at h
  built n := by simp [Calls.start]

/-- A board that keeps all items goes with the same log. -/
theorem Recorded.congr (h : Recorded b s) (hl : t.log = s.log)
    (hs : t.board.settings = s.board.settings) (hk : ∀ n, s.board.Keeps t.board n)
    (ho : ∀ n, t.board.isOpen n = s.board.isOpen n) : Recorded b t where
  settings := hs.trans h.settings
  slot n := by rw [(hk n).slot, hl, h.slot]
  file n := by rw [(hk n).file, hl, h.file]
  opened n hw := by
    rw [ho n]
    rw [hl] at hw
    exact h.opened n hw
  built n := by rw [(hk n).built, hl, h.built]

/-- What a move does, it records. -/
theorem Recorded.effect (h : Recorded b s) (e : Effect s a t) : Recorded b t := by
  cases e with
  | idle => exact h
  | begun => exact h.congr rfl rfl (Board.begin_keeps _ _) fun _ => rfl
  | refused => exact h.congr rfl rfl (.refl _) fun _ => rfl
  | produced => exact h.congr rfl rfl (.refl _) fun _ => rfl
  | failed => exact h.congr rfl rfl (Board.release_keeps _ _) fun _ => rfl
  | changed hm =>
    exact h.congr rfl rfl (Board.keeps_of_mayBecome hm _) (Board.isOpen_of_mayBecome hm _)
  | @written c v b' hp hb =>
    obtain ⟨⟨d, rfl⟩, hf, ho, hother⟩ := Board.persist_ok hb
    refine ⟨h.settings, h.slot, fun n => ?_, fun n hw => ?_, h.built⟩
    · by_cases hn : item c = n
      · subst hn
        simpa using hf
      · have hfile := (hother n (Ne.symm hn)).1
        simp only [setPhase_board, setPhase_log, lastWritten_written_of_ne hn]
        rw [hfile, h.file]
    · by_cases hn : item c = n
      · subst hn
        exact ho
      · simp only [setPhase_log, lastWritten_written_of_ne hn] at hw
        exact (hother n (Ne.symm hn)).2 (h.opened n hw)
  | @published c v hp =>
    refine ⟨h.settings, fun n => ?_, h.file, h.opened, h.built⟩
    by_cases hn : item c = n
    · subst hn
      simp
    · simp only [setPhase_board, setPhase_log, lastPublished_published_of_ne hn,
        Board.slots_publish_of_ne _ hn]
      exact h.slot n
  | @built c v hp =>
    refine ⟨h.settings, h.slot, h.file, h.opened, fun n => ?_⟩
    by_cases hn : item c = n
    · subst hn
      simp [Board.stamp, Board.release, Board.setBuilding]
    · simp only [setPhase_board, setPhase_log, lastBuilt_built_of_ne hn]
      rw [← h.built n]
      simp [Board.stamp, Board.release, Board.setBuilding, hn]

/-! ## The log agrees with itself -/

/-- What the log says of an item agrees with the phase of the call that has its token. -/
structure Coherent (s : Calls item) (n : Item) : Prop where
  /-- If a call has the token, with its phase. -/
  holder : ∀ c, item c = n → (s.phase c).hasToken = true → (s.phase c).Agrees s.log
  /-- If no call has it, with itself. -/
  idle : (∀ c, item c = n → (s.phase c).hasToken = false) →
    (Phase.waiting : Phase n).Agrees s.log

/-- At the start the log is empty, and no call has a token. -/
theorem Coherent.start (b : Board) (n : Item) : Coherent (start b : Calls item) n where
  holder _ _ h := by cases h
  idle _ := by simp [Phase.Agrees, Calls.start]

/-- If one call has the token of its item, its phase is what counts. -/
theorem Coherent.of_holder (k : Tokens s) {c : Nat} (hc : (s.phase c).hasToken = true)
    (h : (s.phase c).Agrees s.log) : Coherent s (item c) where
  holder d hd ht := by
    obtain rfl := k.unique d c ht hc hd
    exact h
  idle hn := by
    rw [hn c rfl] at hc
    cases hc

/-- Only the phases of calls on an item count, and what the log says of it. -/
theorem Coherent.congr {n : Item} (h : Coherent s n)
    (hp : ∀ c, item c = n →
      (t.phase c).hasToken = (s.phase c).hasToken ∧ ((t.phase c).hasToken = true →
        t.phase c = s.phase c))
    (hl : lastWritten n t.log = lastWritten n s.log ∧
      lastPublished n t.log = lastPublished n s.log ∧
      lastBuilt n t.log = lastBuilt n s.log) : Coherent t n := by
  have agrees : ∀ p : Phase n, p.Agrees s.log → p.Agrees t.log := by
    intro p
    cases p <;> simp only [Phase.Agrees, hl] <;> exact id
  constructor
  · intro c hc ht
    subst hc
    rw [(hp c rfl).2 ht]
    rw [(hp c rfl).1] at ht
    exact agrees _ (h.holder c rfl ht)
  · intro hn
    exact agrees _ (h.idle fun c hc => (hp c hc).1.symm.trans (hn c hc))

/-- A call that gives its token back leaves the item at rest. -/
theorem Coherent.of_released (k : Tokens s) {c : Nat} (hc : (s.phase c).hasToken = true)
    (hp : ∀ d, d ≠ c → t.phase d = s.phase d) (ht : (t.phase c).hasToken = false)
    (h : (Phase.waiting : Phase (item c)).Agrees t.log) : Coherent t (item c) where
  holder d hd hdt := by
    by_cases hdc : d = c
    · rw [hdc, ht] at hdt
      cases hdt
    · rw [hp d hdc] at hdt
      exact absurd (k.unique d c hdt hc hd) hdc
  idle _ := h

/-- A move keeps the log in agreement with the phase of the call that has the token. -/
theorem Coherent.effect {n : Item} (h : Coherent s n) (k : Tokens s) (e : Effect s a t) :
    Coherent t n := by
  have k' := k.effect e
  by_cases hn : ∀ c, a = some c → item c ≠ n
  · -- The move is not of a call on this item.
    refine h.congr (fun d hd => ?_) (e.log_other hn)
    have hp := e.phase_of_ne (c := d) fun ha => hn d ha hd
    exact ⟨by rw [hp], fun _ => hp⟩
  · simp only [ne_eq, not_forall, not_not] at hn
    obtain ⟨c, rfl, rfl⟩ := hn
    cases e with
    | idle => exact h
    | begun hp hs =>
      refine .of_holder k' (c := c) (by rw [setPhase_self]; rfl) ?_
      rw [setPhase_self]
      refine h.idle fun d hd => ?_
      have hb := Board.building_of_starts hs
      by_contra hd'
      rw [(k.taken (item c)).2 ⟨d, hd, by simpa using hd'⟩] at hb
      cases hb
    | refused hp hf =>
      refine h.congr (fun d hd => ?_) ⟨rfl, rfl, rfl⟩
      by_cases hdc : d = c
      · subst hdc
        rw [setPhase_self, hasToken_of_refused hf, hp]
        exact ⟨rfl, fun hn => by cases hn⟩
      · rw [setPhase_of_ne _ hdc]
        exact ⟨rfl, fun _ => rfl⟩
    | produced hp =>
      have hc := h.holder c rfl (by rw [hp]; rfl)
      rw [hp] at hc
      refine .of_holder k' (c := c) (by rw [setPhase_self]; rfl) ?_
      rw [setPhase_self]
      exact hc
    | failed hp =>
      have ht : (s.phase c).hasToken = true := by
        cases hc : s.phase c <;> simp_all [Phase.hasToken, Phase.isMaking]
      have hc := h.holder c rfl ht
      refine .of_released k ht (fun d hd => setPhase_of_ne _ hd _) (by simp [fail]; rfl) ?_
      revert hc hp
      cases s.phase c <;> simp [Phase.Agrees, Phase.isMaking, fail]
    | written hp hb =>
      have hc := h.holder c rfl (by rw [hp]; rfl)
      rw [hp] at hc
      refine .of_holder k' (c := c) (by rw [setPhase_self]; rfl) ?_
      rw [setPhase_self]
      exact ⟨lastWritten_written, hc.2⟩
    | published hp =>
      have hc := h.holder c rfl (by rw [hp]; rfl)
      rw [hp] at hc
      refine .of_holder k' (c := c) (by rw [setPhase_self]; rfl) ?_
      rw [setPhase_self]
      exact ⟨hc.1, lastPublished_published⟩
    | built hp =>
      have ht : (s.phase c).hasToken = true := by rw [hp]; rfl
      have hc := h.holder c rfl ht
      rw [hp] at hc
      refine .of_released k ht (fun d hd => setPhase_of_ne _ hd _) (by rw [setPhase_self]; rfl) ?_
      refine ⟨hc.1.trans hc.2.symm, ?_⟩
      rw [setPhase_log, lastPublished_built, lastBuilt_built]
      exact hc.2

/-! ## Runs -/

/-- What holds of all calls that start on a board. -/
structure Consistent (b : Board) (s : Calls item) : Prop where
  /-- Tokens are with calls. -/
  tokens : Tokens s
  /-- The log says what is on the board. -/
  recorded : Recorded b s
  /-- The log agrees with itself. -/
  coherent : ∀ n, Coherent s n

/-- At the start everything fits together, if no token is taken. -/
theorem Consistent.start (hb : ∀ n, b.building n = false) :
    Consistent b (Calls.start b : Calls item) where
  tokens := by
    constructor
    · intro c d hc
      cases hc
    · intro n
      have hn : (Calls.start b : Calls item).board.building n = false := hb n
      rw [hn]
      constructor
      · intro h
        cases h
      · rintro ⟨c, -, hc⟩
        cases hc
  recorded := .start b
  coherent := .start b

/-- A move keeps it together. -/
theorem Consistent.step (h : Consistent b s) (m : Move item) : Consistent b (s.step m) where
  tokens := h.tokens.effect (step_effect s m)
  recorded := h.recorded.effect (step_effect s m)
  coherent n := (h.coherent n).effect h.tokens (step_effect s m)

theorem Consistent.run (h : Consistent b s) (ms : List (Move item)) : Consistent b (s.run ms) := by
  induction ms generalizing s with
  | nil => exact h
  | cons m ms ih => exact ih (h.step m)

/-- Once no call has the token of an item, what was written last of it was published and built
last. -/
theorem Consistent.at_rest (h : Consistent b s) {n : Item}
    (hn : ∀ c, item c = n → (s.phase c).hasToken = false) :
    lastWritten n s.log = lastPublished n s.log ∧
      lastPublished n s.log = (lastBuilt n s.log).map Prod.fst :=
  (h.coherent n).idle hn

/-! ## Calls that fail -/

/-- While a call has the token and has written nothing, no move changes its item, unless it is the
one by which it writes. -/
theorem Effect.keeps_making (e : Effect s a t) (k : Tokens s) {c : Nat}
    (hc : (s.phase c).isMaking = true) (ht : ∀ v, t.phase c ≠ .written v) :
    s.board.Keeps t.board (item c) := by
  have hs : (s.phase c).hasToken = true := by
    cases hp : s.phase c <;> simp_all [Phase.isMaking, Phase.hasToken]
  -- Another call that has a token has that of another item.
  have other : ∀ d, (s.phase d).hasToken = true → d ≠ c → item d ≠ item c :=
    fun d hd hne hi => hne (k.unique d c hd hs hi)
  have keeps : ∀ d, a = some d → (s.phase d).hasToken = true → d ≠ c →
      s.board.Keeps t.board (item c) := by
    rintro d rfl hd hne
    refine (e.keeps_other fun d' hd' => ?_).1
    cases hd'
    exact other d hd hne
  cases e with
  | idle => exact .refl _ _
  | begun => exact Board.begin_keeps _ _ _
  | refused => exact .refl _ _
  | produced => exact .refl _ _
  | failed => exact Board.release_keeps _ _ _
  | changed hm => exact Board.keeps_of_mayBecome hm _ _
  | @written d v b hp hb =>
    refine keeps d rfl (by rw [hp]; rfl) ?_
    rintro rfl
    exact ht v (setPhase_self _ _ _)
  | @published d v hp =>
    refine keeps d rfl (by rw [hp]; rfl) ?_
    rintro rfl
    rw [hp] at hc
    cases hc
  | @built d v hp =>
    refine keeps d rfl (by rw [hp]; rfl) ?_
    rintro rfl
    rw [hp] at hc
    cases hc

/-- A call asked for its token on a board, and as long as it has written nothing, its item is as it
is there. -/
structure Pending (b : Board) (s : Calls item) (c : Nat) : Prop where
  /-- It asked. -/
  asked : s.phase c ≠ .waiting
  /-- It has changed nothing. -/
  keeps : (s.phase c).isMaking = true → b.Keeps s.board (item c)

/-- A call that has just asked has changed nothing of its item. -/
theorem Pending.ask (s : Calls item) {c : Nat} (hw : s.phase c = .waiting) :
    Pending s.board (s.step (.ask c)) c := by
  by_cases hs : s.board.starts (item c) = .ok true
  · rw [step_ask hw hs]
    constructor
    · rw [setPhase_self]
      intro h
      cases h
    · exact fun _ => Board.begin_keeps _ _ _
  · obtain ⟨p, hp, ht⟩ := step_ask_refused hw hs
    rw [ht]
    constructor
    · rw [setPhase_self]
      rcases hp with rfl | ⟨e, rfl⟩ <;> (intro h; cases h)
    · exact fun _ => .refl _ _

/-- A move that leaves a call making its value, or by which the call fails, keeps its item. -/
theorem Pending.keeps_effect {c : Nat} (h : Pending b s c) (k : Tokens s) (e : Effect s a t)
    (hs : ∀ cause, s.phase c ≠ .failed cause)
    (ht : (t.phase c).isMaking = true ∨ ∃ cause, t.phase c = .failed cause) :
    b.Keeps t.board (item c) := by
  have hm : (s.phase c).isMaking = true := by
    rcases e.phase_next c with hp | hp
    · rw [hp] at ht
      rcases ht with ht | ⟨cause, ht⟩
      · exact ht
      · exact absurd ht (hs cause)
    · rcases hp.isMaking ht with hw | hm
      · exact absurd hw h.asked
      · exact hm
  refine (h.keeps hm).trans (e.keeps_making k hm fun v hv => ?_)
  rcases ht with ht | ⟨cause, ht⟩
  · rw [hv] at ht
    cases ht
  · rw [hv] at ht
    cases ht

/-- A move keeps it so: the token keeps other calls from the item. -/
theorem Pending.effect {c : Nat} (h : Pending b s c) (k : Tokens s) (e : Effect s a t) :
    Pending b t c := by
  constructor
  · rcases e.phase_next c with hp | hp
    · rw [hp]
      exact h.asked
    · exact hp.ne_waiting
  · intro ht
    refine h.keeps_effect k e (fun cause hs => ?_) (.inl ht)
    -- A call that has failed stays so.
    rcases e.phase_next c with hp | hp
    · rw [hp, hs] at ht
      cases ht
    · rcases hp.isMaking (.inl ht) with hw | hm
      · exact h.asked hw
      · rw [hs] at hm
        cases hm

theorem Pending.run {c : Nat} (h : Pending b s c) (k : Tokens s) (ms : List (Move item)) :
    Pending b (s.run ms) c := by
  induction ms generalizing s with
  | nil => exact h
  | cons m ms ih => exact ih (h.effect k (step_effect s m)) (k.effect (step_effect s m))

/-- A call that is not made to produce by its asking for the token changes nothing. -/
theorem board_step_ask (s : Calls item) (c : Nat)
    (h : (s.step (.ask c)).phase c ≠ .producing) : (s.step (.ask c)).board = s.board := by
  by_cases hw : s.phase c = .waiting
  · by_cases hs : s.board.starts (item c) = .ok true
    · rw [step_ask hw hs, setPhase_self] at h
      exact absurd rfl h
    · obtain ⟨p, -, ht⟩ := step_ask_refused hw hs
      rw [ht, setPhase_board]
  · simp only [step]

end Calls

/-! ## Main statement -/

/-- Any number of calls build items of a board, in any order of their steps and with any outcome.
After any moves:

* at most one call has the token of an item;
* the snapshot of an item is what was last published, or else what was there at the start;
* a call that does not get the token changes nothing;
* a call that fails leaves snapshot, file and time of success of its item as they were when it asked
  for the token, whatever other calls did meanwhile;
* once no call has the token of an item that was built, its file has the text of its snapshot, and
  its time of success is when it was last built;
* no move of a call touches snapshot, file or notes of an item that the call does not build. -/
theorem builds_interleave (item : Nat → Item) (b : Board) (hb : ∀ n, b.building n = false)
    (ms : List (Move item)) :
    let s := (Calls.start b).run ms
    (∀ c d, (s.phase c).hasToken = true → (s.phase d).hasToken = true → item c = item d → c = d) ∧
    (∀ n, s.board.slots n = (lastPublished n s.log).or (b.slots n)) ∧
    (∀ c, (s.step (.ask c)).phase c ≠ .producing → (s.step (.ask c)).board = s.board) ∧
    (∀ c later m cause, s.phase c = .waiting →
      let t := s.run (.ask c :: later)
      (∀ earlier, t.phase c ≠ .failed earlier) → (t.step m).phase c = .failed cause →
        s.board.Keeps (t.step m).board (item c)) ∧
    (∀ n v time, (∀ c, item c = n → (s.phase c).hasToken = false) →
      lastBuilt n s.log = some (v, time) →
        s.board.slots n = some v ∧ s.board.file n = some (.text (n.fileText v)) ∧
          (s.board.stamps n).lastBuilt = some time) ∧
    (∀ c m n, m.call? = some c → item c ≠ n →
      s.board.Keeps (s.step m).board n ∧ (s.step m).board.stamps n = s.board.stamps n) := by
  intro s
  have h : Calls.Consistent b s := (Calls.Consistent.start hb).run ms
  refine ⟨h.tokens.unique, h.recorded.slot, s.board_step_ask, ?_, ?_, ?_⟩
  · intro c later m cause hw t hf ht
    have k : Calls.Tokens (s.step (.ask c)) := h.tokens.effect (s.step_effect _)
    have hp : Calls.Pending s.board t c := (Calls.Pending.ask s hw).run k later
    have kt : Calls.Tokens t := (h.run (.ask c :: later)).tokens
    exact hp.keeps_effect kt (t.step_effect m) hf (.inr ⟨cause, ht⟩)
  · intro n v time hn hv
    obtain ⟨hw, hp⟩ := h.at_rest hn
    rw [hv] at hp
    refine ⟨?_, ?_, ?_⟩
    · rw [h.recorded.slot, hp]
      rfl
    · rw [h.recorded.file, hw, hp]
      rfl
    · rw [h.recorded.built, hv]
      rfl
  · intro c m n hm hn
    refine (s.step_effect m).keeps_other fun d hd => ?_
    rw [hm] at hd
    cases hd
    exact hn

/-- A board with nothing around it. -/
def Board.bare : Board := .start default .empty .empty default 0

/-- Calls 0 and 1 build the prices of the exchange, and all others the rates. -/
def itemOfCall : Nat → Item
  | 0 | 1 => .spotPrices
  | _ => .rates

/-- The price of one symbol. -/
def somePrices : Table String := .ofList [("KMDBTC", "0.00001")]

/-- Call 1 asks for the token while call 0 has it, and call 2 fails to build something else. -/
def overlapping : List (Move itemOfCall) :=
  [.ask 0, .ask 1, .ask 2, .produce 0 (.ok somePrices), .produce 2 (.error .overflow),
    .write 0 none, .publish 0, .finish 0]

/-- The file of these prices. -/
theorem fileText_somePrices : Item.fileText .spotPrices somePrices
    = "\x7b\n  \"KMDBTC\": \"0.00001\"\n\x7d" := by
  decide +kernel

/-- While one call builds the prices of the exchange, a second one is refused and a third one fails:
the prices are published, their file is written, and the success is noted. -/
theorem builds_interleave_overlapping :
    (∀ n, Board.bare.building n = false) ∧
      (let s := (Calls.start Board.bare).run overlapping
      s.board.slots .spotPrices = some somePrices ∧
        s.board.file .spotPrices
          = some (.text "\x7b\n  \"KMDBTC\": \"0.00001\"\n\x7d") ∧
        (s.board.stamps .spotPrices).lastBuilt = some 0) := by
  refine ⟨fun _ => rfl, ?_⟩
  have h := builds_interleave itemOfCall Board.bare (fun _ => rfl) overlapping
  rw [← fileText_somePrices]
  refine h.2.2.2.2.1 .spotPrices somePrices 0 (fun c hc => ?_) rfl
  match c with
  | 0 => rfl
  | 1 => rfl
  | c + 2 => cases hc

end SwapMarket
