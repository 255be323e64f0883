import SwapMarket.Proofs.Board.Interleaving
import SwapMarket.Proofs.Schedule.Due

/-!
# When an item is built again

What is noted of an item are two times, written at different moments of a build. The history of an
item are its **`Trial`**s: when each began, and how it ended. Calls that build items at the same
time tell this history as they go (**`Chronicle`**).

If no build begins that is not due (**`Calls.IsTimely`**), the notes say all of the history that
counts (**`Recalls`**, kept by every move): with no build under way, an item is ready exactly when
its last trial allows another (`Recalls.isReady_iff`). An attempt after the last success has failed,
and one at the time of the last success has not, since the time to live lies between a success and
the next attempt.

Main statement: **`builds_keep_distance`**.
-/

namespace SwapMarket

open Function Schedule

/-! ## What is due on a board -/

namespace Board

variable {b : Board} {n : Item} {ns due : List Item}

/-- What is found due among items is what is due of them. -/
theorem mem_dueAmong (h : b.dueAmong ns = .ok due) : n ∈ due ↔ n ∈ ns ∧ b.isDue n = .ok true := by
  induction ns generalizing due with
  | nil =>
    cases h
    simp
  | cons m ns ih =>
    obtain ⟨d, hd, h⟩ := Run.bind_ok_iff.1 h
    obtain ⟨rest, hrest, h⟩ := Run.bind_ok_iff.1 h
    cases h
    have ih := ih hrest
    cases d with
    | false =>
      simp only [Bool.false_eq_true, if_false, ih, List.mem_cons, or_and_right, iff_or_self]
      rintro ⟨rfl, hn⟩
      rw [hd] at hn
      cases hn
    | true =>
      simp only [if_true, List.mem_cons, ih, or_and_right]
      refine or_congr ⟨?_, And.left⟩ .rfl
      rintro rfl
      exact ⟨rfl, hd⟩

/-- What is due is found if and only if it is found of each item. -/
theorem exists_dueAmong_iff :
    (∃ due, b.dueAmong ns = .ok due) ↔ ∀ n ∈ ns, ∃ d, b.isDue n = .ok d := by
  induction ns with
  | nil => exact iff_of_true ⟨[], rfl⟩ (by simp)
  | cons m ns ih =>
    rw [List.forall_mem_cons, ← ih]
    constructor
    · rintro ⟨due, h⟩
      obtain ⟨d, hd, h⟩ := Run.bind_ok_iff.1 h
      obtain ⟨rest, hrest, -⟩ := Run.bind_ok_iff.1 h
      exact ⟨⟨d, hd⟩, rest, hrest⟩
    · rintro ⟨⟨d, hd⟩, due, hdue⟩
      refine ⟨if d then m :: due else due, ?_⟩
      rw [dueAmong, hd, hdue]
      rfl

/-- What is due is what is found due. -/
theorem mem_dueItems (h : b.dueItems = .ok due) : n ∈ due ↔ b.isDue n = .ok true := by
  obtain ⟨_, -, h⟩ := Run.bind_ok_iff.1 h
  rw [mem_dueAmong h, and_iff_right n.mem_all]

/-- The items that are due are found exactly if each of them can be decided. -/
theorem exists_dueItems_iff (ht : 0 ≤ b.now ∧ b.now ≤ greatestTime) :
    (∃ due, b.dueItems = .ok due) ↔ ∀ n, ∃ d, b.isDue n = .ok d := by
  rw [dueItems, time, clock, if_pos ht, Run.ok_bind, exists_dueAmong_iff]
  exact forall_congr' fun n => forall_prop_of_true n.mem_all

end Board

/-! ## Trials -/

/-- How an attempt to build an item ended. -/
inductive Ending where
  /-- It has not. -/
  | underWay
  /-- The item was built at a time. -/
  | succeeded (time : Int)
  /-- The item was not built. -/
  | failed
  deriving DecidableEq, Repr

/-- An attempt to build an item. -/
structure Trial where
  /-- When it began. -/
  began : Int
  /-- How it ended. -/
  ending : Ending
  deriving DecidableEq, Repr

namespace Trial

/-- When the item was built, if it was. -/
def builtAt? (t : Trial) : Option Int :=
  match t.ending with
  | .succeeded c => some c
  | _ => none

/-- After a success another attempt may begin when the time to live is over, and after a failure
when the retry interval is. -/
def Allows (ttl retry : Nat) (t : Trial) (time : Int) : Prop :=
  match t.ending with
  | .underWay => False
  | .succeeded c => c + ttl ≤ time
  | .failed => t.began + retry ≤ time

/-- What may be tried may be tried later. -/
theorem Allows.mono {ttl retry : Nat} {t : Trial} {time later : Int} (h : t.Allows ttl retry time)
    (hl : time ≤ later) : t.Allows ttl retry later := by
  unfold Allows at h ⊢
  split at h
  · exact h
  · exact Int.le_trans h hl
  · exact Int.le_trans h hl

/-- After a success the next trial comes when its value has expired. -/
theorem Allows.of_builtAt? {ttl retry : Nat} {t : Trial} {time c : Int}
    (h : t.Allows ttl retry time) (hc : t.builtAt? = some c) : c + ttl ≤ time := by
  unfold Allows at h
  unfold builtAt? at hc
  split at hc
  · next he =>
    cases hc
    simpa only [he] using h
  · cases hc

end Trial

/-- The trials, the last of which ends. -/
def endLast (e : Ending) : List Trial → List Trial
  | [] => []
  | t :: ts => { t with ending := e } :: ts

/-- What is noted of an item goes with its trials, the latest first. -/
structure Recalls (ttl retry : Nat) (n : Item) (b : Board) (ts : List Trial) : Prop where
  /-- The last attempt is when the last trial began. -/
  attempt : (b.stamps n).lastAttempt = ts.head?.map Trial.began
  /-- The last success is that of the last trial that succeeded. -/
  built : (b.stamps n).lastBuilt = ts.findSome? Trial.builtAt?
  /-- A build is under way while the last trial is. -/
  underWay : b.building n = true ↔ ∃ t ∈ ts.head?, t.ending = .underWay
  /-- No trial began later than now. -/
  began : ∀ t ∈ ts, t.began ≤ b.now
  /-- A success lies between the beginning of the trial and now. -/
  succeeded : ∀ t ∈ ts, ∀ c ∈ t.builtAt?, t.began ≤ c ∧ c ≤ b.now
  /-- Each trial allowed those after it. -/
  allowed : 0 < ttl → ts.Pairwise fun next t => t.Allows ttl retry next.began

namespace Recalls

variable {ttl retry : Nat} {n : Item} {b b' : Board} {t : Trial} {ts : List Trial} {time : Int}

/-- Before anything is built. -/
theorem nil (hs : b.stamps n = ⟨none, none⟩) (hb : b.building n = false) :
    Recalls ttl retry n b [] where
  attempt := by rw [hs]; rfl
  built := by rw [hs]; rfl
  underWay := by simp [hb]
  began := by simp
  succeeded := by simp
  allowed _ := .nil

/-- Only the notes on the item count, and that time does not go back. -/
theorem congr (h : Recalls ttl retry n b ts) (hs : b'.stamps n = b.stamps n)
    (hb : b'.building n = b.building n) (hnow : b.now ≤ b'.now) : Recalls ttl retry n b' ts where
  attempt := by rw [hs, h.attempt]
  built := by rw [hs, h.built]
  underWay := by rw [hb, h.underWay]
  began t ht := Int.le_trans (h.began t ht) hnow
  succeeded t ht c hc :=
    ⟨(h.succeeded t ht c hc).1, Int.le_trans (h.succeeded t ht c hc).2 hnow⟩
  allowed := h.allowed

/-- With no build under way, an item is ready if its last trial allows another, and only then. -/
theorem isReady_iff (h : Recalls ttl retry n b ts) (hpos : 0 < ttl) (hfree : b.building n = false) :
    IsReady ttl retry (b.stamps n) time ↔ ∀ t ∈ ts.head?, t.Allows ttl retry time := by
  unfold IsReady
  rw [h.attempt, h.built]
  cases ts with
  | nil => simp
  | cons t ts =>
    have hover : t.ending ≠ .underWay := fun he => by
      rw [h.underWay.2 ⟨t, rfl, he⟩] at hfree
      cases hfree
    cases he : t.ending with
    | underWay => exact absurd he hover
    | succeeded c =>
      -- The attempt is not after the success.
      have hc : t.builtAt? = some c := by rw [Trial.builtAt?, he]
      have hle := (h.succeeded t List.mem_cons_self c hc).1
      simp [hc, Trial.Allows, he, Int.not_lt.2 hle]
    | failed =>
      -- The success is before the attempt, by the time to live.
      have hnone : t.builtAt? = none := by rw [Trial.builtAt?, he]
      have hbefore : ∀ c ∈ ts.findSome? Trial.builtAt?, c + ttl ≤ t.began := fun c hc => by
        obtain ⟨t', ht', hc'⟩ := List.exists_of_findSome?_eq_some hc
        exact ((List.pairwise_cons.1 (h.allowed hpos)).1 t' ht').of_builtAt? hc'
      simp only [List.findSome?_cons, hnone, List.head?_cons, Option.map_some, Option.mem_some_iff,
        forall_eq', Trial.Allows, he]
      constructor
      · rintro ⟨-, h⟩
        exact h fun c hc => Int.lt_of_lt_of_le (by omega) (hbefore c hc)
      · intro h
        refine ⟨fun c hc => ?_, fun _ => h⟩
        have hle := hbefore c hc
        omega

/-- The durations after what is noted end before they would if they began now. -/
theorem hasRoom (h : Recalls ttl retry n b ts) (ht : b.now + ttl ≤ greatestTime)
    (hr : b.now + retry ≤ greatestTime) : HasRoom ttl retry (b.stamps n) := by
  constructor
  · intro c hc
    rw [h.built] at hc
    obtain ⟨t, hts, hct⟩ := List.exists_of_findSome?_eq_some hc
    have hle := (h.succeeded t hts c hct).2
    omega
  · intro a ha
    rw [h.attempt] at ha
    obtain ⟨t, hts, rfl⟩ := Option.map_eq_some_iff.1 ha
    have hle := h.began t (List.mem_of_head? hts)
    omega

/-- A trial begins that the last one allows. -/
theorem begin (h : Recalls ttl retry n b ts) (hfree : b.building n = false)
    (hr : IsReady ttl retry (b.stamps n) b.now) :
    Recalls ttl retry n (b.begin n) (⟨b.now, .underWay⟩ :: ts) where
  attempt := by simp [Board.begin]
  built := by
    rw [List.findSome?_cons]
    exact ((b.begin_keeps n n).built).trans h.built
  underWay := by simp
  began := List.forall_mem_cons.2 ⟨Int.le_refl _, h.began⟩
  succeeded := by
    refine List.forall_mem_cons.2 ⟨fun c hc => ?_, h.succeeded⟩
    cases hc
  allowed hpos := by
    have hlast := (h.isReady_iff hpos hfree).1 hr
    refine List.pairwise_cons.2 ⟨fun t ht => ?_, h.allowed hpos⟩
    cases ts with
    | nil => cases ht
    | cons t' ts =>
      rcases List.mem_cons.1 ht with rfl | ht
      · exact hlast t rfl
      · exact ((List.pairwise_cons.1 (h.allowed hpos)).1 t ht).mono
          (h.began t' List.mem_cons_self)

/-- The trial under way ends. -/
theorem endLast {e : Ending} (h : Recalls ttl retry n b ts) (hb : b.building n = true)
    (hnow : b'.now = b.now) (hfree : b'.building n = false)
    (ha : (b'.stamps n).lastAttempt = (b.stamps n).lastAttempt)
    (he : e = .failed ∧ (b'.stamps n).lastBuilt = (b.stamps n).lastBuilt ∨
      e = .succeeded b.now ∧ (b'.stamps n).lastBuilt = some b.now) :
    Recalls ttl retry n b' (endLast e ts) := by
  obtain ⟨t, ht, hunder⟩ := h.underWay.1 hb
  cases ts with
  | nil => cases ht
  | cons t' ts =>
    cases ht
    have hnone : t.builtAt? = none := by rw [Trial.builtAt?, hunder]
    have hbegan := h.began
    have hsucceeded := h.succeeded
    rw [← hnow] at hbegan hsucceeded
    constructor
    case attempt => rw [ha, h.attempt]; rfl
    case built =>
      rcases he with ⟨rfl, hs⟩ | ⟨rfl, hs⟩
      · rw [hs, h.built, List.findSome?_cons, hnone]
        rfl
      · rw [hs]
        rfl
    case underWay =>
      rcases he with ⟨rfl, -⟩ | ⟨rfl, -⟩ <;> simp [SwapMarket.endLast, hfree]
    case began =>
      obtain ⟨hlast, hrest⟩ := List.forall_mem_cons.1 hbegan
      exact List.forall_mem_cons.2 ⟨hlast, hrest⟩
    case succeeded =>
      obtain ⟨-, hrest⟩ := List.forall_mem_cons.1 hsucceeded
      refine List.forall_mem_cons.2 ⟨fun c hc => ?_, hrest⟩
      rcases he with ⟨rfl, -⟩ | ⟨rfl, -⟩
      · cases hc
      · cases hc
        exact ⟨h.began t List.mem_cons_self, Int.le_of_eq hnow.symm⟩
    case allowed =>
      intro hpos
      exact List.pairwise_cons.2 (List.pairwise_cons.1 (h.allowed hpos))

end Recalls

/-! ## Calls that tell the history -/

/-- What is told of an item, at a time, when a call that builds it gets from one phase to
another. -/
def Phase.tell {n : Item} (now : Int) (p q : Phase n) (ts : List Trial) : List Trial :=
  match p, q with
  | .waiting, .producing => ⟨now, .underWay⟩ :: ts
  | p, .built _ time => if p.hasToken then endLast (.succeeded time) ts else ts
  | p, .failed _ => if p.hasToken then endLast .failed ts else ts
  | _, _ => ts

/-- A call that stays in its phase tells nothing. -/
theorem Phase.tell_self {n : Item} (now : Int) (p : Phase n) (ts : List Trial) :
    p.tell now p ts = ts := by
  cases p <;> rfl

/-- A call that fails with the token ends its trial as failed. -/
theorem Phase.tell_failed {n : Item} {now : Int} {p : Phase n} {cause : Stop} {ts : List Trial}
    (h : p.hasToken = true) : p.tell now (.failed cause) ts = endLast .failed ts := by
  cases p with
  | producing | produced | written | published => rfl
  | _ => cases h

/-- A call that is making a snapshot has the token. -/
theorem Phase.hasToken_of_isMaking {n : Item} {p : Phase n} (h : p.isMaking = true) :
    p.hasToken = true := by
  cases p with
  | producing | produced => rfl
  | _ => cases h

/-- Calls with the trials of each item so far, the latest first. -/
structure Chronicle (item : Nat → Item) where
  /-- The calls. -/
  calls : Calls item
  /-- The trials of each item. -/
  trials : Item → List Trial

namespace Chronicle

variable {item : Nat → Item}

/-- Before any call has asked for a token. -/
def start (b : Board) : Chronicle item := ⟨.start b, fun _ => []⟩

/-- One move. -/
def step (x : Chronicle item) (m : Move item) : Chronicle item where
  calls := x.calls.step m
  trials :=
    match m.call? with
    | some c => update x.trials (item c)
        (((x.calls.phase c).tell x.calls.board.now ((x.calls.step m).phase c)) (x.trials (item c)))
    | none => x.trials

/-- Moves one after the other. -/
def run (x : Chronicle item) (ms : List (Move item)) : Chronicle item := ms.foldl step x

/-- Telling what happens does not change the calls. -/
theorem calls_run (x : Chronicle item) (ms : List (Move item)) :
    (x.run ms).calls = x.calls.run ms := by
  induction ms generalizing x with
  | nil => rfl
  | cons m ms ih => exact ih (x.step m)

end Chronicle

namespace Calls

variable {item : Nat → Item} {s t : Calls item} {a : Option Nat}

/-- Between two moments time does not go back, and no build begins of an item that is not due. -/
structure IsTimely (s t : Calls item) : Prop where
  /-- The clock does not go back. -/
  now : s.board.now ≤ t.board.now
  /-- What begins is due. -/
  due : ∀ c, s.phase c = .waiting → t.phase c = .producing →
    ∃ due, s.board.dueItems = .ok due ∧ item c ∈ due

/-- A move is timely if it does not turn the clock back and asks for no token of an item that is not
due. -/
theorem isTimely_step {m : Move item} (hnow : s.board.now ≤ (s.step m).board.now)
    (hdue : ∀ c, m = .ask c → ∃ due, s.board.dueItems = .ok due ∧ item c ∈ due) :
    IsTimely s (s.step m) := by
  refine ⟨hnow, fun c hw hp => ?_⟩
  by_cases hm : m = .ask c
  · exact hdue c hm
  · rw [s.waiting_step hw hm] at hp
    cases hp

/-- Each move is timely. -/
def AreTimely : Calls item → List (Move item) → Prop
  | _, [] => True
  | s, m :: ms => IsTimely s (s.step m) ∧ AreTimely (s.step m) ms

/-- Time does not go back. -/
theorem AreTimely.now_le {s : Calls item} {ms : List (Move item)} (h : s.AreTimely ms) :
    s.board.now ≤ (s.run ms).board.now := by
  induction ms generalizing s with
  | nil => exact Int.le_refl _
  | cons m ms ih => exact Int.le_trans h.1.now (ih h.2)

/-- A move of a call does not touch the token of any other item. -/
theorem Effect.building_other (h : Effect s a t) {n : Item} (hn : ∀ c, a = some c → item c ≠ n) :
    t.board.building n = s.board.building n := by
  cases h with
  | @begun c => simp [hn c rfl]
  | @failed c => simp [Calls.fail, hn c rfl]
  | @written c v b hp hb =>
    obtain ⟨⟨d, rfl⟩, -⟩ := Board.persist_ok hb
    rfl
  | @built c => simp [Board.stamp, Board.setStamps, hn c rfl]
  | _ => rfl

/-- What a move does to an item goes with what is told of it. -/
theorem Effect.recalls {ttl retry : Nat} {c : Nat} {ts : List Trial} (e : Effect s (some c) t)
    (k : Tokens s) (h : Recalls ttl retry (item c) s.board ts)
    (hr : s.phase c = .waiting → t.phase c = .producing →
      IsReady ttl retry (s.board.stamps (item c)) s.board.now) :
    Recalls ttl retry (item c) t.board ((s.phase c).tell s.board.now (t.phase c) ts) := by
  have htaken : (s.phase c).hasToken = true → s.board.building (item c) = true :=
    fun hc => (k.taken (item c)).2 ⟨c, rfl, hc⟩
  cases e with
  | idle =>
    rw [Phase.tell_self]
    exact h
  | begun hp hs =>
    rw [setPhase_self] at hr ⊢
    rw [hp]
    exact h.begin (Board.building_of_starts hs) (hr hp rfl)
  | refused hp hn =>
    rw [setPhase_self, hp]
    rcases hn with rfl | ⟨cause, rfl⟩ <;> exact h
  | produced hp =>
    rw [setPhase_self, hp]
    exact h
  | failed hp =>
    have htoken : (s.phase c).hasToken = true := Phase.hasToken_of_isMaking hp
    rw [fail, setPhase_self, Phase.tell_failed htoken]
    exact h.endLast (htaken htoken) rfl (by simp) rfl (.inl ⟨rfl, rfl⟩)
  | written hp hb =>
    obtain ⟨⟨d, rfl⟩, -⟩ := Board.persist_ok hb
    rw [setPhase_self, hp]
    exact h.congr rfl rfl (Int.le_refl _)
  | published hp =>
    rw [setPhase_self, hp]
    exact h.congr rfl rfl (Int.le_refl _)
  | built hp =>
    rw [setPhase_self, hp]
    refine h.endLast (htaken (by rw [hp]; rfl)) rfl (by simp) ?_ (.inr ⟨rfl, ?_⟩)
    · simp [Board.stamp, Board.release, Board.setBuilding]
    · simp [Board.stamp, Board.release, Board.setBuilding]

end Calls

namespace Chronicle

variable {item : Nat → Item} {x : Chronicle item} {b : Board} {n : Item}

/-- What is due on a board with some settings is ready. -/
theorem isReady_of_dueItems {due : List Item} (hs : b.settings.ttl n ≤ greatestDuration)
    (hr : b.settings.retryInterval ≤ greatestDuration) (h : b.dueItems = .ok due) (hn : n ∈ due) :
    IsReady (b.settings.ttl n) b.settings.retryInterval (b.stamps n) b.now :=
  (isDue_eq_ok hs hr ((Board.mem_dueItems h).1 hn)).1 rfl

/-- A timely move keeps the notes in accord with what is told. -/
theorem recalls_step {m : Move item} (hc : Calls.Consistent b x.calls)
    (hs : b.settings.ttl n ≤ greatestDuration) (hr : b.settings.retryInterval ≤ greatestDuration)
    (h : Recalls (b.settings.ttl n) b.settings.retryInterval n x.calls.board (x.trials n))
    (ht : x.calls.IsTimely (x.calls.step m)) :
    Recalls (b.settings.ttl n) b.settings.retryInterval n (x.step m).calls.board
      ((x.step m).trials n) := by
  have e := x.calls.step_effect m
  unfold step
  generalize x.calls.step m = t at e ht
  generalize m.call? = a at e
  have hother : (∀ c, a = some c → item c ≠ n) →
      Recalls (b.settings.ttl n) b.settings.retryInterval n t.board (x.trials n) := fun hn =>
    h.congr (e.keeps_other hn).2 (e.building_other hn) ht.now
  cases a with
  | none => exact hother fun c hc => by cases hc
  | some c =>
    by_cases hn : item c = n
    · subst hn
      simp only [update_self]
      refine e.recalls hc.tokens h fun hw hp => ?_
      obtain ⟨due, hdue, hmem⟩ := ht.due c hw hp
      rw [← hc.recorded.settings] at hs hr ⊢
      exact isReady_of_dueItems hs hr hdue hmem
    · simp only [update_of_ne (Ne.symm hn)]
      exact hother fun d hd => by
        cases hd
        exact hn

/-- Along moves in order of time the trials of an item are recalled, if its intervals are not too
long. -/
theorem recalls_run (hc : Calls.Consistent b x.calls) (hs : b.settings.ttl n ≤ greatestDuration)
    (hr : b.settings.retryInterval ≤ greatestDuration)
    (h : Recalls (b.settings.ttl n) b.settings.retryInterval n x.calls.board (x.trials n))
    {ms : List (Move item)} (ht : x.calls.AreTimely ms) :
    Recalls (b.settings.ttl n) b.settings.retryInterval n (x.run ms).calls.board
      ((x.run ms).trials n) := by
  induction ms generalizing x with
  | nil => exact h
  | cons m ms ih => exact ih (hc.step m) (recalls_step hc hs hr h ht.1) ht.2

end Chronicle

/-- With no time outside the calendar it is found what is due, and that is what is ready. -/
theorem Board.exists_dueItems_of_recalls {b : Board} {trials : Item → List Trial}
    (h : ∀ n, Recalls (b.settings.ttl n) b.settings.retryInterval n b (trials n))
    (hs : ∀ n, b.now + b.settings.ttl n ≤ greatestTime)
    (hr : b.now + b.settings.retryInterval ≤ greatestTime) (hnow : 0 ≤ b.now) {time : Int}
    (ht : 0 ≤ time ∧ time ≤ greatestTime) :
    ∃ due, ({ b with now := time } : Board).dueItems = .ok due ∧
      ∀ n, n ∈ due ↔ IsReady (b.settings.ttl n) b.settings.retryInterval (b.stamps n) time := by
  have hshort : ∀ n, b.settings.ttl n ≤ greatestDuration := fun n => le_greatestDuration hnow (hs n)
  have hfound : ∀ n, ∃ d, ({ b with now := time } : Board).isDue n = .ok d := fun n =>
    exists_isDue (hshort n) (le_greatestDuration hnow hr) ((h n).hasRoom (hs n) hr)
  obtain ⟨due, hdue⟩ := (exists_dueItems_iff ht).2 hfound
  refine ⟨due, hdue, fun n => ?_⟩
  rw [mem_dueItems hdue]
  obtain ⟨d, hd⟩ := hfound n
  rw [← isDue_eq_ok (hshort n) (le_greatestDuration hnow hr) hd, hd, Except.ok.injEq]

/-! ## Main statement -/

/-- Calls build items of a board from the beginning, in any order of their steps and with any
outcome. If time does not go back, no time leaves the calendar, and no build begins of an item that
is not due, then for each item with a time to live above zero:

* every trial is over before the next, and begins when all trials before it allow that: their time
  to live is over since they succeeded, or the retry interval since they began, if they failed;
* with no build of it under way, it is found at any time what is due, and the item is due if its
  last trial allows another, or if there was none, and only then. -/
theorem builds_keep_distance (item : Nat → Item) (b : Board) (hnow : 0 ≤ b.now)
    (hb : ∀ n, b.building n = false) (hs : ∀ n, b.stamps n = ⟨none, none⟩)
    (ms : List (Move item)) (ht : (Calls.start b).AreTimely ms)
    (httl : ∀ n, ((Calls.start b).run ms).board.now + b.settings.ttl n ≤ greatestTime)
    (hretry : ((Calls.start b).run ms).board.now + b.settings.retryInterval ≤ greatestTime) :
    let x := (Chronicle.start b).run ms
    x.calls = (Calls.start b).run ms ∧
    ∀ n, 0 < b.settings.ttl n →
      (x.trials n).Pairwise (fun next t =>
        t.Allows (b.settings.ttl n) b.settings.retryInterval next.began) ∧
      (x.calls.board.building n = false → ∀ time, 0 ≤ time ∧ time ≤ greatestTime →
        ∃ due, ({ x.calls.board with now := time } : Board).dueItems = .ok due ∧
          (n ∈ due ↔ ∀ t ∈ (x.trials n).head?,
            t.Allows (b.settings.ttl n) b.settings.retryInterval time)) := by
  intro x
  have hcalls : x.calls = (Calls.start b).run ms := Chronicle.calls_run _ ms
  have hfirst : (Calls.start b : Calls item).board.now ≤ ((Calls.start b).run ms).board.now :=
    ht.now_le
  rw [← hcalls] at httl hretry hfirst
  have hnow' : 0 ≤ x.calls.board.now := Int.le_trans hnow hfirst
  have hstart : Calls.Consistent b (Calls.start b : Calls item) := .start hb
  have hsettings : x.calls.board.settings = b.settings := by
    rw [hcalls]
    exact (hstart.run ms).recorded.settings
  have hrecalls : ∀ n, Recalls (b.settings.ttl n) b.settings.retryInterval n x.calls.board
      (x.trials n) := fun n =>
    Chronicle.recalls_run hstart (le_greatestDuration hnow' (httl n))
      (le_greatestDuration hnow' hretry) (.nil (hs n) (hb n)) ht
  refine ⟨hcalls, fun n hpos => ⟨(hrecalls n).allowed hpos, fun hfree time htime => ?_⟩⟩
  rw [← hsettings] at httl hretry hrecalls hpos ⊢
  obtain ⟨due, hdue, hmem⟩ := Board.exists_dueItems_of_recalls hrecalls httl hretry hnow' htime
  exact ⟨due, hdue, (hmem n).trans ((hrecalls n).isReady_iff hpos hfree)⟩

/-- A board on which the prices of the exchange are kept for a minute, and half a minute passes
after a failure. -/
def Board.minutely : Board :=
  .start { (default : Settings) with exchangeInterval := 60, retryInterval := 30 } .empty .empty
    default 0

/-- All calls build the prices of the exchange. -/
def exchangeCalls (_ : Nat) : Item := .spotPrices

/-- The first call fails, and half a minute later the second one builds. -/
def failedThenBuilt : List (Move exchangeCalls) :=
  [.ask 0, .produce 0 (.error .overflow), .surroundings 30 .empty default, .ask 1,
    .produce 1 (.ok (Table.empty : Table String)), .write 1 none, .publish 1, .finish 1]

/-- The moves are in order of time. -/
theorem areTimely_failedThenBuilt :
    (Calls.start Board.minutely).AreTimely failedThenBuilt := by
  refine ⟨?_, ?_, ?_, ?_, ?_, ?_, ?_, ?_, trivial⟩
  case refine_1 | refine_4 =>
    refine Calls.isTimely_step (by decide) fun c _ => ?_
    exact ⟨Item.all, rfl, Item.mem_all _⟩
  all_goals
    refine Calls.isTimely_step (by decide) fun c hc => ?_
    cases hc

/-- The prices are due again a minute after they were built. -/
theorem builds_keep_distance_failedThenBuilt :
    let x := (Chronicle.start Board.minutely).run failedThenBuilt
    x.trials .spotPrices = [⟨30, .succeeded 30⟩, ⟨0, .failed⟩] ∧
    (∃ due, ({ x.calls.board with now := 90 } : Board).dueItems = .ok due ∧
      Item.spotPrices ∈ due) ∧
    ∃ due, ({ x.calls.board with now := 89 } : Board).dueItems = .ok due ∧
      Item.spotPrices ∉ due := by
  intro x
  have htrials : x.trials .spotPrices = [⟨30, .succeeded 30⟩, ⟨0, .failed⟩] := rfl
  have hnow : ((Calls.start Board.minutely).run failedThenBuilt).board.now = 30 := rfl
  obtain ⟨-, h⟩ := builds_keep_distance exchangeCalls Board.minutely (by decide) (fun _ => rfl)
    (fun _ => rfl) failedThenBuilt areTimely_failedThenBuilt
    (fun n => by rw [hnow]; cases n <;> decide) (by rw [hnow]; decide)
  obtain ⟨-, hdue⟩ := h .spotPrices (by decide)
  rw [htrials] at hdue
  obtain ⟨due, hd, hmem⟩ := hdue rfl 90 (by decide)
  obtain ⟨due', hd', hmem'⟩ := hdue rfl 89 (by decide)
  refine ⟨htrials, ⟨due, hd, hmem.2 ?_⟩, due', hd', fun hn => ?_⟩
  · rintro t ⟨⟩
    simp [Trial.Allows, Board.minutely, Board.start, Settings.ttl]
  · have hallows := hmem'.1 hn _ rfl
    simp [Trial.Allows, Board.minutely, Board.start, Settings.ttl] at hallows

end SwapMarket
