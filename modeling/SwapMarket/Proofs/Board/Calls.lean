import SwapMarket.Proofs.Board.ItemFile
import Mathlib.Logic.Function.Basic

/-!
# Calls that build items at the same time

Any number of calls build items of one board, each in the steps of `Board.runBuild`, and the steps
of different calls may come in any order. Call `c` builds the item `item c`, and its **`Phase`**
says how far it has come. A **`Move`** lets one call do its next step, or time pass and the
surroundings change; what the producer of a call gives, and whether the disk takes its file, is
part of the move. A move that is not possible changes nothing.

* **`Calls`**: the board, the phases of all calls, and a log of what was written, published and
  built, the latest first.
* **`Calls.step`**, **`Calls.run`**: one move, and one after the other.
* **`Effect`**: what a move can do at most (`step_effect`). Everything that holds along runs is
  derived from it.
* `runBuild_eq_run`: the moves of one call, with the moves of others while its producer runs, are
  a build with a producer that changes the board in this way.
-/

namespace SwapMarket

open Function

/-- How far a call that builds an item has come. -/
inductive Phase (n : Item) where
  /-- It has not asked for the token. -/
  | waiting
  /-- It has the token, and its producer runs. -/
  | producing
  /-- Its producer has given a value. -/
  | produced (v : n.Value)
  /-- The value is in the file. -/
  | written (v : n.Value)
  /-- The value is published. -/
  | published (v : n.Value)
  /-- It is over, and the value was built at a time. -/
  | built (v : n.Value) (time : Int)
  /-- It is over, since another call had the token. -/
  | skipped
  /-- It is over without a value. -/
  | failed (cause : Stop)

/-- Whether a call has the token. -/
def Phase.hasToken {n : Item} : Phase n → Bool
  | .producing | .produced _ | .written _ | .published _ => true
  | _ => false

/-- Whether a call has the token but has not written its file. -/
def Phase.isMaking {n : Item} : Phase n → Bool
  | .producing | .produced _ => true
  | _ => false

/-- The ways in which a call goes on. -/
inductive Phase.Next {n : Item} : Phase n → Phase n → Prop where
  /-- It gets the token. -/
  | begin : Next .waiting .producing
  /-- Another call has the token. -/
  | skip : Next .waiting .skipped
  /-- It cannot begin. -/
  | refuse (cause : Stop) : Next .waiting (.failed cause)
  /-- It fails before its value is in the file. -/
  | fail {p : Phase n} (h : p.isMaking = true) (cause : Stop) : Next p (.failed cause)
  /-- Its producer gives a value. -/
  | produce (v : n.Value) : Next .producing (.produced v)
  /-- It writes its file. -/
  | write (v : n.Value) : Next (.produced v) (.written v)
  /-- It publishes its value. -/
  | publish (v : n.Value) : Next (.written v) (.published v)
  /-- It notes its success. -/
  | finish (v : n.Value) (time : Int) : Next (.published v) (.built v time)

/-- No call waits again. -/
theorem Phase.Next.ne_waiting {n : Item} {p q : Phase n} (h : p.Next q) : q ≠ .waiting := by
  intro hq
  cases h <;> cases hq

/-- A call makes a value, or fails to, only after it began to. -/
theorem Phase.Next.isMaking {n : Item} {p q : Phase n} (h : p.Next q)
    (hq : q.isMaking = true ∨ ∃ cause, q = .failed cause) : p = .waiting ∨ p.isMaking = true := by
  cases h with
  | begin | skip | refuse => exact .inl rfl
  | fail hp => exact .inr hp
  | produce | write => exact .inr rfl
  | publish | finish => rcases hq with hq | ⟨_, hq⟩ <;> cases hq

/-- How a call ended, if it is over. -/
def Phase.outcome? {n : Item} : Phase n → Option (Run Board.Outcome)
  | .built .. => some (.ok .built)
  | .skipped => some (.ok .skipped)
  | .failed e => some (.error e)
  | _ => none

/-- Something that calls did. -/
inductive Event (item : Nat → Item) where
  /-- A call wrote a value into its file. -/
  | written (c : Nat) (v : (item c).Value)
  /-- A call published a value. -/
  | published (c : Nat) (v : (item c).Value)
  /-- A call ended at a time, and its value was built. -/
  | built (c : Nat) (v : (item c).Value) (time : Int)

namespace Event

variable {item : Nat → Item}

/-- The value that was written into the file of an item. -/
def writtenTo (n : Item) : Event item → Option n.Value
  | .written c v => if h : item c = n then some (h ▸ v) else none
  | _ => none

/-- The value that was published of an item. -/
def publishedOf (n : Item) : Event item → Option n.Value
  | .published c v => if h : item c = n then some (h ▸ v) else none
  | _ => none

/-- The value of an item that was built, and when. -/
def builtOf (n : Item) : Event item → Option (n.Value × Int)
  | .built c v t => if h : item c = n then some (h ▸ v, t) else none
  | _ => none

end Event

/-- The last value that was written into the file of an item. -/
def lastWritten {item : Nat → Item} (n : Item) (log : List (Event item)) : Option n.Value :=
  log.findSome? (Event.writtenTo n)

/-- The last value that was published of an item. -/
def lastPublished {item : Nat → Item} (n : Item) (log : List (Event item)) : Option n.Value :=
  log.findSome? (Event.publishedOf n)

/-- The last value of an item that was built, and when. -/
def lastBuilt {item : Nat → Item} (n : Item) (log : List (Event item)) : Option (n.Value × Int) :=
  log.findSome? (Event.builtOf n)

section Log

variable {item : Nat → Item} {c : Nat} {v : (item c).Value} {time : Int} {n : Item}
  {log : List (Event item)}

@[simp] theorem lastWritten_nil : lastWritten n ([] : List (Event item)) = none := rfl

@[simp] theorem lastPublished_nil : lastPublished n ([] : List (Event item)) = none := rfl

@[simp] theorem lastBuilt_nil : lastBuilt n ([] : List (Event item)) = none := rfl

/-- What was just written is what was last written. -/
@[simp] theorem lastWritten_written :
    lastWritten (item c) (.written c v :: log) = some v := by
  simp [lastWritten, Event.writtenTo]

/-- What was just published is what was last published. -/
@[simp] theorem lastPublished_published :
    lastPublished (item c) (.published c v :: log) = some v := by
  simp [lastPublished, Event.publishedOf]

/-- What was just built is what was last built, at that time. -/
@[simp] theorem lastBuilt_built :
    lastBuilt (item c) (.built c v time :: log) = some (v, time) := by
  simp [lastBuilt, Event.builtOf]

theorem lastWritten_written_of_ne (h : item c ≠ n) :
    lastWritten n (.written c v :: log) = lastWritten n log := by
  simp [lastWritten, Event.writtenTo, h]

theorem lastPublished_published_of_ne (h : item c ≠ n) :
    lastPublished n (.published c v :: log) = lastPublished n log := by
  simp [lastPublished, Event.publishedOf, h]

theorem lastBuilt_built_of_ne (h : item c ≠ n) :
    lastBuilt n (.built c v time :: log) = lastBuilt n log := by
  simp [lastBuilt, Event.builtOf, h]

@[simp] theorem lastWritten_published :
    lastWritten n (.published c v :: log) = lastWritten n log := rfl

@[simp] theorem lastWritten_built :
    lastWritten n (.built c v time :: log) = lastWritten n log := rfl

@[simp] theorem lastPublished_written :
    lastPublished n (.written c v :: log) = lastPublished n log := rfl

@[simp] theorem lastPublished_built :
    lastPublished n (.built c v time :: log) = lastPublished n log := rfl

@[simp] theorem lastBuilt_written :
    lastBuilt n (.written c v :: log) = lastBuilt n log := rfl

@[simp] theorem lastBuilt_published :
    lastBuilt n (.published c v :: log) = lastBuilt n log := rfl

end Log

/-- What can happen next. -/
inductive Move (item : Nat → Item) where
  /-- A call asks for the token. -/
  | ask (c : Nat)
  /-- The producer of a call ends. -/
  | produce (c : Nat) (r : Run (item c).Value)
  /-- A call writes its file, unless the disk refuses to. -/
  | write (c : Nat) (refusal : Option Fault)
  /-- A call publishes its value. -/
  | publish (c : Nat)
  /-- A call notes its success and gives the token back. -/
  | finish (c : Nat)
  /-- Time passes, and the disk and the services change, but not the files of items. -/
  | surroundings (now : Int) (disk : Disk) (network : Network)

/-- The call whose move it is. -/
def Move.call? {item : Nat → Item} : Move item → Option Nat
  | .ask c | .produce c _ | .write c _ | .publish c | .finish c => some c
  | .surroundings .. => none

namespace Board

/-- Whether the surroundings may become these: the clock shows a time, and no file of an item
changes or becomes unreadable. -/
def mayBecome (b : Board) (now : Int) (disk : Disk) : Bool :=
  decide (0 ≤ now ∧ now ≤ Schedule.greatestTime) && Item.all.all fun n =>
    let l := b.settings.itemLocation n
    disk.find? l == b.disk.find? l && disk.isBlocked l == b.disk.isBlocked l

/-- The board with a file written, unless the disk refuses to. -/
def tryPersist (b : Board) (refusal : Option Fault) (n : Item) (v : n.Value) : Result Board :=
  match refusal with
  | some f => .error f
  | none => b.persist n v

/-- A build whose file the disk refuses gives the token back. -/
theorem complete_of_error {b : Board} {n : Item} {v : n.Value} {f : Fault}
    (h : b.persist n v = .error f) : b.complete n v = (b.release n, .fail f) := by
  unfold complete
  rw [h]

/-- A build whose file is written publishes its value, notes its success and gives the token
back. -/
theorem complete_of_ok {b d : Board} {n : Item} {v : n.Value} (h : b.persist n v = .ok d) :
    b.complete n v = (((d.publish n v).stamp n).release n, .ok .built) := by
  unfold complete
  rw [h]

end Board

/-- Calls that build items of one board. -/
structure Calls (item : Nat → Item) where
  /-- The board. -/
  board : Board
  /-- How far each call has come. -/
  phase : (c : Nat) → Phase (item c)
  /-- What was written, published and built, the latest first. -/
  log : List (Event item)

namespace Calls

variable {item : Nat → Item}

/-- The calls before any of them has asked for a token. -/
def start (b : Board) : Calls item := ⟨b, fun _ => .waiting, []⟩

/-- A call gets to a phase. -/
def setPhase (s : Calls item) (c : Nat) (p : Phase (item c)) : Calls item :=
  { s with phase := update s.phase c p }

/-- A call that has the token fails and gives it back. -/
def fail (s : Calls item) (c : Nat) (cause : Stop) : Calls item :=
  { s with board := s.board.release (item c) }.setPhase c (.failed cause)

/-- One move. -/
def step (s : Calls item) : Move item → Calls item
  | .ask c =>
    match s.phase c with
    | .waiting =>
      match s.board.starts (item c) with
      | .error e => s.setPhase c (.failed e)
      | .ok false => s.setPhase c .skipped
      | .ok true => { s with board := s.board.begin (item c) }.setPhase c .producing
    | _ => s
  | .produce c r =>
    match s.phase c with
    | .producing =>
      match r with
      | .error e => s.fail c e
      | .ok v => s.setPhase c (.produced v)
    | _ => s
  | .write c refusal =>
    match s.phase c with
    | .produced v =>
      match s.board.tryPersist refusal (item c) v with
      | .error f => s.fail c (.fault f)
      | .ok b => { s with board := b, log := .written c v :: s.log }.setPhase c (.written v)
    | _ => s
  | .publish c =>
    match s.phase c with
    | .written v =>
      { s with board := s.board.publish (item c) v, log := .published c v :: s.log }.setPhase c
        (.published v)
    | _ => s
  | .finish c =>
    match s.phase c with
    | .published v =>
      { s with
        board := (s.board.stamp (item c)).release (item c)
        log := .built c v s.board.now :: s.log }.setPhase c (.built v s.board.now)
    | _ => s
  | .surroundings now disk network =>
    if s.board.mayBecome now disk then
      { s with board := { s.board with now := now, disk := disk, network := network } }
    else s

/-- Moves one after the other. -/
def run (s : Calls item) (ms : List (Move item)) : Calls item := ms.foldl step s

@[simp] theorem run_nil (s : Calls item) : s.run [] = s := rfl

@[simp] theorem run_cons (s : Calls item) (m : Move item) (ms : List (Move item)) :
    s.run (m :: ms) = (s.step m).run ms := rfl

@[simp] theorem setPhase_board (s : Calls item) (c : Nat) (p : Phase (item c)) :
    (s.setPhase c p).board = s.board := rfl

@[simp] theorem setPhase_log (s : Calls item) (c : Nat) (p : Phase (item c)) :
    (s.setPhase c p).log = s.log := rfl

@[simp] theorem setPhase_self (s : Calls item) (c : Nat) (p : Phase (item c)) :
    (s.setPhase c p).phase c = p := by
  simp [setPhase]

theorem setPhase_of_ne (s : Calls item) {c d : Nat} (h : d ≠ c) (p : Phase (item c)) :
    (s.setPhase c p).phase d = s.phase d := by
  simp [setPhase, h]

/-- A waiting call whose build starts takes the token, and the attempt is noted. -/
theorem step_ask {s : Calls item} {c : Nat} (hw : s.phase c = .waiting)
    (hs : s.board.starts (item c) = .ok true) :
    s.step (.ask c) = { s with board := s.board.begin (item c) }.setPhase c .producing := by
  simp only [step, hw, hs]

/-- A call that does not get the token is over, and the board is as it was. -/
theorem step_ask_refused {s : Calls item} {c : Nat} (hw : s.phase c = .waiting)
    (hs : s.board.starts (item c) ≠ .ok true) :
    ∃ p, (p = .skipped ∨ ∃ e, p = .failed e) ∧ s.step (.ask c) = s.setPhase c p := by
  simp only [step, hw]
  cases h : s.board.starts (item c) with
  | error e => exact ⟨_, .inr ⟨e, rfl⟩, rfl⟩
  | ok starts =>
    cases starts with
    | false => exact ⟨_, .inl rfl, rfl⟩
    | true => exact absurd h hs

/-- What the producer gives is kept until it is written. -/
theorem step_produce {s : Calls item} {c : Nat} (h : s.phase c = .producing)
    (v : (item c).Value) : s.step (.produce c (.ok v)) = s.setPhase c (.produced v) := by
  simp only [step, h]

/-- If the file can be written, the call has written it. -/
theorem step_write {s : Calls item} {c : Nat} {v : (item c).Value} {b : Board}
    (h : s.phase c = .produced v) (hb : s.board.persist (item c) v = .ok b) :
    s.step (.write c none)
      = { s with board := b, log := .written c v :: s.log }.setPhase c (.written v) := by
  simp only [step, h, Board.tryPersist, hb]

/-- If the file cannot be written, the call fails. -/
theorem step_write_error {s : Calls item} {c : Nat} {v : (item c).Value} {f : Fault}
    (h : s.phase c = .produced v) (hb : s.board.persist (item c) v = .error f) :
    s.step (.write c none) = s.fail c (.fault f) := by
  simp only [step, h, Board.tryPersist, hb]

/-- What was written is published. -/
theorem step_publish {s : Calls item} {c : Nat} {v : (item c).Value}
    (h : s.phase c = .written v) :
    s.step (.publish c) = { s with
      board := s.board.publish (item c) v
      log := .published c v :: s.log }.setPhase c (.published v) := by
  simp only [step, h]

/-- A call that has published notes its success and gives the token back. -/
theorem step_finish {s : Calls item} {c : Nat} {v : (item c).Value}
    (h : s.phase c = .published v) :
    s.step (.finish c) = { s with
      board := (s.board.stamp (item c)).release (item c)
      log := .built c v s.board.now :: s.log }.setPhase c (.built v s.board.now) := by
  simp only [step, h]

/-- What a move can do at most, and whose it is. -/
inductive Effect (s : Calls item) : Option Nat → Calls item → Prop where
  /-- Nothing. -/
  | idle (a : Option Nat) : Effect s a s
  /-- A call gets the token. -/
  | begun {c : Nat} (hp : s.phase c = .waiting) (hs : s.board.starts (item c) = .ok true) :
    Effect s (some c) ({ s with board := s.board.begin (item c) }.setPhase c .producing)
  /-- A call does not get the token. -/
  | refused {c : Nat} {p : Phase (item c)} (hp : s.phase c = .waiting)
    (hn : p = .skipped ∨ ∃ e, p = .failed e) :
    Effect s (some c) (s.setPhase c p)
  /-- A producer gives a value. -/
  | produced {c : Nat} {v : (item c).Value} (hp : s.phase c = .producing) :
    Effect s (some c) (s.setPhase c (.produced v))
  /-- A producer gives none, or the disk refuses a file. -/
  | failed {c : Nat} {e : Stop} (hp : (s.phase c).isMaking = true) : Effect s (some c) (s.fail c e)
  /-- A call writes its file. -/
  | written {c : Nat} {v : (item c).Value} {b : Board} (hp : s.phase c = .produced v)
    (hb : s.board.persist (item c) v = .ok b) :
    Effect s (some c) ({ s with board := b, log := .written c v :: s.log }.setPhase c (.written v))
  /-- A call publishes its value. -/
  | published {c : Nat} {v : (item c).Value} (hp : s.phase c = .written v) :
    Effect s (some c) ({ s with
      board := s.board.publish (item c) v
      log := .published c v :: s.log }.setPhase c (.published v))
  /-- A call notes its success and gives the token back. -/
  | built {c : Nat} {v : (item c).Value} (hp : s.phase c = .published v) :
    Effect s (some c) ({ s with
      board := (s.board.stamp (item c)).release (item c)
      log := .built c v s.board.now :: s.log }.setPhase c (.built v s.board.now))
  /-- The surroundings change. -/
  | changed {now : Int} {disk : Disk} {network : Network}
    (h : s.board.mayBecome now disk = true) :
    Effect s none { s with board := { s.board with now := now, disk := disk, network := network } }

/-- A move does one of these things. -/
theorem step_effect (s : Calls item) (m : Move item) : Effect s m.call? (s.step m) := by
  cases m with
  | ask c =>
    simp only [step]
    split
    · next hp =>
      split
      · exact .refused hp (.inr ⟨_, rfl⟩)
      · exact .refused hp (.inl rfl)
      · next hs => exact .begun hp hs
    · exact .idle _
  | produce c r =>
    simp only [step]
    split
    · next hp =>
      cases r with
      | error e => exact .failed (by rw [hp]; rfl)
      | ok v => exact .produced hp
    · exact .idle _
  | write c refusal =>
    simp only [step]
    split
    · next v hp =>
      split
      · exact .failed (by rw [hp]; rfl)
      · next b hb =>
        cases refusal with
        | some f => cases hb
        | none => exact .written hp hb
    · exact .idle _
  | publish c =>
    simp only [step]
    split
    · next hp => exact .published hp
    · exact .idle _
  | finish c =>
    simp only [step]
    split
    · next hp => exact .built hp
    · exact .idle _
  | surroundings now disk network =>
    simp only [step]
    split
    · next h => exact .changed h
    · exact .idle _

/-- A call that is refused a token does not have it. -/
theorem hasToken_of_refused {n : Item} {p : Phase n} (h : p = .skipped ∨ ∃ e, p = .failed e) :
    p.hasToken = false := by
  rcases h with rfl | ⟨e, rfl⟩ <;> rfl

/-- A move of one call leaves the phases of the others as they are. -/
theorem Effect.phase_of_ne {s t : Calls item} {a : Option Nat} (h : Effect s a t) {c : Nat}
    (hc : a ≠ some c) : t.phase c = s.phase c := by
  cases h with
  | idle => rfl
  | changed => rfl
  | _ => exact setPhase_of_ne _ (fun e => hc (by rw [e])) _

/-- A move leaves a call in its phase or lets it go on. -/
theorem Effect.phase_next {s t : Calls item} {a : Option Nat} (h : Effect s a t) (c : Nat) :
    t.phase c = s.phase c ∨ (s.phase c).Next (t.phase c) := by
  by_cases hc : a = some c
  · subst hc
    cases h with
    | idle => exact .inl rfl
    | begun hp => rw [setPhase_self, hp]; exact .inr .begin
    | refused hp hn =>
      rw [setPhase_self, hp]
      rcases hn with rfl | ⟨e, rfl⟩
      · exact .inr .skip
      · exact .inr (.refuse e)
    | produced hp => rw [setPhase_self, hp]; exact .inr (.produce _)
    | failed hp => rw [fail, setPhase_self]; exact .inr (.fail hp _)
    | written hp => rw [setPhase_self, hp]; exact .inr (.write _)
    | published hp => rw [setPhase_self, hp]; exact .inr (.publish _)
    | built hp => rw [setPhase_self, hp]; exact .inr (.finish _ _)
  · exact .inl (h.phase_of_ne hc)

/-- As long as only other calls move, a call stays in its phase. -/
theorem phase_run_of_ne {c : Nat} {ms : List (Move item)} (h : ∀ m ∈ ms, m.call? ≠ some c)
    (s : Calls item) : (s.run ms).phase c = s.phase c := by
  induction ms generalizing s with
  | nil => rfl
  | cons m ms ih =>
    rw [run_cons, ih (fun k hk => h k (List.mem_cons_of_mem _ hk))]
    exact (step_effect s m).phase_of_ne (h m List.mem_cons_self)

/-- A call waits until it asks for its token. -/
theorem waiting_step {s : Calls item} {c : Nat} (h : s.phase c = .waiting) {m : Move item}
    (hm : m ≠ .ask c) : (s.step m).phase c = .waiting := by
  by_cases hc : m.call? = some c
  · cases m with
    | ask d => exact absurd (congrArg Move.ask (Option.some.inj hc)) hm
    | surroundings => cases hc
    | _ =>
      cases hc
      simp only [step, h]
  · rw [(s.step_effect m).phase_of_ne hc]
    exact h

/-! ## One call as a build -/

/-- A call that does not get the token is a build that does not start. -/
theorem runBuild_eq_ask {s : Calls item} {c : Nat} (hw : s.phase c = .waiting)
    (hs : s.board.starts (item c) ≠ .ok true)
    (producer : Board → Board × Run (item c).Value) :
    ∃ o, ((s.step (.ask c)).phase c).outcome? = some o ∧
      s.board.runBuild (item c) producer = ((s.step (.ask c)).board, o) := by
  simp only [step, hw, Board.runBuild]
  cases h : s.board.starts (item c) with
  | error e => exact ⟨.error e, by simp [Phase.outcome?], rfl⟩
  | ok starts =>
    cases starts with
    | false => exact ⟨.ok .skipped, by simp [Phase.outcome?], rfl⟩
    | true => exact absurd h hs

/-- From the end of its producer on, a call that is left alone ends as a build does. -/
theorem run_complete {t : Calls item} {c : Nat} (ht : t.phase c = .producing)
    (v : (item c).Value) :
    let u := t.run [.produce c (.ok v), .write c none, .publish c, .finish c]
    (u.phase c).outcome? = some (t.board.complete (item c) v).2 ∧
      u.board = (t.board.complete (item c) v).1 := by
  have hv : (t.setPhase c (.produced v)).phase c = .produced v := setPhase_self _ _ _
  rw [run_cons, run_cons, run_cons, run_cons, run_nil, step_produce ht]
  cases hp : t.board.persist (item c) v with
  | error f =>
    have hf : ((t.setPhase c (.produced v)).fail c (.fault f)).phase c = .failed (.fault f) :=
      setPhase_self _ _ _
    rw [step_write_error hv hp, Board.complete_of_error hp]
    simp only [step, hf]
    exact ⟨rfl, rfl⟩
  | ok b =>
    rw [step_write hv hp, step_publish (setPhase_self _ _ _), step_finish (setPhase_self _ _ _),
      Board.complete_of_ok hp]
    refine ⟨?_, rfl⟩
    simp only [setPhase_self]
    rfl

/-- The moves of a call that gets the token, with moves of other calls while its producer runs, are
a build whose producer changes the board as the other calls do. -/
theorem runBuild_eq_run {s : Calls item} {c : Nat} (hw : s.phase c = .waiting)
    (hs : s.board.starts (item c) = .ok true) {ms : List (Move item)}
    (hm : ∀ m ∈ ms, m.call? ≠ some c) (r : Run (item c).Value) :
    let t := s.run (.ask c :: ms)
    let u := t.run [.produce c r, .write c none, .publish c, .finish c]
    ∃ o, (u.phase c).outcome? = some o ∧
      s.board.runBuild (item c) (fun _ => (t.board, r)) = (u.board, o) := by
  intro t u
  have ht : t.phase c = .producing := by
    show ((s.step (.ask c)).run ms).phase c = .producing
    rw [phase_run_of_ne hm, step_ask hw hs, setPhase_self]
  clear_value t
  cases r with
  | error e =>
    have hf : (t.fail c e).phase c = .failed e := setPhase_self _ _ _
    have hu : u = t.fail c e := by
      simp only [u, run_cons, run_nil, step, ht, hf]
    refine ⟨.error e, ?_, ?_⟩
    · rw [hu, hf]
      rfl
    · simp only [Board.runBuild, hs, hu]
      rfl
  | ok v =>
    obtain ⟨ho, hb⟩ := run_complete ht v
    refine ⟨_, ho, ?_⟩
    simp only [Board.runBuild, hs]
    exact Prod.ext hb.symm rfl

end Calls

end SwapMarket
