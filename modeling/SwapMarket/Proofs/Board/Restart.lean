import SwapMarket.Proofs.Board.Interleaving
import SwapMarket.Proofs.FileText

/-!
# Starting anew

The files of items outlive the program. **`Board.restart`** is the program started anew on the disk
of a board, and **`Board.Reloads`** says that it finds a value of an item there: the value is
loaded, alone or among other items, and the item is due at once, since nothing is noted of its
builds.

The values that producers give have numbers in their ranges (**`Move.Fits`**). Then all that is
written has, too (`Calls.Fits`), and is read back.

Main statement: `builds_survive_restart`.
-/

namespace SwapMarket

namespace Board

/-- The program started anew with the settings and on the disk of a board. -/
def restart (b : Board) (geo : GeoDatabase) (network : Network) (now : Int) : Board :=
  .start b.settings geo b.disk network now

/-- An item has a snapshot, but counts as never built. -/
structure IsProvisional (b : Board) (n : Item) (v : n.Value) : Prop where
  /-- The snapshot. -/
  slot : b.slots n = some v
  /-- Nothing is noted of a build. -/
  stamps : b.stamps n = ⟨none, none⟩
  /-- The item is due. -/
  due : b.isDue n = .ok true

/-- The program that is started anew on the disk of a board loads a value of an item, alone or among
other items. -/
structure Reloads (b : Board) (n : Item) (v : n.Value) : Prop where
  /-- Alone. -/
  load : ∀ geo network now, ∃ c, (b.restart geo network now).load n = .ok c ∧ c.IsProvisional n v
  /-- Among other items. -/
  loadAll : ∀ geo network now ns, n ∈ ns →
    ((b.restart geo network now).loadAll ns).IsProvisional n v

/-- An item of which no build is noted is due, whatever the clock shows. -/
theorem isDue_of_never_built {b : Board} {n : Item} (h : b.stamps n = ⟨none, none⟩) :
    b.isDue n = .ok true := by
  unfold isDue
  rw [h]
  rfl

/-- Loading an item, or passing over it, changes no more than its snapshot. -/
theorem load_keeps (b : Board) (n : Item) :
    let c := (b.load n).toOption.getD b
    c.settings = b.settings ∧ c.disk = b.disk ∧ c.stamps = b.stamps ∧
      ∀ m, n ≠ m → c.slots m = b.slots m := by
  unfold load
  cases b.stored n with
  | error => exact ⟨rfl, rfl, rfl, fun _ _ => rfl⟩
  | ok v => exact ⟨rfl, rfl, rfl, fun m hm => slots_publish_of_ne b hm v⟩

/-- A load makes the stored value the snapshot. -/
theorem slots_load {b : Board} {n : Item} {v : n.Value} (h : b.stored n = .ok v) :
    ((b.load n).toOption.getD b).slots n = some v := by
  unfold load
  rw [h]
  exact slots_publish_self b n v

/-- Loading items notes no build. -/
theorem stamps_loadAll (b : Board) (ns : List Item) : (b.loadAll ns).stamps = b.stamps := by
  induction ns generalizing b with
  | nil => rfl
  | cons m ns ih => exact (ih _).trans (b.load_keeps m).2.2.1

/-- What is stored of an item is published when it is loaded, and stays so. -/
theorem slots_loadAll {b : Board} {n : Item} {v : n.Value} {ns : List Item}
    (h : b.stored n = .ok v) (hn : n ∈ ns ∨ b.slots n = some v) :
    (b.loadAll ns).slots n = some v := by
  induction ns generalizing b with
  | nil => exact hn.resolve_left List.not_mem_nil
  | cons m ns ih =>
    obtain ⟨hs, hd, -, hother⟩ := b.load_keeps m
    refine ih ((stored_congr hs hd n).trans h) ?_
    by_cases hm : m = n
    · subst hm
      exact .inr (slots_load h)
    · rcases hn with hn | hn
      · exact .inl ((List.mem_cons.1 hn).resolve_left (Ne.symm hm))
      · exact .inr ((hother n hm).trans hn)

/-- A stored value is loaded again after a restart. -/
theorem reloads_of_stored {b : Board} {n : Item} {v : n.Value} (h : b.stored n = .ok v) :
    b.Reloads n v := by
  have hr : ∀ geo network now, (b.restart geo network now).stored n = .ok v :=
    fun geo network now => (stored_congr rfl rfl n).trans h
  constructor
  · intro geo network now
    refine ⟨(b.restart geo network now).publish n v, ?_, slots_publish_self _ n v, rfl,
      isDue_of_never_built rfl⟩
    rw [load, hr]
    rfl
  · intro geo network now ns hn
    have hs : ((b.restart geo network now).loadAll ns).stamps n = ⟨none, none⟩ :=
      congrFun (stamps_loadAll _ ns) n
    exact ⟨slots_loadAll (hr geo network now) (.inl hn), hs, isDue_of_never_built hs⟩

end Board

variable {item : Nat → Item}

/-- A value that a producer gives has its numbers in their ranges. -/
def Move.Fits : Move item → Prop
  | .produce c (.ok v) => (item c).Fits v
  | _ => True

/-- Whether a call has written its file and is not over. Nothing can fail then. -/
def Phase.isSaved {n : Item} : Phase n → Bool
  | .written _ | .published _ => true
  | _ => false

namespace Calls

variable {s t : Calls item} {a : Option Nat} {b : Board}

/-! ## Files along runs -/

/-- A value that a call has got from its producer was given by the move that was just made, unless
the call had it before. -/
theorem produced_of_step {m : Move item} {c : Nat} {v : (item c).Value}
    (h : (s.step m).phase c = .produced v) :
    s.phase c = .produced v ∨ m = .produce c (.ok v) := by
  by_cases hc : m.call? = some c
  · rcases (step_effect s m).phase_next c with hp | hp
    · exact .inl (hp.symm.trans h)
    · have hs : s.phase c = .producing := by
        rw [h] at hp
        generalize s.phase c = p at hp
        cases hp
        rfl
      cases m with
      | surroundings => cases hc
      | produce d r =>
        obtain rfl := Option.some.inj hc
        cases r with
        | error e =>
          simp only [step, hs, fail, setPhase_self] at h
          cases h
        | ok w =>
          rw [step_produce hs, setPhase_self] at h
          cases h
          exact .inr rfl
      | _ =>
        -- A call whose producer runs makes no other move.
        obtain rfl := Option.some.inj hc
        simp only [step, hs] at h
        cases h
  · exact .inl (((step_effect s m).phase_of_ne hc).symm.trans h)

/-- What calls have got and written has its numbers in their ranges. -/
structure Fits (s : Calls item) : Prop where
  /-- What producers gave. -/
  produced : ∀ c v, s.phase c = .produced v → (item c).Fits v
  /-- What is in the files. -/
  written : ∀ n v, lastWritten n s.log = some v → n.Fits v

/-- At the start nothing was produced or written. -/
theorem Fits.start (b : Board) : (start b : Calls item).Fits where
  produced _ _ h := by cases h
  written _ _ h := by cases h

/-- A move of a call that fits keeps everything fitting. -/
theorem Fits.step (h : s.Fits) {m : Move item} (hm : m.Fits) : (s.step m).Fits where
  produced c v hp := by
    rcases produced_of_step hp with hp | rfl
    · exact h.produced c v hp
    · exact hm
  written n v hw := by
    have e := step_effect s m
    generalize s.step m = t, m.call? = a at e hw
    cases e with
    | @written c w b hp hb =>
      by_cases hn : item c = n
      · subst hn
        rw [setPhase_log, lastWritten_written] at hw
        obtain rfl := Option.some.inj hw
        exact h.produced c w hp
      · rw [setPhase_log, lastWritten_written_of_ne hn] at hw
        exact h.written n v hw
    | _ => exact h.written n v hw

theorem Fits.run (h : s.Fits) {ms : List (Move item)} (hm : ∀ m ∈ ms, m.Fits) :
    (s.run ms).Fits := by
  induction ms generalizing s with
  | nil => exact h
  | cons m ms ih =>
    obtain ⟨h₁, h₂⟩ := List.forall_mem_cons.1 hm
    exact ih (h.step h₁) h₂

/-- A file that can be reached stays so. -/
theorem Effect.isOpen (e : Effect s a t) {n : Item} (h : s.board.isOpen n = true) :
    t.board.isOpen n = true := by
  cases e with
  | @written c v b hp hb =>
    obtain ⟨-, -, ho, hother⟩ := Board.persist_ok hb
    by_cases hn : item c = n
    · subst hn
      exact ho
    · exact (hother n (Ne.symm hn)).2 h
  | changed hm =>
    rw [Board.isOpen_of_mayBecome hm]
    exact h
  | _ => exact h

/-- An item whose file is in place stays so. -/
theorem isOpen_run {n : Item} (h : s.board.isOpen n = true) (ms : List (Move item)) :
    (s.run ms).board.isOpen n = true := by
  induction ms generalizing s with
  | nil => exact h
  | cons m ms ih => exact ih ((step_effect s m).isOpen h)

/-- What was last written of an item is in its file. -/
theorem Consistent.stored_of_lastWritten (h : Consistent b s) (hf : s.Fits) {n : Item}
    {v : n.Value} (hw : lastWritten n s.log = some v) : s.board.stored n = .ok v := by
  refine Board.stored_eq_ok_iff.2 ⟨h.recorded.opened n (by rw [hw]; rfl), n.fileText v, ?_,
    Item.ofFileText_fileText (hf.written n v hw)⟩
  rw [h.recorded.file, hw]
  rfl

/-- While no call is between its file and its end, what was last written of an item is what was
last built. -/
theorem Consistent.lastWritten_eq (h : Consistent b s) {n : Item}
    (hn : ∀ c, item c = n → (s.phase c).isSaved = false) :
    lastWritten n s.log = (lastBuilt n s.log).map Prod.fst := by
  by_cases hc : ∃ c, item c = n ∧ (s.phase c).hasToken = true
  · obtain ⟨c, rfl, hc⟩ := hc
    have ha := (h.coherent (item c)).holder c rfl hc
    have hs := hn c rfl
    revert ha hs hc
    cases s.phase c <;> simp +contextual [Phase.Agrees, Phase.isSaved, Phase.hasToken]
  · simp only [not_exists, not_and, Bool.not_eq_true] at hc
    obtain ⟨hw, hp⟩ := h.at_rest hc
    exact hw.trans hp

/-- What a call has written is what was last written of its item, until the call is over. -/
theorem Consistent.lastWritten_of_saved (h : Consistent b s) {c : Nat} {v : (item c).Value}
    (hp : s.phase c = .written v ∨ s.phase c = .published v) :
    lastWritten (item c) s.log = some v := by
  rcases hp with hp | hp
  · have ha := (h.coherent (item c)).holder c rfl (by rw [hp]; rfl)
    rw [hp] at ha
    exact ha.1
  · have ha := (h.coherent (item c)).holder c rfl (by rw [hp]; rfl)
    rw [hp] at ha
    exact ha.1

end Calls

/-! ## Main statement -/

/-- Any number of calls build items of a board, in any order of their steps and with any outcome,
and each value that a producer gives has its numbers in their ranges. If the program is started anew
after any moves:

* it loads the value of an item that was last built, whatever calls have failed since, unless a call
  has just written the file of the item and is not over;
* then it loads the value of that call, which can no longer fail;
* it loads what was stored of an item at the start, if no call has written its file since.

Each value whose numbers are in their ranges is read back from the text of its file. -/
theorem builds_survive_restart (item : Nat → Item) (b : Board) (hb : ∀ n, b.building n = false)
    (ms : List (Move item)) (hm : ∀ m ∈ ms, m.Fits) :
    let s := (Calls.start b).run ms
    (∀ n v time, (∀ c, item c = n → (s.phase c).isSaved = false) →
      lastBuilt n s.log = some (v, time) → s.board.Reloads n v) ∧
    (∀ c v, s.phase c = .written v ∨ s.phase c = .published v → s.board.Reloads (item c) v) ∧
    (∀ n v, lastWritten n s.log = none → b.stored n = .ok v → s.board.Reloads n v) ∧
    (∀ (n : Item) (v : n.Value), n.Fits v → n.ofFileText (n.fileText v) = .ok v) := by
  intro s
  have h : Calls.Consistent b s := (Calls.Consistent.start hb).run ms
  have hf : s.Fits := (Calls.Fits.start b).run hm
  refine ⟨?_, ?_, ?_, fun n v hv => Item.ofFileText_fileText hv⟩
  · intro n v time hn hv
    have hw : lastWritten n s.log = some v := by
      rw [h.lastWritten_eq hn, hv]
      rfl
    exact Board.reloads_of_stored (h.stored_of_lastWritten hf hw)
  · intro c v hp
    exact Board.reloads_of_stored (h.stored_of_lastWritten hf (h.lastWritten_of_saved hp))
  · intro n v hw hv
    obtain ⟨ho, t, ht, hr⟩ := Board.stored_eq_ok_iff.1 hv
    have hs : s.board.isOpen n = true := Calls.isOpen_run (s := Calls.start b) ho ms
    refine Board.reloads_of_stored (Board.stored_eq_ok_iff.2 ⟨hs, t, ?_, hr⟩)
    rw [h.recorded.file, hw, Option.map_none, Option.none_or]
    exact ht

/-- Call 0 builds the prices of the exchange, and call 1 fails to build them again. -/
def failedAgain : List (Move itemOfCall) :=
  [.ask 0, .produce 0 (.ok somePrices), .write 0 none, .publish 0, .finish 0, .ask 1,
    .produce 1 (.error .overflow)]

/-- A build that fails leaves the prices of the build before it, and a restart loads them. -/
theorem builds_survive_restart_failedAgain :
    (∀ n, Board.bare.building n = false) ∧ (∀ m ∈ failedAgain, m.Fits) ∧
      ((Calls.start Board.bare).run failedAgain).board.Reloads .spotPrices somePrices := by
  have hm : ∀ m ∈ failedAgain, m.Fits := by
    intro m hm
    simp only [failedAgain, List.mem_cons, List.not_mem_nil, or_false] at hm
    rcases hm with rfl | rfl | rfl | rfl | rfl | rfl | rfl <;> trivial
  refine ⟨fun _ => rfl, hm, ?_⟩
  have h := builds_survive_restart itemOfCall Board.bare (fun _ => rfl) failedAgain hm
  refine h.1 .spotPrices somePrices 0 (fun c hc => ?_) rfl
  match c with
  | 0 => rfl
  | 1 => rfl
  | c + 2 => cases hc

end SwapMarket
