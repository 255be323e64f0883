import SwapMarket.Proofs.Board.Restart
import SwapMarket.Proofs.Board.Versions

/-!
# Loads while items are built

The file of an item is loaded in two steps: it is read, and what was read is published. A load takes
no token, so its steps may come between those of calls that build the item, and it may publish what
is no longer in the file. Load `l` is of the item `target l`.

**`Loads`** keeps with the calls and the loads of which version each snapshot is, and with a load of
which version what it has read is.

* Loads change nothing but snapshots (`Loads.calls_run`), so all that holds of calls without loads
  holds of phases, files and notes.
* **`Loads.IsRecent`**: neither the snapshot nor what a load has yet to publish is older than a
  version. Every move keeps this, and without it one load is enough to bring an older snapshot back.

Main statement: `loads_interleave`.
-/

namespace SwapMarket

open Function

variable {item target : Nat → Item}

/-! ## Steps -/

/-- How far a load of an item has come. -/
inductive LoadPhase (n : Item) where
  /-- It has not read the file. -/
  | waiting
  /-- It has read a value of a version. -/
  | read (v : n.Value) (version : Nat)
  /-- It has published the value. -/
  | loaded (v : n.Value) (version : Nat)
  /-- The file could not be read. -/
  | failed (cause : Fault)

/-- What can happen next. -/
inductive LoadMove (item : Nat → Item) where
  /-- A call goes on, or time passes and the surroundings change. -/
  | call (m : Move item)
  /-- A load reads its file. -/
  | read (l : Nat)
  /-- A load publishes what it has read. -/
  | put (l : Nat)

/-- The move of a call, if it is one. -/
def LoadMove.call? : LoadMove item → Option (Move item)
  | .call m => some m
  | _ => none

/-- A value that a producer gives has its numbers in their ranges. -/
def LoadMove.Fits : LoadMove item → Prop
  | .call m => m.Fits
  | _ => True

/-- Calls that build items of one board, and loads of items. -/
structure Loads (item target : Nat → Item) where
  /-- The board and the calls. -/
  calls : Calls item
  /-- How far each load has come. -/
  load : (l : Nat) → LoadPhase (target l)
  /-- Of which version each snapshot is. -/
  version : Item → Nat

namespace Loads

variable {s t : Loads item target} {b : Board}

/-- The calls and the loads before any of them has done anything. -/
def start (b : Board) : Loads item target := ⟨.start b, fun _ => .waiting, fun _ => 0⟩

/-- The snapshot of an item, if there is one. -/
def slot (s : Loads item target) (n : Item) : Option n.Value := s.calls.board.slots n

/-- The version that was last written into the file of an item. -/
def newest (s : Loads item target) (n : Item) : Nat := SwapMarket.newest n s.calls.log

/-- A load gets to a phase. -/
def setLoad (s : Loads item target) (l : Nat) (p : LoadPhase (target l)) : Loads item target :=
  { s with load := update s.load l p }

/-- A call goes on. What it publishes is what was last written. -/
def moved (s : Loads item target) (m : Move item) : Loads item target :=
  { s with
    calls := s.calls.step m
    version := match s.calls.published? m with
      | some n => update s.version n (s.newest n)
      | none => s.version }

/-- A value of a version is published. -/
def put (s : Loads item target) (n : Item) (v : n.Value) (k : Nat) : Loads item target :=
  { s with
    calls := { s.calls with board := s.calls.board.publish n v }
    version := update s.version n k }

/-- One move. -/
def step (s : Loads item target) : LoadMove item → Loads item target
  | .call m => s.moved m
  | .read l =>
    match s.load l with
    | .waiting =>
      match s.calls.board.stored (target l) with
      | .error f => s.setLoad l (.failed f)
      | .ok v => s.setLoad l (.read v (s.newest (target l)))
    | _ => s
  | .put l =>
    match s.load l with
    | .read v k => (s.put (target l) v k).setLoad l (.loaded v k)
    | _ => s

/-- Moves one after the other. -/
def run (s : Loads item target) (ms : List (LoadMove item)) : Loads item target := ms.foldl step s

@[simp] theorem run_nil (s : Loads item target) : s.run [] = s := rfl

@[simp] theorem run_cons (s : Loads item target) (m : LoadMove item) (ms : List (LoadMove item)) :
    s.run (m :: ms) = (s.step m).run ms := rfl

@[simp] theorem setLoad_self (s : Loads item target) (l : Nat) (p : LoadPhase (target l)) :
    (s.setLoad l p).load l = p := by
  simp [setLoad]

theorem setLoad_of_ne (s : Loads item target) {l k : Nat} (h : k ≠ l) (p : LoadPhase (target l)) :
    (s.setLoad l p).load k = s.load k := by
  simp [setLoad, h]

/-- A move of a call that publishes nothing changes the calls only. -/
theorem step_call {m : Move item} (h : s.calls.published? m = none) :
    s.step (.call m) = { s with calls := s.calls.step m } := by
  show s.moved m = _
  unfold moved
  rw [h]

/-- A call that publishes makes the newest version the snapshot. -/
theorem step_publish {c : Nat} {v : (item c).Value} (h : s.calls.phase c = .written v) :
    s.step (.call (.publish c)) = { s with
      calls := s.calls.step (.publish c)
      version := update s.version (item c) (s.newest (item c)) } := by
  have hn : s.calls.published? (.publish c) = some (item c) := by
    simp only [Calls.published?, h]
  show s.moved _ = _
  unfold moved
  rw [hn]

/-- A load that has read its file puts what it read. -/
theorem step_put {l : Nat} {v : (target l).Value} {k : Nat} (h : s.load l = .read v k) :
    s.step (.put l) = (s.put (target l) v k).setLoad l (.loaded v k) := by
  simp only [step, h]

/-- What a move can do at most. -/
inductive Effect (s : Loads item target) : Loads item target → Prop where
  /-- Nothing. -/
  | idle : Effect s s
  /-- A call publishes its value. -/
  | published {c : Nat} {v : (item c).Value} (hp : s.calls.phase c = .written v) :
    Effect s { s with
      calls := s.calls.step (.publish c)
      version := update s.version (item c) (s.newest (item c)) }
  /-- A call does something else, or the surroundings change. -/
  | called {m : Move item} (hm : s.calls.published? m = none) :
    Effect s { s with calls := s.calls.step m }
  /-- A file cannot be read. -/
  | failed {l : Nat} {f : Fault} : Effect s (s.setLoad l (.failed f))
  /-- A file is read. -/
  | read {l : Nat} {v : (target l).Value} (hv : s.calls.board.stored (target l) = .ok v) :
    Effect s (s.setLoad l (.read v (s.newest (target l))))
  /-- A load publishes what it has read. -/
  | loaded {l : Nat} {v : (target l).Value} {k : Nat} (hl : s.load l = .read v k) :
    Effect s ((s.put (target l) v k).setLoad l (.loaded v k))

/-- A move does one of these things. -/
theorem step_effect (s : Loads item target) (m : LoadMove item) : Effect s (s.step m) := by
  cases m with
  | call m =>
    cases hn : s.calls.published? m with
    | none =>
      rw [step_call hn]
      exact .called hn
    | some n =>
      obtain ⟨c, v, rfl, hp, rfl⟩ := Calls.published?_eq_some hn
      rw [step_publish hp]
      exact .published hp
  | read l =>
    simp only [step]
    split
    · split
      · exact .failed
      · next hv => exact .read hv
    · exact .idle
  | put l =>
    simp only [step]
    split
    · next hl => exact .loaded hl
    · exact .idle

/-! ## Loads leave the calls alone -/

/-- A load that is left alone is the load of a file. -/
theorem load_eq_run {l : Nat} (h : s.load l = .waiting) :
    (s.run [.read l, .put l]).calls.board
      = (s.calls.board.load (target l)).toOption.getD s.calls.board := by
  unfold Board.load
  cases hv : s.calls.board.stored (target l) with
  | error f =>
    have hr : s.step (.read l) = s.setLoad l (.failed f) := by simp only [step, h, hv]
    rw [run_cons, hr]
    simp only [run_cons, run_nil, step, setLoad_self]
    rfl
  | ok v =>
    have hr : s.step (.read l) = s.setLoad l (.read v (s.newest (target l))) := by
      simp only [step, h, hv]
    rw [run_cons, hr, run_cons, run_nil, step_put (setLoad_self _ _ _)]
    rfl

/-- A step of a load changes nothing of the calls but snapshots. -/
theorem calls_step {m : LoadMove item} (h : m.call? = none) :
    ∃ σ, (s.step m).calls = s.calls.withSlots σ := by
  cases m with
  | call m => cases h
  | read l =>
    refine ⟨s.calls.board.slots, ?_⟩
    simp only [step]
    split
    · split <;> rfl
    · rfl
  | put l =>
    simp only [step]
    split
    · next v k hl => exact ⟨(s.calls.board.publish (target l) v).slots, rfl⟩
    · exact ⟨s.calls.board.slots, rfl⟩

/-- Snapshots apart, the calls are where they would be without loads. -/
theorem calls_run {p : Calls item} {σ : Slots} (h : s.calls = p.withSlots σ)
    (ms : List (LoadMove item)) :
    ∃ σ', (s.run ms).calls = (p.run (ms.filterMap LoadMove.call?)).withSlots σ' := by
  induction ms generalizing s p σ with
  | nil => exact ⟨σ, h⟩
  | cons m ms ih =>
    cases hm : m.call? with
    | none =>
      obtain ⟨σ', h'⟩ := calls_step (s := s) hm
      rw [List.filterMap_cons_none hm]
      refine ih (p := p) (σ := σ') ?_
      rw [h', h]
      rfl
    | some m' =>
      obtain ⟨σ', h'⟩ := p.step_withSlots σ m'
      rw [List.filterMap_cons_some hm]
      refine ih (p := p.step m') (σ := σ') ?_
      cases m with
      | call m'' =>
        obtain rfl := Option.some.inj hm
        rw [← h', ← h]
        rfl
      | _ => cases hm

/-! ## What is read -/

/-- Snapshots apart, the calls are where calls get to that start on a board. -/
def Follows (b : Board) (s : Loads item target) : Prop :=
  ∃ (p : Calls item) (σ : Slots), Calls.Consistent b p ∧ p.Fits ∧ s.calls = p.withSlots σ

/-- At the start the calls are where calls begin, if no token is taken. -/
theorem Follows.start (hb : ∀ n, b.building n = false) :
    Follows b (start b : Loads item target) :=
  ⟨.start b, b.slots, .start hb, .start b, rfl⟩

/-- Loads change snapshots only, so that the calls stay where calls get to. -/
theorem Follows.run (h : Follows b s) {ms : List (LoadMove item)} (hm : ∀ m ∈ ms, m.Fits) :
    Follows b (s.run ms) := by
  obtain ⟨p, σ, hp, hf, hs⟩ := h
  obtain ⟨σ', h'⟩ := calls_run hs ms
  refine ⟨_, σ', hp.run _, hf.run fun m hmem => ?_, h'⟩
  obtain ⟨m', hm', he⟩ := List.mem_filterMap.1 hmem
  cases m' with
  | call m'' =>
    obtain rfl := Option.some.inj he
    exact hm _ hm'
  | _ => cases he

/-- What a call is about to publish is what was last written. -/
theorem Follows.lastWritten (h : Follows b s) {c : Nat} {v : (item c).Value}
    (hp : s.calls.phase c = .written v) : lastWritten (item c) s.calls.log = some v := by
  obtain ⟨p, σ, hc, -, hs⟩ := h
  rw [hs] at hp ⊢
  exact hc.lastWritten_of_saved (.inl hp)

/-- What is stored of an item is the version that was last written. -/
theorem Follows.isVersion_of_stored (h : Follows b s) {n : Item} {v : n.Value}
    (hv : s.calls.board.stored n = .ok v) : IsVersion b n s.calls.log (s.newest n) v := by
  obtain ⟨p, σ, hc, hf, hs⟩ := h
  unfold newest
  rw [hs] at hv ⊢
  have hv : p.board.stored n = .ok v := (Board.stored_congr rfl rfl n).symm.trans hv
  show IsVersion b n p.log (SwapMarket.newest n p.log) v
  cases hw : SwapMarket.lastWritten n p.log with
  | some w =>
    obtain rfl := Except.ok.inj ((hc.stored_of_lastWritten hf hw).symm.trans hv)
    exact isVersion_newest hw
  | none =>
    have hnone : writes n p.log = [] := by
      rw [← List.head?_eq_none_iff, head?_writes, hw]
    obtain ⟨-, t, ht, hr⟩ := Board.stored_eq_ok_iff.1 hv
    rw [hc.recorded.file, hw, Option.map_none, Option.none_or] at ht
    unfold SwapMarket.newest
    rw [hnone]
    exact .inr ⟨t, ht, hr⟩

/-! ## Versions along runs -/

/-- Snapshots, and what loads have yet to publish, are of the versions that they are said to be. -/
structure Dated (b : Board) (s : Loads item target) : Prop where
  /-- No snapshot is of a version that is not there. -/
  slot_le : ∀ n, s.version n ≤ s.newest n
  /-- Each snapshot is of its version. -/
  slot : ∀ n v, s.slot n = some v → IsVersion b n s.calls.log (s.version n) v
  /-- No load has read a version that is not there. -/
  read_le : ∀ l v k, s.load l = .read v k → k ≤ s.newest (target l)
  /-- What a load has read is of its version. -/
  read : ∀ l v k, s.load l = .read v k → IsVersion b (target l) s.calls.log k v

/-- At the start all snapshots are of the first version. -/
theorem Dated.start (b : Board) : Dated b (start b : Loads item target) where
  slot_le _ := Nat.zero_le _
  slot _ _ h := .inl h
  read_le _ _ _ h := by cases h
  read _ _ _ h := by cases h

/-- A step of a call that publishes nothing leaves all versions as they are. -/
theorem Dated.called (h : Dated b s) {m : Move item} (hm : s.calls.published? m = none) :
    Dated b { s with calls := s.calls.step m } where
  slot_le n := (h.slot_le n).trans (s.calls.writes_step m n).length_le
  slot n v hv := by
    have hslots := Calls.slots_step hm
    have hv : s.slot n = some v := (congrFun hslots n).symm.trans hv
    exact (h.slot n v hv).mono (s.calls.writes_step m n)
  read_le l v k hl := (h.read_le l v k hl).trans (s.calls.writes_step m _).length_le
  read l v k hl := (h.read l v k hl).mono (s.calls.writes_step m _)

/-- A version that is published is the one of the snapshot. -/
theorem Dated.put (h : Dated b s) {n : Item} {v : n.Value} {k : Nat} (hk : k ≤ s.newest n)
    (hv : IsVersion b n s.calls.log k v) : Dated b (s.put n v k) := by
  refine ⟨fun m => ?_, fun m w hw => ?_, h.read_le, h.read⟩
  · show update s.version n k m ≤ s.newest m
    by_cases hm : m = n
    · subst hm
      rw [update_self]
      exact hk
    · rw [update_of_ne hm]
      exact h.slot_le m
  · show IsVersion b m s.calls.log (update s.version n k m) w
    by_cases hm : m = n
    · subst hm
      have hvw : some v = some w := (Board.slots_publish_self _ _ _).symm.trans hw
      obtain rfl := Option.some.inj hvw
      rw [update_self]
      exact hv
    · rw [update_of_ne hm]
      exact h.slot m w ((Board.slots_publish_of_ne _ (Ne.symm hm) v).symm.trans hw)

/-- A call publishes the version that was last written. -/
theorem Dated.published (h : Dated b s) (f : Follows b s) {c : Nat} {v : (item c).Value}
    (hp : s.calls.phase c = .written v) :
    Dated b { s with
      calls := s.calls.step (.publish c)
      version := update s.version (item c) (s.newest (item c)) } := by
  have hput := h.put le_rfl (isVersion_newest (f.lastWritten hp))
  rw [Calls.step_publish hp]
  exact ⟨hput.slot_le, hput.slot, hput.read_le, hput.read⟩

/-- A load that has nothing to publish leaves all versions as they are. -/
theorem Dated.setLoad (h : Dated b s) {l : Nat} {p : LoadPhase (target l)}
    (hp : ∀ v k, p = .read v k →
      k ≤ s.newest (target l) ∧ IsVersion b (target l) s.calls.log k v) :
    Dated b (s.setLoad l p) where
  slot_le := h.slot_le
  slot := h.slot
  read_le l' v k hl := by
    by_cases hn : l' = l
    · subst hn
      rw [setLoad_self] at hl
      exact (hp v k hl).1
    · rw [setLoad_of_ne s hn] at hl
      exact h.read_le l' v k hl
  read l' v k hl := by
    by_cases hn : l' = l
    · subst hn
      rw [setLoad_self] at hl
      exact (hp v k hl).2
    · rw [setLoad_of_ne s hn] at hl
      exact h.read l' v k hl

/-- A move keeps snapshots, and what loads have read, of the versions that they are said to be. -/
theorem Dated.effect (h : Dated b s) (f : Follows b s) (e : Effect s t) : Dated b t := by
  cases e with
  | idle => exact h
  | published hp => exact h.published f hp
  | called hm => exact h.called hm
  | failed => exact h.setLoad fun v k hk => by cases hk
  | read hv =>
    refine h.setLoad fun v k hk => ?_
    cases hk
    exact ⟨le_rfl, f.isVersion_of_stored hv⟩
  | loaded hl =>
    exact (h.put (h.read_le _ _ _ hl) (h.read _ _ _ hl)).setLoad fun v k hk => by cases hk

theorem Dated.run (h : Dated b s) (f : Follows b s) {ms : List (LoadMove item)}
    (hm : ∀ m ∈ ms, m.Fits) : Dated b (s.run ms) := by
  induction ms generalizing s with
  | nil => exact h
  | cons m ms ih =>
    obtain ⟨h₁, h₂⟩ := List.forall_mem_cons.1 hm
    have f' : Follows b (s.run [m]) := f.run (List.forall_mem_singleton.2 h₁)
    exact ih (h.effect f (step_effect s m)) f' h₂

/-- Neither the snapshot of an item nor what a load of it has yet to publish is older than a
version. -/
structure IsRecent (g : Nat) (n : Item) (s : Loads item target) : Prop where
  /-- The version is there. -/
  newest : g ≤ s.newest n
  /-- The snapshot. -/
  slot : g ≤ s.version n
  /-- What loads have read. -/
  read : ∀ l v k, s.load l = .read v k → target l = n → g ≤ k

section Recent

variable {g : Nat} {n : Item}

/-- A snapshot that is no older than a version may be replaced by another one. -/
theorem le_update (h : g ≤ s.version n) {m : Item} {k : Nat} (hk : m = n → g ≤ k) :
    g ≤ update s.version m k n := by
  by_cases hm : m = n
  · subst hm
    rw [update_self]
    exact hk rfl
  · rw [update_of_ne (Ne.symm hm)]
    exact h

/-- Noting the phase of a load keeps everything recent, if what it has read is. -/
theorem IsRecent.setLoad (h : IsRecent g n s) {l : Nat} {p : LoadPhase (target l)}
    (hp : ∀ v k, p = .read v k → target l = n → g ≤ k) : IsRecent g n (s.setLoad l p) where
  newest := h.newest
  slot := h.slot
  read l' v k hl ht := by
    by_cases hn : l' = l
    · subst hn
      rw [setLoad_self] at hl
      exact hp v k hl ht
    · rw [setLoad_of_ne s hn] at hl
      exact h.read l' v k hl ht

/-- A move never replaces a recent version by an older one. -/
theorem IsRecent.effect (h : IsRecent g n s) (e : Effect s t) : IsRecent g n t := by
  cases e with
  | idle => exact h
  | @published c v hp =>
    refine ⟨h.newest.trans (Calls.writes_step _ _ _).length_le, le_update h.slot ?_, h.read⟩
    rintro rfl
    exact h.newest
  | called hm => exact ⟨h.newest.trans (Calls.writes_step _ _ _).length_le, h.slot, h.read⟩
  | failed => exact h.setLoad fun v k hk => by cases hk
  | read hv =>
    refine h.setLoad fun v k hk ht => ?_
    cases hk
    subst ht
    exact h.newest
  | @loaded l v k hl =>
    have hput : IsRecent g n (s.put (target l) v k) :=
      ⟨h.newest, le_update h.slot (h.read l v k hl), h.read⟩
    exact hput.setLoad fun v k hk => by cases hk

theorem IsRecent.run (h : IsRecent g n s) (ms : List (LoadMove item)) :
    IsRecent g n (s.run ms) := by
  induction ms generalizing s with
  | nil => exact h
  | cons m ms ih => exact ih (h.effect (step_effect s m))

end Recent

/-- A call publishes, and then a load of its item publishes what it had read. -/
theorem run_finish_put {c l : Nat} {v : (item c).Value} {w : (target l).Value} {k : Nat}
    (hp : s.calls.phase c = .published v) (hl : s.load l = .read w k) :
    let u := s.run [.call (.finish c), .put l]
    u.calls.phase c = .built v s.calls.board.now ∧ u.version (target l) = k ∧
      u.slot (target l) = some w := by
  have hstep : s.step (.call (.finish c)) = { s with calls := s.calls.step (.finish c) } :=
    step_call rfl
  intro u
  have hu : u = (({ s with calls := s.calls.step (.finish c) } : Loads item target).put
      (target l) w k).setLoad l (.loaded w k) := by
    show ((s.step (.call (.finish c))).step (.put l)) = _
    rw [hstep]
    exact step_put hl
  rw [hu, Calls.step_finish hp]
  exact ⟨Calls.setPhase_self _ _ _, update_self _ _ _, Board.slots_publish_self _ _ _⟩

end Loads

/-! ## Main statement -/

/-- Any number of calls build items of a board while any number of loads read files of items and
publish what they have read, in any order of all their steps, and each value that a producer gives
has its numbers in their ranges. After any moves:

* phases, log and board are what they would be without the loads, but for the snapshots;
* a load that is left alone is the load of the file of its item;
* each snapshot is of a version that is there, and what a load has yet to publish is, too;
* a call that has written its file publishes the version that it wrote, which is the newest, and
  once it has built its item the snapshot is never again of an older one, whatever happens, if and
  only if no load has read an older version of the item and has yet to publish it;
* one such load is enough: as soon as it publishes, the snapshot is the older value that it read. -/
theorem loads_interleave (item target : Nat → Item) (b : Board) (hb : ∀ n, b.building n = false)
    (ms : List (LoadMove item)) (hm : ∀ m ∈ ms, m.Fits) :
    let s := (Loads.start b : Loads item target).run ms
    (∃ σ, s.calls = ((Calls.start b).run (ms.filterMap LoadMove.call?)).withSlots σ) ∧
    (∀ l, s.load l = .waiting → (s.run [.read l, .put l]).calls.board
      = (s.calls.board.load (target l)).toOption.getD s.calls.board) ∧
    (∀ n, s.version n ≤ s.newest n ∧
      ∀ v, s.slot n = some v → IsVersion b n s.calls.log (s.version n) v) ∧
    (∀ l v k, s.load l = .read v k → k ≤ s.newest (target l) ∧
      IsVersion b (target l) s.calls.log k v) ∧
    ∀ c v, s.calls.phase c = .written v →
      let t := s.step (.call (.publish c))
      let g := s.newest (item c)
      t.slot (item c) = some v ∧ t.version (item c) = g ∧
      ((∀ later time, (t.run later).calls.phase c = .built v time →
          g ≤ (t.run later).version (item c)) ↔
        ∀ l w k, s.load l = .read w k → target l = item c → g ≤ k) ∧
      ∀ l w k, s.load l = .read w k → target l = item c → k < g →
        let u := t.run [.call (.finish c), .put l]
        (∃ time, u.calls.phase c = .built v time) ∧ u.version (target l) = k ∧
          u.slot (target l) = some w := by
  intro s
  have hf : Loads.Follows b s := (Loads.Follows.start hb).run hm
  have hd : Loads.Dated b s := (Loads.Dated.start b).run (.start hb) hm
  refine ⟨Loads.calls_run (σ := b.slots) rfl ms, fun l hl => Loads.load_eq_run hl,
    fun n => ⟨hd.slot_le n, hd.slot n⟩, fun l v k hl => ⟨hd.read_le l v k hl, hd.read l v k hl⟩,
    fun c v hp => ?_⟩
  intro t g
  have ht : t = { s with
      calls := s.calls.step (.publish c)
      version := update s.version (item c) g } := Loads.step_publish hp
  have hslot : t.slot (item c) = some v := by
    rw [ht, Calls.step_publish hp]
    exact Board.slots_publish_self _ _ _
  have hversion : t.version (item c) = g := by
    rw [ht]
    exact update_self _ _ _
  have hphase : t.calls.phase c = .published v := by
    rw [ht, Calls.step_publish hp]
    exact Calls.setPhase_self _ _ _
  have hload : t.load = s.load := by rw [ht]
  have hundone : ∀ l w k, s.load l = .read w k →
      let u := t.run [.call (.finish c), .put l]
      (∃ time, u.calls.phase c = .built v time) ∧ u.version (target l) = k ∧
        u.slot (target l) = some w := by
    intro l w k hl
    obtain ⟨hbuilt, hrest⟩ := Loads.run_finish_put hphase ((congrFun hload l).trans hl)
    exact ⟨⟨_, hbuilt⟩, hrest⟩
  refine ⟨hslot, hversion, ⟨fun h l w k hl htarget => ?_, fun h later time _ => ?_⟩,
    fun l w k hl _ _ => hundone l w k hl⟩
  · obtain ⟨⟨time, hbuilt⟩, hk, -⟩ := hundone l w k hl
    rw [← hk, htarget]
    exact h _ time hbuilt
  · have hrecent : Loads.IsRecent g (item c) t := by
      refine ⟨?_, hversion.ge, fun l w k hl => h l w k ((congrFun hload l).symm.trans hl)⟩
      rw [ht]
      exact (Calls.writes_step _ _ _).length_le
    exact (hrecent.run later).slot

/-! ## A load at the wrong time -/

namespace Reading

/-- The prices that are there at the start. -/
def before : Table String := .ofList [("KMDBTC", "1")]

/-- The prices that are built. -/
def after : Table String := .ofList [("KMDBTC", "2")]

/-- A program that finds a file of prices. -/
def board : Board :=
  .start default .empty ⟨[((default : Settings).itemLocation .spotPrices,
    .text (Item.fileText .spotPrices before))]⟩ default 0

/-- Some steps of calls and loads of the prices. -/
def run (ms : List (LoadMove itemOfCall)) : Loads itemOfCall fun _ => .spotPrices :=
  (Loads.start board).run ms

/-- A call writes the file, and a load reads it. -/
def inTime : List (LoadMove itemOfCall) :=
  [.call (.ask 0), .call (.produce 0 (.ok after)), .call (.write 0 none), .read 0]

/-- A load has read the file when a call builds the prices, and publishes later. -/
def tooEarly : List (LoadMove itemOfCall) :=
  [.read 0, .call (.ask 0), .call (.produce 0 (.ok after)), .call (.write 0 none),
    .call (.publish 0), .call (.finish 0), .put 0]

/-- No load but the first does anything. -/
theorem load_inTime (l : Nat) {w : Table String} {k : Nat}
    (h : (run inTime).load l = .read w k) : k = 1 := by
  match l with
  | 0 =>
    have hread : (run inTime).load 0 = .read after 1 := rfl
    rw [hread] at h
    cases h
    rfl
  | l + 1 => cases h

end Reading

/-- A load that has put what it read before the call publishes: the version of the call stays,
whatever moves come later. -/
theorem loads_interleave_inTime : (∀ n, Reading.board.building n = false) ∧
    (∀ m ∈ Reading.inTime, m.Fits) ∧
    (Reading.run Reading.inTime).calls.phase 0 = .written Reading.after ∧
    ∀ later time, let u := ((Reading.run Reading.inTime).step (.call (.publish 0))).run later
      u.calls.phase 0 = .built Reading.after time → 1 ≤ u.version .spotPrices := by
  have hbuilding : ∀ n, Reading.board.building n = false := fun _ => rfl
  have hfits : ∀ m ∈ Reading.inTime, m.Fits := by
    intro m hm
    simp only [Reading.inTime, List.mem_cons, List.not_mem_nil, or_false] at hm
    rcases hm with rfl | rfl | rfl | rfl <;> trivial
  have hwritten : (Reading.run Reading.inTime).calls.phase 0 = .written Reading.after := rfl
  obtain ⟨-, -, -, -, h⟩ :=
    loads_interleave itemOfCall (fun _ => .spotPrices) Reading.board hbuilding Reading.inTime hfits
  obtain ⟨-, -, hkept, -⟩ := h 0 Reading.after hwritten
  refine ⟨hbuilding, hfits, hwritten, hkept.2 fun l w k hl _ => ?_⟩
  exact (Reading.load_inTime l hl).ge

/-- A load brings back the prices that it read before new ones were built. -/
theorem loads_interleave_tooEarly :
    let s := Reading.run Reading.tooEarly
    s.calls.phase 0 = .built Reading.after 0 ∧ s.slot .spotPrices = some Reading.before ∧
      Reading.before ≠ Reading.after ∧ s.version .spotPrices = 0 ∧ s.newest .spotPrices = 1 :=
  ⟨rfl, rfl, by decide, rfl, rfl⟩

end SwapMarket
