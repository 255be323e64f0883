import SwapMarket.Api.Answer
import SwapMarket.Api.Market
import SwapMarket.Proofs.Board.Figures
import SwapMarket.Proofs.Board.Inputs
import SwapMarket.Proofs.Board.Restart

/-!
# States that can be reached

**`Reaches`** says which states the program can get into from a disk without files of items, by any
steps of any number of builds, by calls of clients, by loads of files and by new starts. The
services answer what they like, and clock and replicas may change at any time. A producer reads each
of its inputs at some moment since the program was started, so the boards that were seen since are
part of the relation.

In every state that can be reached the snapshots are sound, and so are the files and the values on
their way there (**`Calls.IsSound`**, `Reaches.isSound`): one step keeps all three together, since a
snapshot comes from a producer or a file, a file from a producer, and what a producer copies from a
snapshot. So are the tables of all views (`Api.MarketView.isSound_table?`).
-/

namespace SwapMarket

open Decimal (IsPublished)

namespace Board

/-- Every snapshot on a board was on one of the boards that were seen. -/
def Recalls (source : Board) (seen : List Board) : Prop :=
  ∀ n v, source.slots n = some v → ∃ b ∈ seen, b.slots n = some v

/-- What is produced of an item has its numbers in their ranges. -/
def ProducesFitting (b : Board) (n : Item) : Prop :=
  ∀ v, (b.produce n).outcome.1 = .ok v → n.Fits v

/-- What can be read from the files of items is sound. -/
def FilesAreSound (b : Board) : Prop :=
  ∀ n t v, b.file n = some (.text t) → n.ofFileText t = .ok v → n.IsSound v

/-- What a board recalls is sound, if all boards seen are. -/
theorem Recalls.isSound {source : Board} {seen : List Board} (h : source.Recalls seen)
    (hs : ∀ b ∈ seen, b.slots.IsSound) : source.slots.IsSound := by
  intro n v hv
  obtain ⟨b, hb, hbv⟩ := h n v hv
  exact hs b hb n v hbv

/-- A sound value that is published leaves the snapshots sound. -/
theorem isSound_publish {b : Board} {n : Item} {v : n.Value} (hb : b.slots.IsSound)
    (hv : n.IsSound v) : (b.publish n v).slots.IsSound := by
  intro m w hw
  by_cases hm : n = m
  · subst hm
    rw [slots_publish_self] at hw
    cases hw
    exact hv
  · rw [slots_publish_of_ne b hm] at hw
    exact hb m w hw

/-- A sound value that is written leaves the files sound. -/
theorem filesAreSound_persist {b b' : Board} {n : Item} {v : n.Value} (hb : b.FilesAreSound)
    (hv : n.IsSound v) (hf : n.Fits v) (h : b.persist n v = .ok b') : b'.FilesAreSound := by
  obtain ⟨-, hfile, -, hother⟩ := persist_ok h
  intro m t w ht hw
  by_cases hm : m = n
  · subst hm
    rw [hfile] at ht
    cases ht
    rw [Item.ofFileText_fileText hf] at hw
    cases hw
    exact hv
  · rw [(hother m hm).1] at ht
    exact hb m t w ht hw

/-- What is loaded was in a file. -/
theorem isSound_load {b b' : Board} {n : Item} (hb : b.slots.IsSound) (hf : b.FilesAreSound)
    (h : b.load n = .ok b') : b'.slots.IsSound ∧ b'.FilesAreSound := by
  unfold load at h
  cases hs : b.stored n with
  | error f =>
    rw [hs] at h
    cases h
  | ok v =>
    rw [hs] at h
    cases h
    obtain ⟨-, t, ht, hr⟩ := stored_eq_ok_iff.1 hs
    exact ⟨isSound_publish hb (hf n t v ht hr), hf⟩

/-- A build publishes what its producer makes of sound snapshots, or leaves everything as it was. -/
theorem isSound_build {b : Board} {n : Item} (hb : b.slots.IsSound) (hf : b.FilesAreSound)
    (hv : b.ProducesFitting n) : (b.build n).1.slots.IsSound ∧ (b.build n).1.FilesAreSound := by
  unfold build
  rcases buildReading_cases b b n with ⟨s, he, -⟩ | ⟨v, d, s, hr, hp, he, -⟩
  · rw [he]
    exact ⟨hb, hf⟩
  · have hsound : n.IsSound v := (produce_yields hb n).outcome hr
    have hd := filesAreSound_persist hf hsound (hv v hr) hp
    obtain ⟨⟨disk, rfl⟩, -⟩ := persist_ok hp
    rw [he]
    exact ⟨isSound_publish (b := { b with disk := disk }) hb hsound, hd⟩

/-- A call of a client leaves the board as it is, or builds an item. -/
theorem isSound_visit {b : Board} {call : Api.Call} (hb : b.slots.IsSound) (hf : b.FilesAreSound)
    (hv : ∀ n, b.ProducesFitting n) :
    (Api.visit b call).1.slots.IsSound ∧ (Api.visit b call).1.FilesAreSound := by
  unfold Api.visit
  simp only
  split
  · exact isSound_build hb hf (hv _)
  · exact ⟨hb, hf⟩

end Board

namespace Calls

variable {item : Nat → Item} {s t : Calls item} {a : Option Nat}

/-- Snapshots and files are sound, and so is what the calls are about to write and to publish. -/
structure IsSound (s : Calls item) : Prop where
  /-- The snapshots. -/
  slots : s.board.slots.IsSound
  /-- The files. -/
  files : s.board.FilesAreSound
  /-- What producers gave. -/
  produced : ∀ c v, s.phase c = .produced v → (item c).IsSound v ∧ (item c).Fits v
  /-- What is in a file and about to be published. -/
  written : ∀ c v, s.phase c = .written v → (item c).IsSound v

/-- At the start a board with sound snapshots and files is sound. -/
theorem IsSound.start {b : Board} (hs : b.slots.IsSound) (hf : b.FilesAreSound) :
    (start b : Calls item).IsSound where
  slots := hs
  files := hf
  produced _ _ h := by cases h
  written _ _ h := by cases h

/-- A call that has written a value had it from its producer before. -/
theorem written_of_step {m : Move item} {c : Nat} {v : (item c).Value}
    (h : (s.step m).phase c = .written v) : s.phase c = .written v ∨ s.phase c = .produced v := by
  rcases (step_effect s m).phase_next c with hp | hp
  · exact .inl (hp.symm.trans h)
  · refine .inr ?_
    rw [h] at hp
    generalize s.phase c = p at hp
    cases hp
    rfl

/-- A move keeps snapshots, files and values sound if the value that it brings is. -/
theorem IsSound.step (h : s.IsSound) {m : Move item}
    (hm : ∀ c v, m = .produce c (.ok v) → (item c).IsSound v ∧ (item c).Fits v) :
    (s.step m).IsSound where
  slots := by
    have e := step_effect s m
    generalize s.step m = t, m.call? = a at e
    cases e with
    | @written c v b hp hb =>
      obtain ⟨⟨d, rfl⟩, -⟩ := Board.persist_ok hb
      exact h.slots
    | @published c v hp => exact Board.isSound_publish h.slots (h.written c v hp)
    | _ => exact h.slots
  files := by
    have e := step_effect s m
    generalize s.step m = t, m.call? = a at e
    cases e with
    | @written c v b hp hb =>
      obtain ⟨hv, hf⟩ := h.produced c v hp
      exact Board.filesAreSound_persist h.files hv hf hb
    | @changed now disk network hmay =>
      intro n t v ht hv
      have hk := (Board.keeps_of_mayBecome hmay network n).file
      exact h.files n t v (hk.symm.trans ht) hv
    | _ => exact h.files
  produced c v hp := by
    rcases produced_of_step hp with hp | rfl
    · exact h.produced c v hp
    · exact hm c v rfl
  written c v hp := by
    rcases written_of_step hp with hp | hp
    · exact h.written c v hp
    · exact (h.produced c v hp).1

end Calls

/-! ## States that can be reached -/

variable {item : Nat → Item}

/-- The states into which the program can get, with the boards seen since it was last started. -/
inductive Reaches : List Board → Calls item → Prop where
  /-- It is started where there are no files of items. -/
  | start {settings : Settings} {geo : GeoDatabase} {disk : Disk} {network : Network} {now : Int}
    (hf : ∀ n, (Board.start settings geo disk network now).file n = none) :
    Reaches [] (Calls.start (.start settings geo disk network now))
  /-- A producer ends, which has read each of its inputs at some time. What it asked of services and
  replicas is what `source` has of them. -/
  | produce {seen : List Board} {s : Calls item} (h : Reaches seen s) (c : Nat) {source : Board}
    (hr : source.Recalls (s.board :: seen)) (hv : source.ProducesFitting (item c)) :
    Reaches (s.board :: seen) (s.step (.produce c (source.produce (item c)).outcome.1))
  /-- A call goes on in another way, or time passes and the surroundings change. -/
  | move {seen : List Board} {s : Calls item} (h : Reaches seen s) {m : Move item}
    (hm : ∀ c r, m ≠ .produce c r) : Reaches (s.board :: seen) (s.step m)
  /-- A client asks, perhaps for what has yet to be built. -/
  | visit {seen : List Board} {s : Calls item} (h : Reaches seen s) (call : Api.Call)
    (hv : ∀ n, s.board.ProducesFitting n) :
    Reaches (s.board :: seen) { s with board := (Api.visit s.board call).1 }
  /-- The file of an item is loaded. -/
  | load {seen : List Board} {s : Calls item} (h : Reaches seen s) {n : Item} {b : Board}
    (hb : s.board.load n = .ok b) : Reaches (s.board :: seen) { s with board := b }
  /-- The program is started anew on the disk as it is. -/
  | restart {seen : List Board} {s : Calls item} (h : Reaches seen s) (geo : GeoDatabase)
    (network : Network) (now : Int) : Reaches [] (Calls.start (s.board.restart geo network now))

/-- On a board without snapshots there is nothing unsound. -/
theorem isSound_slots_start (settings : Settings) (geo : GeoDatabase) (disk : Disk)
    (network : Network) (now : Int) :
    (Board.start settings geo disk network now).slots.IsSound := by
  intro n v hv
  cases hv

/-- In every state that can be reached, snapshots, files and values in flight are sound, and the
snapshots on all boards seen before were. -/
theorem Reaches.isSound {seen : List Board} {s : Calls item} (h : Reaches seen s) :
    s.IsSound ∧ ∀ b ∈ seen, b.slots.IsSound := by
  induction h with
  | start hf =>
    refine ⟨.start (isSound_slots_start _ _ _ _ _) ?_, fun b hb => absurd hb List.not_mem_nil⟩
    intro n t v ht
    rw [hf n] at ht
    cases ht
  | @produce seen s h c source hr hv ih =>
    have hseen : ∀ b ∈ s.board :: seen, b.slots.IsSound :=
      List.forall_mem_cons.2 ⟨ih.1.slots, ih.2⟩
    refine ⟨ih.1.step ?_, hseen⟩
    intro d v hd
    obtain ⟨rfl, hd⟩ := Move.produce.inj hd
    have hd := eq_of_heq hd
    exact ⟨(Board.produce_yields (hr.isSound hseen) (item c)).outcome hd, hv v hd⟩
  | @move seen s h m hm ih =>
    refine ⟨ih.1.step ?_, List.forall_mem_cons.2 ⟨ih.1.slots, ih.2⟩⟩
    intro c v hc
    exact absurd hc (hm c (.ok v))
  | @visit seen s h call hv ih =>
    obtain ⟨hs, hf⟩ : (Api.visit s.board call).1.slots.IsSound ∧
        (Api.visit s.board call).1.FilesAreSound := Board.isSound_visit ih.1.slots ih.1.files hv
    exact ⟨⟨hs, hf, ih.1.produced, ih.1.written⟩, List.forall_mem_cons.2 ⟨ih.1.slots, ih.2⟩⟩
  | @load seen s h n b hb ih =>
    obtain ⟨hs, hf⟩ := Board.isSound_load ih.1.slots ih.1.files hb
    exact ⟨⟨hs, hf, ih.1.produced, ih.1.written⟩, List.forall_mem_cons.2 ⟨ih.1.slots, ih.2⟩⟩
  | @restart seen s h geo network now ih =>
    exact ⟨.start (isSound_slots_start _ _ _ _ _) ih.1.files,
      fun b hb => absurd hb List.not_mem_nil⟩

/-! ## Views -/

namespace Api.MarketView

instance (v : MarketView) : MarketFigures v.Record :=
  match v with
  | .lastTrades => inferInstanceAs (MarketFigures LastTrade)
  | .dayPrices => inferInstanceAs (MarketFigures DayPrices)
  | .dayVolumes => inferInstanceAs (MarketFigures Volume)
  | .fortnightVolumes => inferInstanceAs (MarketFigures Volume)
  | .orderbooks => inferInstanceAs (MarketFigures Orderbook)

/-- The table of a view is as sound as the snapshots are. -/
theorem isSound_table? {b : Board} (h : b.slots.IsSound) {v : MarketView} {t : Table v.Record}
    (ht : v.table? b = some t) : t.IsSound := by
  cases v with
  | lastTrades => exact h .lastTrades t ht
  | dayPrices => exact h .dayPrices t ht
  | dayVolumes => exact h .dayVolumes t ht
  | fortnightVolumes => exact h .fortnightVolumes t ht
  | orderbooks => exact h .orderbooks t ht

/-- A record of any view with published figures can be seen from the other side. -/
theorem gives_inverse {v : MarketView} {r : v.Record} (h : IsFigured r) :
    Run.Gives (IsShort r) IsFigured (MarketRecord.inverse r) := by
  cases v with
  | lastTrades => exact LastTrade.gives_inverse h
  | dayPrices => exact DayPrices.gives_inverse h
  | dayVolumes => exact Volume.gives_inverse h
  | fortnightVolumes => exact Volume.gives_inverse h
  | orderbooks => exact Orderbook.gives_inverse h

end Api.MarketView

end SwapMarket
