import SwapMarket.Proofs.Board.Interleaving

/-!
# Versions of an item

The values that calls write into the file of an item are its **versions** (`IsVersion`). They are
numbered: version 0 is what was there at the start, and each call that writes the file makes the
next one. No step of a call takes a version away (`Calls.writes_step`).

What else is published in the meantime has no effect on this: no call looks at a snapshot
(`Calls.step_withSlots`), and a call publishes once it has written its file, at no other time
(`Calls.slots_step`).
-/

namespace SwapMarket

variable {item : Nat → Item}

/-! ## Versions -/

/-- The values that were written into the file of an item, the latest first. -/
def writes (n : Item) (log : List (Event item)) : List n.Value := log.filterMap (Event.writtenTo n)

/-- The number of times that the file of an item was written. -/
def newest (n : Item) (log : List (Event item)) : Nat := (writes n log).length

/-- A value is a version of an item: for 0 what was there at the start, as the snapshot or in the
file, and otherwise what was written at that turn. -/
def IsVersion (b : Board) (n : Item) (log : List (Event item)) : Nat → n.Value → Prop
  | 0, v => b.slots n = some v ∨ ∃ t, b.file n = some (.text t) ∧ n.ofFileText t = .ok v
  | k + 1, v => (writes n log).reverse[k]? = some v

section Versions

variable {b : Board} {n : Item} {log : List (Event item)} {c : Nat} {v : (item c).Value}

/-- The value that was last written is the first one of those that were written. -/
theorem head?_writes : (writes n log).head? = lastWritten n log := List.head?_filterMap

/-- What is written comes before all that was written. -/
@[simp] theorem writes_written :
    writes (item c) (.written c v :: log) = v :: writes (item c) log := by
  simp [writes, Event.writtenTo]

/-- A file of another item does not count. -/
theorem writes_written_of_ne (h : item c ≠ n) : writes n (.written c v :: log) = writes n log := by
  simp [writes, Event.writtenTo, h]

/-- The latest version is what was last written. -/
theorem isVersion_newest {w : n.Value} (h : lastWritten n log = some w) :
    IsVersion b n log (newest n log) w := by
  rw [← head?_writes] at h
  unfold newest
  cases hw : writes n log with
  | nil =>
    rw [hw] at h
    cases h
  | cons x ws =>
    rw [hw] at h
    obtain rfl := Option.some.inj h
    simp [IsVersion, hw]

/-- More writes leave the versions there were as they are. -/
theorem IsVersion.mono {log' : List (Event item)} {k : Nat} {w : n.Value}
    (h : IsVersion b n log k w) (hl : writes n log <:+ writes n log') :
    IsVersion b n log' k w := by
  cases k with
  | zero => exact h
  | succ k =>
    obtain ⟨ws, hws⟩ := hl
    have hk : k < (writes n log).reverse.length := (List.getElem?_eq_some_iff.1 h).1
    show (writes n log').reverse[k]? = some w
    rw [← hws, List.reverse_append, List.getElem?_append_left hk]
    exact h

end Versions

/-! ## Calls and snapshots -/

namespace Calls

variable {s : Calls item} {σ : Slots}

/-- The calls with other snapshots. -/
def withSlots (s : Calls item) (σ : Slots) : Calls item :=
  { s with board := { s.board with slots := σ } }

/-- Other snapshots change no phase. -/
@[simp] theorem phase_withSlots (s : Calls item) (σ : Slots) :
    (s.withSlots σ).phase = s.phase := rfl

/-- Other snapshots start no build, and keep none from starting. -/
theorem starts_withSlots (s : Calls item) (σ : Slots) (n : Item) :
    (s.withSlots σ).board.starts n = s.board.starts n := rfl

/-- The item of which a move publishes a value. -/
def published? (s : Calls item) : Move item → Option Item
  | .publish c =>
    match s.phase c with
    | .written _ => some (item c)
    | _ => none
  | _ => none

/-- Writing a file has nothing to do with snapshots. -/
theorem tryPersist_withSlots (s : Calls item) (σ : Slots) (refusal : Option Fault) (n : Item)
    (v : n.Value) : (s.withSlots σ).board.tryPersist refusal n v
      = (s.board.tryPersist refusal n v).map fun d => { d with slots := σ } := by
  cases refusal with
  | some f => rfl
  | none =>
    unfold Board.tryPersist Board.persist withSlots
    simp only
    split
    · rfl
    · split <;> rfl

/-- Snapshots have no effect on the steps of calls. -/
theorem step_withSlots (s : Calls item) (σ : Slots) (m : Move item) :
    ∃ σ', (s.withSlots σ).step m = (s.step m).withSlots σ' := by
  cases m with
  | ask c =>
    refine ⟨σ, ?_⟩
    simp only [step, phase_withSlots, starts_withSlots]
    cases s.phase c with
    | waiting =>
      simp only
      cases s.board.starts (item c) with
      | error e => rfl
      | ok starts => cases starts <;> rfl
    | _ => rfl
  | produce c r =>
    refine ⟨σ, ?_⟩
    simp only [step, phase_withSlots]
    cases s.phase c with
    | producing => cases r <;> rfl
    | _ => rfl
  | write c refusal =>
    refine ⟨σ, ?_⟩
    simp only [step, phase_withSlots]
    cases s.phase c with
    | produced v =>
      simp only [tryPersist_withSlots]
      cases s.board.tryPersist refusal (item c) v <;> rfl
    | _ => rfl
  | publish c =>
    simp only [step, phase_withSlots]
    cases s.phase c with
    | written v => exact ⟨((s.withSlots σ).board.publish (item c) v).slots, rfl⟩
    | _ => exact ⟨σ, rfl⟩
  | finish c =>
    refine ⟨σ, ?_⟩
    simp only [step, phase_withSlots]
    cases s.phase c with
    | published v => rfl
    | _ => rfl
  | surroundings now disk network =>
    refine ⟨σ, ?_⟩
    have hmay : (s.withSlots σ).board.mayBecome now disk = s.board.mayBecome now disk := by
      unfold Board.mayBecome
      rfl
    unfold step
    simp only [hmay]
    generalize s.board.mayBecome now disk = may
    cases may <;> rfl

/-- Writing a file changes no snapshot. -/
theorem slots_tryPersist {b b' : Board} {refusal : Option Fault} {n : Item} {v : n.Value}
    (h : b.tryPersist refusal n v = .ok b') : b'.slots = b.slots := by
  cases refusal with
  | some f => cases h
  | none =>
    unfold Board.tryPersist at h
    obtain ⟨⟨d, rfl⟩, -⟩ := Board.persist_ok h
    rfl

/-- A move that publishes nothing leaves the snapshots as they are. -/
theorem slots_step {m : Move item} (h : s.published? m = none) :
    (s.step m).board.slots = s.board.slots := by
  cases m with
  | ask c =>
    simp only [step]
    split
    · split <;> rfl
    · rfl
  | produce c r =>
    simp only [step]
    split
    · cases r <;> rfl
    · rfl
  | write c refusal =>
    cases hp : s.phase c with
    | produced v =>
      cases hb : s.board.tryPersist refusal (item c) v with
      | error f =>
        simp only [step, hp, hb]
        rfl
      | ok b =>
        have hd := slots_tryPersist hb
        simp only [step, hp, hb]
        exact hd
    | _ => simp only [step, hp]
  | publish c =>
    cases hp : s.phase c with
    | written v =>
      simp only [published?, hp] at h
      cases h
    | _ => simp only [step, hp]
  | finish c =>
    cases hp : s.phase c with
    | published v =>
      rw [step_finish hp]
      rfl
    | _ => simp only [step, hp]
  | surroundings now disk network =>
    simp only [step]
    generalize s.board.mayBecome now disk = may
    cases may <;> rfl

/-- A move that publishes a value is of a call that has written it. -/
theorem published?_eq_some {m : Move item} {n : Item} (h : s.published? m = some n) :
    ∃ c v, m = .publish c ∧ s.phase c = .written v ∧ item c = n := by
  cases m with
  | publish c =>
    cases hp : s.phase c with
    | written v =>
      simp only [published?, hp] at h
      exact ⟨c, v, rfl, hp, Option.some.inj h⟩
    | _ =>
      simp only [published?, hp] at h
      cases h
  | _ => cases h

/-- No step takes a version away. -/
theorem writes_step (s : Calls item) (m : Move item) (n : Item) :
    writes n s.log <:+ writes n (s.step m).log := by
  have e := s.step_effect m
  generalize s.step m = t, m.call? = a at e
  cases e with
  | @written c v b hp hb =>
    rw [setPhase_log]
    by_cases hn : item c = n
    · subst hn
      rw [writes_written]
      exact List.suffix_cons _ _
    · refine ⟨[], ?_⟩
      rw [List.nil_append, writes_written_of_ne hn]
  | _ => exact List.suffix_rfl

end Calls

end SwapMarket
