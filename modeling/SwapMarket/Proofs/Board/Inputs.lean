import SwapMarket.Board.Build
import SwapMarket.Proofs.Board.ItemFile
import SwapMarket.Proofs.Board.Tokens
import SwapMarket.Proofs.Replica.Undisturbed

/-!
# What a build hangs on

A producer reads the snapshots of some items (**`Item.inputs`**), the settings, the services, the
clock and the replicas, and nothing else: where these are the same, it produces the same
(`produce_congr`). Its inputs are its dependencies and besides, where it needs a catalogue of coins,
the older list and the prices of the coins, as far as they are there.

Whether a value can be kept hangs on the item, not on the value (**`Board.canKeep`**,
`exists_persist_iff`), and writing the file of an item changes neither this nor what the replicas
answer (**`Board.SameSurroundings`**, `sameSurroundings_persist`). So the snapshot that a build
leaves and the way in which it ends are the same wherever it reads the same in the same surroundings
(`snapshotAfter_congr`, `outcome_buildReading_congr`).
-/

namespace SwapMarket

namespace Board

variable {b c : Board} {n m : Item}

/-! ## Producers -/

/-- What a producer reads besides snapshots is the same. -/
structure SameWorld (b c : Board) : Prop where
  /-- The settings. -/
  settings : c.settings = b.settings
  /-- The services. -/
  network : c.network = b.network
  /-- The clock. -/
  now : c.now = b.now
  /-- The answers of the replicas. -/
  answers : b.disk.AnswersAlike c.disk

theorem SameWorld.refl (b : Board) : b.SameWorld b := ⟨rfl, rfl, rfl, fun _ _ _ => rfl⟩

theorem SameWorld.symm (h : b.SameWorld c) : c.SameWorld b :=
  ⟨h.settings.symm, h.network.symm, h.now.symm, fun s n q => (h.answers s n q).symm⟩

/-- What two boards have in common with a third one, they have in common. -/
theorem SameWorld.trans {d : Board} (h : b.SameWorld c) (h' : c.SameWorld d) : b.SameWorld d :=
  ⟨h'.settings.trans h.settings, h'.network.trans h.network, h'.now.trans h.now,
    fun s n q => (h'.answers s n q).trans (h.answers s n q)⟩

/-- The replicas are read alike. -/
theorem swapsOfDays_congr (h : b.SameWorld c) (days : Int) :
    c.swapsOfDays days = b.swapsOfDays days := by
  unfold swapsOfDays swapsBetween
  simp only [h.settings, h.now, h.answers b.settings]

/-- Whether a value of an item can be kept. -/
def canKeep (b : Board) (n : Item) : Bool :=
  Path.isNameable (b.settings.itemDraft n) &&
    !b.disk.isFolder (Path.components (b.settings.itemDraft n)) &&
    b.disk.canPlace (Path.components b.settings.itemFolder) n.fileName

/-- A value can be written exactly if the item can be kept. -/
theorem exists_persist_iff {v : n.Value} : (∃ d, b.persist n v = .ok d) ↔ b.canKeep n = true := by
  have hl : Path.components (b.settings.itemFile n)
      = Path.components b.settings.itemFolder ++ [n.fileName] := b.settings.itemLocation_eq n
  have hplace := Disk.exists_place_iff (d := b.disk)
    (l := Path.components b.settings.itemFolder) (n := n.fileName) (e := .text (n.fileText v))
  unfold canKeep persist
  simp only [hl]
  cases hn : Path.isNameable (b.settings.itemDraft n) with
  | false => simp
  | true =>
    cases hf : b.disk.isFolder (Path.components (b.settings.itemDraft n)) with
    | true => simp
    | false =>
      simp only [Bool.not_true, Bool.false_or, Bool.false_eq_true, if_false, Bool.not_false,
        Bool.true_and, ← hplace]
      cases b.disk.place _ _ with
      | none => simp
      | some d => simp

/-- The only fault of writing is that the item cannot be kept. -/
theorem persist_error {v : n.Value} {f : Fault} (h : b.persist n v = .error f) :
    f = .file ∧ b.canKeep n = false := by
  constructor
  · simp only [persist] at h
    split at h
    · cases h
      rfl
    · split at h
      · cases h
      · cases h
        rfl
  · rw [Bool.eq_false_iff, ne_eq, ← exists_persist_iff (v := v), h]
    rintro ⟨d, hd⟩
    cases hd

/-- The name of a draft is a plain one. -/
theorem isPlain_draftName (n : Item) : Path.IsPlain ("." ++ n.fileName ++ ".tmp") := by
  constructor
  · cases n <;> decide
  · cases n <;> decide

/-- No draft is the file of an item. -/
theorem draftName_ne (n m : Item) : "." ++ m.fileName ++ ".tmp" ≠ n.fileName := by
  have key : ∀ n ∈ Item.all, ∀ m ∈ Item.all, "." ++ m.fileName ++ ".tmp" ≠ n.fileName := by decide
  exact key n n.mem_all m m.mem_all

/-- What lies around the builds is the same, and the disk is a tree. -/
structure SameSurroundings (b c : Board) : Prop extends SameWorld b c where
  /-- The builds that are under way. -/
  building : c.building = b.building
  /-- The items of which values can be kept. -/
  keeps : ∀ n, c.canKeep n = b.canKeep n
  /-- The disk is a tree. -/
  tree : c.disk.IsTree

theorem SameSurroundings.refl (ht : b.disk.IsTree) : b.SameSurroundings b :=
  ⟨SameWorld.refl b, rfl, fun _ => rfl, ht⟩

/-- What three boards have in common, pairwise. -/
theorem SameSurroundings.trans {d : Board} (h : b.SameSurroundings c) (h' : c.SameSurroundings d) :
    b.SameSurroundings d where
  toSameWorld := h.toSameWorld.trans h'.toSameWorld
  building := h'.building.trans h.building
  keeps n := (h'.keeps n).trans (h.keeps n)
  tree := h'.tree

/-- What two boards have in common, seen from the other one. -/
theorem SameSurroundings.symm (h : b.SameSurroundings c) (ht : b.disk.IsTree) :
    c.SameSurroundings b where
  toSameWorld := h.toSameWorld.symm
  building := h.building.symm
  keeps n := (h.keeps n).symm
  tree := ht

/-- Writing the file of an item changes nothing in the surroundings. -/
theorem sameSurroundings_persist (ht : b.disk.IsTree) {v : n.Value}
    (h : b.persist n v = .ok c) : b.SameSurroundings c := by
  have hkept : b.canKeep n = true := exists_persist_iff.1 ⟨c, h⟩
  simp only [persist] at h
  split at h
  · cases h
  · split at h
    · next d hp =>
      cases h
      have hl : Path.components (b.settings.itemFile n)
          = Path.components b.settings.itemFolder ++ [n.fileName] := b.settings.itemLocation_eq n
      rw [hl] at hp
      have hplain : ∀ k ∈ Path.components b.settings.itemFolder ++ [n.fileName],
          Path.IsPlain k := by
        intro k hk
        rcases List.mem_append.1 hk with hk | hk
        · exact Path.isPlain_of_mem_components hk
        · rw [List.mem_singleton.1 hk]
          exact n.isPlain_fileName
      have hext : Path.hasExtension replicaExtension n.fileName = false := by cases n <;> decide
      have hdisk := ht.undisturbed_place hplain hext hp
      have hplaced := Disk.placed_of_place hp
      refine ⟨⟨rfl, rfl, rfl, hdisk.answers⟩, rfl, fun m => ?_, hdisk.tree⟩
      have hcan : b.disk.canPlace (Path.components b.settings.itemFolder) n.fileName = true :=
        (Bool.and_eq_true_iff.1 hkept).2
      have hdraft : d.isFolder (Path.components (b.settings.itemDraft m))
          = b.disk.isFolder (Path.components (b.settings.itemDraft m)) := by
        rw [Settings.itemDraft, Path.components_join _ (isPlain_draftName m), Disk.isFolder,
          Disk.isFolder, hplaced.find?_beside (draftName_ne n m)]
      unfold canKeep
      simp only [hdraft, hplaced.canPlace (by simp) hcan]
    · cases h

/-! ## Builds -/

/-- The snapshot of an item after a build that reads its inputs off `source`. -/
def snapshotAfter (source b : Board) (n : Item) : Option n.Value :=
  match b.starts n, (source.produce n).outcome.1 with
  | .ok true, .ok v => if b.canKeep n then some v else b.slots n
  | _, _ => b.slots n

/-- The token of an item that is taken and given back is as before. -/
theorem building_release_begin (h : b.building n = false) :
    ((b.begin n).release n).building = b.building := by
  funext m
  by_cases hm : n = m
  · subst hm
    simp [h]
  · simp [begin, release, setBuilding, setStamps, hm]

/-- The file is written in the same way whether or not the build has begun. -/
theorem persist_begin (b : Board) (n : Item) (v : n.Value) :
    (b.begin n).persist n v = (b.persist n v).map fun d => d.begin n := by
  have hs : (b.begin n).settings = b.settings := rfl
  have hd : (b.begin n).disk = b.disk := rfl
  simp only [persist, hs, hd]
  split
  · rfl
  · cases b.disk.place (Path.components (b.settings.itemFile n)) (.text (n.fileText v)) with
    | none => rfl
    | some d => rfl

/-- A build that fails changes the times only. -/
theorem release_begin (h : b.building n = false) :
    (b.begin n).release n = { b with stamps := (b.begin n).stamps } := by
  have hbuilding := building_release_begin h
  show { b with
    stamps := (b.begin n).stamps
    building := ((b.begin n).release n).building } = _
  rw [hbuilding]

/-- A build notes its times, and either changes nothing else, or writes what its producer gives and
publishes it. -/
theorem buildReading_cases (source b : Board) (n : Item) :
    (∃ s, (source.buildReading b n).1 = { b with stamps := s } ∧
      source.snapshotAfter b n = b.slots n) ∨
    ∃ v d s, (source.produce n).outcome.1 = .ok v ∧ b.persist n v = .ok d ∧
      (source.buildReading b n).1 = { d.publish n v with stamps := s } ∧
        source.snapshotAfter b n = some v := by
  unfold buildReading snapshotAfter
  cases hs : b.starts n with
  | error e => exact .inl ⟨b.stamps, rfl, rfl⟩
  | ok starts =>
    cases starts with
    | false => exact .inl ⟨b.stamps, rfl, rfl⟩
    | true =>
      have hfree := building_of_starts hs
      simp only [runBuild, hs]
      cases hr : (source.produce n).outcome.1 with
      | error e => exact .inl ⟨(b.begin n).stamps, release_begin hfree, rfl⟩
      | ok v =>
        have hp := persist_begin b n v
        simp only
        cases hk : b.persist n v with
        | error f =>
          rw [hk] at hp
          rw [complete_of_error hp, (persist_error hk).2]
          exact .inl ⟨(b.begin n).stamps, release_begin hfree, rfl⟩
        | ok d =>
          rw [hk] at hp
          rw [complete_of_ok hp, exists_persist_iff.1 ⟨d, hk⟩]
          obtain ⟨⟨disk, rfl⟩, -⟩ := persist_ok hk
          let c : Board := { b with disk := disk }
          have hbuilding : ((c.begin n).release n).building = c.building :=
            building_release_begin hfree
          refine .inr ⟨v, c, ((c.begin n).stamp n).stamps, rfl, hk, ?_, rfl⟩
          show { c.publish n v with
            stamps := ((c.begin n).stamp n).stamps
            building := ((c.begin n).release n).building } = _
          rw [hbuilding]
          rfl

/-- A build leaves the snapshot of its item as it should. -/
theorem slots_buildReading_self (source b : Board) (n : Item) :
    (source.buildReading b n).1.slots n = source.snapshotAfter b n := by
  rcases buildReading_cases source b n with ⟨s, he, hs⟩ | ⟨v, d, s, -, -, he, hs⟩
  · rw [he, hs]
  · rw [he, hs]
    exact slots_publish_self d n v

/-- A build leaves the snapshots of other items alone. -/
theorem slots_buildReading_of_ne (source b : Board) (h : n ≠ m) :
    (source.buildReading b n).1.slots m = b.slots m := by
  rcases buildReading_cases source b n with ⟨s, he, -⟩ | ⟨v, d, s, -, hp, he, -⟩
  · rw [he]
  · obtain ⟨⟨disk, rfl⟩, -⟩ := persist_ok hp
    rw [he]
    exact slots_publish_of_ne _ h v

/-- A build leaves the surroundings as they are. -/
theorem sameSurroundings_buildReading (source : Board) (ht : b.disk.IsTree) (n : Item) :
    b.SameSurroundings (source.buildReading b n).1 := by
  rcases buildReading_cases source b n with ⟨s, he, -⟩ | ⟨v, d, s, -, hp, he, -⟩
  · rw [he]
    exact ⟨⟨rfl, rfl, rfl, fun _ _ _ => rfl⟩, rfl, fun _ => rfl, ht⟩
  · have h := sameSurroundings_persist ht hp
    rw [he]
    exact ⟨⟨h.settings, h.network, h.now, h.answers⟩, h.building, h.keeps, h.tree⟩

/-- Boards with the same surroundings start the same builds. -/
theorem starts_congr (h : b.SameSurroundings c) : c.starts n = b.starts n := by
  unfold starts time
  rw [h.building, h.now]

/-- In the same surroundings, a build that reads the same leaves the same snapshot. -/
theorem snapshotAfter_congr {source source' : Board} (h : b.SameSurroundings c)
    (hs : c.slots n = b.slots n) (hp : source'.produce n = source.produce n) :
    source'.snapshotAfter c n = source.snapshotAfter b n := by
  unfold snapshotAfter
  rw [starts_congr h, hp, hs, h.keeps]

/-- A build whose producer has a value succeeds where the value can be kept. -/
theorem complete_outcome (b : Board) (n : Item) (v : n.Value) :
    (b.complete n v).2 = if b.canKeep n then .ok .built else Run.fail .file := by
  cases hk : b.persist n v with
  | ok d =>
    rw [complete_of_ok hk, exists_persist_iff.1 ⟨d, hk⟩]
    rfl
  | error f =>
    obtain ⟨rfl, hno⟩ := persist_error hk
    rw [complete_of_error hk, hno]
    rfl

/-- A build that starts, and whose producer has a value that can be kept, publishes it. -/
theorem buildReading_built {source : Board} {v : n.Value} (hs : b.starts n = .ok true)
    (hp : (source.produce n).outcome.1 = .ok v) (hk : b.canKeep n = true) :
    (source.buildReading b n).2.1 = .ok .built ∧ (source.buildReading b n).1.slots n = some v := by
  constructor
  · unfold buildReading
    simp only [runBuild, hs, hp]
    exact (complete_outcome (b.begin n) n v).trans (if_pos hk)
  · rw [slots_buildReading_self, snapshotAfter]
    simp only [hs, hp, hk, if_pos]

/-- In the same surroundings, a build that reads the same ends in the same way. -/
theorem outcome_buildReading_congr {source source' : Board} (h : b.SameSurroundings c)
    (hp : source'.produce n = source.produce n) :
    (source'.buildReading c n).2.1 = (source.buildReading b n).2.1 := by
  unfold buildReading
  rw [starts_congr h, hp]
  cases hs : b.starts n with
  | error e => rfl
  | ok starts =>
    cases starts with
    | false => rfl
    | true =>
      simp only [runBuild, starts_congr h, hs]
      cases (source.produce n).outcome.1 with
      | error e => rfl
      | ok v =>
        show (complete (c.begin n) n v).2 = (complete (b.begin n) n v).2
        rw [complete_outcome, complete_outcome]
        exact congrArg (fun keeps => if keeps = true then _ else _) (h.keeps n)

end Board

end SwapMarket
