import SwapMarket.Proofs.Schedule.Depth

/-!
# Tables that are arranged

Levels arrange a table (**`IsArranged`**) if every item of the table is once on the level of its
depth, and no level is empty. `levels` reports a dependency that is not in the table, if there is
one (`levels_unregistered_iff`), and else a cycle, if there is one (`levels_cycle_iff`). In every
other case it arranges the table (`exists_levels`, `isArranged_of_levels`).

Of arranged levels `dueLevels` keeps each item that is due (`flatten_dueLevels`), after everything
else that is due and that it depends on (`IsArranged.mem_of_dueLevels`).
-/

namespace SwapMarket.Schedule

variable {α : Type}

/-- All dependencies of the items of a table are in the table. -/
def IsSelfContained (rows : List (Row α)) : Prop := ∀ a d, DependsOn rows a d → d ∈ items rows

/-- Levels with every item of a table on the level of its depth. -/
structure IsArranged (rows : List (Row α)) (ls : List (List α)) : Prop where
  /-- Every item is on one level, once. -/
  perm : ls.flatten.Perm (items rows)
  /-- The level of an item is its depth. -/
  depth : ∀ n l, ls[n]? = some l → ∀ a ∈ l, HasDepth rows a n
  /-- No level is empty. -/
  ne_nil : ∀ l ∈ ls, l ≠ []

section Depths

variable {rows : List (Row α)} {a : α} {n m : Nat}

/-- An item has one depth. -/
theorem HasDepth.unique (h : HasDepth rows a n) (k : HasDepth rows a m) : n = m :=
  IsGreatest.unique h k

/-- Below an item of a table that misses nothing there is an item of each smaller depth. -/
theorem HasDepth.exists_mem_below (hc : IsSelfContained rows) (h : HasDepth rows a n)
    (ha : a ∈ items rows) (hm : m ≤ n) : ∃ d ∈ items rows, HasDepth rows d m := by
  rcases Nat.lt_or_eq_of_le hm with hlt | rfl
  · obtain ⟨d, hd, b, hbd⟩ := h.exists_below hlt
    exact ⟨d, hc b d hbd, hd⟩
  · exact ⟨a, ha, h⟩

/-- The number of levels is next to the greatest depth. -/
theorem levelCount_spec (ds : Depths α) :
    (∀ e ∈ ds, e.2 < levelCount ds) ∧ (levelCount ds = 0 ∨ ∃ e ∈ ds, levelCount ds = e.2 + 1) := by
  have hcount : levelCount ds = (ds.map Prod.snd).foldl (fun m n => max m (n + 1)) 0 := by
    rw [List.foldl_map, levelCount]
  obtain ⟨-, hlt, heq⟩ := foldl_next (ds.map Prod.snd) 0
  rw [← hcount] at hlt heq
  refine ⟨fun e he => hlt e.2 (List.mem_map_of_mem he), heq.imp_right ?_⟩
  rintro ⟨m, hm, heq⟩
  obtain ⟨e, he, rfl⟩ := List.mem_map.1 hm
  exact ⟨e, he, heq⟩

end Depths

section Arranging

variable [DecidableEq α] {rows : List (Row α)} {ds : Depths α} {a d : α} {n : Nat}

/-- A dependency that is reported is not in the table. -/
theorem firstUnregistered?_eq_some (h : firstUnregistered? rows = some (a, d)) :
    DependsOn rows a d ∧ d ∉ items rows := by
  obtain ⟨r, hr, hf⟩ := List.exists_of_findSome?_eq_some h
  obtain ⟨d', hd', hpair⟩ := Option.map_eq_some_iff.1 hf
  cases hpair
  have hnot := List.find?_some hd'
  refine ⟨⟨r, hr, rfl, List.mem_of_find?_eq_some hd'⟩, ?_⟩
  simpa [items] using hnot

/-- Nothing is reported exactly if all dependencies are in the table. -/
theorem firstUnregistered?_eq_none_iff : firstUnregistered? rows = none ↔ IsSelfContained rows := by
  constructor
  · rintro h a d ⟨r, hr, rfl, hd⟩
    have hf := List.find?_eq_none.1
      (Option.map_eq_none_iff.1 (List.findSome?_eq_none_iff.1 h r hr)) d hd
    simpa [items] using hf
  · intro hc
    cases h : firstUnregistered? rows with
    | none => rfl
    | some p =>
      obtain ⟨hdepends, hnot⟩ := firstUnregistered?_eq_some (a := p.1) (d := p.2) h
      exact absurd (hc p.1 p.2 hdepends) hnot

/-- On a level are the items of its depth. -/
theorem mem_atDepth : a ∈ atDepth rows ds n ↔ a ∈ items rows ∧ depthOf? ds a = some n := by
  simp [atDepth, items]

/-- The items of all depths make a list without repetition. -/
theorem nodup_flatten_atDepth (hn : (items rows).Nodup) (k : Nat) :
    ((List.range k).map (atDepth rows ds)).flatten.Nodup := by
  refine List.nodup_flatten.2 ⟨?_, ?_⟩
  · rintro l hl
    obtain ⟨n, -, rfl⟩ := List.mem_map.1 hl
    exact hn.filter _
  · refine List.pairwise_map.2 (List.nodup_range.imp fun hne a ha hb => hne ?_)
    have hd := (mem_atDepth.1 ha).2
    rw [(mem_atDepth.1 hb).2] at hd
    exact (Option.some.inj hd).symm

/-- If all items of a self-contained table are found, their depths arrange it. -/
theorem AreDepths.isArranged (h : AreDepths rows ds) (hn : (items rows).Nodup)
    (hc : IsSelfContained rows) (hl : rows.length ≤ ds.length) :
    IsArranged rows ((List.range (levelCount ds)).map (atDepth rows ds)) := by
  obtain ⟨hlt, heq⟩ := levelCount_spec ds
  have hfound : ∀ a ∈ items rows, ∃ n, depthOf? ds a = some n ∧ n < levelCount ds := by
    intro a ha
    obtain ⟨e, he, rfl⟩ := List.mem_map.1 ((h.perm hl).mem_iff.2 ha)
    exact ⟨e.2, (depthOf?_eq_some_iff h.nodup).2 he, hlt e he⟩
  constructor
  case perm =>
    refine (List.perm_ext_iff_of_nodup (nodup_flatten_atDepth hn _) hn).2 fun a => ?_
    simp only [List.mem_flatten, List.mem_map, List.mem_range]
    constructor
    · rintro ⟨_, ⟨n, -, rfl⟩, ha⟩
      exact (mem_atDepth.1 ha).1
    · intro ha
      obtain ⟨n, hd, hcount⟩ := hfound a ha
      exact ⟨_, ⟨n, hcount, rfl⟩, mem_atDepth.2 ⟨ha, hd⟩⟩
  case depth =>
    intro n l hnl a ha
    rw [List.getElem?_map, Option.map_eq_some_iff] at hnl
    obtain ⟨k, hk, rfl⟩ := hnl
    obtain ⟨hlt, rfl⟩ := List.getElem?_eq_some_iff.1 hk
    rw [List.getElem_range] at ha
    exact h.hasDepth (mem_atDepth.1 ha).2
  case ne_nil =>
    intro l hl
    obtain ⟨n, hnk, rfl⟩ := List.mem_map.1 hl
    rw [List.mem_range] at hnk
    obtain ⟨e, he, hcount⟩ := heq.resolve_left (by omega)
    obtain ⟨d, hd, hdepth⟩ := (h.depth e he).exists_mem_below hc
      (h.subset (List.mem_map_of_mem he)) (by omega : n ≤ e.2)
    obtain ⟨m, hm, -⟩ := hfound d hd
    obtain rfl := (h.hasDepth hm).unique hdepth
    exact List.ne_nil_of_mem (mem_atDepth.2 ⟨hd, hm⟩)

/-! ## Faults and levels -/

/-- A table is reported to miss a dependency if and only if it does. -/
theorem levels_unregistered_iff :
    (∃ a d, levels rows = .error (.unregistered a d)) ↔ ¬IsSelfContained rows := by
  rw [← firstUnregistered?_eq_none_iff]
  unfold levels
  cases h : firstUnregistered? rows with
  | none =>
    simp only
    split <;> simp
  | some p => simp

/-- What a self-contained table gives: a cycle, if not everything is found. -/
theorem levels_of_isSelfContained (hc : IsSelfContained rows) :
    levels rows =
      let ds := settle rows rows.length []
      if ds.length < rows.length then .error .cycle
      else .ok ((List.range (levelCount ds)).map (atDepth rows ds)) := by
  unfold levels
  rw [firstUnregistered?_eq_none_iff.2 hc]

/-- A self-contained table is reported to have a cycle if and only if an item depends on itself. -/
theorem levels_cycle_iff (hn : (items rows).Nodup) (hc : IsSelfContained rows) :
    levels rows = .error .cycle ↔ ∃ a, Relation.TransGen (DependsOn rows) a a := by
  have hds := (AreDepths.nil rows).settle hn rows.length
  have hpass := pass_settle hn
  rw [levels_of_isSelfContained hc]
  generalize settle rows rows.length [] = ds at hds hpass
  simp only
  constructor
  · intro h
    split at h
    · next hlt =>
      -- Something is not found.
      have hnot : ¬items rows ⊆ ds.map Prod.fst := fun hs =>
        absurd (List.subperm_of_subset hn hs).length_le (by simpa [items] using hlt)
      simp only [List.subset_def, not_forall] at hnot
      obtain ⟨a, ha, hnot⟩ := hnot
      exact exists_cycle hc hpass ha (depthOf?_eq_none_iff.2 hnot)
    · cases h
  · rintro ⟨a, ha⟩
    split
    · rfl
    · next hlt =>
      -- An item that depends on itself is in the table, and would have a depth.
      obtain ⟨d, -, hda⟩ := Relation.TransGen.tail'_iff.1 ha
      obtain ⟨e, he, rfl⟩ :=
        List.mem_map.1 ((hds.perm (Nat.not_lt.1 hlt)).mem_iff.2 (hc d a hda))
      exact absurd (hds.depth e he) (not_hasDepth_of_cycle ha e.2)

/-- A table that gives levels misses no dependency. -/
theorem isSelfContained_of_levels {ls : List (List α)} (h : levels rows = .ok ls) :
    IsSelfContained rows := by
  by_contra hc
  obtain ⟨a, d, he⟩ := levels_unregistered_iff.2 hc
  rw [he] at h
  cases h

/-- Levels that a table gives arrange it. -/
theorem isArranged_of_levels {ls : List (List α)} (hn : (items rows).Nodup)
    (h : levels rows = .ok ls) : IsArranged rows ls := by
  have hc := isSelfContained_of_levels h
  rw [levels_of_isSelfContained hc] at h
  simp only at h
  split at h
  · cases h
  · next hlt =>
    cases h
    exact ((AreDepths.nil rows).settle hn rows.length).isArranged hn hc (Nat.not_lt.1 hlt)

/-- A self-contained table without a cycle gives levels. -/
theorem exists_levels (hn : (items rows).Nodup) (hc : IsSelfContained rows)
    (hcycle : ¬∃ a, Relation.TransGen (DependsOn rows) a a) : ∃ ls, levels rows = .ok ls := by
  cases h : levels rows with
  | ok ls => exact ⟨ls, rfl⟩
  | error f =>
    cases f with
    | unregistered a d => exact absurd hc (levels_unregistered_iff.1 ⟨a, d, h⟩)
    | cycle => exact absurd ((levels_cycle_iff hn hc).1 h) hcycle

end Arranging

/-! ## What is due -/

section Due

variable [DecidableEq α] {rows : List (Row α)} {ls pre post : List (List α)} {due level : List α}
  {a d : α}

/-- What is due keeps its order. -/
theorem flatten_dueLevels (ls : List (List α)) (due : List α) :
    (dueLevels ls due).flatten = ls.flatten.filter fun a => due.contains a := by
  unfold dueLevels
  induction ls with
  | nil => rfl
  | cons l ls ih =>
    rw [List.map_cons, List.flatten_cons, List.filter_append, ← ih]
    by_cases h : l.filter (fun a => due.contains a) = []
    · rw [List.filter_cons_of_neg (by simpa using h), h, List.nil_append]
    · rw [List.filter_cons_of_pos (by simpa using h), List.flatten_cons]

/-- Each level of what is due is one of the levels, and those before it are what is due of the
levels before. -/
theorem exists_of_dueLevels_eq (h : dueLevels ls due = pre ++ level :: post) :
    ∃ before l after, ls = before ++ l :: after ∧ dueLevels before due = pre ∧
      l.filter (fun a => due.contains a) = level := by
  obtain ⟨us, vs, hls, hpre, hlevel⟩ := List.filter_eq_append_iff.1 h
  obtain ⟨skipped, after, rfl, hskipped, -, -⟩ := List.filter_eq_cons_iff.1 hlevel
  obtain ⟨before, rest, rfl, rfl, hrest⟩ := List.map_eq_append_iff.1 hls
  obtain ⟨between, last, rfl, rfl, hlast⟩ := List.map_eq_append_iff.1 hrest
  obtain ⟨l, after, rfl, hl, -⟩ := List.map_eq_cons_iff.1 hlast
  refine ⟨before ++ between, l, after, by rw [List.append_assoc], ?_, hl⟩
  unfold dueLevels
  rw [List.map_append, List.filter_append, hpre, List.filter_eq_nil_iff.2 hskipped,
    List.append_nil]

/-- What is due comes after all else that is due and that it depends on. -/
theorem IsArranged.mem_of_dueLevels (h : IsArranged rows ls) (hc : IsSelfContained rows)
    (hls : dueLevels ls due = pre ++ level :: post) (ha : a ∈ level) (had : DependsOn rows a d)
    (hd : d ∈ due) : d ∈ pre.flatten := by
  obtain ⟨before, l, after, rfl, rfl, rfl⟩ := exists_of_dueLevels_eq hls
  have hda : HasDepth rows a before.length :=
    h.depth before.length l (by simp) a (List.mem_filter.1 ha).1
  obtain ⟨l', hl', hdl'⟩ := List.mem_flatten.1 (h.perm.mem_iff.2 (hc a d had))
  obtain ⟨n, hn⟩ := List.mem_iff_getElem?.1 hl'
  have hlt : n < before.length := hda.lt had (h.depth n l' hn d hdl')
  rw [List.getElem?_append_left hlt] at hn
  rw [flatten_dueLevels, List.mem_filter]
  exact ⟨List.mem_flatten.2 ⟨l', List.mem_of_getElem? hn, hdl'⟩, by simpa using hd⟩

end Due

end SwapMarket.Schedule
