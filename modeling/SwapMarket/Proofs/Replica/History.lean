import SwapMarket.Proofs.Swap.Merge
import SwapMarket.Replica.Store

/-!
# The history in the replicas

The **history** of a replica are its successful rows with a time of completion, as swaps and in row
order. Merging the histories of all replicas gives every swap once, at its latest copy.

A query looks at some of the rows only, and it fails if one of those it finds cannot be read
(**`ReplicaQuery.Readable`**). What it finds after a time, sorted, is what the history has after
that time (`filterMap_finishedAfterRows`).

Main statement: `swapsBetween_eq`.
-/

namespace SwapMarket

namespace ReplicaRow

/-- Whether a row is that of a successful swap with a time of completion. -/
def isCompleted (r : ReplicaRow) : Bool := r.succeeded && r.finishedAt != .null

/-- The swap of a row, if the row can be read. -/
def toSwap? (r : ReplicaRow) : Option Swap := r.toSwapRow?.map Swap.ofRow

/-- The successful swaps of rows that have a time of completion, of those that can be read. -/
def history (rs : List ReplicaRow) : List Swap := (rs.filter isCompleted).filterMap toSwap?

/-- The time of a row that can be read is that of its swap. -/
theorem finishedAt_of_toSwap? {r : ReplicaRow} {s : Swap} (h : r.toSwap? = some s)
    (hn : r.finishedAt ≠ .null) : r.finishedAt = .integer s.finishedAt := by
  obtain ⟨w, hw, rfl⟩ := Option.map_eq_some_iff.1 h
  simp only [toSwapRow?, Option.bind_eq_bind, Option.bind_eq_some_iff, Option.pure_def,
    Option.some.injEq] at hw
  obtain ⟨-, -, -, -, -, -, -, -, f, hf, -, -, rfl⟩ := hw
  cases hr : r.finishedAt with
  | null => exact absurd hr hn
  | integer t =>
    rw [hr] at hf
    cases hf
    rfl
  | real x =>
    rw [hr] at hf
    cases hf
  | text t =>
    rw [hr] at hf
    cases hf

/-- Of two whole numbers one is above the other if it is greater. -/
theorem above_integer (a b : Int) :
    (ColumnValue.integer a).above (.integer b) = decide (b < a) := by
  simp only [ColumnValue.above, ColumnValue.order?, ColumnValue.ratio?]
  rw [Bool.eq_iff_iff]
  simp [compare_gt_iff_gt]

/-- A value above an integer is above every lesser one. -/
theorem above_integer_of_le {v : ColumnValue} {a b : Int} (hab : a ≤ b)
    (h : v.above (.integer b) = true) : v.above (.integer a) = true := by
  cases v with
  | null => cases h
  | text t => rfl
  | integer n =>
    rw [above_integer, decide_eq_true_eq] at h ⊢
    omega
  | real x =>
    simp only [ColumnValue.above, ColumnValue.order?, ColumnValue.ratio?, beq_iff_eq,
      Option.some.injEq, compare_gt_iff_gt] at h ⊢
    have hd : (0 : Int) ≤ x.ratio.2 := Int.natCast_nonneg _
    exact Int.lt_of_le_of_lt (Int.mul_le_mul_of_nonneg_right hab hd) h

end ReplicaRow

/-! ## What a query finds -/

namespace ReplicaQuery

/-- Whether all rows that a query finds can be read. -/
def Readable (q : ReplicaQuery) (rs : List ReplicaRow) : Prop :=
  ∀ r ∈ q.select rs, ∃ s, r.toSwap? = some s

instance (q : ReplicaQuery) (rs : List ReplicaRow) : Decidable (q.Readable rs) :=
  decidable_of_iff (∀ r ∈ q.select rs, r.toSwap?.isSome = true) <| by
    simp only [Readable, Option.isSome_iff_exists]

/-- A query finds nothing but rows of the replica. -/
theorem mem_of_mem_select {q : ReplicaQuery} {rs : List ReplicaRow} {r : ReplicaRow}
    (h : r ∈ q.select rs) : r ∈ rs := by
  cases q with
  | finishedAfter time => exact (List.mem_filter.1 (List.mem_mergeSort.1 h)).1
  | lastFinished => exact (List.mem_filter.1 (List.mem_filter.1 h).1).1

/-- What a query finds among rows that can all be read can be read. -/
theorem Readable.of_forall {rs : List ReplicaRow} (q : ReplicaQuery)
    (h : ∀ r ∈ rs, ∃ s, r.toSwap? = some s) : q.Readable rs :=
  fun r hr => h r (mem_of_mem_select hr)

/-- If all rows can be read, all are. -/
theorem run_of_readable {q : ReplicaQuery} {rs : List ReplicaRow} (h : q.Readable rs) :
    q.run rs = some ((q.select rs).filterMap ReplicaRow.toSwap?) := by
  have key : ∀ l : List ReplicaRow, (∀ r ∈ l, ∃ s, r.toSwap? = some s) →
      ((l.mapM ReplicaRow.toSwapRow?).map fun rows => rows.map Swap.ofRow)
        = some (l.filterMap ReplicaRow.toSwap?) := by
    intro l
    induction l with
    | nil => exact fun _ => rfl
    | cons r l ih =>
      intro hl
      obtain ⟨hr, hl⟩ := List.forall_mem_cons.1 hl
      obtain ⟨s, hs⟩ := hr
      obtain ⟨w, hw, rfl⟩ := Option.map_eq_some_iff.1 hs
      obtain ⟨ws, hws, hws'⟩ := Option.map_eq_some_iff.1 (ih hl)
      rw [List.mapM_cons, hw, hws, List.filterMap_cons, hs, ← hws']
      rfl
  exact key _ h

/-- If one row cannot be read, none is. -/
theorem run_of_not_readable {q : ReplicaQuery} {rs : List ReplicaRow} (h : ¬q.Readable rs) :
    q.run rs = none := by
  have key : ∀ l : List ReplicaRow, (∃ r ∈ l, r.toSwapRow? = none) →
      l.mapM ReplicaRow.toSwapRow? = none := by
    intro l
    induction l with
    | nil => simp
    | cons r l ih =>
      rintro ⟨x, hx, hn⟩
      rw [List.mapM_cons]
      rcases List.mem_cons.1 hx with rfl | hx
      · rw [hn]
        rfl
      · rw [ih ⟨x, hx, hn⟩]
        cases r.toSwapRow? <;> rfl
  have hr : ∃ r ∈ q.select rs, r.toSwapRow? = none := by
    by_contra hno
    refine h fun r hr => ?_
    cases hw : r.toSwapRow? with
    | none => exact absurd ⟨r, hr, hw⟩ hno
    | some w => exact ⟨Swap.ofRow w, by rw [ReplicaRow.toSwap?, hw]; rfl⟩
  rw [run, key _ hr]
  rfl

/-- If all that is found after a time can be read, so can all that is found after a later one. -/
theorem Readable.of_le {since later : Int} (hle : since ≤ later) {rs : List ReplicaRow}
    (h : (finishedAfter since).Readable rs) : (finishedAfter later).Readable rs := by
  intro r hr
  obtain ⟨hmem, hfound⟩ := List.mem_filter.1 (List.mem_mergeSort.1 hr)
  rw [Bool.and_eq_true] at hfound
  refine h r (List.mem_mergeSort.2 (List.mem_filter.2 ⟨hmem, ?_⟩))
  rw [Bool.and_eq_true]
  exact ⟨hfound.1, ReplicaRow.above_integer_of_le hle hfound.2⟩

/-- What a query finds after a time is what the history has after it, in order of completion. -/
theorem filterMap_finishedAfterRows {since : Int} {rs : List ReplicaRow}
    (h : (ReplicaQuery.finishedAfter since).Readable rs) :
    ((ReplicaQuery.finishedAfter since).select rs).filterMap ReplicaRow.toSwap?
      = ((ReplicaRow.history rs).filter (since < ·.finishedAt)).mergeSort Swap.notLater := by
  -- The rows found have a time, which is that of their swaps.
  have hnull : ∀ r : ReplicaRow, r.finishedAt.above (.integer since) = true →
      r.finishedAt ≠ .null := by
    intro r hr hn
    rw [hn] at hr
    cases hr
  have hfound : ∀ r ∈ rs.filter (fun r => r.succeeded && r.finishedAt.above (.integer since)),
      r.finishedAt ≠ .null ∧ ∃ s, r.toSwap? = some s := by
    intro r hr
    refine ⟨?_, h r (List.mem_mergeSort.2 hr)⟩
    have := (List.mem_filter.1 hr).2
    rw [Bool.and_eq_true] at this
    exact hnull r this.2
  have hafter : (rs.filter fun r => r.succeeded && r.finishedAt.above (.integer since)).filterMap
      ReplicaRow.toSwap? = (ReplicaRow.history rs).filter (since < ·.finishedAt) := by
    rw [ReplicaRow.history, List.filter_filterMap, List.filterMap_filter, List.filterMap_filter]
    refine List.filterMap_congr fun r _ => ?_
    by_cases hn : r.finishedAt = .null
    · simp [ReplicaRow.isCompleted, hn, ColumnValue.above, ColumnValue.order?]
    · cases hs : r.toSwap? with
      | none => simp
      | some s =>
        have ht := ReplicaRow.finishedAt_of_toSwap? hs hn
        simp only [ReplicaRow.isCompleted, ht, ReplicaRow.above_integer, Option.filter_some]
        cases r.succeeded <;> simp
  show (List.mergeSort _ _).filterMap _ = _
  rw [filterMap_mergeSort (r := Swap.notLater) (fun r hr => (hfound r hr).2), hafter]
  intro a ha b hb x y hx hy
  rw [ReplicaRow.notAfter, ReplicaRow.finishedAt_of_toSwap? hx (hfound a ha).1,
    ReplicaRow.finishedAt_of_toSwap? hy (hfound b hb).1, ReplicaRow.above_integer,
    Swap.notLater]
  simp only [← decide_not, Int.not_lt]

end ReplicaQuery

/-! ## The replicas of a disk -/

namespace Disk

/-- The rows of a replica; none if there is no replica. -/
def rows (d : Disk) (path : String) : List ReplicaRow :=
  match d.find? (Path.components path) with
  | some (.replica rs) => rs
  | _ => []

/-- The history of replicas, one after the other. -/
def history (d : Disk) (paths : List String) : List Swap :=
  paths.flatMap fun p => ReplicaRow.history (d.rows p)

/-- Whether a file is a replica in which all that a query finds can be read. -/
def Answers (d : Disk) (q : ReplicaQuery) (path : String) : Prop :=
  d.find? (Path.components path) = some (.replica (d.rows path)) ∧ q.Readable (d.rows path)

instance (d : Disk) (q : ReplicaQuery) (path : String) : Decidable (d.Answers q path) :=
  inferInstanceAs (Decidable (_ ∧ _))

end Disk

/-- A replica is answered with the swaps that the query finds, if all of them can be read. -/
theorem queryFile_eq (d : Disk) (q : ReplicaQuery) (path : String) :
    queryFile d q path =
      if d.Answers q path then .ok ((q.select (d.rows path)).filterMap ReplicaRow.toSwap?)
      else .error .replica := by
  unfold queryFile
  split
  · next rs hf =>
    have hrs : d.rows path = rs := by rw [Disk.rows, hf]
    by_cases hq : q.Readable rs
    · rw [if_pos ⟨by rw [hrs, hf], by rwa [hrs]⟩, q.run_of_readable hq, hrs]
    · rw [if_neg fun h => hq (hrs ▸ h.2), q.run_of_not_readable hq]
  · next hf => rw [if_neg fun h => hf _ h.1]

/-- Replicas are answered one after the other, and not at all if one of them is not. -/
theorem queryFiles_eq (d : Disk) (q : ReplicaQuery) (paths : List String) :
    queryFiles d q paths =
      if ∀ p ∈ paths, d.Answers q p then
        .ok (paths.flatMap fun p => (q.select (d.rows p)).filterMap ReplicaRow.toSwap?)
      else .error .replica := by
  induction paths with
  | nil => rfl
  | cons p ps ih =>
    rw [queryFiles, queryFile_eq, ih]
    by_cases hp : d.Answers q p
    · by_cases hps : ∀ x ∈ ps, d.Answers q x
      · simp only [if_pos hp, if_pos hps, if_pos (List.forall_mem_cons.2 ⟨hp, hps⟩),
          List.flatMap_cons]
        rfl
      · simp only [if_pos hp, if_neg hps, if_neg fun h => hps (List.forall_mem_cons.1 h).2]
        rfl
    · rw [if_neg hp, if_neg fun h => hp (List.forall_mem_cons.1 h).1]

/-- What queries find after a time in replicas that answer them, merged, is what the merged history
has after that time. -/
theorem merge_finishedAfterRows {d : Disk} {since : Int} {paths : List String}
    (h : ∀ p ∈ paths, d.Answers (.finishedAfter since) p) :
    Swap.merge (paths.flatMap fun p =>
        ((ReplicaQuery.finishedAfter since).select (d.rows p)).filterMap ReplicaRow.toSwap?)
      = (Swap.merge (d.history paths)).filter (since < ·.finishedAt) := by
  rw [← Swap.merge_filter_finishedAfter]
  refine Swap.merge_congr fun a => ?_
  have hfile : ∀ p ∈ paths,
      (((ReplicaQuery.finishedAfter since).select (d.rows p)).filterMap ReplicaRow.toSwap?).filter
          (tied Swap.notAfter a)
        = ((ReplicaRow.history (d.rows p)).filter (since < ·.finishedAt)).filter
          (tied Swap.notAfter a) := by
    intro p hp
    -- Swaps of the same time keep their order in one replica.
    rw [ReplicaQuery.filterMap_finishedAfterRows (h p hp).2]
    refine filter_mergeSort Swap.notLater_trans Swap.notLater_total (fun x y hx hy => ?_) _
    rw [Swap.notLater_iff, (Swap.tied_notAfter.1 hx).1, (Swap.tied_notAfter.1 hy).1]
  rw [Disk.history, List.filter_flatMap, List.filter_flatMap, List.filter_flatMap]
  exact List.flatMap_congr hfile

/-- A window is answered if all files answer, with what the merged history has in it. -/
theorem swapsBetween_ok_iff {s : Settings} {d : Disk} {n : Networks} {since upTo : Int}
    {ss : List Swap} : swapsBetween s d n since upTo = .ok ss ↔
      (∀ p ∈ replicaFiles s d n, d.Answers (.finishedAfter since) p) ∧
        ((Swap.merge (d.history (replicaFiles s d n))).filter (since < ·.finishedAt)).filter
          (·.finishedAt ≤ upTo) = ss := by
  rw [swapsBetween, queryReplicas, queryFiles_eq]
  by_cases h : ∀ p ∈ replicaFiles s d n, d.Answers (.finishedAfter since) p
  · rw [if_pos h, ← merge_finishedAfterRows h]
    exact ⟨fun hok => ⟨h, Except.ok.inj hok⟩, fun hok => congrArg Except.ok hok.2⟩
  · rw [if_neg h]
    exact ⟨fun hok => (nomatch hok), fun hok => absurd hok.1 h⟩

/-- The swaps of a window are those of a wider one that finished in it: older copies that the wider
window has besides do not change which copy of a swap is the latest. -/
theorem swapsBetween_of_wider {s : Settings} {d : Disk} {n : Networks} {since later upTo : Int}
    (hle : since ≤ later) {ss : List Swap} (h : swapsBetween s d n since upTo = .ok ss) :
    swapsBetween s d n later upTo = .ok (ss.filter (later < ·.finishedAt)) := by
  obtain ⟨ha, rfl⟩ := swapsBetween_ok_iff.1 h
  refine swapsBetween_ok_iff.2 ⟨fun p hp => ⟨(ha p hp).1, (ha p hp).2.of_le hle⟩, ?_⟩
  rw [List.filter_filter, List.filter_filter, List.filter_filter]
  refine List.filter_congr fun x _ => ?_
  -- What finished after the later time finished after the earlier one.
  rw [Bool.eq_iff_iff]
  simp only [Bool.and_eq_true, decide_eq_true_eq]
  omega

/-- The swaps finished after one time and not after another are those that merging the whole
history of the replicas leaves there; if a replica cannot be read, or a row that finished after the
first time, there is no answer. A swap with an identifier is among them exactly if its latest copy
finished in between, and then once. -/
theorem swapsBetween_eq (s : Settings) (d : Disk) (n : Networks) (since upTo : Int) :
    let history := d.history (replicaFiles s d n)
    let found := (Swap.merge history).filter fun x => since < x.finishedAt ∧ x.finishedAt ≤ upTo
    (swapsBetween s d n since upTo =
      if ∀ p ∈ replicaFiles s d n, d.Answers (.finishedAfter since) p then .ok found
      else .error .replica) ∧
    ∀ u, u ≠ nilUuid →
      (found.filter (·.uuid = u)).length ≤ 1 ∧
      ((∃ x ∈ found, x.uuid = u) ↔ ∃ x ∈ history, x.uuid = u ∧
        (∀ y ∈ history, y.uuid = u → y.finishedAt ≤ x.finishedAt) ∧
          since < x.finishedAt ∧ x.finishedAt ≤ upTo) := by
  intro history found
  refine ⟨?_, fun u hu => ?_⟩
  · rw [swapsBetween, queryReplicas, queryFiles_eq]
    by_cases h : ∀ p ∈ replicaFiles s d n, d.Answers (.finishedAfter since) p
    · rw [if_pos h, if_pos h]
      show Except.ok (List.filter _ (Swap.merge _)) = _
      rw [merge_finishedAfterRows h, List.filter_filter]
      refine congrArg Except.ok (List.filter_congr fun x _ => ?_)
      rw [Bool.and_comm, Bool.decide_and]
    · rw [if_neg h, if_neg h]
      rfl
  · have hone : (Swap.merge history).filter (·.uuid == u)
        = ((Swap.latestCopies history).find? u).toList := Swap.filter_uuid_merge history hu
    have hfound : ∀ x, (x ∈ found ∧ x.uuid = u) ↔
        (Swap.latestCopies history).find? u = some x ∧
          since < x.finishedAt ∧ x.finishedAt ≤ upTo := by
      intro x
      have hx : (x ∈ Swap.merge history ∧ x.uuid = u) ↔
          (Swap.latestCopies history).find? u = some x := by
        rw [← Option.mem_toList, ← hone, List.mem_filter, beq_iff_eq]
      rw [List.mem_filter, decide_eq_true_eq, and_right_comm, hx]
    constructor
    · have hsub : (found.filter (·.uuid = u)).Sublist ((Swap.merge history).filter (·.uuid == u)) :=
        List.Sublist.filter _ List.filter_sublist
      refine hsub.length_le.trans ?_
      rw [hone]
      cases (Swap.latestCopies history).find? u <;> simp
    · rw [← Swap.exists_latestCopies_iff hu fun t => since < t ∧ t ≤ upTo]
      exact exists_congr hfound

/-! ## One replica -/

namespace OneReplica

/-- A disk with one replica of one network. -/
def disk (rows : List ReplicaRow) : Disk :=
  ⟨[(["DB"], .folder), (["DB", "7777"], .folder), (["DB", "7777", "MM2.db"], .replica rows)]⟩

/-- The settings for such a disk. -/
def settings : Settings := { (default : Settings) with replicaFolder := "DB", netids := [7777] }

/-- The one replica of such a disk. -/
theorem replicaFiles_disk (rows : List ReplicaRow) :
    replicaFiles settings (disk rows) .all = ["DB/7777/MM2.db"] := by
  have hn : (disk rows).names (Path.components (settings.netidFolder 7777)) = ["MM2.db"] := by
    exact List.mergeSort_singleton "MM2.db"
  show netidReplicas settings (disk rows) 7777 ++ [] = _
  rw [netidReplicas, hn]
  rfl

/-- A successful row of a swap of KMD for LTC. -/
def row (uuid : String) (makerAmount : ColumnValue) (time : Int) : ReplicaRow :=
  ⟨.text uuid, .text "KMD", .text "LTC", makerAmount, .text "120", .null, .integer time, .integer 1⟩

/-- The swap of such a row with the amount 100. -/
def swap (uuid : String) (time : Int) : Swap :=
  ⟨uuid, "KMD", "LTC", ⟨100, 0⟩, ⟨120, 0⟩, 0, time, true⟩

/-- Two copies of one swap, and another swap that finished between them. -/
def twoCopies : List ReplicaRow :=
  [row "b" (.text "100") 10, row "b" (.text "100") 20, row "a" (.text "100") 12]

/-- Every query of these rows is answered. -/
theorem answers_twoCopies (q : ReplicaQuery) :
    ∀ p ∈ ["DB/7777/MM2.db"], (disk twoCopies).Answers q p := by
  have hreadable : ∀ r ∈ twoCopies, r.toSwap?.isSome = true := by decide
  intro p hp
  obtain rfl := List.mem_singleton.1 hp
  exact ⟨rfl, .of_forall q fun r hr => Option.isSome_iff_exists.1 (hreadable r hr)⟩

/-- Of the two copies the later one is left. -/
theorem merge_twoCopies : Swap.merge ((disk twoCopies).history ["DB/7777/MM2.db"])
    = [swap "a" 12, swap "b" 20] := by
  rw [Swap.merge]
  exact List.mergeSort_of_pairwise (by decide)

end OneReplica

open OneReplica in
/-- A window with the earlier of two copies of a swap has the swap that finished between them, and
not the copy; the later copy is in the window after it. -/
theorem swapsBetween_eq_twoCopies :
    swapsBetween settings (disk twoCopies) .all 5 15 = .ok [swap "a" 12] ∧
      swapsBetween settings (disk twoCopies) .all 15 25 = .ok [swap "b" 20] ∧
      swap "b" 10 ∈ (disk twoCopies).history (replicaFiles settings (disk twoCopies) .all) := by
  obtain ⟨hearlier, -⟩ := swapsBetween_eq settings (disk twoCopies) .all 5 15
  obtain ⟨hlater, -⟩ := swapsBetween_eq settings (disk twoCopies) .all 15 25
  rw [replicaFiles_disk, merge_twoCopies, if_pos (answers_twoCopies _)] at hearlier hlater
  refine ⟨hearlier.trans (congrArg Except.ok (by decide)),
    hlater.trans (congrArg Except.ok (by decide)), ?_⟩
  rw [replicaFiles_disk]
  decide

end SwapMarket
