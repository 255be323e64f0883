import SwapMarket.Proofs.Market.LatestSwap
import SwapMarket.Proofs.Replica.History

/-!
# What the query for the last swaps loses

The records of the last trades are made from a query that looks in each replica for the rows that
finished last in their direction. Which rows count for a market is decided only afterwards, and so
is which copies are superseded.

* **`ReplicaRow.IsLastOf`**: a row that the query finds.
* **`Disk.lastFinished`**: the swaps that it finds in replicas.
* **`EndsWell`**: after the last swap of a market that counts, no other swap of it finished. Then
  the query finds the latest swap (`EndsWell.findsLatest`).

Main statement: `lastTrades_lastSwaps`. A later row that does not count hides one that does.
-/

namespace SwapMarket

/-! ## Rows that finished last -/

namespace ReplicaRow

/-- A row is that of a successful swap with coins and a time, and no successful swap of its
direction finished later. -/
structure IsLastOf (rs : List ReplicaRow) (r : ReplicaRow) : Prop where
  /-- The swap succeeded and has a time. -/
  completed : r.isCompleted = true
  /-- It has a direction. -/
  directed : r.sameDirection r = true
  /-- No successful swap of its direction finished later. -/
  last : ∀ o ∈ rs, o.succeeded = true → o.sameDirection r = true →
    o.finishedAt.above r.finishedAt = false

/-- The query finds the rows that finished last. -/
theorem mem_lastFinishedRows {rs : List ReplicaRow} {r : ReplicaRow} :
    r ∈ ReplicaQuery.lastFinishedRows rs ↔ r ∈ rs ∧ r.IsLastOf rs := by
  simp only [ReplicaQuery.lastFinishedRows, List.mem_filter, Bool.and_eq_true, Bool.not_eq_true',
    List.any_eq_false, bne_iff_ne]
  constructor
  · rintro ⟨⟨hr, hs⟩, ⟨hd, hn⟩, hl⟩
    refine ⟨hr, ?_, hd, ?_⟩
    · rw [isCompleted, hs, Bool.true_and, bne_iff_ne]
      exact hn
    · intro o ho hos hod
      exact Bool.eq_false_iff.2 fun ha => hl o ⟨ho, hos⟩ ⟨hod, ha⟩
  · rintro ⟨hr, hc, hd, hl⟩
    rw [isCompleted, Bool.and_eq_true, bne_iff_ne] at hc
    refine ⟨⟨hr, hc.1⟩, ⟨hd, hc.2⟩, ?_⟩
    rintro o ⟨ho, hos⟩ h
    rw [hl o ho hos h.1] at h
    cases h.2

/-- A text is equal to itself only. -/
theorem equals_text {v : ColumnValue} {a : String} :
    v.equals (.text a) = true ↔ v = .text a := by
  cases v with
  | text b => simp [ColumnValue.equals, ColumnValue.order?]
  | null => simp [ColumnValue.equals, ColumnValue.order?]
  | integer n => simp [ColumnValue.equals, ColumnValue.order?]
  | real x => simp [ColumnValue.equals, ColumnValue.order?]

/-- A swap with two named coins has them from its row. -/
theorem coins_of_toSwap? {r : ReplicaRow} {s : Swap} (h : r.toSwap? = some s)
    (hm : s.makerCoin ≠ "") (ht : s.takerCoin ≠ "") :
    r.makerCoin = .text s.makerCoin ∧ r.takerCoin = .text s.takerCoin := by
  have read : ∀ {v : ColumnValue} {o : Option String}, v.textOrNull? = some o → o.getD "" ≠ "" →
      v = .text (o.getD "") := by
    intro v o hv ho
    cases v with
    | text t =>
      cases hv
      rfl
    | null =>
      cases hv
      exact absurd rfl ho
    | integer n => cases hv
    | real x => cases hv
  obtain ⟨w, hw, rfl⟩ := Option.map_eq_some_iff.1 h
  simp only [toSwapRow?, Option.bind_eq_bind, Option.bind_eq_some_iff, Option.pure_def,
    Option.some.injEq] at hw
  obtain ⟨_, _, m, hrm, t, hrt, _, _, _, _, _, _, rfl⟩ := hw
  exact ⟨read hrm hm, read hrt ht⟩

/-- Rows of one direction that can be read have swaps of the same coins. -/
theorem coins_of_sameDirection {o r : ReplicaRow} {x s : Swap} (hd : o.sameDirection r = true)
    (hx : o.toSwap? = some x) (hs : r.toSwap? = some s) (hm : s.makerCoin ≠ "")
    (ht : s.takerCoin ≠ "") : x.makerCoin = s.makerCoin ∧ x.takerCoin = s.takerCoin := by
  obtain ⟨hrm, hrt⟩ := coins_of_toSwap? hs hm ht
  rw [sameDirection, Bool.and_eq_true, hrm, hrt, equals_text, equals_text] at hd
  obtain ⟨w, hw, rfl⟩ := Option.map_eq_some_iff.1 hx
  simp only [toSwapRow?, hd, ColumnValue.textOrNull?, Option.bind_eq_bind, Option.bind_eq_some_iff,
    Option.pure_def, Option.some.injEq] at hw
  obtain ⟨_, _, _, rfl, _, rfl, _, _, _, _, _, _, rfl⟩ := hw
  exact ⟨rfl, rfl⟩

end ReplicaRow

/-! ## The swaps that finished last in replicas -/

namespace Disk

variable {d : Disk} {paths : List String} {x : Swap}

/-- The swaps that finished last in their direction, replica by replica. -/
def lastFinished (d : Disk) (paths : List String) : List Swap :=
  paths.flatMap fun p =>
    (ReplicaQuery.lastFinished.select (d.rows p)).filterMap ReplicaRow.toSwap?

/-- The history has the swaps of the completed rows. -/
theorem mem_history : x ∈ d.history paths ↔
    ∃ p ∈ paths, ∃ r ∈ d.rows p, r.isCompleted = true ∧ r.toSwap? = some x := by
  simp only [history, ReplicaRow.history, List.mem_flatMap, List.mem_filterMap, List.mem_filter,
    and_assoc]

/-- Found are the swaps of the rows that finished last. -/
theorem mem_lastFinished : x ∈ d.lastFinished paths ↔
    ∃ p ∈ paths, ∃ r ∈ d.rows p, r.IsLastOf (d.rows p) ∧ r.toSwap? = some x := by
  simp only [lastFinished, ReplicaQuery.select, List.mem_flatMap, List.mem_filterMap,
    ReplicaRow.mem_lastFinishedRows, and_assoc]

/-- What finished last is part of the history. -/
theorem mem_history_of_mem_lastFinished (h : x ∈ d.lastFinished paths) :
    x ∈ d.history paths := by
  obtain ⟨p, hp, r, hr, hl, hx⟩ := mem_lastFinished.1 h
  exact mem_history.2 ⟨p, hp, r, hr, hl.completed, hx⟩

/-- Swaps of a kind whose rows all finished last are found in the order of the history. -/
theorem filter_lastFinished {q : Swap → Bool}
    (h : ∀ p ∈ paths, ∀ r ∈ d.rows p, r.isCompleted = true → ∀ s, r.toSwap? = some s →
      q s = true → r.IsLastOf (d.rows p)) :
    (d.lastFinished paths).filter q = (d.history paths).filter q := by
  rw [lastFinished, history, List.filter_flatMap, List.filter_flatMap]
  refine List.flatMap_congr fun p hp => ?_
  obtain ⟨found, hfound⟩ : ∃ found : ReplicaRow → Bool,
      ReplicaQuery.lastFinishedRows (d.rows p) = (d.rows p).filter found := by
    rw [ReplicaQuery.lastFinishedRows, List.filter_filter]
    exact ⟨_, rfl⟩
  have hlast : ∀ r ∈ d.rows p, (found r = true ↔ r.IsLastOf (d.rows p)) := by
    intro r hr
    have hm : r ∈ ReplicaQuery.lastFinishedRows (d.rows p) ↔ r ∈ d.rows p ∧ r.IsLastOf (d.rows p) :=
      ReplicaRow.mem_lastFinishedRows
    rw [hfound, List.mem_filter] at hm
    simpa only [hr, true_and] using hm
  rw [ReplicaQuery.select, hfound, ReplicaRow.history, List.filter_filterMap, List.filter_filterMap,
    List.filterMap_filter, List.filterMap_filter]
  refine List.filterMap_congr fun r hr => ?_
  cases hs : r.toSwap?.filter q with
  | none => simp only [ite_self]
  | some s =>
    obtain ⟨hs', hq⟩ := Option.filter_eq_some_iff.1 hs
    -- Such a row is found if it is completed.
    have hiff : found r = r.isCompleted := by
      rw [Bool.eq_iff_iff, hlast r hr]
      exact ⟨fun hl => hl.completed, fun hc => h p hp r hr hc s hs' hq⟩
    rw [hiff]

end Disk

/-! ## When the query finds the latest swap -/

variable {c : Catalogue} {k : String} {d : Disk} {paths : List String} {w x : Swap}

/-- What the history has to be like, so that the query finds the latest swap of a market. -/
structure EndsWell (d : Disk) (paths : List String) (c : Catalogue) (k : String) : Prop where
  /-- The rows of the history can be read. -/
  readable : ∀ p ∈ paths, ∀ r ∈ d.rows p, r.isCompleted = true → ∃ s, r.toSwap? = some s
  /-- No coin is without a name. -/
  named : c.coins.find? "" = none
  /-- Copies of one swap name the same coins. -/
  sameCoins : ∀ x ∈ d.history paths, ∀ y ∈ d.history paths, x.uuid = y.uuid → x.uuid ≠ nilUuid →
    x.makerCoin = y.makerCoin ∧ x.takerCoin = y.takerCoin
  /-- After the last swap that counts, no other swap of the market finished. -/
  ends : ∀ x ∈ Swap.merge (d.history paths), x.isOn c k = true →
    ∃ y ∈ Swap.merge (d.history paths), y.countsFor c k = true ∧ x.finishedAt ≤ y.finishedAt

namespace EndsWell

/-- No swap on a market in the history, superseded or not, finished after the latest one that
counts. -/
theorem exists_isLastOn (h : EndsWell d paths c k) (hx : x ∈ d.history paths)
    (hk : x.isOn c k = true) :
    ∃ w, IsLastOn c k (Swap.merge (d.history paths)) w ∧ x.finishedAt ≤ w.finishedAt := by
  -- The latest copy is on the same market.
  obtain ⟨x', hx', hk', hle⟩ : ∃ x' ∈ Swap.merge (d.history paths), x'.isOn c k = true ∧
      x.finishedAt ≤ x'.finishedAt := by
    by_cases hn : x.uuid = nilUuid
    · exact ⟨x, Swap.mem_merge.2 ⟨hx, .inl hn⟩, hk, Int.le_refl _⟩
    · obtain ⟨x', hu, hl⟩ := Swap.exists_isLatest hx hn
      obtain ⟨hm, ht⟩ := h.sameCoins x hx x' hl.mem hu.symm hn
      refine ⟨x', Swap.mem_merge.2 ⟨hl.mem, .inr hl⟩, ?_, hl.latest x hx hu.symm⟩
      rw [← Swap.isOn_congr hm ht]
      exact hk
  obtain ⟨y, hy, hc, hle'⟩ := h.ends x' hx' hk'
  obtain ⟨w, hw, hyw⟩ := SwapMarket.exists_isLastOn hy hc
  refine ⟨w, hw, ?_⟩
  have hyw' : y.finishedAt ≤ w.finishedAt := by
    rcases Swap.notAfter_iff.1 hyw with hlt | ⟨heq, -⟩ <;> omega
  omega

/-- The coins of a market have names. -/
theorem coins_ne (h : EndsWell d paths c k) (hk : x.isOn c k = true) :
    x.makerCoin ≠ "" ∧ x.takerCoin ≠ "" := by
  have hno : (c.tradable "").isOk = false := by
    rw [Catalogue.tradable, Catalogue.get, h.named]
    rfl
  rw [Swap.isOn, Catalogue.bothTradable, Bool.and_eq_true, Bool.and_eq_true] at hk
  constructor
  · intro hm
    rw [hm, hno] at hk
    cases hk.1.1
  · intro ht
    rw [ht, hno] at hk
    cases hk.1.2

/-- A row of the market that finished with the latest swap that counts is found. -/
theorem isLastOf (h : EndsWell d paths c k) (hw : IsLastOn c k (Swap.merge (d.history paths)) w)
    {p : String} (hp : p ∈ paths) {r : ReplicaRow} (hc : r.isCompleted = true)
    (hx : r.toSwap? = some x) (hk : x.isOn c k = true)
    (hf : x.finishedAt = w.finishedAt) : r.IsLastOf (d.rows p) := by
  obtain ⟨hm, ht⟩ := h.coins_ne hk
  obtain ⟨hrm, hrt⟩ := ReplicaRow.coins_of_toSwap? hx hm ht
  have hnull : ∀ {r : ReplicaRow}, r.isCompleted = true → r.finishedAt ≠ .null := by
    intro r hr
    rw [ReplicaRow.isCompleted, Bool.and_eq_true, bne_iff_ne] at hr
    exact hr.2
  refine ⟨hc, ?_, fun o ho hos hod => ?_⟩
  · rw [ReplicaRow.sameDirection, hrm, hrt, ReplicaRow.equals_text.2 rfl,
      ReplicaRow.equals_text.2 rfl]
    rfl
  · rw [Bool.eq_false_iff]
    intro habove
    have hon : o.finishedAt ≠ .null := by
      intro hn
      rw [hn] at habove
      cases habove
    have hoc : o.isCompleted = true := by
      rw [ReplicaRow.isCompleted, hos, Bool.true_and, bne_iff_ne]
      exact hon
    -- A later row would be a later swap of the market.
    obtain ⟨y, hy⟩ := h.readable p hp o ho hoc
    obtain ⟨hym, hyt⟩ := ReplicaRow.coins_of_sameDirection hod hy hx hm ht
    have hyk : y.isOn c k = true := (Swap.isOn_congr hym hyt).trans hk
    obtain ⟨w', hw', hle⟩ := h.exists_isLastOn (Disk.mem_history.2 ⟨p, hp, o, ho, hoc, hy⟩) hyk
    obtain rfl := hw.unique Swap.notAfter_trans hw'
    rw [ReplicaRow.finishedAt_of_toSwap? hy hon, ReplicaRow.finishedAt_of_toSwap? hx (hnull hc),
      ReplicaRow.above_integer, decide_eq_true_eq] at habove
    omega

/-- At the time of the latest swap, the query finds the swaps of the market in the order of the
history. -/
theorem filter_tied (h : EndsWell d paths c k)
    (hw : IsLastOn c k (Swap.merge (d.history paths)) w) {a : Swap}
    (ha : a.finishedAt = w.finishedAt) :
    (d.lastFinished paths).filter (fun x => x.isOn c k && tied Swap.notAfter a x)
      = (d.history paths).filter fun x => x.isOn c k && tied Swap.notAfter a x := by
  refine Disk.filter_lastFinished fun p hp r _ hc s hs hq => ?_
  rw [Bool.and_eq_true] at hq
  exact h.isLastOf hw hp hc hs hq.1 ((Swap.tied_notAfter.1 hq.2).1.trans ha)

/-- So does merging what it finds. -/
theorem filter_tied_merge (h : EndsWell d paths c k)
    (hw : IsLastOn c k (Swap.merge (d.history paths)) w) {a : Swap}
    (ha : a.finishedAt = w.finishedAt) :
    (Swap.merge (d.lastFinished paths)).filter (fun x => tied Swap.notAfter a x && x.isOn c k)
      = (Swap.merge (d.history paths)).filter fun x => tied Swap.notAfter a x && x.isOn c k := by
  have hsplit : ∀ ss : List Swap, ss.filter (fun x => tied Swap.notAfter a x && x.isOn c k)
      = (ss.filter (tied Swap.notAfter a)).filter (·.isOn c k) := by
    intro ss
    rw [List.filter_filter]
    exact List.filter_congr fun x _ => Bool.and_comm _ _
  have heq := h.filter_tied hw ha
  rw [hsplit, hsplit, Swap.filter_tied_merge, Swap.filter_tied_merge]
  by_cases hn : a.uuid = nilUuid
  · rw [if_pos hn, if_pos hn, List.filter_filter, List.filter_filter]
    exact heq
  · rw [if_neg hn, if_neg hn]
    by_cases hon : ∃ z ∈ d.history paths, z.uuid = a.uuid ∧ z.isOn c k = true
    · -- All copies are on the market, and none finished later.
      obtain ⟨z, hz, hzu, hzk⟩ := hon
      have hall : ∀ x ∈ d.history paths, x.uuid = a.uuid → x.isOn c k = true := by
        intro x hx hu
        obtain ⟨hm, ht⟩ := h.sameCoins x hx z hz (hu.trans hzu.symm) (hu ▸ hn)
        exact (Swap.isOn_congr hm ht).trans hzk
      have hlater : ∀ ss : List Swap, (∀ x ∈ ss, x ∈ d.history paths) →
          ¬∃ x ∈ ss, x.uuid = a.uuid ∧ a.finishedAt < x.finishedAt := by
        rintro ss hss ⟨x, hx, hu, hlt⟩
        obtain ⟨w', hw', hle⟩ := h.exists_isLastOn (hss x hx) (hall x (hss x hx) hu)
        obtain rfl := hw.unique Swap.notAfter_trans hw'
        omega
      have hfind : ∀ ss : List Swap, (∀ x ∈ ss, x ∈ d.history paths) →
          ss.find? (tied Swap.notAfter a)
            = (ss.filter fun x => x.isOn c k && tied Swap.notAfter a x).head? := by
        intro ss hss
        rw [← List.head?_filter]
        refine congrArg List.head? (List.filter_congr fun x hx => ?_)
        by_cases ht : tied Swap.notAfter a x = true
        · rw [ht, hall x (hss x hx) (Swap.tied_notAfter.1 ht).2]
          rfl
        · rw [Bool.eq_false_iff.2 ht, Bool.and_false]
      have hfound : ∀ x ∈ d.lastFinished paths, x ∈ d.history paths :=
        fun x hx => Disk.mem_history_of_mem_lastFinished hx
      rw [if_neg (hlater _ hfound), if_neg (hlater _ fun x hx => hx), hfind _ hfound,
        hfind _ fun x hx => hx, heq]
    · have hnone : ∀ (ss : List Swap) (later : Prop) [Decidable later],
          (∀ x ∈ ss, x ∈ d.history paths) →
          (if later then [] else (ss.find? (tied Swap.notAfter a)).toList).filter (·.isOn c k)
            = [] := by
        intro ss later _ hss
        rw [List.filter_eq_nil_iff]
        intro x hx hk
        split at hx
        · cases hx
        · have hx := Option.mem_toList.1 hx
          exact hon ⟨x, hss x (List.mem_of_find?_eq_some hx),
            (Swap.tied_notAfter.1 (List.find?_some hx)).2, hk⟩
      rw [hnone _ _ fun x hx => Disk.mem_history_of_mem_lastFinished hx, hnone _ _ fun x hx => hx]

/-- If after the last swap that counts no other swap of the market finished, the query finds the
latest swap. -/
theorem findsLatest (h : EndsWell d paths c k) :
    FindsLatest c k (Swap.merge (d.lastFinished paths)) (Swap.merge (d.history paths)) := by
  constructor
  · intro w hw
    have hfind : ∀ ss : List Swap, ss.find? (fun x => x.countsFor c k && tied Swap.notAfter w x)
        = (ss.filter fun x => tied Swap.notAfter w x && x.isOn c k).find? (·.contributes) := by
      intro ss
      rw [List.find?_filter]
      congr 1
      funext x
      rw [Bool.eq_iff_iff]
      simp only [Swap.countsFor, Bool.and_eq_true, decide_eq_true_eq]
      constructor
      · rintro ⟨⟨hc, hk⟩, ht⟩
        exact ⟨⟨ht, hk⟩, hc⟩
      · rintro ⟨⟨ht, hk⟩, hc⟩
        exact ⟨⟨hc, hk⟩, ht⟩
    rw [hfind, h.filter_tied_merge hw rfl, ← hfind]
    exact hw.first
  · intro x hx hc
    have hk : x.isOn c k = true := by
      rw [Swap.countsFor, Bool.and_eq_true] at hc
      exact hc.2
    have hxh := Disk.mem_history_of_mem_lastFinished (Swap.mem_merge.1 hx).1
    obtain ⟨w, hw, hle⟩ := h.exists_isLastOn hxh hk
    refine ⟨w, hw, ?_⟩
    by_cases hlt : x.finishedAt < w.finishedAt
    · exact Swap.notAfter_iff.2 (.inl hlt)
    · -- What finished with the latest swap is the same in both lists.
      have hmem : x ∈ (Swap.merge (d.lastFinished paths)).filter
          fun y => tied Swap.notAfter x y && y.isOn c k := by
        rw [List.mem_filter, Bool.and_eq_true]
        exact ⟨hx, Swap.tied_notAfter.2 ⟨rfl, rfl⟩, hk⟩
      rw [h.filter_tied_merge hw (by omega)] at hmem
      exact hw.greatest x (List.mem_filter.1 hmem).1 hc

end EndsWell

/-- The last swaps are what the query finds in all replicas, merged. -/
theorem lastSwaps_eq (s : Settings) (d : Disk) (n : Networks) :
    lastSwaps s d n =
      if ∀ p ∈ replicaFiles s d n, d.Answers .lastFinished p then
        .ok (Swap.merge (d.lastFinished (replicaFiles s d n)))
      else .error .replica := by
  rw [lastSwaps, queryReplicas, queryFiles_eq]
  split
  · rfl
  · rfl

/-- The records of the last trades that are made from the query are those of the whole history
exactly as far as the query finds the latest swaps.

* The record of a market is of the swap that the history asks for if and only if the query finds the
  latest swap of the market.
* It does so if the history ends well: if no swap of the market, whether it counts or not, finished
  after the last one that counts.
* It does not if in every replica a successful swap of the same direction finished later than the
  one asked for, even one that does not count.
* The history asks for a record of every market with a swap that counts, and none is later than that
  of the record. -/
theorem lastTrades_lastSwaps (s : Settings) (d : Disk) (c : Catalogue) :
    let files := replicaFiles s d .all
    let found := Swap.merge (d.lastFinished files)
    let whole := Swap.merge (d.history files)
    (lastSwaps s d .all =
      if ∀ p ∈ files, d.Answers .lastFinished p then .ok found else .error .replica) ∧
    ((∀ k, FindsLatest c k found whole) → lastTrades c found = lastTrades c whole) ∧
    (∀ k, (latestSwaps c found).find? k = (latestSwaps c whole).find? k ↔
      FindsLatest c k found whole) ∧
    (∀ k, EndsWell d files c k → FindsLatest c k found whole) ∧
    (∀ k w, IsLastOn c k whole w → FindsLatest c k found whole →
      ∃ p ∈ files, ∃ r ∈ d.rows p, r.toSwap? = some w ∧ r.IsLastOf (d.rows p)) ∧
    (∀ k, ∀ x ∈ whole, x.countsFor c k = true →
      ∃ w, (latestSwaps c whole).find? k = some (w.market c, w) ∧ x.notAfter w = true) := by
  intro files found whole
  refine ⟨lastSwaps_eq s d .all, fun h => ?_, fun k => find?_latestSwaps_eq_iff,
    fun k h => h.findsLatest, fun k w hw h => ?_, fun k x hx hc => ?_⟩
  · have heq : latestSwaps c found = latestSwaps c whole :=
      Table.ext_find? fun k => find?_latestSwaps_eq_iff.2 (h k)
    rw [lastTrades, lastTrades, heq]
  · have hmem : w ∈ found := List.mem_of_find?_eq_some (h.latest w hw)
    obtain ⟨p, hp, r, hr, hl, hx⟩ := Disk.mem_lastFinished.1 (Swap.mem_merge.1 hmem).1
    exact ⟨p, hp, r, hr, hx, hl⟩
  · obtain ⟨w, hw, hle⟩ := exists_isLastOn hx hc
    exact ⟨w, find?_latestSwaps.2 ⟨w, rfl, hw⟩, hle⟩

namespace OneReplica

/-- A replica in which two swaps follow one another. -/
def twoSwaps : List ReplicaRow := [row "a" (.text "100") 10, row "b" (.text "100") 20]

/-- A replica in which a row without an amount follows one with both amounts. -/
def withoutAmount : List ReplicaRow := [row "a" (.text "100") 10, row "z" .null 20]

/-- The swap without an amount. -/
def amountless : Swap := ⟨"z", "KMD", "LTC", .zero, ⟨120, 0⟩, 0, 20, true⟩

/-- A coin that can be traded. -/
def coin (ticker : String) : Coin :=
  ⟨ticker, none, "UTXO", false, false, false, none, .zero, .zero⟩

/-- The two coins. -/
def catalogue : Catalogue := ⟨Table.ofList [("KMD", coin "KMD"), ("LTC", coin "LTC")]⟩

/-- The history has both swaps. -/
theorem merge_history_twoSwaps : Swap.merge ((disk twoSwaps).history ["DB/7777/MM2.db"])
    = [swap "a" 10, swap "b" 20] := by
  rw [Swap.merge]
  exact List.mergeSort_of_pairwise (by decide)

/-- The later one is found. -/
theorem merge_lastFinished_twoSwaps :
    Swap.merge ((disk twoSwaps).lastFinished ["DB/7777/MM2.db"]) = [swap "b" 20] := by
  rw [Swap.merge]
  exact List.mergeSort_of_pairwise (by decide)

/-- After the second swap, which counts, nothing finished. -/
theorem endsWell_twoSwaps : EndsWell (disk twoSwaps) ["DB/7777/MM2.db"] catalogue "KMD_LTC" where
  readable := by
    have hread : ∀ p ∈ ["DB/7777/MM2.db"], ∀ r ∈ (disk twoSwaps).rows p,
        r.isCompleted = true → r.toSwap?.isSome = true := by decide
    exact fun p hp r hr hc => Option.isSome_iff_exists.1 (hread p hp r hr hc)
  named := rfl
  sameCoins := by decide
  ends := by
    rw [merge_history_twoSwaps]
    exact fun x hx _ => ⟨swap "b" 20, by decide, by decide, by revert x; decide⟩

/-- Found is the swap without an amount. -/
theorem merge_lastFinished_withoutAmount :
    Swap.merge ((disk withoutAmount).lastFinished ["DB/7777/MM2.db"]) = [amountless] := by
  rw [Swap.merge]
  exact List.mergeSort_of_pairwise (by decide)

/-- The history has the other one, too. -/
theorem merge_history_withoutAmount :
    Swap.merge ((disk withoutAmount).history ["DB/7777/MM2.db"]) = [swap "a" 10, amountless] := by
  rw [Swap.merge]
  exact List.mergeSort_of_pairwise (by decide)

end OneReplica

open OneReplica in
/-- The history of two swaps ends well: the query finds the later one, of which the record is. -/
theorem lastTrades_lastSwaps_twoSwaps :
    lastSwaps settings (disk twoSwaps) .all = .ok [swap "b" 20] ∧
      FindsLatest catalogue "KMD_LTC" [swap "b" 20] [swap "a" 10, swap "b" 20] ∧
      (latestSwaps catalogue [swap "b" 20]).find? "KMD_LTC" = some (("KMD", "LTC"), swap "b" 20) ∧
      ∃ r ∈ twoSwaps, r.toSwap? = some (swap "b" 20) ∧ r.IsLastOf twoSwaps := by
  obtain ⟨hfound, -, hsame, hends, hlast, -⟩ :=
    lastTrades_lastSwaps settings (disk twoSwaps) catalogue
  rw [replicaFiles_disk, merge_lastFinished_twoSwaps] at hfound
  rw [replicaFiles_disk, merge_lastFinished_twoSwaps, merge_history_twoSwaps] at hsame hends hlast
  have hfinds := hends "KMD_LTC" endsWell_twoSwaps
  have hwhole : (latestSwaps catalogue [swap "a" 10, swap "b" 20]).find? "KMD_LTC"
      = some (("KMD", "LTC"), swap "b" 20) := rfl
  refine ⟨hfound.trans (if_pos (by decide)), hfinds, ((hsame "KMD_LTC").2 hfinds).trans hwhole, ?_⟩
  obtain ⟨w, hw, hon⟩ := find?_latestSwaps.1 hwhole
  obtain rfl : swap "b" 20 = w := congrArg Prod.snd hw
  obtain ⟨p, hp, hrow⟩ := hlast "KMD_LTC" _ hon hfinds
  obtain rfl := List.mem_singleton.1 hp
  exact hrow

open OneReplica in
/-- The history asks for a record of the market of KMD and LTC, and there is none: the later swap is
the only one that the query finds, and it does not count. -/
theorem lastTrades_lastSwaps_hidden :
    ∃ found, lastSwaps settings (disk withoutAmount) .all = .ok found ∧
      lastTrades catalogue found = .ok .empty ∧
      (let files := replicaFiles settings (disk withoutAmount) .all
      let whole := Swap.merge ((disk withoutAmount).history files)
      (latestSwaps catalogue whole).find? "KMD_LTC" = some (("KMD", "LTC"), swap "a" 10) ∧
        lastTrades catalogue found ≠ lastTrades catalogue whole) := by
  refine ⟨[amountless], ?_, rfl, ?_⟩
  · rw [lastSwaps_eq, replicaFiles_disk, merge_lastFinished_withoutAmount]
    exact if_pos (by decide)
  · simp only [replicaFiles_disk, merge_history_withoutAmount]
    refine ⟨rfl, fun h => ?_⟩
    have hk : (lastTrades catalogue [swap "a" 10, amountless]).toOption.map Table.keys
        = some ["KMD_LTC"] := by decide +kernel
    rw [← h] at hk
    cases hk

end SwapMarket
