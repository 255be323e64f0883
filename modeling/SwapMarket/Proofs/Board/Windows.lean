import SwapMarket.Proofs.Board.Inputs
import SwapMarket.Proofs.Market.FlippedMarket
import SwapMarket.Proofs.Replica.History

/-!
# A wider window never reports less

The swaps of a window are some of those of a wider one (`swapsBetween_of_wider`). Of fewer swaps
there are fewer trades (`Trade.unsorted_of_sublist`), and since all that is traded is positive, the
sums are no greater (**`Aggregate.Covers`**). Publishing keeps the order of numbers, so that it can
be read off the records (**`Volume.Covers`**), market by market (**`VolumesCover`**).

* `wider_window_covers`: the volumes of a window are no greater than those of a wider one, and the
  volumes of some days no greater than those of more days.

The volumes of a wider window are found unless the price of one of its trades, or a dollar volume,
has a scale out of range, although volumes do not hang on prices of trades
(`wider_window_covers_unless_cut`).
-/

namespace SwapMarket

variable {b q : String} {c : Catalogue} {ms : List (String × String)} {ss us : List Swap}

/-! ## Fewer swaps -/

/-- Of some of the swaps there are some of the trades. -/
theorem Trade.unsorted_of_sublist (hs : us.Sublist ss) {ts : List Trade}
    (h : unsorted b q ss = .ok ts) : ∃ vs, unsorted b q us = .ok vs ∧ vs.Sublist ts := by
  obtain ⟨hp, rfl⟩ := unsorted_ok_iff.1 h
  exact ⟨_, unsorted_ok_iff.2 ⟨fun s hm => hp s (hs.subset hm), rfl⟩, (hs.filter _).map _⟩

namespace Aggregate

/-- The figures `a` of a market are no less than the figures `a'`. -/
structure Covers (a a' : Aggregate) : Prop where
  /-- There are no fewer trades. -/
  trades : a'.trades ≤ a.trades
  /-- No less of the base was traded. -/
  base : a'.baseVolume.value ≤ a.baseVolume.value
  /-- No less of the quote was traded. -/
  quote : a'.quoteVolume.value ≤ a.quoteVolume.value

/-- Figures of some of the swaps are no greater. -/
theorem covers_of_sublist (hs : us.Sublist ss) {a a' : Aggregate} (h : ofSwaps ss b q = .ok a)
    (h' : ofSwaps us b q = .ok a') : a.Covers a' := by
  obtain ⟨ts, hts, rfl⟩ := ofSwaps_ok_iff_unsorted.1 h
  obtain ⟨vs', hvs', rfl⟩ := ofSwaps_ok_iff_unsorted.1 h'
  obtain ⟨vs, hvs, hsub⟩ := Trade.unsorted_of_sublist hs hts
  obtain rfl : vs' = vs := Except.ok.inj (hvs'.symm.trans hvs)
  have hpriced := Trade.isPriced_of_unsorted hts
  have hsum : ∀ f : Trade → Decimal, (∀ t ∈ ts, 0 < (f t).coefficient) →
      (Decimal.sum ((vs'.mergeSort Trade.notAfter).map f)).value
        ≤ (Decimal.sum ((ts.mergeSort Trade.notAfter).map f)).value := by
    intro f hf
    rw [Decimal.value_sum_of_perm ((List.mergeSort_perm vs' Trade.notAfter).map f),
      Decimal.value_sum_of_perm ((List.mergeSort_perm ts Trade.notAfter).map f)]
    exact Decimal.value_sum_le_of_sublist (hsub.map f) (List.forall_mem_map.2 hf)
  refine ⟨?_, hsum _ fun t ht => (hpriced t ht).base, hsum _ fun t ht => (hpriced t ht).quote⟩
  show (vs'.mergeSort Trade.notAfter).length ≤ (ts.mergeSort Trade.notAfter).length
  rw [List.length_mergeSort, List.length_mergeSort]
  exact hsub.length_le

end Aggregate

/-! ## Records -/

namespace Volume

/-- The volume `r` of a market is no less than the volume `r'`. -/
structure Covers (r r' : Volume) : Prop where
  /-- There are no fewer trades. -/
  trades : r'.trades ≤ r.trades
  /-- No less of the base was traded. -/
  base : ReadsAtMost r'.baseVolume r.baseVolume
  /-- No less of the quote was traded. -/
  target : ReadsAtMost r'.targetVolume r.targetVolume

/-- The volume of some of the swaps is no greater than that of all. -/
theorem covers_of_sublist (hs : us.Sublist ss) {r r' : Volume} (h : ofSwaps c b q ss = .ok r)
    (h' : ofSwaps c b q us = .ok r') : r.Covers r' := by
  obtain ⟨a, ha, htrades, hbase, hquote⟩ := figures_of_ofSwaps h
  obtain ⟨a', ha', htrades', hbase', hquote'⟩ := figures_of_ofSwaps h'
  have hc := Aggregate.covers_of_sublist hs ha ha'
  refine ⟨?_, readsAtMost_of_figure hbase' hbase hc.base,
    readsAtMost_of_figure hquote' hquote hc.quote⟩
  rw [htrades, htrades']
  exact hc.trades

end Volume

/-- The volumes `t` are of the same markets as the volumes `t'`, and in none of them less. -/
structure VolumesCover (t t' : Table Volume) : Prop where
  /-- The markets are the same. -/
  markets : ∀ k, (t.find? k).isSome = (t'.find? k).isSome
  /-- No volume is less. -/
  covers : ∀ k r r', t.find? k = some r → t'.find? k = some r' → r.Covers r'

/-- The volumes of some of the swaps are no greater than those of all. -/
theorem volumesCover_of_sublist (hs : us.Sublist ss) {t t' : Table Volume}
    (h : volumes c ms ss = .ok t) (h' : volumes c ms us = .ok t') : VolumesCover t t' := by
  refine ⟨fun k => ?_, fun k r r' hr hr' => ?_⟩
  · rw [Bool.eq_iff_iff, find?_isSome_recordTable_iff h, find?_isSome_recordTable_iff h']
  · -- Both records are of the last market of this identifier.
    obtain ⟨m, hm, hrec⟩ := find?_reverse_of_recordTable h hr
    obtain ⟨m', hm', hrec'⟩ := find?_reverse_of_recordTable h' hr'
    obtain rfl : m = m' := Option.some.inj (hm.symm.trans hm')
    exact Volume.covers_of_sublist hs hrec hrec'

/-- Some of the swaps can be written if all can. -/
theorem SizedData.sublist (h : SizedData c ss) (hs : us.Sublist ss) : SizedData c us :=
  ⟨fun s hm => h.maker s (hs.subset hm), fun s hm => h.taker s (hs.subset hm),
    hs.length_le.trans_lt h.count, h.usdPrice⟩

/-- Volumes of swaps that can be written are found. -/
theorem volumes_ok (h : SizedData c ss) (ms : List (String × String)) :
    ∃ t, volumes c ms ss = .ok t :=
  exists_recordTable_iff.2 fun m _ => Volume.ofSwaps_ok h m.1 m.2

/-! ## Windows -/

namespace Board

variable {b b' : Board} {days more : Int}

/-- The swaps of some days are some of those of more days. -/
theorem swapsOfDays_sublist (hb : b.SameWorld b') (hle : days ≤ more) {ss us : List Swap}
    (h : b'.swapsOfDays more = .ok ss) (h' : b.swapsOfDays days = .ok us) : us.Sublist ss := by
  rw [swapsOfDays_congr hb] at h
  unfold swapsOfDays at h h'
  simp only [Run.bind_ok_iff, Run.int64_ok_iff, Result.toRun_ok_iff] at h h'
  obtain ⟨_, ⟨-, rfl⟩, h⟩ := h
  obtain ⟨_, ⟨-, rfl⟩, h'⟩ := h'
  have hsince : b.now - more * daySeconds ≤ b.now - days * daySeconds := by
    have hday : (0 : Int) ≤ daySeconds := by decide
    have := Int.mul_le_mul_of_nonneg_right hle hday
    omega
  rw [Except.ok.inj (h'.symm.trans (swapsBetween_of_wider hsince h))]
  exact List.filter_sublist

/-- The volumes of some days are no greater than those of more days. -/
theorem volumesCover_produceVolumes (hb : b.SameWorld b') (hx : b'.context = b.context)
    (hle : days ≤ more) {t t' : Table Volume} (h : b'.produceVolumes more = .ok t)
    (h' : b.produceVolumes days = .ok t') : VolumesCover t t' := by
  unfold produceVolumes at h h'
  simp only [hx, Run.bind_ok_iff] at h h'
  obtain ⟨x, hx, ss, hss, ht⟩ := h
  obtain ⟨x', hx', us, hus, ht'⟩ := h'
  obtain rfl : x = x' := Except.ok.inj (hx.symm.trans hx')
  exact volumesCover_of_sublist (swapsOfDays_sublist hb hle hss hus) ht ht'

end Board

/-- **A wider window never reports less.** If the swaps of a wider window can be read, so can those
of the window, which are the ones that finished in it, and the volumes of the same markets over the
wider window are no less, market by market. Volumes are found exactly if all scales are in range, as
they are if amounts and dollar prices can be written. So the volumes of more days that are built at
the same time, of the same replicas and with the same coins and candidates, are no less. -/
theorem wider_window_covers (s : Settings) (d : Disk) (n : Networks) {since later : Int}
    (hle : since ≤ later) (upTo : Int) :
    (∀ wide, swapsBetween s d n since upTo = .ok wide →
      ∃ narrow, swapsBetween s d n later upTo = .ok narrow ∧
        narrow = wide.filter (later < ·.finishedAt) ∧
        ∀ (c : Catalogue) (ms : List (String × String)),
          (∀ t t', volumes c ms wide = .ok t → volumes c ms narrow = .ok t' → VolumesCover t t') ∧
          ((∃ t, volumes c ms wide = .ok t) ↔ VolumesFit c ms wide) ∧
          ((∃ t', volumes c ms narrow = .ok t') ↔ VolumesFit c ms narrow) ∧
          (SizedData c wide →
            (∃ t, volumes c ms wide = .ok t) ∧ ∃ t', volumes c ms narrow = .ok t')) ∧
    ∀ (b b' : Board), b.SameWorld b' → b'.context = b.context →
      ∀ days more, days ≤ more → ∀ t t', b'.produceVolumes more = .ok t →
        b.produceVolumes days = .ok t' → VolumesCover t t' := by
  refine ⟨fun wide h => ?_, fun b b' hb hx days more hmore t t' h h' =>
    Board.volumesCover_produceVolumes hb hx hmore h h'⟩
  have hsub : (wide.filter (later < ·.finishedAt)).Sublist wide := List.filter_sublist
  refine ⟨_, swapsBetween_of_wider hle h, rfl, fun c ms => ⟨fun t t' => ?_, exists_volumes_iff,
    exists_volumes_iff, fun hc => ⟨volumes_ok hc ms, volumes_ok (hc.sublist hsub) ms⟩⟩⟩
  exact volumesCover_of_sublist hsub

/-! ## Three swaps of one market -/

namespace Windows

/-- A successful row. -/
def row (uuid maker taker makerAmount takerAmount : String) (time : Int) : ReplicaRow :=
  ⟨.text uuid, .text maker, .text taker, .text makerAmount, .text takerAmount, .null,
    .integer time, .integer 1⟩

/-- A replica with three swaps, the oldest of which was for next to nothing. -/
def disk : Disk :=
  ⟨[(["DB"], .folder), (["DB", "7777"], .folder),
    (["DB", "7777", "MM2.db"], .replica
      [row "a" "KMD" "LTC" "4" "2e-9223372036854775807" 1000000,
        row "b" "LTC" "KMD" "7" "4" 1850000, row "c" "KMD" "LTC" "100" "120" 1999400])]⟩

/-- The settings for this disk. -/
def settings : Settings :=
  { (default : Settings) with replicaFolder := "DB", netids := [7777], marketDays := 20 }

/-- The entries of two coins. -/
def entries : CoinEntries :=
  .ofList (["KMD", "LTC"].map fun t => (t, ⟨t, "UTXO", t, t, false, false⟩))

/-- The last trade of their market. -/
def last : Table LastTrade :=
  .ofList [("KMD_LTC", { LastTrade.blank "KMD" "LTC" with swapTime := 1999400 })]

/-- A program with this replica, ten minutes after the last swap. -/
def board : Board where
  settings := settings
  geo := .empty
  disk := disk
  network := ⟨true, .empty⟩
  now := 2000000
  slots
    | .coinEntries => some entries
    | .lastTrades => some last
    | _ => none
  stamps _ := default
  building _ := false

/-- The swap of twelve days ago. -/
def first : Swap := ⟨"a", "KMD", "LTC", ⟨4, 0⟩, ⟨2, 9223372036854775807⟩, 0, 1000000, true⟩

/-- The swap of the day before. -/
def second : Swap := ⟨"b", "LTC", "KMD", ⟨7, 0⟩, ⟨4, 0⟩, 0, 1850000, true⟩

/-- The swap of today. -/
def third : Swap := ⟨"c", "KMD", "LTC", ⟨100, 0⟩, ⟨120, 0⟩, 0, 1999400, true⟩

/-- The one replica of the disk. -/
theorem replicaFiles_disk : replicaFiles settings disk .all = ["DB/7777/MM2.db"] := by
  have hn : disk.names (Path.components (settings.netidFolder 7777)) = ["MM2.db"] := by
    rw [Disk.names]
    exact List.mergeSort_of_pairwise (by decide)
  show netidReplicas settings disk 7777 ++ [] = _
  rw [netidReplicas, hn]
  rfl

/-- The history of the replica is in order. -/
theorem merge_history : Swap.merge (disk.history ["DB/7777/MM2.db"]) = [first, second, third] := by
  rw [Swap.merge]
  exact List.mergeSort_of_pairwise (by decide)

/-- The swaps of a window up to now are those of the three that finished in it. -/
theorem swapsBetween_disk (since : Int) : swapsBetween settings disk .all since 2000000 =
    .ok (([first, second, third].filter (since < ·.finishedAt)).filter (·.finishedAt ≤ 2000000)) := by
  have hrows : ∀ r ∈ disk.rows "DB/7777/MM2.db", r.toSwap?.isSome = true := by decide
  rw [swapsBetween_ok_iff, replicaFiles_disk, merge_history]
  refine ⟨List.forall_mem_singleton.2 ⟨by decide, fun r hr => ?_⟩, rfl⟩
  exact Option.isSome_iff_exists.1 (hrows r (List.mem_filter.1 (List.mem_mergeSort.1 hr)).1)

/-- The board has what volumes are made of. -/
theorem context_board :
    board.context = .ok ⟨board.catalogue entries, last, [("KMD", "LTC")]⟩ := by
  have hms : candidates last (board.catalogue entries) 2000000 20 = .ok [("KMD", "LTC")] :=
    Run.toOption_eq_some.1 (by decide +kernel)
  show (candidates last (board.catalogue entries) 2000000 20 >>= fun ms => _) = _
  rw [hms]
  rfl

/-- The volumes of some days are those of the swaps that finished in them. -/
theorem produceVolumes_board (days since : Int) {ss : List Swap}
    (hsince : Run.int64 (2000000 - days * daySeconds) = .ok since)
    (hs : ([first, second, third].filter (since < ·.finishedAt)).filter
      (·.finishedAt ≤ 2000000) = ss) :
    board.produceVolumes days = volumes (board.catalogue entries) [("KMD", "LTC")] ss := by
  have hswaps : board.swapsOfDays days = .ok ss := by
    show (Run.int64 (2000000 - days * daySeconds) >>= fun since =>
      (swapsBetween settings disk .all since 2000000).toRun) = _
    rw [hsince, Run.ok_bind, swapsBetween_disk, hs]
    rfl
  unfold Board.produceVolumes
  rw [context_board, Run.ok_bind, hswaps, Run.ok_bind]

/-- The numbers of both swaps can be written. -/
theorem sizedData_twoDays : SizedData (board.catalogue entries) [second, third] := by
  refine .of_small 3 (by decide) (fun s hs => ?_) (by decide) fun coin hcoin => ?_
  · refine ⟨⟨?_, ?_⟩, ?_, ?_⟩ <;> (revert s; decide)
  · have hzero : ∀ coin ∈ (board.catalogue entries).coins.values, coin.usdPrice = .zero := by
      decide +kernel
    rw [hzero coin hcoin]
    exact Decimal.within_zero 3

end Windows

open Windows in
/-- Two days have the swap of the last day and the one of the day before. -/
theorem wider_window_covers_twoDays : (1827200 : Int) ≤ 1913600 ∧
    swapsBetween settings disk .all 1827200 2000000 = .ok [second, third] ∧
      SizedData (board.catalogue entries) [second, third] ∧
      ∃ t t', volumes (board.catalogue entries) [("KMD", "LTC")] [second, third] = .ok t ∧
        volumes (board.catalogue entries) [("KMD", "LTC")] [third] = .ok t' ∧ VolumesCover t t' ∧
        board.produceVolumes 2 = .ok t ∧ board.produceVolumes 1 = .ok t' := by
  have hwide : swapsBetween settings disk .all 1827200 2000000 = .ok [second, third] :=
    swapsBetween_disk 1827200
  obtain ⟨hwindows, hboards⟩ :=
    wider_window_covers settings disk .all (by decide : (1827200 : Int) ≤ 1913600) 2000000
  obtain ⟨narrow, -, hnarrow, h⟩ := hwindows _ hwide
  obtain rfl : narrow = [third] := hnarrow
  obtain ⟨-, -, -, hfound⟩ := h (board.catalogue entries) [("KMD", "LTC")]
  obtain ⟨⟨t, ht⟩, t', ht'⟩ := hfound sizedData_twoDays
  have htwo := (produceVolumes_board 2 1827200 rfl rfl).trans ht
  have hone := (produceVolumes_board 1 1913600 rfl rfl).trans ht'
  have hboard : VolumesCover t t' :=
    hboards board board (.refl board) rfl 1 2 (by decide) t t' htwo hone
  exact ⟨by decide, hwide, sizedData_twoDays, t, t', ht, ht', hboard, htwo, hone⟩

open Windows in
/-- The volumes of a day are found, and those of fourteen days are not: the price of the oldest swap
has one place more than 64 bits can count. -/
theorem wider_window_covers_unless_cut :
    (∃ t, board.produceVolumes 1 = .ok t) ∧
      swapsBetween settings disk .all 790400 2000000 = .ok [first, second, third] ∧
      board.produceVolumes 14 = .error .overflow := by
  refine ⟨?_, swapsBetween_disk 790400, ?_⟩
  · obtain ⟨t, ht⟩ :=
      volumes_ok (sizedData_twoDays.sublist (List.sublist_cons_self second [third])) [("KMD", "LTC")]
    exact ⟨t, (produceVolumes_board 1 1913600 rfl rfl).trans ht⟩
  · have hn : ¬ ArePriced "KMD" "LTC" [first, second, third] := fun h =>
      absurd (h first List.mem_cons_self (by decide)) (by decide +kernel)
    have hv : Volume.ofSwaps (board.catalogue entries) "KMD" "LTC" [first, second, third]
        = .error .overflow := by
      unfold Volume.ofSwaps
      rw [Aggregate.ofSwaps_of_not_arePriced hn]
      rfl
    have hvolumes : volumes (board.catalogue entries) [("KMD", "LTC")] [first, second, third]
        = .error .overflow := by
      unfold volumes recordTable recordList
      rw [hv]
      rfl
    exact (produceVolumes_board 14 790400 rfl rfl).trans hvolumes

end SwapMarket
