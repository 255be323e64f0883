import SwapMarket.Proofs.Replica.History
import SwapMarket.Proofs.Swap.MergeParts

/-!
# Networks and replicas on their own

What a query finds in all networks is what it finds in each of them, merged
(**`queryReplicas_all`**). If swaps that agree in time and identifier are equal, neither the order
of the networks nor that of their replicas matters (**`queryReplicas_of_perm`**).

Main statement: `merge_parts_in_any_order`.
-/

namespace SwapMarket

/-- Networks on their own are answered if all of their replicas answer. -/
theorem mapM_queryReplicas (s : Settings) (d : Disk) (q : ReplicaQuery) (ns : List Nat) :
    (ns.mapM fun n => queryReplicas s d (.one n) q) =
      if ∀ p ∈ ns.flatMap (netidReplicas s d), d.Answers q p then
        .ok (ns.map fun n => Swap.merge ((netidReplicas s d n).flatMap fun p =>
          (q.select (d.rows p)).filterMap ReplicaRow.toSwap?))
      else .error .replica := by
  induction ns with
  | nil => rfl
  | cons n ns ih =>
    have hone : replicaFiles s d (.one n) = netidReplicas s d n := List.append_nil _
    have hboth : (∀ p ∈ (n :: ns).flatMap (netidReplicas s d), d.Answers q p) ↔
        (∀ p ∈ netidReplicas s d n, d.Answers q p) ∧
          ∀ p ∈ ns.flatMap (netidReplicas s d), d.Answers q p := by
      rw [List.flatMap_cons, List.forall_mem_append]
    rw [List.mapM_cons, ih, queryReplicas, queryFiles_eq, hone]
    by_cases hn : ∀ p ∈ netidReplicas s d n, d.Answers q p
    · by_cases hns : ∀ p ∈ ns.flatMap (netidReplicas s d), d.Answers q p
      · rw [if_pos hn, if_pos hns, if_pos (hboth.2 ⟨hn, hns⟩)]
        rfl
      · rw [if_pos hn, if_neg hns, if_neg fun h => hns (hboth.1 h).2]
        rfl
    · rw [if_neg hn, if_neg fun h => hn (hboth.1 h).1]
      rfl

/-- What a query finds in all networks is what it finds in each of them, merged. -/
theorem queryReplicas_all (s : Settings) (d : Disk) (q : ReplicaQuery) :
    queryReplicas s d .all q =
      (s.netids.mapM fun n => queryReplicas s d (.one n) q).map fun parts =>
        Swap.merge parts.flatten := by
  have hall : replicaFiles s d .all = s.netids.flatMap (netidReplicas s d) := rfl
  rw [mapM_queryReplicas, queryReplicas, queryFiles_eq, hall]
  by_cases h : ∀ p ∈ s.netids.flatMap (netidReplicas s d), d.Answers q p
  · rw [if_pos h, if_pos h]
    refine congrArg Except.ok ?_
    rw [List.flatMap_assoc, List.flatMap_def, ← Swap.merge_flatten_map, List.map_map]
    rfl
  · rw [if_neg h, if_neg h]
    rfl

/-- In which order replicas are read does not matter, if the swaps found that agree in time and
identifier are equal. -/
theorem merge_queryFiles_of_perm {d : Disk} {q : ReplicaQuery} {paths paths' : List String}
    (hp : paths'.Perm paths) (h : ∀ ss, queryFiles d q paths = .ok ss → Swap.AgreeOn id ss) :
    (queryFiles d q paths').map Swap.merge = (queryFiles d q paths).map Swap.merge := by
  have hans : (∀ p ∈ paths', d.Answers q p) ↔ ∀ p ∈ paths, d.Answers q p := by
    simp only [hp.mem_iff]
  rw [queryFiles_eq] at h
  rw [queryFiles_eq, queryFiles_eq]
  by_cases ha : ∀ p ∈ paths, d.Answers q p
  · rw [if_pos ha] at h
    rw [if_pos ha, if_pos (hans.2 ha)]
    exact congrArg Except.ok (Swap.merge_of_perm (hp.symm.flatMap_right _) (h _ rfl)).symm
  · rw [if_neg ha, if_neg (mt hans.1 ha)]

/-- In which order networks are configured does not matter, if the swaps found that agree in time
and identifier are equal. -/
theorem queryReplicas_of_perm {s : Settings} {d : Disk} {q : ReplicaQuery} {netids : List Nat}
    (hp : netids.Perm s.netids)
    (h : ∀ ss, queryFiles d q (replicaFiles s d .all) = .ok ss → Swap.AgreeOn id ss) :
    queryReplicas { s with netids := netids } d .all q = queryReplicas s d .all q :=
  merge_queryFiles_of_perm (hp.flatMap_right (netidReplicas s d)) h

/-- **Merging in parts and in any order.** Swaps may be merged at once, or in parts and then
together, and merging again changes nothing. If swaps that agree in time and identifier are equal,
their order does not matter; if they agree only in something, such as the amounts as numbers, the
order does not matter for that. So a query of all networks gives what queries of each of them give
together, in whatever order networks are configured and their replicas are read. -/
theorem merge_parts_in_any_order :
    (∀ ss ts, Swap.merge (ss ++ ts) = Swap.merge (Swap.merge ss ++ Swap.merge ts)) ∧
    (∀ ss, Swap.merge (Swap.merge ss) = Swap.merge ss) ∧
    (∀ ss ts, Swap.AgreeOn id (ss ++ ts) → Swap.merge (ss ++ ts) = Swap.merge (ts ++ ss)) ∧
    (∀ (α : Type) (g : Swap → α) ss ts, ss.Perm ts → Swap.AgreeOn g ss →
      (Swap.merge ss).map g = (Swap.merge ts).map g) ∧
    ∀ (s : Settings) (d : Disk) (q : ReplicaQuery),
      (queryReplicas s d .all q =
        (s.netids.mapM fun n => queryReplicas s d (.one n) q).map fun parts =>
          Swap.merge parts.flatten) ∧
      (∀ netids : List Nat, netids.Perm s.netids →
        (∀ ss, queryFiles d q (replicaFiles s d .all) = .ok ss → Swap.AgreeOn id ss) →
          queryReplicas { s with netids := netids } d .all q = queryReplicas s d .all q) ∧
      ∀ paths paths' : List String, paths'.Perm paths →
        (∀ ss, queryFiles d q paths = .ok ss → Swap.AgreeOn id ss) →
          (queryFiles d q paths').map Swap.merge = (queryFiles d q paths).map Swap.merge := by
  refine ⟨Swap.merge_append, Swap.merge_merge, fun ss ts h => ?_,
    fun α g ss ts hp h => Swap.map_merge_of_perm hp h, fun s d q => ⟨?_, ?_, ?_⟩⟩
  · exact Swap.merge_of_perm List.perm_append_comm h
  · exact queryReplicas_all s d q
  · exact fun netids hp h => queryReplicas_of_perm hp h
  · exact fun paths paths' hp h => merge_queryFiles_of_perm hp h

/-- Of two different copies that finished at the same time, the first one is left, so their order
does matter. -/
example :
    let x : Swap := ⟨"a", "KMD", "LTC", ⟨100, 0⟩, ⟨120, 0⟩, 0, 10, true⟩
    let y : Swap := ⟨"a", "KMD", "LTC", ⟨100, 0⟩, ⟨130, 0⟩, 0, 10, true⟩
    Swap.merge ([x] ++ [y]) = [x] ∧ Swap.merge ([y] ++ [x]) = [y] :=
  ⟨List.mergeSort_of_pairwise (by decide), List.mergeSort_of_pairwise (by decide)⟩

namespace TwoNetworks

/-- A row that two networks have a copy of. -/
def shared : ReplicaRow :=
  ⟨.text "a", .text "KMD", .text "LTC", .text "100", .text "120", .null, .integer 10, .integer 1⟩

/-- A row without identifier, of the same time. -/
def anonymous : ReplicaRow :=
  ⟨.null, .text "LTC", .text "KMD", .text "7", .text "4", .null, .integer 10, .integer 1⟩

/-- A disk with the replicas of two networks. -/
def disk : Disk :=
  ⟨[(["DB"], .folder), (["DB", "7777"], .folder), (["DB", "8762"], .folder),
    (["DB", "7777", "MM2.db"], .replica [shared, anonymous]),
    (["DB", "8762", "MM2.db"], .replica [shared])]⟩

/-- The settings for this disk. -/
def settings : Settings :=
  { (default : Settings) with replicaFolder := "DB", netids := [7777, 8762] }

/-- What is found in the first network. -/
def first : List Swap :=
  [⟨"a", "KMD", "LTC", ⟨100, 0⟩, ⟨120, 0⟩, 0, 10, true⟩,
    ⟨nilUuid, "LTC", "KMD", ⟨7, 0⟩, ⟨4, 0⟩, 0, 10, true⟩]

/-- What is found in the second network. -/
def second : List Swap := [⟨"a", "KMD", "LTC", ⟨100, 0⟩, ⟨120, 0⟩, 0, 10, true⟩]

/-- Each network has one replica. -/
theorem replicaFiles_disk :
    replicaFiles settings disk .all = ["DB/7777/MM2.db", "DB/8762/MM2.db"] := by
  have hfirst : disk.names (Path.components (settings.netidFolder 7777)) = ["MM2.db"] := by
    rw [Disk.names]
    exact List.mergeSort_of_pairwise (by decide)
  have hsecond : disk.names (Path.components (settings.netidFolder 8762)) = ["MM2.db"] := by
    rw [Disk.names]
    exact List.mergeSort_of_pairwise (by decide)
  show netidReplicas settings disk 7777 ++ (netidReplicas settings disk 8762 ++ []) = _
  rw [netidReplicas, netidReplicas, hfirst, hsecond]
  rfl

/-- Both replicas answer the query, in the order of the networks. -/
theorem queryFiles_disk :
    queryFiles disk .lastFinished (replicaFiles settings disk .all) = .ok (first ++ second) := by
  rw [replicaFiles_disk]
  rfl

end TwoNetworks

open TwoNetworks in
/-- Two networks that have the same copy of a swap may be configured in either order. -/
theorem merge_parts_in_any_order_twoNetworks :
    Swap.AgreeOn id (first ++ second) ∧
      Swap.merge (first ++ second) = Swap.merge (second ++ first) ∧
      [8762, 7777].Perm settings.netids ∧
      queryFiles disk .lastFinished (replicaFiles settings disk .all) = .ok (first ++ second) ∧
      queryReplicas { settings with netids := [8762, 7777] } disk .all .lastFinished
        = queryReplicas settings disk .all .lastFinished := by
  have hagree : Swap.AgreeOn id (first ++ second) := by decide
  have hperm : [8762, 7777].Perm settings.netids := by decide
  obtain ⟨-, -, hparts, -, hqueries⟩ := merge_parts_in_any_order
  obtain ⟨-, hnetids, -⟩ := hqueries settings disk .lastFinished
  refine ⟨hagree, hparts first second hagree, hperm, queryFiles_disk,
    hnetids [8762, 7777] hperm fun ss hss => ?_⟩
  rw [queryFiles_disk] at hss
  exact Except.ok.inj hss ▸ hagree

end SwapMarket
