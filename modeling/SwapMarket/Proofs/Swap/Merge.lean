import SwapMarket.Proofs.Greatest
import SwapMarket.Swap.Merge

/-!
# What is left after merging

* **`IsLatest`**: a swap finished as late as any copy of it, and is the first that did.
* **`mem_merge`**: merging keeps the swaps without identifier and the latest copies of the others.
* **`filter_tied_merge`**: in which order it keeps those that agree in time and identifier. Since
  the result is sorted, this determines it: lists with the same swaps in the same order at each time
  and identifier are merged to the same (`merge_congr`).
* **`merge_filter_finishedAfter`**: looking only at what finished after a time commutes with
  merging.
* **`isMerged_merge`**: all that the result of merging is. It does not hang on the order in which
  the latest copies are taken (**`mergeWith`**).
-/

namespace SwapMarket.Swap

/-! ## The order -/

/-- Swaps are in order of completion, then of identifiers. -/
theorem notAfter_iff {a b : Swap} : a.notAfter b = true ↔
    a.finishedAt < b.finishedAt ∨ a.finishedAt = b.finishedAt ∧ a.uuid ≤ b.uuid := by
  simp [notAfter]

/-- A swap is not after itself. -/
theorem notAfter_refl (a : Swap) : a.notAfter a = true :=
  notAfter_iff.2 (.inr ⟨rfl, String.le_refl _⟩)

/-- The order of swaps is transitive. -/
theorem notAfter_trans (a b c : Swap) (hab : a.notAfter b = true) (hbc : b.notAfter c = true) :
    a.notAfter c = true := by
  rw [notAfter_iff] at hab hbc ⊢
  rcases hab with hab | ⟨hab, huv⟩
  · refine .inl ?_
    rcases hbc with hbc | ⟨hbc, -⟩ <;> omega
  · rcases hbc with hbc | ⟨hbc, hvw⟩
    · exact .inl (by omega)
    · exact .inr ⟨hab.trans hbc, String.le_trans huv hvw⟩

/-- Of two swaps one is not after the other. -/
theorem notAfter_total (a b : Swap) : (a.notAfter b || b.notAfter a) = true := by
  rw [Bool.or_eq_true, notAfter_iff, notAfter_iff]
  rcases Int.lt_trichotomy a.finishedAt b.finishedAt with h | h | h
  · exact .inl (.inl h)
  · rcases String.le_total a.uuid b.uuid with hu | hu
    · exact .inl (.inr ⟨h, hu⟩)
    · exact .inr (.inr ⟨h.symm, hu⟩)
  · exact .inr (.inl h)

/-- Swaps are tied if they agree in time and identifier. -/
theorem tied_notAfter {a b : Swap} :
    tied notAfter a b = true ↔ b.finishedAt = a.finishedAt ∧ b.uuid = a.uuid := by
  rw [tied_eq_true, notAfter_iff, notAfter_iff]
  constructor
  · rintro ⟨hab | ⟨hab, huv⟩, hba | ⟨hba, hvu⟩⟩
    · omega
    · omega
    · omega
    · exact ⟨hba, String.le_antisymm hvu huv⟩
  · rintro ⟨hf, hu⟩
    rw [hf, hu]
    exact ⟨.inr ⟨rfl, String.le_refl _⟩, .inr ⟨rfl, String.le_refl _⟩⟩

/-- Swaps tied to tied swaps are the same. -/
theorem tied_eq_of_tied {a b : Swap} (h : tied notAfter a b = true) :
    tied notAfter b = tied notAfter a := by
  obtain ⟨hf, hu⟩ := tied_notAfter.1 h
  funext c
  rw [Bool.eq_iff_iff, tied_notAfter, tied_notAfter, hf, hu]

/-- Sorting leaves the swaps that are tied to some swap in their order. -/
theorem filter_tied_mergeSort (ss : List Swap) (a : Swap) :
    (ss.mergeSort notAfter).filter (tied notAfter a) = ss.filter (tied notAfter a) :=
  SwapMarket.filter_tied_mergeSort notAfter_trans notAfter_total ss a

/-- Whether `a` finished no later than `b`. -/
def notLater (a b : Swap) : Bool := a.finishedAt ≤ b.finishedAt

/-- A swap is not later than another one if it did not finish later. -/
theorem notLater_iff {a b : Swap} : a.notLater b = true ↔ a.finishedAt ≤ b.finishedAt :=
  decide_eq_true_iff

/-- To be not later is transitive. -/
theorem notLater_trans (a b c : Swap) (hab : a.notLater b = true) (hbc : b.notLater c = true) :
    a.notLater c = true :=
  notLater_iff.2 (Int.le_trans (notLater_iff.1 hab) (notLater_iff.1 hbc))

/-- Of two swaps one is not later than the other. -/
theorem notLater_total (a b : Swap) : (a.notLater b || b.notLater a) = true := by
  rw [Bool.or_eq_true, notLater_iff, notLater_iff]
  exact Int.le_total _ _

/-! ## Latest copies -/

/-- A swap finished as late as any copy of it in a list, and is the first that did. -/
structure IsLatest (ss : List Swap) (s : Swap) : Prop where
  /-- No copy finished later. -/
  latest : ∀ x ∈ ss, x.uuid = s.uuid → x.finishedAt ≤ s.finishedAt
  /-- It is the first that finished then. -/
  first : ss.find? (tied notAfter s) = some s

/-- The latest copy is one of the copies. -/
theorem IsLatest.mem {ss : List Swap} {s : Swap} (h : IsLatest ss s) : s ∈ ss :=
  List.mem_of_find?_eq_some h.first

/-- The latest copy of an identifier is the greatest one by time. -/
theorem isFirstGreatest_iff_isLatest {ss : List Swap} {u : String} {s : Swap} :
    IsFirstGreatest notLater (·.uuid == u) (ss.filter (·.uuid ≠ nilUuid)) s ↔
      s.uuid = u ∧ u ≠ nilUuid ∧ IsLatest ss s := by
  have hfind : s.uuid = u → u ≠ nilUuid →
      (ss.filter (·.uuid ≠ nilUuid)).find? (fun x => x.uuid == u && tied notLater s x)
        = ss.find? (tied notAfter s) := by
    rintro rfl hn
    rw [List.find?_filter]
    congr 1
    funext x
    rw [Bool.eq_iff_iff, tied_notAfter]
    simp only [decide_eq_true_eq, Bool.and_eq_true, tied_eq_true, notLater_iff, beq_iff_eq]
    constructor
    · rintro ⟨-, hu, hle, hge⟩
      exact ⟨Int.le_antisymm hge hle, hu⟩
    · rintro ⟨hf, hu⟩
      exact ⟨hu ▸ hn, hu, by omega, by omega⟩
  constructor
  · intro h
    obtain ⟨-, hn⟩ := List.mem_filter.1 h.mem
    obtain rfl : s.uuid = u := beq_iff_eq.1 h.holds
    refine ⟨rfl, of_decide_eq_true hn, fun x hx hu => ?_,
      (hfind rfl (of_decide_eq_true hn)).symm.trans h.first⟩
    have hx' : x ∈ ss.filter (·.uuid ≠ nilUuid) := by
      rw [List.mem_filter, hu]
      exact ⟨hx, hn⟩
    exact notLater_iff.1 (h.greatest x hx' (beq_iff_eq.2 hu))
  · rintro ⟨rfl, hn, hl⟩
    refine ⟨fun x hx hu => notLater_iff.2 ?_, (hfind rfl hn).trans hl.first⟩
    exact hl.latest x (List.mem_filter.1 hx).1 (beq_iff_eq.1 hu)

/-- The latest copies are what the name says. -/
theorem find?_latestCopies {ss : List Swap} {u : String} {s : Swap} :
    (latestCopies ss).find? u = some s ↔ s.uuid = u ∧ u ≠ nilUuid ∧ IsLatest ss s := by
  have hstep : noteCopy = noteGreatest notLater (·.uuid) id id := by
    funext t x
    unfold noteCopy noteGreatest
    cases t.find? x.uuid with
    | none => rfl
    | some known => simp only [notLater_iff, id_eq]
  rw [latestCopies, hstep, find?_foldl_noteGreatest notLater_trans notLater_total fun _ => rfl,
    ← isFirstGreatest_iff_isLatest]
  simp only [id_eq, exists_eq_left']

/-- There is one latest copy of an identifier at most. -/
theorem filter_uuid_latestCopies (ss : List Swap) (u : String) :
    (latestCopies ss).values.filter (·.uuid == u) = ((latestCopies ss).find? u).toList :=
  Table.filter_values (fun _ _ hv => (find?_latestCopies.1 hv).1) u

/-- Every swap with an identifier has a latest copy. -/
theorem exists_isLatest {ss : List Swap} {x : Swap} (hx : x ∈ ss) (hn : x.uuid ≠ nilUuid) :
    ∃ s, s.uuid = x.uuid ∧ IsLatest ss s := by
  have hx' : x ∈ ss.filter (·.uuid ≠ nilUuid) := List.mem_filter.2 ⟨hx, decide_eq_true hn⟩
  obtain ⟨s, hs⟩ := exists_isFirstGreatest (p := (·.uuid == x.uuid)) notLater_trans notLater_total
    ⟨x, hx', beq_self_eq_true _⟩
  obtain ⟨hu, -, hl⟩ := isFirstGreatest_iff_isLatest.1 hs
  exact ⟨s, hu, hl⟩

/-- A property of times holds of the latest copy of an identifier exactly if it holds of a copy that
finished no earlier than any other. -/
theorem exists_latestCopies_iff {ss : List Swap} {u : String} (hu : u ≠ nilUuid)
    (p : Int → Prop) :
    (∃ x, (latestCopies ss).find? u = some x ∧ p x.finishedAt) ↔
      ∃ x ∈ ss, x.uuid = u ∧ (∀ y ∈ ss, y.uuid = u → y.finishedAt ≤ x.finishedAt) ∧
        p x.finishedAt := by
  constructor
  · rintro ⟨x, hx, hp⟩
    obtain ⟨hxu, -, hl⟩ := find?_latestCopies.1 hx
    exact ⟨x, hl.mem, hxu, fun y hy hyu => hl.latest y hy (hyu.trans hxu.symm), hp⟩
  · rintro ⟨x, hx, hxu, hmax, hp⟩
    obtain ⟨y, hyx, hl⟩ := exists_isLatest hx (hxu ▸ hu)
    have hyu : y.uuid = u := hyx.trans hxu
    have hle := hmax y hl.mem hyu
    have hge := hl.latest x hx hyx.symm
    have heq : y.finishedAt = x.finishedAt := by omega
    exact ⟨y, find?_latestCopies.2 ⟨hyu, hu, hl⟩, by rwa [heq]⟩

/-! ## Merging -/

/-- Merged swaps are in order. -/
theorem pairwise_merge (ss : List Swap) : (merge ss).Pairwise (notAfter · ·) :=
  List.pairwise_mergeSort notAfter_trans notAfter_total _

/-- Merging keeps the swaps without identifier and the latest copies of the others. -/
theorem mem_merge {ss : List Swap} {s : Swap} :
    s ∈ merge ss ↔ s ∈ ss ∧ (s.uuid = nilUuid ∨ IsLatest ss s) := by
  rw [merge, List.mem_mergeSort, List.mem_append, Table.mem_values, List.mem_filter]
  constructor
  · rintro (⟨u, hu⟩ | ⟨hs, hn⟩)
    · obtain ⟨-, -, hl⟩ := find?_latestCopies.1 hu
      exact ⟨hl.mem, .inr hl⟩
    · exact ⟨hs, .inl (by simpa using hn)⟩
  · rintro ⟨hs, hl⟩
    by_cases hn : s.uuid = nilUuid
    · exact .inr ⟨hs, by simpa using hn⟩
    · exact .inl ⟨s.uuid, find?_latestCopies.2 ⟨rfl, hn, hl.resolve_left hn⟩⟩

/-- Of each identifier the latest copy is left, and nothing else. -/
theorem filter_uuid_merge (ss : List Swap) {u : String} (hu : u ≠ nilUuid) :
    (merge ss).filter (·.uuid == u) = ((latestCopies ss).find? u).toList := by
  have hnil : (ss.filter (·.uuid = nilUuid)).filter (·.uuid == u) = [] := by
    rw [List.filter_eq_nil_iff]
    intro x hx hxu
    refine hu ?_
    rw [← beq_iff_eq.1 hxu]
    simpa using (List.mem_filter.1 hx).2
  -- There is at most one, so sorting does not matter.
  have hperm := (List.mergeSort_perm
    ((latestCopies ss).values ++ ss.filter (·.uuid = nilUuid)) notAfter).filter (·.uuid == u)
  rw [List.filter_append, filter_uuid_latestCopies, hnil, List.append_nil] at hperm
  cases hf : (latestCopies ss).find? u with
  | none =>
    rw [hf] at hperm
    exact hperm.eq_nil
  | some s =>
    rw [hf] at hperm
    exact List.perm_singleton.1 hperm

/-- Among the swaps that agree in time and identifier, merging keeps those without identifier, and
of the others the first one, unless a copy finished later. -/
theorem filter_tied_merge (ss : List Swap) (a : Swap) :
    (merge ss).filter (tied notAfter a) =
      if a.uuid = nilUuid then ss.filter (tied notAfter a)
      else if ∃ x ∈ ss, x.uuid = a.uuid ∧ a.finishedAt < x.finishedAt then []
      else (ss.find? (tied notAfter a)).toList := by
  by_cases hn : a.uuid = nilUuid
  · rw [if_pos hn]
    have hvalues : (latestCopies ss).values.filter (tied notAfter a) = [] := by
      rw [List.filter_eq_nil_iff]
      intro x hx ht
      obtain ⟨u, hu⟩ := Table.mem_values.1 hx
      obtain ⟨hxu, hun, -⟩ := find?_latestCopies.1 hu
      exact hun (hxu.symm.trans ((tied_notAfter.1 ht).2.trans hn))
    have hnils : (ss.filter (·.uuid = nilUuid)).filter (tied notAfter a)
        = ss.filter (tied notAfter a) := by
      rw [List.filter_filter]
      refine List.filter_congr fun x _ => ?_
      by_cases ht : tied notAfter a x = true
      · rw [ht, Bool.true_and]
        exact decide_eq_true ((tied_notAfter.1 ht).2.trans hn)
      · rw [Bool.eq_false_iff.2 ht, Bool.false_and]
    rw [merge, filter_tied_mergeSort, List.filter_append, hvalues, hnils, List.nil_append]
  · rw [if_neg hn]
    have huuid : (merge ss).filter (tied notAfter a)
        = (((latestCopies ss).find? a.uuid).toList).filter (tied notAfter a) := by
      rw [← filter_uuid_merge ss hn, List.filter_filter]
      refine List.filter_congr fun x _ => ?_
      by_cases ht : tied notAfter a x = true
      · rw [ht, Bool.true_and]
        exact (beq_iff_eq.2 (tied_notAfter.1 ht).2).symm
      · rw [Bool.eq_false_iff.2 ht, Bool.false_and]
    rw [huuid]
    by_cases hlater : ∃ x ∈ ss, x.uuid = a.uuid ∧ a.finishedAt < x.finishedAt
    · rw [if_pos hlater, List.filter_eq_nil_iff]
      intro s hs ht
      obtain ⟨x, hx, hxu, hlt⟩ := hlater
      obtain ⟨hsu, -, hl⟩ := find?_latestCopies.1 (Option.mem_toList.1 hs)
      have hle := hl.latest x hx (hxu.trans hsu.symm)
      have := (tied_notAfter.1 ht).1
      omega
    · rw [if_neg hlater]
      cases hf : ss.find? (tied notAfter a) with
      | none =>
        rw [Option.toList_none, List.filter_eq_nil_iff]
        intro s hs
        obtain ⟨-, -, hl⟩ := find?_latestCopies.1 (Option.mem_toList.1 hs)
        exact List.find?_eq_none.1 hf s hl.mem
      | some s =>
        have ht : tied notAfter a s = true := List.find?_some hf
        obtain ⟨hsf, hsu⟩ := tied_notAfter.1 ht
        have hl : IsLatest ss s := by
          refine ⟨fun x hx hxu => ?_, by rwa [tied_eq_of_tied ht]⟩
          by_contra hlt
          exact hlater ⟨x, hx, hxu.trans hsu, by omega⟩
        rw [find?_latestCopies.2 ⟨hsu, hn, hl⟩, Option.toList_some, List.filter_cons_of_pos ht,
          List.filter_nil]

/-- Lists with the same swaps in the same order at each time and identifier are merged to the
same. -/
theorem merge_congr {ss ts : List Swap}
    (h : ∀ a, ss.filter (tied notAfter a) = ts.filter (tied notAfter a)) : merge ss = merge ts := by
  have hmem : ∀ x, x ∈ ss ↔ x ∈ ts := by
    intro x
    have hx : tied notAfter x x = true := tied_notAfter.2 ⟨rfl, rfl⟩
    have := congrArg (x ∈ ·) (h x)
    simpa only [List.mem_filter, hx, and_true, eq_iff_iff] using this
  refine eq_of_filter_tied notAfter_refl notAfter_trans (pairwise_merge ss) (pairwise_merge ts)
    fun a => ?_
  rw [filter_tied_merge, filter_tied_merge]
  simp only [hmem, ← List.head?_filter, h a]

/-- Looking only at the swaps that finished after a time is the same before and after merging. -/
theorem merge_filter_finishedAfter (ss : List Swap) (since : Int) :
    merge (ss.filter (since < ·.finishedAt)) = (merge ss).filter (since < ·.finishedAt) := by
  refine eq_of_filter_tied notAfter_refl notAfter_trans (pairwise_merge _)
    ((pairwise_merge ss).sublist List.filter_sublist) fun a => ?_
  have hcomm : ∀ l : List Swap, (l.filter (since < ·.finishedAt)).filter (tied notAfter a)
      = if since < a.finishedAt then l.filter (tied notAfter a) else [] := by
    intro l
    rw [List.filter_filter]
    by_cases ha : since < a.finishedAt
    · rw [if_pos ha]
      refine List.filter_congr fun x _ => ?_
      by_cases ht : tied notAfter a x = true
      · rw [ht, Bool.true_and, (tied_notAfter.1 ht).1]
        exact decide_eq_true ha
      · rw [Bool.eq_false_iff.2 ht, Bool.false_and]
    · rw [if_neg ha, List.filter_eq_nil_iff]
      intro x _ hx
      rw [Bool.and_eq_true, decide_eq_true_eq] at hx
      have := (tied_notAfter.1 hx.1).1
      omega
  have hlater : since < a.finishedAt →
      ((∃ x ∈ ss.filter (since < ·.finishedAt), x.uuid = a.uuid ∧ a.finishedAt < x.finishedAt) ↔
        ∃ x ∈ ss, x.uuid = a.uuid ∧ a.finishedAt < x.finishedAt) := by
    intro ha
    constructor
    · rintro ⟨x, hx, h⟩
      exact ⟨x, (List.mem_filter.1 hx).1, h⟩
    · rintro ⟨x, hx, h⟩
      exact ⟨x, List.mem_filter.2 ⟨hx, decide_eq_true (Int.lt_trans ha h.2)⟩, h⟩
  rw [hcomm, filter_tied_merge, filter_tied_merge, ← List.head?_filter, ← List.head?_filter, hcomm]
  by_cases ha : since < a.finishedAt
  · simp only [if_pos ha, hlater ha]
  · simp only [if_neg ha, List.head?_nil, Option.toList_none, ite_self]

/-! ## All that merging does -/

/-- The swaps that are left if the latest copies are taken in some order. -/
def mergeWith (copies ss : List Swap) : List Swap :=
  (copies ++ ss.filter (·.uuid = nilUuid)).mergeSort notAfter

/-- What is left of some swaps after merging. -/
structure IsMerged (ss merged : List Swap) : Prop where
  /-- One swap is left of each identifier: the first of the copies that finished last. -/
  latest : ∀ s ∈ ss, s.uuid ≠ nilUuid → ∃ before w after,
    merged.filter (·.uuid == s.uuid) = [w] ∧ ss = before ++ w :: after ∧ w.uuid = s.uuid ∧
      (∀ x ∈ before, x.uuid = s.uuid → x.finishedAt < w.finishedAt) ∧
      (∀ x ∈ after, x.uuid = s.uuid → x.finishedAt ≤ w.finishedAt)
  /-- Swaps without identifier are left as often as they were there. -/
  anonymous : ∀ s, s.uuid = nilUuid → merged.count s = ss.count s
  /-- Nothing else is left. -/
  mem : ∀ s ∈ merged, s ∈ ss
  /-- They are in order of completion, then of identifiers. -/
  sorted : merged.Pairwise fun a b =>
    a.finishedAt < b.finishedAt ∨ a.finishedAt = b.finishedAt ∧ a.uuid ≤ b.uuid
  /-- Swaps without identifier that finished at the same time are in their order. -/
  stable : ∀ t : Int, merged.filter (fun s => s.uuid == nilUuid && s.finishedAt == t)
    = ss.filter fun s => s.uuid == nilUuid && s.finishedAt == t

/-- A latest copy comes after copies that finished before it, and before copies that did not finish
after it. -/
theorem IsLatest.exists_append {ss : List Swap} {w : Swap} (h : IsLatest ss w) :
    ∃ before after, ss = before ++ w :: after ∧
      (∀ x ∈ before, x.uuid = w.uuid → x.finishedAt < w.finishedAt) ∧
      (∀ x ∈ after, x.uuid = w.uuid → x.finishedAt ≤ w.finishedAt) := by
  obtain ⟨-, before, after, hss, hbefore⟩ := List.find?_eq_some_iff_append.1 h.first
  refine ⟨before, after, hss, fun x hx hu => ?_, fun x hx hu => ?_⟩
  · have hle := h.latest x (hss ▸ List.mem_append_left _ hx) hu
    have hne : x.finishedAt ≠ w.finishedAt := by
      intro hf
      have htied : tied notAfter w x = true := tied_notAfter.2 ⟨hf, hu⟩
      simpa [htied] using hbefore x hx
    omega
  · exact h.latest x (hss ▸ List.mem_append_right _ (List.mem_cons_of_mem _ hx)) hu

/-- Of the swaps without identifier nothing is lost, and their order at each time is kept. -/
theorem filter_anonymous_merge (ss : List Swap) (t : Int) :
    (merge ss).filter (fun s => s.uuid == nilUuid && s.finishedAt == t)
      = ss.filter fun s => s.uuid == nilUuid && s.finishedAt == t := by
  let a : Swap := ⟨nilUuid, "", "", .zero, .zero, 0, t, false⟩
  have htied : (fun s : Swap => s.uuid == nilUuid && s.finishedAt == t) = tied notAfter a := by
    funext s
    rw [Bool.eq_iff_iff, tied_notAfter, Bool.and_eq_true, beq_iff_eq, beq_iff_eq, and_comm]
  rw [htied, filter_tied_merge, if_pos rfl]

/-- The order in which the latest copies are taken does not matter. -/
theorem mergeWith_eq_merge {ss copies : List Swap} (h : copies.Perm (latestCopies ss).values) :
    mergeWith copies ss = merge ss := by
  refine eq_of_filter_tied notAfter_refl notAfter_trans
    (List.pairwise_mergeSort notAfter_trans notAfter_total _) (pairwise_merge ss) fun a => ?_
  -- One latest copy at most is tied to a swap.
  have hone : (latestCopies ss).values.filter (tied notAfter a)
      = (((latestCopies ss).find? a.uuid).toList).filter (tied notAfter a) := by
    rw [← filter_uuid_latestCopies, List.filter_filter]
    refine List.filter_congr fun x _ => ?_
    by_cases ht : tied notAfter a x = true
    · rw [ht, Bool.true_and, (tied_notAfter.1 ht).2, beq_self_eq_true]
    · rw [Bool.eq_false_iff.2 ht, Bool.false_and]
  have hlen : ((latestCopies ss).values.filter (tied notAfter a)).length ≤ 1 := by
    rw [hone]
    refine Nat.le_trans (List.length_filter_le _ _) ?_
    cases (latestCopies ss).find? a.uuid <;> simp
  have hcopies : copies.filter (tied notAfter a)
      = (latestCopies ss).values.filter (tied notAfter a) := by
    have hperm := h.filter (tied notAfter a)
    match hm : (latestCopies ss).values.filter (tied notAfter a), hlen with
    | [], _ => rwa [hm, List.perm_nil] at hperm
    | [s], _ => rwa [hm, List.perm_singleton] at hperm
  rw [mergeWith, merge, filter_tied_mergeSort, filter_tied_mergeSort, List.filter_append,
    List.filter_append, hcopies]

/-- **Merging.** One swap is left of each identifier, the first of the copies that finished last,
and every swap without identifier; they are in order of completion, then of identifiers, and swaps
without identifier that finished at the same time are in their order. The latest copies may be taken
in any order. -/
theorem isMerged_merge (ss : List Swap) :
    IsMerged ss (merge ss) ∧
      ∀ copies : List Swap, copies.Perm (latestCopies ss).values →
        mergeWith copies ss = merge ss := by
  refine ⟨⟨fun s hs hn => ?latest, fun s hn => ?anonymous, fun s hs => (mem_merge.1 hs).1,
    (pairwise_merge ss).imp notAfter_iff.1, filter_anonymous_merge ss⟩,
    fun copies => mergeWith_eq_merge⟩
  case latest =>
    obtain ⟨w, hu, hw⟩ := exists_isLatest hs hn
    obtain ⟨before, after, hss, hbefore, hafter⟩ := hw.exists_append
    rw [← hu] at hn ⊢
    refine ⟨before, w, after, ?_, hss, rfl, hbefore, hafter⟩
    rw [filter_uuid_merge ss hn, find?_latestCopies.2 ⟨rfl, hn, hw⟩, Option.toList_some]
  case anonymous =>
    have hs : tied notAfter s s = true := tied_notAfter.2 ⟨rfl, rfl⟩
    rw [← List.count_filter hs, filter_tied_merge, if_pos hn, List.count_filter hs]

/-- A swap of which there are three copies, two of them equally late, a swap without identifier,
and another swap. -/
def copiedSwaps : List Swap :=
  [⟨"a", "KMD", "LTC", ⟨1, 0⟩, ⟨2, 0⟩, 1, 5, true⟩, ⟨nilUuid, "KMD", "LTC", ⟨7, 0⟩, ⟨2, 0⟩, 1, 5, true⟩,
    ⟨"a", "KMD", "LTC", ⟨3, 0⟩, ⟨2, 0⟩, 1, 6, true⟩, ⟨"a", "KMD", "LTC", ⟨4, 0⟩, ⟨2, 0⟩, 1, 6, true⟩,
    ⟨"b", "KMD", "LTC", ⟨5, 0⟩, ⟨2, 0⟩, 1, 4, true⟩]

/-- The second copy is the one that is left, also if the other swap is taken first. -/
theorem isMerged_merge_copiedSwaps :
    (⟨"a", "KMD", "LTC", ⟨1, 0⟩, ⟨2, 0⟩, 1, 5, true⟩ : Swap) ∈ copiedSwaps ∧ "a" ≠ nilUuid ∧
      (∃ w, (merge copiedSwaps).filter (·.uuid == "a") = [w] ∧ w.makerAmount = ⟨3, 0⟩) ∧
      (latestCopies copiedSwaps).values.reverse ≠ (latestCopies copiedSwaps).values ∧
      mergeWith (latestCopies copiedSwaps).values.reverse copiedSwaps = merge copiedSwaps := by
  have hmem : (⟨"a", "KMD", "LTC", ⟨1, 0⟩, ⟨2, 0⟩, 1, 5, true⟩ : Swap) ∈ copiedSwaps := by decide
  have hn : "a" ≠ nilUuid := by decide
  refine ⟨hmem, hn, ?_, by decide,
    (isMerged_merge copiedSwaps).2 _ (List.reverse_perm _)⟩
  obtain ⟨-, w, -, hw, -⟩ :=
    (isMerged_merge copiedSwaps).1.latest _ hmem hn
  have hlast : (latestCopies copiedSwaps).find? "a"
      = some ⟨"a", "KMD", "LTC", ⟨3, 0⟩, ⟨2, 0⟩, 1, 6, true⟩ := by decide
  rw [filter_uuid_merge _ hn, hlast] at hw
  obtain rfl := List.singleton_inj.1 hw
  exact ⟨_, by rw [filter_uuid_merge _ hn, hlast, Option.toList_some], rfl⟩

end SwapMarket.Swap
