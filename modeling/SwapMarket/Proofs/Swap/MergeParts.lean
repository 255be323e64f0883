import SwapMarket.Proofs.Swap.Merge

/-!
# Merging in parts, and in any order

What is merged in parts and then merged again is what is merged at once (**`merge_append`**), also
if copies are tied or swaps have no identifier. The order of the parts does not matter as long as
swaps that agree in time and identifier agree in what is looked at (**`map_merge_of_perm`**): then
it is not seen which of them is left, nor in which order they are.
-/

namespace SwapMarket.Swap

/-- Swaps of a list that agree in time and identifier agree in what `g` looks at. -/
def AgreeOn {α : Type} (g : Swap → α) (ss : List Swap) : Prop :=
  ∀ x ∈ ss, ∀ y ∈ ss, x.uuid = y.uuid → x.finishedAt = y.finishedAt → g x = g y

instance {α : Type} [DecidableEq α] (g : Swap → α) (ss : List Swap) : Decidable (AgreeOn g ss) :=
  inferInstanceAs (Decidable (∀ x ∈ ss, ∀ y ∈ ss, _ → _ → _))

/-! ## In parts -/

/-- Of an identifier that has a later copy, merging leaves a later copy. -/
theorem exists_later_merge {ss : List Swap} {a : Swap} (hn : a.uuid ≠ nilUuid) :
    (∃ x ∈ merge ss, x.uuid = a.uuid ∧ a.finishedAt < x.finishedAt) ↔
      ∃ x ∈ ss, x.uuid = a.uuid ∧ a.finishedAt < x.finishedAt := by
  constructor
  · rintro ⟨x, hx, h⟩
    exact ⟨x, (mem_merge.1 hx).1, h⟩
  · rintro ⟨x, hx, hu, hlt⟩
    obtain ⟨w, hw, hl⟩ := exists_isLatest hx (hu ▸ hn)
    have hle := hl.latest x hx hw.symm
    exact ⟨w, mem_merge.2 ⟨hl.mem, .inr hl⟩, hw.trans hu, by omega⟩

/-- The first of the swaps that agree in time and identifier with a swap is left after merging,
unless a copy finished later. -/
theorem find?_tied_merge {ss : List Swap} {a : Swap}
    (h : ¬∃ x ∈ ss, x.uuid = a.uuid ∧ a.finishedAt < x.finishedAt) :
    (merge ss).find? (tied notAfter a) = ss.find? (tied notAfter a) := by
  rw [← List.head?_filter, filter_tied_merge, if_neg h]
  by_cases hn : a.uuid = nilUuid
  · rw [if_pos hn, List.head?_filter]
  · rw [if_neg hn]
    cases ss.find? (tied notAfter a) <;> rfl

/-- Parts that are merged on their own and then together give what the whole gives at once. -/
theorem merge_append (ss ts : List Swap) : merge (ss ++ ts) = merge (merge ss ++ merge ts) := by
  refine eq_of_filter_tied notAfter_refl notAfter_trans (pairwise_merge _) (pairwise_merge _)
    fun a => ?_
  by_cases hn : a.uuid = nilUuid
  · simp only [filter_tied_merge, if_pos hn, List.filter_append]
  · have hlater : (∃ x ∈ merge ss ++ merge ts, x.uuid = a.uuid ∧ a.finishedAt < x.finishedAt) ↔
        ∃ x ∈ ss ++ ts, x.uuid = a.uuid ∧ a.finishedAt < x.finishedAt := by
      simp only [List.mem_append, or_and_right, exists_or, exists_later_merge hn]
    rw [filter_tied_merge, filter_tied_merge, if_neg hn, if_neg hn]
    by_cases h : ∃ x ∈ ss ++ ts, x.uuid = a.uuid ∧ a.finishedAt < x.finishedAt
    · rw [if_pos h, if_pos (hlater.2 h)]
    · -- No copy finished later in either part, so the first ones of both parts are still there.
      have hs : ¬∃ x ∈ ss, x.uuid = a.uuid ∧ a.finishedAt < x.finishedAt :=
        fun ⟨x, hx, hxa⟩ => h ⟨x, List.mem_append_left _ hx, hxa⟩
      have ht : ¬∃ x ∈ ts, x.uuid = a.uuid ∧ a.finishedAt < x.finishedAt :=
        fun ⟨x, hx, hxa⟩ => h ⟨x, List.mem_append_right _ hx, hxa⟩
      rw [if_neg h, if_neg (mt hlater.1 h), List.find?_append, List.find?_append,
        find?_tied_merge hs, find?_tied_merge ht]

/-- Merging again changes nothing. -/
theorem merge_merge (ss : List Swap) : merge (merge ss) = merge ss := by
  have hnil : merge [] = [] := List.eq_nil_iff_forall_not_mem.2 fun x hx =>
    List.not_mem_nil (mem_merge.1 hx).1
  have h := merge_append ss []
  rw [hnil, List.append_nil, List.append_nil] at h
  exact h.symm

/-- Any number of parts may be merged on their own before they are merged together. -/
theorem merge_flatten_map (parts : List (List Swap)) :
    merge (parts.map merge).flatten = merge parts.flatten := by
  induction parts with
  | nil => rfl
  | cons p ps ih =>
    rw [List.map_cons, List.flatten_cons, List.flatten_cons, merge_append, merge_merge, ih,
      ← merge_append]

/-! ## In any order -/

/-- Whatever the order, merging leaves as many swaps that agree in time and identifier with a given
one. -/
theorem length_filter_tied_merge_of_perm {ss ts : List Swap} (hp : ss.Perm ts) (a : Swap) :
    ((merge ss).filter (tied notAfter a)).length = ((merge ts).filter (tied notAfter a)).length := by
  have hfilter := (hp.filter (tied notAfter a)).length_eq
  have hlater : (∃ x ∈ ss, x.uuid = a.uuid ∧ a.finishedAt < x.finishedAt) ↔
      ∃ x ∈ ts, x.uuid = a.uuid ∧ a.finishedAt < x.finishedAt := by
    simp only [hp.mem_iff]
  rw [filter_tied_merge, filter_tied_merge]
  by_cases hn : a.uuid = nilUuid
  · rw [if_pos hn, if_pos hn, hfilter]
  · rw [if_neg hn, if_neg hn]
    by_cases h : ∃ x ∈ ss, x.uuid = a.uuid ∧ a.finishedAt < x.finishedAt
    · rw [if_pos h, if_pos (hlater.1 h)]
    · rw [if_neg h, if_neg (mt hlater.2 h), ← List.head?_filter, ← List.head?_filter]
      -- There is a first one in both lists or in none.
      match ss.filter (tied notAfter a), ts.filter (tied notAfter a), hfilter with
      | [], [], _ => rfl
      | _ :: _, _ :: _, _ => rfl

/-- What is looked at after merging does not hang on the order of the swaps, if swaps that agree in
time and identifier agree in it. -/
theorem map_merge_of_perm {α : Type} {g : Swap → α} {ss ts : List Swap} (hp : ss.Perm ts)
    (h : AgreeOn g ss) : (merge ss).map g = (merge ts).map g := by
  have hall : List.Forall₂ (fun x y => g x = g y) (merge ss) (merge ts) := by
    refine forall₂_of_filter_tied notAfter_refl notAfter_trans (pairwise_merge ss)
      (pairwise_merge ts) fun a => ?_
    refine List.forall₂_iff_get.2 ⟨length_filter_tied_merge_of_perm hp a, fun i hi hj => ?_⟩
    obtain ⟨hx, hxa⟩ := List.mem_filter.1 (List.get_mem _ ⟨i, hi⟩)
    obtain ⟨hy, hya⟩ := List.mem_filter.1 (List.get_mem _ ⟨i, hj⟩)
    obtain ⟨hxf, hxu⟩ := tied_notAfter.1 hxa
    obtain ⟨hyf, hyu⟩ := tied_notAfter.1 hya
    exact h _ (mem_merge.1 hx).1 _ (hp.mem_iff.2 (mem_merge.1 hy).1) (hxu.trans hyu.symm)
      (hxf.trans hyf.symm)
  have heq : List.Forall₂ Eq ((merge ss).map g) ((merge ts).map g) :=
    List.forall₂_map_left_iff.2 (List.forall₂_map_right_iff.2 hall)
  rwa [List.forall₂_eq_eq_eq] at heq

/-- The order of swaps does not matter if those that agree in time and identifier are equal. -/
theorem merge_of_perm {ss ts : List Swap} (hp : ss.Perm ts) (h : AgreeOn id ss) :
    merge ss = merge ts := by
  simpa only [List.map_id] using map_merge_of_perm hp h

end SwapMarket.Swap
