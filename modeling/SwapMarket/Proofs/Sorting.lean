import Mathlib.Data.List.Forall2

/-!
# Sorted lists with tied elements

An order may leave different elements tied: each may come before the other. A stable sort keeps the
elements that are tied with each other in the order in which they were (`filter_mergeSort`), and a
sorted list is determined by these orders alone (`forall₂_of_filter_tied`, `eq_of_filter_tied`).

Elements may be changed before or after sorting (`filterMap_mergeSort`).
-/

namespace SwapMarket

variable {α : Type} {le : α → α → Bool}

/-- Whether either of two elements may come before the other. -/
def tied (le : α → α → Bool) (a b : α) : Bool := le a b && le b a

/-- Two elements are tied if each may come first. -/
theorem tied_eq_true {a b : α} : tied le a b = true ↔ le a b = true ∧ le b a = true := by
  rw [tied, Bool.and_eq_true]

/-- Elements that are tied with each other stay in their order when a list is sorted. -/
theorem filter_mergeSort (trans : ∀ a b c, le a b = true → le b c = true → le a c = true)
    (total : ∀ a b, (le a b || le b a) = true) {p : α → Bool}
    (hp : ∀ a b, p a = true → p b = true → le a b = true) (l : List α) :
    (l.mergeSort le).filter p = l.filter p := by
  have hsub : List.Sublist (l.filter p) (l.mergeSort le) := by
    refine List.sublist_mergeSort trans total ?_ List.filter_sublist
    refine List.pairwise_of_forall_mem_list fun a ha b hb => ?_
    exact hp a b (List.mem_filter.1 ha).2 (List.mem_filter.1 hb).2
  have hsub' : List.Sublist (l.filter p) ((l.mergeSort le).filter p) := by
    have := hsub.filter p
    simpa only [List.filter_filter, Bool.and_self] using this
  have hlen : (l.filter p).length = ((l.mergeSort le).filter p).length :=
    ((List.mergeSort_perm l le).filter p).length_eq.symm
  exact (hsub'.eq_of_length hlen).symm

/-- Sorting leaves the elements that are tied with some element in their order. -/
theorem filter_tied_mergeSort (trans : ∀ a b c, le a b = true → le b c = true → le a c = true)
    (total : ∀ a b, (le a b || le b a) = true) (l : List α) (a : α) :
    (l.mergeSort le).filter (tied le a) = l.filter (tied le a) :=
  filter_mergeSort trans total
    (fun b c hb hc => trans b a c (tied_eq_true.1 hb).2 (tied_eq_true.1 hc).1) l

/-- Two sorted lists are related element by element if the elements tied with each are, in their
order. -/
theorem forall₂_of_filter_tied {R : α → α → Prop} (refl : ∀ a, le a a = true)
    (trans : ∀ a b c, le a b = true → le b c = true → le a c = true) :
    ∀ {l m : List α}, l.Pairwise (le · ·) → m.Pairwise (le · ·) →
      (∀ a, List.Forall₂ R (l.filter (tied le a)) (m.filter (tied le a))) → List.Forall₂ R l m
  | [], [], _, _, _ => .nil
  | [], b :: m, _, _, h => by
    have hb := h b
    rw [List.filter_cons_of_pos (tied_eq_true.2 ⟨refl b, refl b⟩)] at hb
    cases hb
  | a :: l, [], _, _, h => by
    have ha := h a
    rw [List.filter_cons_of_pos (tied_eq_true.2 ⟨refl a, refl a⟩)] at ha
    cases ha
  | a :: l, b :: m, hl, hm, h => by
    have haa : tied le a a = true := tied_eq_true.2 ⟨refl a, refl a⟩
    have hbb : tied le b b = true := tied_eq_true.2 ⟨refl b, refl b⟩
    -- Each of the two heads is tied with an element of the other list, so they are tied.
    have hab : le a b = true := by
      have hb := h b
      rw [List.filter_cons_of_pos hbb] at hb
      obtain ⟨c, _, -, -, hc⟩ := List.forall₂_cons_right_iff.1 hb
      have hmem : c ∈ (a :: l).filter (tied le b) := by
        rw [hc]
        exact List.mem_cons_self
      obtain ⟨hcl, hcb⟩ := List.mem_filter.1 hmem
      rcases List.mem_cons.1 hcl with rfl | hcl
      · exact (tied_eq_true.1 hcb).2
      · exact trans a c b ((List.pairwise_cons.1 hl).1 c hcl) (tied_eq_true.1 hcb).2
    have hba : le b a = true := by
      have ha := h a
      rw [List.filter_cons_of_pos haa] at ha
      obtain ⟨c, _, -, -, hc⟩ := List.forall₂_cons_left_iff.1 ha
      have hmem : c ∈ (b :: m).filter (tied le a) := by
        rw [hc]
        exact List.mem_cons_self
      obtain ⟨hcm, hca⟩ := List.mem_filter.1 hmem
      rcases List.mem_cons.1 hcm with rfl | hcm
      · exact (tied_eq_true.1 hca).2
      · exact trans b c a ((List.pairwise_cons.1 hm).1 c hcm) (tied_eq_true.1 hca).2
    have heads := h a
    rw [List.filter_cons_of_pos haa, List.filter_cons_of_pos (tied_eq_true.2 ⟨hab, hba⟩)] at heads
    refine .cons (List.forall₂_cons.1 heads).1 ?_
    refine forall₂_of_filter_tied refl trans (List.pairwise_cons.1 hl).2
      (List.pairwise_cons.1 hm).2 fun c => ?_
    have hc := h c
    by_cases hca : tied le c a = true
    · obtain ⟨h₁, h₂⟩ := tied_eq_true.1 hca
      have hcb : tied le c b = true :=
        tied_eq_true.2 ⟨trans c a b h₁ hab, trans b a c hba h₂⟩
      rw [List.filter_cons_of_pos hca, List.filter_cons_of_pos hcb] at hc
      exact (List.forall₂_cons.1 hc).2
    · have hcb : ¬tied le c b = true := by
        intro hcb
        obtain ⟨h₁, h₂⟩ := tied_eq_true.1 hcb
        exact hca (tied_eq_true.2 ⟨trans c b a h₁ hba, trans a b c hab h₂⟩)
      rwa [List.filter_cons_of_neg hca, List.filter_cons_of_neg hcb] at hc

/-- Two sorted lists are equal if they have the same elements in the same order among the elements
tied with each. -/
theorem eq_of_filter_tied (refl : ∀ a, le a a = true)
    (trans : ∀ a b c, le a b = true → le b c = true → le a c = true) {l m : List α}
    (hl : l.Pairwise (le · ·)) (hm : m.Pairwise (le · ·))
    (h : ∀ a, l.filter (tied le a) = m.filter (tied le a)) : l = m := by
  have hall : List.Forall₂ Eq l m := by
    refine forall₂_of_filter_tied refl trans hl hm fun a => ?_
    rw [h a, List.forall₂_eq_eq_eq]
  rwa [List.forall₂_eq_eq_eq] at hall

/-- Changing every element before or after sorting is the same, if the orders agree. -/
theorem filterMap_mergeSort {β : Type} {g : α → Option β} {r : β → β → Bool} {l : List α}
    (hg : ∀ a ∈ l, ∃ x, g a = some x)
    (h : ∀ a ∈ l, ∀ b ∈ l, ∀ x y, g a = some x → g b = some y → le a b = r x y) :
    (l.mergeSort le).filterMap g = (l.filterMap g).mergeSort r := by
  cases l with
  | nil => simp
  | cons c l =>
    obtain ⟨z, -⟩ := hg c List.mem_cons_self
    have hmap : ∀ m : List α, (∀ a ∈ m, a ∈ c :: l) →
        m.filterMap g = m.map fun a => (g a).getD z := by
      intro m hm
      rw [← List.filterMap_eq_map]
      refine List.filterMap_congr fun a ha => ?_
      obtain ⟨x, hx⟩ := hg a (hm a ha)
      simp [hx]
    rw [hmap _ fun a ha => List.mem_mergeSort.1 ha, hmap _ fun a ha => ha]
    refine List.map_mergeSort fun a ha b hb => ?_
    obtain ⟨x, hx⟩ := hg a ha
    obtain ⟨y, hy⟩ := hg b hb
    rw [hx, hy]
    exact h a ha b hb x y hx hy

end SwapMarket
