import SwapMarket.Proofs.Sorting
import SwapMarket.Proofs.Table
import Mathlib.Data.List.Induction

/-!
# The greatest element of each key

Elements of a list are gone through, and in a table it is noted of each key which element was the
greatest so far (**`noteGreatest`**); of elements tied with each other the first one stays.

* **`IsFirstGreatest`**: an element is the one that is noted in the end.
* **`find?_foldl_noteGreatest`**: it is.
* **`head?_mergeSort_eq_some_iff`**, **`getLast?_mergeSort_eq_some_iff`**: the ends of a sorted list
  are the least and the greatest element of all.
-/

namespace SwapMarket

variable {α β : Type} {le : α → α → Bool} {p : α → Bool} {l : List α} {w x : α}

/-- An element is the greatest of its kind in a list, and the first of those tied with it. -/
structure IsFirstGreatest (le : α → α → Bool) (p : α → Bool) (l : List α) (w : α) : Prop where
  /-- None of its kind is greater. -/
  greatest : ∀ x ∈ l, p x = true → le x w = true
  /-- It is the first of its kind that is tied with it. -/
  first : l.find? (fun x => p x && tied le w x) = some w

namespace IsFirstGreatest

/-- What is greatest is in the list. -/
theorem mem (h : IsFirstGreatest le p l w) : w ∈ l := List.mem_of_find?_eq_some h.first

/-- It is one of those that count. -/
theorem holds (h : IsFirstGreatest le p l w) : p w = true := by
  have := List.find?_some h.first
  exact (Bool.and_eq_true _ _ ▸ this).1

/-- There is one at most. -/
theorem unique (trans : ∀ a b c, le a b = true → le b c = true → le a c = true)
    (hw : IsFirstGreatest le p l w) (hx : IsFirstGreatest le p l x) : w = x := by
  have hwx := hx.greatest w hw.mem hw.holds
  have hxw := hw.greatest x hx.mem hx.holds
  have htied : ∀ y, tied le w y = tied le x y := by
    intro y
    rw [Bool.eq_iff_iff, tied_eq_true, tied_eq_true]
    constructor
    · rintro ⟨hwy, hyw⟩
      exact ⟨trans _ _ _ hxw hwy, trans _ _ _ hyw hwx⟩
    · rintro ⟨hxy, hyx⟩
      exact ⟨trans _ _ _ hwx hxy, trans _ _ _ hyx hxw⟩
  have hfirst := hw.first
  simp only [htied, hx.first] at hfirst
  exact (Option.some.inj hfirst).symm

/-- An element of another kind does not matter. -/
theorem append_iff (hx : p x = false) :
    IsFirstGreatest le p (l ++ [x]) w ↔ IsFirstGreatest le p l w := by
  have hfind : (l ++ [x]).find? (fun y => p y && tied le w y)
      = l.find? fun y => p y && tied le w y := by
    rw [List.find?_append, List.find?_cons_of_neg (by simp [hx]), List.find?_nil, Option.or_none]
  constructor
  · intro h
    exact ⟨fun y hy => h.greatest y (List.mem_append_left _ hy), hfind ▸ h.first⟩
  · intro h
    refine ⟨fun y hy hp => ?_, hfind.trans h.first⟩
    rcases List.mem_append.1 hy with hy | hy
    · exact h.greatest y hy hp
    · rw [List.mem_singleton.1 hy, hx] at hp
      cases hp

/-- An element that is not greater does not replace it. -/
theorem append (h : IsFirstGreatest le p l w) (hx : le x w = true) :
    IsFirstGreatest le p (l ++ [x]) w := by
  refine ⟨fun y hy hp => ?_, ?_⟩
  · rcases List.mem_append.1 hy with hy | hy
    · exact h.greatest y hy hp
    · rw [List.mem_singleton.1 hy]
      exact hx
  · rw [List.find?_append, h.first]
    rfl

/-- An element that is greater than all before it takes its place. -/
theorem append_self (refl : ∀ a, le a a = true) (hx : p x = true)
    (h : ∀ y ∈ l, p y = true → le y x = true ∧ le x y = false) :
    IsFirstGreatest le p (l ++ [x]) x := by
  refine ⟨fun y hy hp => ?_, ?_⟩
  · rcases List.mem_append.1 hy with hy | hy
    · exact (h y hy hp).1
    · rw [List.mem_singleton.1 hy]
      exact refl x
  · have hnone : l.find? (fun y => p y && tied le x y) = none := by
      rw [List.find?_eq_none]
      intro y hy ht
      rw [Bool.and_eq_true, tied_eq_true] at ht
      have := (h y hy ht.1).2
      rw [ht.2.1] at this
      cases this
    rw [List.find?_append, hnone, Option.none_or, List.find?_cons_of_pos (by simp [hx, tied, refl])]

/-- Looking among some of the elements only is looking for another kind. -/
theorem filter_iff {q : α → Bool} :
    IsFirstGreatest le p (l.filter q) w ↔ IsFirstGreatest le (fun x => q x && p x) l w := by
  have hfind : (l.filter q).find? (fun x => p x && tied le w x)
      = l.find? fun x => q x && p x && tied le w x := by
    rw [List.find?_filter]
    congr 1
    funext x
    rw [Bool.eq_iff_iff]
    simp only [Bool.and_eq_true, decide_eq_true_eq, and_assoc]
  constructor
  · intro h
    refine ⟨fun x hx hp => ?_, hfind.symm.trans h.first⟩
    rw [Bool.and_eq_true] at hp
    exact h.greatest x (List.mem_filter.2 ⟨hx, hp.1⟩) hp.2
  · intro h
    refine ⟨fun x hx hp => ?_, hfind.trans h.first⟩
    obtain ⟨hx, hq⟩ := List.mem_filter.1 hx
    exact h.greatest x hx (by rw [Bool.and_eq_true]; exact ⟨hq, hp⟩)

end IsFirstGreatest

section Order

variable (trans : ∀ a b c, le a b = true → le b c = true → le a c = true)
  (total : ∀ a b, (le a b || le b a) = true)

include total in
/-- What is comparable with everything is not after itself. -/
theorem refl_of_total (a : α) : le a a = true := by
  have := total a a
  rwa [Bool.or_self] at this

include trans total

/-- The next element takes the place of the greatest one if it is greater. -/
theorem IsFirstGreatest.step (h : IsFirstGreatest le p l w) (hx : p x = true) :
    IsFirstGreatest le p (l ++ [x]) (if le x w then w else x) := by
  by_cases hle : le x w = true
  · rw [if_pos hle]
    exact h.append hle
  · rw [if_neg hle]
    have hwx : le w x = true := by
      have := total x w
      rw [Bool.or_eq_true] at this
      exact this.resolve_left hle
    refine .append_self (refl_of_total total) hx fun y hy hp => ?_
    have hyw := h.greatest y hy hp
    refine ⟨trans _ _ _ hyw hwx, ?_⟩
    rw [Bool.eq_false_iff]
    exact fun hxy => hle (trans _ _ _ hxy hyw)

/-- If a list has elements of some kind, it has a greatest one. -/
theorem exists_isFirstGreatest (hx : ∃ x ∈ l, p x = true) : ∃ w, IsFirstGreatest le p l w := by
  induction l using List.reverseRecOn with
  | nil => simp at hx
  | append_singleton l y ih =>
    by_cases hy : p y = true
    · by_cases hl : ∃ x ∈ l, p x = true
      · obtain ⟨w, hw⟩ := ih hl
        exact ⟨_, hw.step trans total hy⟩
      · refine ⟨y, .append_self (refl_of_total total) hy fun z hz hp => ?_⟩
        exact absurd ⟨z, hz, hp⟩ hl
    · obtain ⟨x, hx, hp⟩ := hx
      rcases List.mem_append.1 hx with hx | hx
      · obtain ⟨w, hw⟩ := ih ⟨x, hx, hp⟩
        exact ⟨w, (IsFirstGreatest.append_iff (by simpa using hy)).2 hw⟩
      · rw [List.mem_singleton.1 hx] at hp
        exact absurd hp hy

end Order

/-- The table with an element noted under its key, unless one is noted that is not smaller. The note
on an element is `f x`, and `g` reads it. -/
def noteGreatest (le : α → α → Bool) (key : α → String) (f : α → β) (g : β → α) (t : Table β)
    (x : α) : Table β :=
  match t.find? (key x) with
  | some v => if le x (g v) then t else t.insert (key x) (f x)
  | none => t.insert (key x) (f x)

/-- What is noted of a key in the end is its greatest element. -/
theorem find?_foldl_noteGreatest
    (trans : ∀ a b c, le a b = true → le b c = true → le a c = true)
    (total : ∀ a b, (le a b || le b a) = true) {key : α → String} {f : α → β} {g : β → α}
    (hg : ∀ x, g (f x) = x) {k : String} {v : β} :
    (l.foldl (noteGreatest le key f g) .empty).find? k = some v ↔
      ∃ w, v = f w ∧ IsFirstGreatest le (fun x => key x == k) l w := by
  induction l using List.reverseRecOn generalizing k v with
  | nil =>
    constructor
    · intro h
      cases h
    · rintro ⟨w, -, hw⟩
      cases hw.mem
  | append_singleton l x ih =>
    rw [List.foldl_append]
    show (noteGreatest le key f g _ x).find? k = _ ↔ _
    generalize ht : l.foldl (noteGreatest le key f g) .empty = t at ih ⊢
    by_cases hk : key x = k
    · have hp : (fun y => key y == k) x = true := beq_iff_eq.2 hk
      -- It is enough to find the right note.
      have key' : ∀ w, (noteGreatest le key f g t x).find? k = some (f w) →
          IsFirstGreatest le (fun y => key y == k) (l ++ [x]) w →
          ((noteGreatest le key f g t x).find? k = some v ↔
            ∃ w, v = f w ∧ IsFirstGreatest le (fun y => key y == k) (l ++ [x]) w) := by
        intro w hw hgreatest
        rw [hw]
        constructor
        · intro h
          exact ⟨w, (Option.some.inj h).symm, hgreatest⟩
        · rintro ⟨w', rfl, hw'⟩
          rw [hgreatest.unique trans hw']
      by_cases hl : ∃ y ∈ l, (fun y => key y == k) y = true
      · obtain ⟨w, hw⟩ := exists_isFirstGreatest trans total hl
        have hfind : t.find? (key x) = some (f w) := by
          rw [hk]
          exact ih.2 ⟨w, rfl, hw⟩
        refine key' _ ?_ (hw.step trans total hp)
        simp only [noteGreatest, hfind, hg]
        split
        · rw [← hk, hfind]
        · rw [Table.find?_insert, if_pos hk.symm]
      · have hfind : t.find? (key x) = none := by
          rw [Option.eq_none_iff_forall_ne_some]
          intro u hu
          rw [hk] at hu
          obtain ⟨w, -, hw⟩ := ih.1 hu
          exact hl ⟨w, hw.mem, hw.holds⟩
        refine key' x ?_ (.append_self (refl_of_total total) hp fun y hy hp' => ?_)
        · simp only [noteGreatest, hfind]
          rw [Table.find?_insert, if_pos hk.symm]
        · exact absurd ⟨y, hy, hp'⟩ hl
    · have hsame : (noteGreatest le key f g t x).find? k = t.find? k := by
        unfold noteGreatest
        split
        · split
          · rfl
          · rw [Table.find?_insert, if_neg (Ne.symm hk)]
        · rw [Table.find?_insert, if_neg (Ne.symm hk)]
      rw [hsame, ih]
      have hp : (fun y => key y == k) x = false := beq_eq_false_iff_ne.2 hk
      exact exists_congr fun w => and_congr_right fun _ =>
        (IsFirstGreatest.append_iff (p := fun y => key y == k) hp).symm

/-! ## The ends of a sorted list -/

/-- The first element of a descending list is the greatest one, and the first of those tied with it,
if the list has those in the order in which they were. -/
theorem isFirstGreatest_of_descending {m : List α} (refl : ∀ a, le a a = true)
    (hsorted : m.Pairwise fun a b => le b a = true) (hperm : m.Perm (l.filter p))
    (htied : m.filter (tied le w) = (l.filter p).filter (tied le w))
    (h : m.head? = some w) : IsFirstGreatest le p l w := by
  obtain ⟨rest, rfl⟩ := List.head?_eq_some_iff.1 h
  refine ⟨fun x hx hp => ?_, ?_⟩
  · rcases List.mem_cons.1 (hperm.mem_iff.2 (List.mem_filter.2 ⟨hx, hp⟩)) with rfl | hx
    · exact refl x
    · exact (List.pairwise_cons.1 hsorted).1 x hx
  · rw [← List.head?_filter, ← List.filter_filter, List.filter_comm, ← htied,
      List.filter_cons_of_pos (tied_eq_true.2 ⟨refl w, refl w⟩), List.head?_cons]

section Sorted

variable (trans : ∀ a b c, le a b = true → le b c = true → le a c = true)
  (total : ∀ a b, (le a b || le b a) = true)

include trans total

/-- The first element of a sorted list is the least one, and the first of those tied with it. -/
theorem head?_mergeSort_eq_some_iff : ((l.filter p).mergeSort le).head? = some w ↔
    IsFirstGreatest (fun a b => le b a) p l w := by
  have hflip : tied (fun a b => le b a) = tied le := by
    funext a b
    exact Bool.and_comm _ _
  have hfirst : ∀ w, ((l.filter p).mergeSort le).head? = some w →
      IsFirstGreatest (fun a b => le b a) p l w := by
    intro w h
    refine isFirstGreatest_of_descending (fun a => by simpa using total a a)
      (List.pairwise_mergeSort trans total _) (List.mergeSort_perm _ le) ?_ h
    rw [hflip, filter_tied_mergeSort trans total]
  refine ⟨hfirst w, fun h => ?_⟩
  have hne : (l.filter p).mergeSort le ≠ [] :=
    List.ne_nil_of_mem (List.mem_mergeSort.2 (List.mem_filter.2 ⟨h.mem, h.holds⟩))
  obtain ⟨v, hv⟩ := Option.isSome_iff_exists.1 (List.isSome_head?.2 hne)
  rw [hv, (hfirst v hv).unique (fun a b c hab hbc => trans c b a hbc hab) h]

/-- The last element of a sorted list is the greatest one, and the last of those tied with it. -/
theorem getLast?_mergeSort_eq_some_iff : ((l.filter p).mergeSort le).getLast? = some w ↔
    IsFirstGreatest le p l.reverse w := by
  have hlast : ∀ w, ((l.filter p).mergeSort le).getLast? = some w →
      IsFirstGreatest le p l.reverse w := by
    intro w h
    refine isFirstGreatest_of_descending (m := ((l.filter p).mergeSort le).reverse)
      (fun a => by simpa using total a a)
      (List.pairwise_reverse.2 (List.pairwise_mergeSort trans total _)) ?_ ?_ ?_
    · rw [List.filter_reverse]
      exact (List.reverse_perm _).trans
        ((List.mergeSort_perm _ le).trans (List.reverse_perm _).symm)
    · rw [List.filter_reverse, List.filter_reverse, List.filter_reverse,
        filter_tied_mergeSort trans total]
    · rw [List.head?_reverse]
      exact h
  refine ⟨hlast w, fun h => ?_⟩
  have hne : (l.filter p).mergeSort le ≠ [] :=
    List.ne_nil_of_mem (List.mem_mergeSort.2
      (List.mem_filter.2 ⟨List.mem_reverse.1 h.mem, h.holds⟩))
  obtain ⟨v, hv⟩ := Option.isSome_iff_exists.1 (List.getLast?_isSome.2 hne)
  rw [hv, (hlast v hv).unique trans h]

end Sorted

end SwapMarket
