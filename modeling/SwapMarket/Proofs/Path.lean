import SwapMarket.Path

/-!
# Files in a folder

A **plain** name (`IsPlain`) names something in its folder and leads nowhere else. A plain name
below a path is one more component of it, whatever the path is (`components_join`), and all
components are plain names (`isPlain_of_mem_components`).
-/

namespace SwapMarket.Path

/-- Walking over more names goes on from where the first ones lead. -/
theorem walk_append (done ns ms : List String) : walk done (ns ++ ms) = walk (walk done ns) ms := by
  induction ns generalizing done with
  | nil => rfl
  | cons n ns ih =>
    simp only [List.cons_append, walk]
    split
    · exact ih done
    · split
      · exact ih done.tail
      · exact ih (n :: done)

/-- A text that names something in its folder and leads nowhere else. -/
structure IsPlain (n : String) : Prop where
  /-- It does not end a folder. -/
  noSlash : '/' ∉ n.toList
  /-- It is not left out. -/
  kept : n ≠ "" ∧ n ≠ "." ∧ n ≠ ".."

instance (n : String) : Decidable (IsPlain n) :=
  decidable_of_iff ('/' ∉ n.toList ∧ n ≠ "" ∧ n ≠ "." ∧ n ≠ "..")
    ⟨fun h => ⟨h.1, h.2⟩, fun h => ⟨h.noSlash, h.kept⟩⟩

/-- A plain name does not begin with a slash. -/
theorem IsPlain.head?_ne {n : String} (h : IsPlain n) : n.toList.head? ≠ some '/' := by
  intro e
  exact h.noSlash (List.mem_of_mem_head? e)

/-- A plain name is one more step. -/
theorem walk_plain {n : String} (h : IsPlain n) (done : List String) :
    walk done [n] = n :: done := by
  obtain ⟨h0, h1, h2⟩ := h.kept
  simp [walk, h0, h1, h2]

/-- A path that goes on after a slash goes on from where it leads so far. -/
theorem components_slash (p q : String) (h : IsPlain q) :
    components (p ++ "/" ++ q) = components p ++ [q] := by
  have hs : (p ++ "/" ++ q).toList.splitOn '/' = p.toList.splitOn '/' ++ [q.toList] := by
    have : (p ++ "/" ++ q).toList = p.toList ++ '/' :: q.toList := by simp
    rw [this, List.splitOn_append_cons_self, List.splitOn_eq_singleton h.noSlash]
  unfold components
  rw [hs, List.map_append, walk_append]
  simp [walk_plain h]

/-- A trailing slash adds no name. -/
theorem components_slash_nil (p : String) : components (p ++ "/") = components p := by
  have hs : (p ++ "/").toList.splitOn '/' = p.toList.splitOn '/' ++ [[]] := by
    have : (p ++ "/").toList = p.toList ++ '/' :: [] := by simp
    rw [this, List.splitOn_append_cons_self, List.splitOn_nil]
  unfold components
  rw [hs, List.map_append, walk_append]
  simp [walk]

/-- A plain name below a path is one more name. -/
theorem components_join (p : String) {n : String} (h : IsPlain n) :
    components (join p n) = components p ++ [n] := by
  unfold join
  rw [if_neg h.head?_ne]
  split
  · next hp =>
    rcases hp with rfl | hp
    · have hs : n.toList.splitOn '/' = [n.toList] := List.splitOn_eq_singleton h.noSlash
      have he : components "" = [] := by decide
      rw [he, String.empty_append]
      unfold components
      rw [hs]
      simp [walk_plain h]
    · obtain ⟨cs, hcs⟩ := List.getLast?_eq_some_iff.1 hp
      have hb : p = String.ofList cs ++ "/" := by
        apply String.toList_inj.1
        simp [hcs]
      rw [hb, components_slash _ _ h, components_slash_nil]
  · exact components_slash p n h

/-- The length in bytes of a plain name below a path. -/
theorem utf8ByteSize_join (p : String) :
    ∃ k, ∀ n : String, n.toList.head? ≠ some '/' →
      (join p n).utf8ByteSize = k + n.utf8ByteSize := by
  by_cases hp : p = "" ∨ p.toList.getLast? = some '/'
  · refine ⟨p.utf8ByteSize, ?_⟩
    intro n hn
    simp only [join]
    rw [if_neg hn, if_pos hp, String.utf8ByteSize_append]
  · refine ⟨(p ++ "/").utf8ByteSize, ?_⟩
    intro n hn
    simp only [join]
    rw [if_neg hn, if_neg hp, String.utf8ByteSize_append]

/-- A path below another one has no character zero if neither has one. -/
theorem hasNoZero_join {p n : String} (hn : n.toList.head? ≠ some '/') :
    hasNoZero (join p n) = (hasNoZero p && hasNoZero n) := by
  unfold join
  rw [if_neg hn]
  split <;> simp [hasNoZero]

/-- The parts of a text between slashes have none. -/
theorem not_mem_of_mem_splitOn {cs : List Char} {x : List Char} (h : x ∈ cs.splitOn '/') :
    '/' ∉ x := by
  induction hn : cs.length using Nat.strongRecOn generalizing cs with
  | ind n ih =>
    by_cases hc : '/' ∈ cs
    · obtain ⟨as, bs, he, has⟩ := List.eq_append_cons_of_mem hc
      rw [he, List.splitOn_append_cons_self, List.splitOn_eq_singleton has] at h
      rcases List.mem_append.1 h with h | h
      · rw [List.mem_singleton.1 h]
        exact has
      · refine ih bs.length ?_ h rfl
        rw [← hn, he, List.length_append, List.length_cons]
        omega
    · rw [List.splitOn_eq_singleton hc, List.mem_singleton] at h
      rw [h]
      exact hc

/-- Walking over plain names leads to plain names. -/
theorem isPlain_of_mem_walk {ns done : List String} (hd : ∀ k ∈ done, IsPlain k)
    (hn : ∀ k ∈ ns, '/' ∉ k.toList) {k : String} (h : k ∈ walk done ns) : IsPlain k := by
  induction ns generalizing done with
  | nil => exact hd k h
  | cons n ns ih =>
    obtain ⟨hslash, hrest⟩ := List.forall_mem_cons.1 hn
    unfold walk at h
    split at h
    · exact ih hd hrest h
    · next h₀ =>
      split at h
      · exact ih (fun k hk => hd k (List.mem_of_mem_tail hk)) hrest h
      · next h₁ =>
        rw [not_or] at h₀
        exact ih (List.forall_mem_cons.2 ⟨⟨hslash, h₀.1, h₀.2, h₁⟩, hd⟩) hrest h

/-- The names of a path are plain. -/
theorem isPlain_of_mem_components {p k : String} (h : k ∈ components p) : IsPlain k := by
  refine isPlain_of_mem_walk (fun k hk => absurd hk List.not_mem_nil) ?_ (List.mem_reverse.1 h)
  intro n hn
  obtain ⟨x, hx, rfl⟩ := List.mem_map.1 hn
  rw [String.toList_ofList]
  exact not_mem_of_mem_splitOn hx

end SwapMarket.Path
