import SwapMarket.Text.Blank
import Mathlib.Data.List.TakeWhile

/-!
# Trimmed texts

A text is trimmed (**`IsTrimmed`**) if it neither starts nor ends with a blank. What is left of a
text when the blanks at its ends are dropped is the one trimmed text with which it is the same up to
blanks at the ends (`trimChars_eq_iff`).
-/

namespace SwapMarket.Text

/-- All characters are blank. -/
def AreBlank (cs : List Char) : Prop := ∀ c ∈ cs, isBlank c = true

instance (cs : List Char) : Decidable (AreBlank cs) :=
  inferInstanceAs (Decidable (∀ c ∈ cs, isBlank c = true))

/-- There are no blanks at the ends. -/
structure IsTrimmed (cs : List Char) : Prop where
  /-- The first character is not blank. -/
  head : ∀ c ∈ cs.head?, isBlank c = false
  /-- The last one is not blank. -/
  last : ∀ c ∈ cs.getLast?, isBlank c = false

variable {a b cs t : List Char} {c : Char}

/-- Blanks before a text are dropped. -/
theorem trimChars_blank_append (h : AreBlank a) (cs : List Char) :
    trimChars (a ++ cs) = trimChars cs := by
  unfold trimChars
  rw [List.dropWhile_append_of_pos h]

/-- Blanks after a text are dropped. -/
theorem trimChars_append_blank (cs : List Char) (h : AreBlank b) :
    trimChars (cs ++ b) = trimChars cs := by
  have hreverse : ∀ c ∈ b.reverse, isBlank c = true := fun c hc => h c (List.mem_reverse.1 hc)
  unfold trimChars
  rw [List.dropWhile_append]
  split
  · next hall =>
    rw [List.dropWhile_eq_nil_iff.2 h, List.isEmpty_iff.1 hall]
  · rw [List.reverse_append, List.dropWhile_append_of_pos hreverse]

/-- What is left when blanks are dropped does not start with one. -/
theorem isBlank_head_dropWhile (cs : List Char) :
    ∀ c ∈ (cs.dropWhile isBlank).head?, isBlank c = false := by
  intro c hc
  have hnot := List.head?_dropWhile_not isBlank cs
  rw [Option.mem_def.1 hc] at hnot
  exact hnot

/-- The blanks at the start are blank. -/
theorem areBlank_takeWhile (cs : List Char) : AreBlank (cs.takeWhile isBlank) := by
  intro c hc
  exact List.mem_takeWhile_imp hc

/-- Only blanks are dropped, and none is left at the ends. -/
theorem exists_trimChars (cs : List Char) :
    IsTrimmed (trimChars cs) ∧ ∃ a b, AreBlank a ∧ AreBlank b ∧ cs = a ++ trimChars cs ++ b := by
  let ds := cs.dropWhile isBlank
  let b := (ds.reverse.takeWhile isBlank).reverse
  have hds : trimChars cs ++ b = ds := by
    unfold trimChars b
    rw [← List.reverse_append, List.takeWhile_append_dropWhile, List.reverse_reverse]
  have hb : AreBlank b := by
    intro c hc
    exact areBlank_takeWhile _ c (List.mem_reverse.1 hc)
  refine ⟨⟨?_, ?_⟩, cs.takeWhile isBlank, b, areBlank_takeWhile cs, hb, ?_⟩
  · intro c hc
    -- What the trimmed text starts with is what is left in front before the end is trimmed.
    refine isBlank_head_dropWhile cs c ?_
    show c ∈ ds.head?
    rw [← hds, List.head?_append, Option.mem_def.1 hc]
    rfl
  · intro c hc
    unfold trimChars at hc
    rw [List.getLast?_reverse] at hc
    exact isBlank_head_dropWhile _ c hc
  · rw [List.append_assoc, hds]
    exact (List.takeWhile_append_dropWhile).symm

/-- The trimmed form of a text is the trimmed text that is left without blanks at the ends. -/
theorem trimChars_eq_iff : trimChars cs = t ↔
    IsTrimmed t ∧ ∃ a b, AreBlank a ∧ AreBlank b ∧ cs = a ++ t ++ b := by
  constructor
  · rintro rfl
    exact exists_trimChars cs
  · rintro ⟨ht, a, b, ha, hb, rfl⟩
    rw [trimChars_append_blank _ hb, trimChars_blank_append ha]
    exact trimChars_eq_self ht.head ht.last

/-- Nothing is left of blanks, and of nothing else. -/
theorem trimChars_eq_nil_iff : trimChars cs = [] ↔ AreBlank cs := by
  rw [trimChars_eq_iff]
  constructor
  · rintro ⟨-, a, b, ha, hb, rfl⟩
    intro c hc
    simp only [List.append_nil, List.mem_append] at hc
    exact hc.elim (ha c) (hb c)
  · intro h
    exact ⟨⟨nofun, nofun⟩, cs, [], h, nofun, by simp⟩

/-- A character other than a blank stays. -/
theorem mem_trimChars_iff (hc : isBlank c = false) : c ∈ trimChars cs ↔ c ∈ cs := by
  obtain ⟨-, a, b, ha, hb, hcs⟩ := exists_trimChars cs
  have hblank {ds : List Char} (hds : AreBlank ds) : c ∉ ds := by
    intro hmem
    rw [hds c hmem] at hc
    cases hc
  constructor
  · intro h
    rw [hcs]
    exact List.mem_append_left _ (List.mem_append_right _ h)
  · intro h
    rw [hcs] at h
    simp only [List.mem_append, hblank ha, hblank hb, false_or, or_false] at h
    exact h

/-! ## Around a character -/

/-- What stands before a character that is not blank may have blanks at its start. -/
theorem dropWhile_append_cons (hc : isBlank c = false) (cs ds : List Char) :
    (cs ++ c :: ds).dropWhile isBlank = cs.dropWhile isBlank ++ c :: ds := by
  induction cs with
  | nil => simp [hc]
  | cons d cs ih =>
    by_cases hd : isBlank d = true
    · simp [hd, ih]
    · simp [hd]

/-- Around a character other than a blank, a text is trimmed on either side. -/
theorem trimChars_append_cons (hc : isBlank c = false) (cs ds : List Char) :
    trimChars (cs ++ c :: ds)
      = cs.dropWhile isBlank ++ c :: (ds.reverse.dropWhile isBlank).reverse := by
  unfold trimChars
  rw [dropWhile_append_cons hc, List.reverse_append, List.reverse_cons, List.append_assoc,
    List.singleton_append, dropWhile_append_cons hc, List.reverse_append, List.reverse_cons,
    List.reverse_reverse, List.append_assoc, List.singleton_append]

/-- Blanks at the start do not matter. -/
theorem trimChars_dropWhile (cs : List Char) : trimChars (cs.dropWhile isBlank) = trimChars cs := by
  calc trimChars (cs.dropWhile isBlank)
      = trimChars (cs.takeWhile isBlank ++ cs.dropWhile isBlank) :=
        (trimChars_blank_append (areBlank_takeWhile cs) _).symm
    _ = trimChars cs := by rw [List.takeWhile_append_dropWhile]

/-- Blanks at the end do not matter. -/
theorem trimChars_reverse_dropWhile (cs : List Char) :
    trimChars (cs.reverse.dropWhile isBlank).reverse = trimChars cs := by
  have hblank : AreBlank (cs.reverse.takeWhile isBlank).reverse := by
    intro c hc
    exact areBlank_takeWhile _ c (List.mem_reverse.1 hc)
  calc trimChars (cs.reverse.dropWhile isBlank).reverse
      = trimChars ((cs.reverse.dropWhile isBlank).reverse
          ++ (cs.reverse.takeWhile isBlank).reverse) := (trimChars_append_blank _ hblank).symm
    _ = trimChars cs := by
      rw [← List.reverse_append, List.takeWhile_append_dropWhile, List.reverse_reverse]

/-- The first character that is left is the first that is not blank. -/
theorem head?_trimChars (cs : List Char) : (trimChars cs).head? = (cs.dropWhile isBlank).head? := by
  cases hds : cs.dropWhile isBlank with
  | nil =>
    unfold trimChars
    rw [hds]
    rfl
  | cons d ds =>
    have hd : isBlank d = false := isBlank_head_dropWhile cs d (by rw [hds]; rfl)
    have htrim : trimChars (d :: ds) = d :: (ds.reverse.dropWhile isBlank).reverse :=
      trimChars_append_cons hd [] ds
    rw [← trimChars_dropWhile, hds, htrim]
    rfl

end SwapMarket.Text
