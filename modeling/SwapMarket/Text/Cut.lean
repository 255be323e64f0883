import SwapMarket.Text.Blank

/-!
# Cutting texts at a character

**`cut`** splits a text at the first occurrence of a character, and fails when there is none.
**`pieces`** splits at every occurrence. **`items`** reads a comma separated list: its items are
trimmed, and empty ones are dropped.

`cutChars_eq_some_iff` says what a cut is without reference to how it is found.
-/

namespace SwapMarket.Text

/-- The characters before and after the first `c`. -/
def cutChars (c : Char) : List Char → Option (List Char × List Char)
  | [] => none
  | d :: r =>
    if d = c then some ([], r) else (cutChars c r).map fun p => (d :: p.1, p.2)

/-- The parts of a text before and after its first `c`. -/
def cut (c : Char) (s : String) : Option (String × String) :=
  (cutChars c s.toList).map fun p => (.ofList p.1, .ofList p.2)

/-- The part of a text before its first `c`, or all of it. -/
def before (c : Char) (s : String) : String :=
  match cut c s with
  | some (a, _) => a
  | none => s

/-- All parts of a text between occurrences of `c`; a text without `c` is one piece. -/
def pieces (c : Char) (s : String) : List String :=
  (s.toList.splitOn c).map .ofList

/-- The non-empty trimmed items of a comma separated list. -/
def items (s : String) : List String :=
  ((pieces ',' s).map trim).filter (· ≠ "")

/-- A cut at `c` is a decomposition around a `c` that has no other before it. -/
theorem cutChars_eq_some_iff {c : Char} {s a b : List Char} :
    cutChars c s = some (a, b) ↔ s = a ++ c :: b ∧ c ∉ a := by
  induction s generalizing a with
  | nil => simp [cutChars]
  | cons d r ih =>
    by_cases h : d = c
    · subst h
      constructor
      · intro e
        simp only [cutChars, if_true, Option.some.injEq, Prod.mk.injEq] at e
        obtain ⟨rfl, rfl⟩ := e
        simp
      · rintro ⟨e, hn⟩
        cases a with
        | nil => simp only [List.nil_append, List.cons.injEq, true_and] at e; simp [cutChars, e]
        | cons x xs =>
          simp only [List.cons_append, List.cons.injEq] at e
          exact absurd (by simp [e.1]) hn
    · constructor
      · intro e
        simp only [cutChars, if_neg h, Option.map_eq_some_iff] at e
        obtain ⟨⟨x, y⟩, hxy, he⟩ := e
        simp only [Prod.mk.injEq] at he
        obtain ⟨rfl, rfl⟩ := he
        obtain ⟨rfl, hx⟩ := ih.1 hxy
        simp [hx, Ne.symm h]
      · rintro ⟨e, hn⟩
        cases a with
        | nil => simp only [List.nil_append, List.cons.injEq] at e; exact absurd e.1 h
        | cons x xs =>
          simp only [List.cons_append, List.cons.injEq] at e
          simp only [List.mem_cons, not_or] at hn
          simp [cutChars, ih.2 ⟨e.2, hn.2⟩, e.1, Ne.symm hn.1]

/-- There is no cut exactly when the character does not occur. -/
theorem cutChars_eq_none_iff {c : Char} {s : List Char} : cutChars c s = none ↔ c ∉ s := by
  induction s with
  | nil => simp [cutChars]
  | cons d r ih =>
    by_cases h : d = c
    · simp [cutChars, h]
    · simp [cutChars, h, ih, Ne.symm h]

end SwapMarket.Text
