import SwapMarket.Proofs.Text.Trimmed
import SwapMarket.Settings.Environment

/-!
# Lines that set variables

A line sets a variable if it has an equals sign, and if what stands before the first one does not
start with a number sign; blanks around the name and around the value do not count (**`Sets`**).
Such lines are found out by trimming the line first and its parts later (`ofLine_eq_some_iff`), and
all other lines are idle (**`IsIdle`**, `ofLine_eq_none_iff`). Of several lines of a text that set
the same variable the first counts (**`FirstSets`**, `lookup_ofText_eq_some_iff`).
-/

namespace SwapMarket.Variables

open Text (AreBlank trimChars head?_trimChars mem_trimChars_iff trimChars_append_cons
  trimChars_dropWhile trimChars_eq_nil_iff trimChars_reverse_dropWhile)

/-- A line sets a variable: it is a name and a value, perhaps among blanks, around an equals sign,
and it is no comment. -/
def Sets (line k v : String) : Prop :=
  ∃ name value : String, line = name ++ "=" ++ value ∧ '=' ∉ name.toList ∧
    Text.trim name = k ∧ Text.trim value = v ∧ k.toList.head? ≠ some '#'

/-- A line is blank, a comment, or without an equals sign. -/
def IsIdle (line : String) : Prop :=
  AreBlank line.toList ∨ (trimChars line.toList).head? = some '#' ∨ '=' ∉ line.toList

instance (line : String) : Decidable (IsIdle line) :=
  inferInstanceAs (Decidable (AreBlank line.toList ∨ (trimChars line.toList).head? = some '#' ∨
    '=' ∉ line.toList))

/-- The first line of a text that sets a variable gives it this value. -/
def FirstSets (text k v : String) : Prop :=
  ∃ before line after, Text.pieces '\n' text = before ++ line :: after ∧ Sets line k v ∧
    ∀ l ∈ before, ∀ w, ¬ Sets l k w

/-- A line of a text sets a variable. -/
def Mentions (text k : String) : Prop := ∃ line ∈ Text.pieces '\n' text, ∃ v, Sets line k v

/-- The lines of a text that are not idle. -/
def busyLines (text : String) : List String :=
  (Text.pieces '\n' text).filter fun line => ¬ IsIdle line

variable {line text k v : String}

/-! ## One line -/

/-- The part before an equals sign starts a comment if and only if the whole line is one. -/
theorem head?_trimChars_line (name value : List Char) :
    (trimChars (name ++ '=' :: value)).head? = some '#' ↔ (trimChars name).head? = some '#' := by
  rw [head?_trimChars name, trimChars_append_cons rfl]
  cases name.dropWhile Text.isBlank with
  | nil => simp
  | cons c cs => simp

/-- A line with an equals sign is cut there, and both parts are trimmed, unless it is a comment. -/
theorem ofLine_append (name value : List Char) (hname : '=' ∉ name) :
    ofLine (.ofList (name ++ '=' :: value)) =
      if (trimChars name).head? = some '#' then none
      else some (.ofList (trimChars name), .ofList (trimChars value)) := by
  have htrim : trimChars (name ++ '=' :: value)
      = name.dropWhile Text.isBlank ++ '=' :: (value.reverse.dropWhile Text.isBlank).reverse :=
    trimChars_append_cons rfl name value
  have hne : trimChars (name ++ '=' :: value) ≠ [] := by
    rw [htrim]
    simp
  have hfree : '=' ∉ name.dropWhile Text.isBlank :=
    fun h => hname ((List.dropWhile_sublist _).mem h)
  have hcut : Text.cutChars '=' (trimChars (name ++ '=' :: value))
      = some (name.dropWhile Text.isBlank, (value.reverse.dropWhile Text.isBlank).reverse) :=
    Text.cutChars_eq_some_iff.2 ⟨htrim, hfree⟩
  unfold ofLine Text.trim Text.cut
  simp only [String.toList_ofList, hcut, head?_trimChars_line]
  by_cases hcomment : (trimChars name).head? = some '#'
  · simp [hcomment]
  · simp [hcomment, hne, trimChars_dropWhile, trimChars_reverse_dropWhile]

/-- Idle lines set nothing, and all others set a variable. -/
theorem ofLine_eq_none_iff : ofLine line = none ↔ IsIdle line := by
  unfold ofLine IsIdle Text.trim Text.cut
  rw [← trimChars_eq_nil_iff, ← mem_trimChars_iff (c := '=') rfl, ← Text.cutChars_eq_none_iff]
  simp only [String.toList_ofList, String.ofList_eq_empty_iff]
  split
  · next h =>
    rcases h with h | h
    · simp [h]
    · simp [h]
  · next h =>
    rw [not_or] at h
    simp [h]

/-- A line sets the variable that is read off it. -/
theorem ofLine_eq_some_iff : ofLine line = some (k, v) ↔ Sets line k v := by
  constructor
  · intro h
    cases hcut : Text.cutChars '=' line.toList with
    | none =>
      have hidle : IsIdle line := .inr (.inr (Text.cutChars_eq_none_iff.1 hcut))
      rw [ofLine_eq_none_iff.2 hidle] at h
      cases h
    | some parts =>
      obtain ⟨name, value⟩ := parts
      obtain ⟨hline, hname⟩ := Text.cutChars_eq_some_iff.1 hcut
      have hline : line = .ofList (name ++ '=' :: value) := by
        rw [← hline, String.ofList_toList]
      rw [hline, ofLine_append name value hname] at h
      split at h
      · cases h
      · next hcomment =>
        cases h
        refine ⟨.ofList name, .ofList value, ?_, ?_, ?_, ?_, ?_⟩
        · rw [hline, ← String.toList_inj]
          simp
        · rwa [String.toList_ofList]
        · rw [Text.trim, String.toList_ofList]
        · rw [Text.trim, String.toList_ofList]
        · rwa [String.toList_ofList]
  · rintro ⟨name, value, rfl, hname, rfl, rfl, hcomment⟩
    have hline : name ++ "=" ++ value = .ofList (name.toList ++ '=' :: value.toList) := by
      rw [← String.toList_inj]
      simp
    rw [Text.trim, String.toList_ofList] at hcomment
    rw [hline, ofLine_append _ _ hname, if_neg hcomment]
    rfl

/-! ## The lines of a text -/

/-- Idle lines do not count. -/
theorem ofText_eq_busyLines (text : String) : ofText text = (busyLines text).filterMap ofLine := by
  unfold ofText busyLines
  induction Text.pieces '\n' text with
  | nil => rfl
  | cons line lines ih =>
    by_cases hidle : IsIdle line
    · simp [hidle, ofLine_eq_none_iff.2 hidle, ih]
    · simp [hidle, List.filterMap_cons, ih]

/-- Texts with the same busy lines set the same variables. -/
theorem ofText_congr {text' : String} (h : busyLines text = busyLines text') :
    ofText text = ofText text' := by
  rw [ofText_eq_busyLines, ofText_eq_busyLines, h]

/-- The value of a variable is that of its first line. -/
theorem lookup_ofText_eq_some_iff : (ofText text).lookup k = some v ↔ FirstSets text k v := by
  unfold ofText FirstSets
  rw [List.lookup_eq_some_iff]
  constructor
  · rintro ⟨es, es', h, hfirst⟩
    obtain ⟨before, rest, hlines, rfl, hrest⟩ := List.filterMap_eq_append_iff.1 h
    obtain ⟨idle, line, after, rfl, hidle, hline, -⟩ := List.filterMap_eq_cons_iff.1 hrest
    refine ⟨before ++ idle, line, after, ?_, ofLine_eq_some_iff.1 hline, ?_⟩
    · rw [hlines, List.append_assoc]
    · intro l hl w hsets
      have hof := ofLine_eq_some_iff.2 hsets
      rcases List.mem_append.1 hl with hl | hl
      · have hne := hfirst (k, w) (List.mem_filterMap.2 ⟨l, hl, hof⟩)
        simp at hne
      · rw [hidle l hl] at hof
        cases hof
  · rintro ⟨before, line, after, hlines, hsets, hfirst⟩
    refine ⟨before.filterMap ofLine, after.filterMap ofLine, ?_, ?_⟩
    · rw [hlines, List.filterMap_append, List.filterMap_cons, ofLine_eq_some_iff.2 hsets]
    · intro e he
      obtain ⟨l, hl, hof⟩ := List.mem_filterMap.1 he
      rw [bne_iff_ne]
      intro hk
      refine hfirst l hl e.2 (ofLine_eq_some_iff.1 ?_)
      rw [hof, hk]

/-- A variable is not set exactly if no line mentions it. -/
theorem lookup_ofText_eq_none_iff : (ofText text).lookup k = none ↔ ¬ Mentions text k := by
  unfold ofText Mentions
  rw [List.lookup_eq_none_iff]
  constructor
  · rintro h ⟨line, hline, v, hsets⟩
    have hne := h (k, v) (List.mem_filterMap.2 ⟨line, hline, ofLine_eq_some_iff.2 hsets⟩)
    simp at hne
  · intro h e he
    obtain ⟨line, hline, hof⟩ := List.mem_filterMap.1 he
    rw [bne_iff_ne]
    intro hk
    refine h ⟨line, hline, e.2, ofLine_eq_some_iff.1 ?_⟩
    rw [hof, hk]

end SwapMarket.Variables
