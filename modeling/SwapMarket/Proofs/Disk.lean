import SwapMarket.Disk

/-!
# What making folders and placing files leaves alone

Making a folder makes nothing but folders, at its location and above it (`find?_makeFolder`).
**`Placed`** says what a disk has after a file was placed: the file, and otherwise what was there
before or new folders above the file. The files beside it are as they were
(`Placed.find?_beside`), and the way to all of them is open (`Placed.isBlocked`).

Whether a file can be placed does not hang on what is in it (**`canPlace`**, `exists_place_iff`),
and placing one file does not change whether another can be placed beside it (`Placed.canPlace`).
-/

namespace SwapMarket.Disk

/-- The top of a disk is a folder. -/
theorem find?_nil (d : Disk) : d.find? [] = some .folder := rfl

/-- A location is above another one if it is a proper beginning of it. -/
theorem mem_above {a l : Location} : a ∈ above l ↔ ∃ i < l.length, l.take i = a := by
  simp [above]

/-- What is above a location in a folder is the folder or above the folder. -/
theorem mem_above_concat {a l : Location} {n : String} :
    a ∈ above (l ++ [n]) ↔ a ∈ above l ∨ a = l := by
  simp only [mem_above, List.length_append, List.length_singleton]
  constructor
  · rintro ⟨i, hi, rfl⟩
    rcases Nat.lt_or_ge i l.length with h | h
    · exact .inl ⟨i, h, (List.take_append_of_le_length (by omega)).symm⟩
    · have : i = l.length := by omega
      subst this
      simp
  · rintro (⟨i, hi, rfl⟩ | rfl)
    · exact ⟨i, by omega, List.take_append_of_le_length (by omega)⟩
    · exact ⟨a.length, by omega, by simp⟩

/-- Nothing above a location is as long as it. -/
theorem length_lt_of_mem_above {a l : Location} (h : a ∈ above l) : a.length < l.length := by
  obtain ⟨i, hi, rfl⟩ := mem_above.1 h
  rw [List.length_take]
  omega

/-- The name that a folder is asked for on the way to a location is a name in that location. -/
theorem head?_drop_mem {a l : Location} {n : String} (h : (l.drop a.length).head? = some n) :
    n ∈ l :=
  List.mem_of_mem_drop (List.mem_of_mem_head? h)

/-- A location is not blocked exactly if all above it is free, or a folder asked for a name. -/
theorem isBlocked_eq_false_iff {d : Disk} {l : Location} :
    d.isBlocked l = false ↔
      ∀ a ∈ above l, d.find? a = none ∨
        (d.find? a = some .folder ∧
          ∀ n, (l.drop a.length).head? = some n → Path.isName n = true) := by
  simp only [isBlocked, List.any_eq_false]
  refine forall₂_congr fun a _ => ?_
  cases hf : d.find? a with
  | none => simp
  | some e =>
    cases e with
    | folder => cases (l.drop a.length).head? <;> simp
    | text s => simp
    | replica rows => simp

/-! ## Folders -/

/-- A folder that is added is there, and everything else is as before. -/
theorem find?_addFolder (d : Disk) (l m : Location) :
    (d.addFolder l).find? m = if m = l then some .folder else d.find? m := by
  unfold addFolder
  by_cases hl : d.isFolder l = true
  · rw [if_pos hl]
    have hf : d.find? l = some .folder := by simpa [isFolder] using hl
    by_cases h : m = l
    · rw [if_pos h, h, hf]
    · rw [if_neg h]
  · rw [if_neg hl]
    refine find?_set d ?_ .folder m
    rintro rfl
    exact hl (by simp [isFolder, find?_nil])

/-- Of folders that are made one after the other, each is there at the end. -/
theorem find?_addFolders (d : Disk) (ls : List Location) (m : Location) :
    (ls.foldl addFolder d).find? m = if m ∈ ls then some .folder else d.find? m := by
  induction ls generalizing d with
  | nil => simp
  | cons l ls ih =>
    rw [List.foldl_cons, ih, find?_addFolder]
    by_cases h : m ∈ ls
    · simp [h]
    · by_cases hl : m = l <;> simp [h, hl]

/-- Making a folder makes nothing but folders, at its location and above it, and only where its
location is not blocked and made of names. -/
theorem find?_makeFolder {d d' : Disk} {l : Location} (h : d.makeFolder l = some d') :
    d.isBlocked l = false ∧ (∀ n ∈ l, Path.isName n = true) ∧ d'.find? l = some .folder ∧
      ∀ m, d'.find? m = d.find? m ∨ ((m ∈ above l ∨ m = l) ∧ d'.find? m = some .folder) := by
  unfold makeFolder at h
  split at h
  · exact absurd h (by simp)
  · next hb =>
    simp only [Bool.or_eq_true, Bool.not_eq_true', not_or, Bool.not_eq_true,
      Bool.not_eq_false, List.all_eq_true] at hb
    refine ⟨hb.1, hb.2, ?_⟩
    split at h
    · next hf =>
      obtain rfl := Option.some.inj h
      exact ⟨hf, fun m => .inl rfl⟩
    · exact absurd h (by simp)
    · obtain rfl := Option.some.inj h
      constructor
      · rw [find?_addFolders, if_pos (by simp)]
      · intro m
        rw [find?_addFolders]
        by_cases hm : m ∈ above l ++ [l]
        · exact .inr ⟨by simpa using hm, if_pos hm⟩
        · exact .inl (if_neg hm)

/-! ## Files -/

/-- What it means that a file was placed under a name in a folder. -/
structure Placed (d d' : Disk) (l : Location) (n : String) (e : Entry) : Prop where
  /-- The file is there. -/
  found : d'.find? (l ++ [n]) = some e
  /-- Its folder is there. -/
  folder : d'.find? l = some .folder
  /-- Its folder was not blocked. -/
  unblocked : d.isBlocked l = false
  /-- Its location is made of names. -/
  names : ∀ k ∈ l ++ [n], Path.isName k = true
  /-- Everything else is as before, or a new folder above the file. -/
  others : ∀ m, m ≠ l ++ [n] →
    d'.find? m = d.find? m ∨ ((m ∈ above l ∨ m = l) ∧ d'.find? m = some .folder)

/-- What is placed is in its place, below the folders that it needs. -/
theorem placed_of_place {d d' : Disk} {l : Location} {n : String} {e : Entry}
    (h : d.place (l ++ [n]) e = some d') : Placed d d' l n e := by
  unfold place at h
  rw [List.dropLast_concat] at h
  split at h
  · exact absurd h (by simp)
  · next d₁ h₁ =>
    obtain ⟨hb, -, hl, hf⟩ := find?_makeFolder h₁
    have hw := find?_write h
    constructor
    · rw [hw, if_pos rfl]
    · rw [hw, if_neg (by simp)]
      exact hl
    · exact hb
    · unfold write at h
      split at h
      · exact absurd h (by simp)
      · next hn =>
        simp only [Bool.or_eq_true, Bool.not_eq_true', not_or, Bool.not_eq_false,
          List.all_eq_true] at hn
        exact hn.2
    · intro m hm
      rw [hw, if_neg hm]
      exact hf m

/-- Whether a file can be placed under a name in a folder: the way to the folder is open, nothing
else is in its place, all names can be given, and no folder has the name. -/
def canPlace (d : Disk) (l : Location) (n : String) : Bool :=
  !d.isBlocked l && (l ++ [n]).all Path.isName && (d.find? l).all (· == .folder) &&
    !d.isFolder (l ++ [n])

/-- When something can be placed: nothing is in the way, all names can be given, and it replaces no
folder. -/
theorem canPlace_iff {d : Disk} {l : Location} {n : String} : d.canPlace l n = true ↔
    d.isBlocked l = false ∧ (∀ k ∈ l ++ [n], Path.isName k = true) ∧
      (∀ e, d.find? l = some e → e = .folder) ∧ d.find? (l ++ [n]) ≠ some .folder := by
  unfold canPlace isFolder
  rw [← List.all_eq_true (p := Path.isName)]
  cases d.find? l with
  | none => simp [and_assoc]
  | some e => simp [and_assoc]

/-- What is in a folder that is made is as before. -/
theorem find?_makeFolder_concat {d d' : Disk} {l : Location} (h : d.makeFolder l = some d')
    (n : String) : d'.find? (l ++ [n]) = d.find? (l ++ [n]) := by
  rcases (find?_makeFolder h).2.2.2 (l ++ [n]) with h | ⟨h | h, -⟩
  · exact h
  · have := length_lt_of_mem_above h
    rw [List.length_append] at this
    omega
  · simp at h

/-- When a folder can be made: nothing is in the way, and all names can be given. -/
theorem exists_makeFolder_iff {d : Disk} {l : Location} : (∃ d', d.makeFolder l = some d') ↔
    d.isBlocked l = false ∧ (∀ k ∈ l, Path.isName k = true) ∧
      ∀ e, d.find? l = some e → e = .folder := by
  unfold makeFolder
  constructor
  · rintro ⟨d', h⟩
    split at h
    · cases h
    · next hb =>
      simp only [Bool.or_eq_true, Bool.not_eq_true', not_or, Bool.not_eq_true, Bool.not_eq_false,
        List.all_eq_true] at hb
      refine ⟨hb.1, hb.2, ?_⟩
      intro e he
      rw [he] at h
      cases e with
      | folder => rfl
      | text s => cases h
      | replica rows => cases h
  · rintro ⟨hb, hn, hf⟩
    have hall : l.all Path.isName = true := List.all_eq_true.2 hn
    rw [hb, hall]
    cases hl : d.find? l with
    | none => exact ⟨_, rfl⟩
    | some e =>
      rw [hf e hl]
      exact ⟨d, rfl⟩

/-- An entry is placed whenever it can be. -/
theorem exists_place_iff {d : Disk} {l : Location} {n : String} {e : Entry} :
    (∃ d', d.place (l ++ [n]) e = some d') ↔ d.canPlace l n = true := by
  rw [canPlace_iff]
  unfold place
  rw [List.dropLast_concat]
  constructor
  · rintro ⟨d', h⟩
    split at h
    · cases h
    · next d₁ h₁ =>
      obtain ⟨hb, -, hf⟩ := exists_makeFolder_iff.1 ⟨d₁, h₁⟩
      unfold write at h
      split at h
      · cases h
      · next hw =>
        simp only [Bool.or_eq_true, Bool.not_eq_true', not_or, Bool.not_eq_true, Bool.not_eq_false,
          List.all_eq_true] at hw
        refine ⟨hb, hw.2, hf, ?_⟩
        intro hfolder
        have hnot := hw.1.2
        rw [isFolder, find?_makeFolder_concat h₁, hfolder] at hnot
        cases hnot
  · rintro ⟨hb, hn, hf, hfolder⟩
    obtain ⟨d₁, h₁⟩ :=
      exists_makeFolder_iff.2 ⟨hb, fun k hk => hn k (List.mem_append_left _ hk), hf⟩
    have hl : d₁.isFolder l = true := by
      rw [isFolder, (find?_makeFolder h₁).2.2.1]
      rfl
    have hln : d₁.isFolder (l ++ [n]) = false := by
      rw [isFolder, find?_makeFolder_concat h₁, beq_eq_false_iff_ne]
      exact hfolder
    have hall : (l ++ [n]).all Path.isName = true := List.all_eq_true.2 hn
    refine ⟨d₁.set (l ++ [n]) e, ?_⟩
    rw [h₁]
    show d₁.write (l ++ [n]) e = _
    rw [write, List.dropLast_concat, hl, hln, hall]
    rfl

namespace Placed

variable {d d' : Disk} {l : Location} {n : String} {e : Entry}

/-- A file in the same folder is found as before. -/
theorem find?_beside (h : Placed d d' l n e) {k : String} (hk : k ≠ n) :
    d'.find? (l ++ [k]) = d.find? (l ++ [k]) := by
  rcases h.others (l ++ [k]) (by simpa using hk) with h | ⟨h | h, -⟩
  · exact h
  · have := length_lt_of_mem_above h
    rw [List.length_append] at this
    omega
  · simp at h

/-- The way to the file, and to any other one in its folder, is open. -/
theorem isBlocked (h : Placed d d' l n e) {k : String} (hk : Path.isName k = true) :
    d'.isBlocked (l ++ [k]) = false := by
  have hb := isBlocked_eq_false_iff.1 h.unblocked
  rw [isBlocked_eq_false_iff]
  intro a ha
  have hname : ∀ j, ((l ++ [k]).drop a.length).head? = some j → Path.isName j = true := by
    intro j hj
    rcases List.mem_append.1 (head?_drop_mem hj) with hl | hl
    · exact h.names j (List.mem_append_left _ hl)
    · rw [List.mem_singleton.1 hl]
      exact hk
  rcases mem_above_concat.1 ha with hl | rfl
  · have hne : a ≠ l ++ [n] := by
      rintro rfl
      have := length_lt_of_mem_above hl
      rw [List.length_append] at this
      omega
    rcases h.others a hne with he | ⟨-, he⟩
    · rw [he]
      exact (hb a hl).imp id fun h => ⟨h.1, hname⟩
    · exact .inr ⟨he, hname⟩
  · exact .inr ⟨h.folder, hname⟩

/-- The way to the folder is open. -/
theorem isBlocked_folder (h : Placed d d' l n e) : d'.isBlocked l = false := by
  have hb := isBlocked_eq_false_iff.1 h.unblocked
  rw [isBlocked_eq_false_iff]
  intro a ha
  have hne : a ≠ l ++ [n] := by
    rintro rfl
    have := length_lt_of_mem_above ha
    rw [List.length_append] at this
    omega
  rcases h.others a hne with he | ⟨-, he⟩
  · rw [he]
    exact hb a ha
  · refine .inr ⟨he, fun k hk => ?_⟩
    exact h.names k (List.mem_append_left _ (head?_drop_mem hk))

/-- After a file was placed, files can be placed beside it as before. -/
theorem canPlace (h : Placed d d' l n e) (he : e ≠ .folder) (hn : d.canPlace l n = true)
    (k : String) : d'.canPlace l k = d.canPlace l k := by
  obtain ⟨hb, -, hf, hfolder⟩ := canPlace_iff.1 hn
  have hf' : ∀ e', d'.find? l = some e' → e' = .folder := by
    intro e' he'
    rw [h.folder] at he'
    exact (Option.some.inj he').symm
  have hk : d'.find? (l ++ [k]) = some .folder ↔ d.find? (l ++ [k]) = some .folder := by
    by_cases hkn : k = n
    · rw [hkn, h.found]
      constructor
      · intro hx
        exact absurd (Option.some.inj hx) he
      · intro hx
        exact absurd hx hfolder
    · rw [h.find?_beside hkn]
  rw [Bool.eq_iff_iff, canPlace_iff, canPlace_iff, ne_eq, ne_eq, hk]
  constructor
  · rintro ⟨-, hnames, -, hx⟩
    exact ⟨hb, hnames, hf, hx⟩
  · rintro ⟨-, hnames, -, hx⟩
    exact ⟨h.isBlocked_folder, hnames, hf', hx⟩

end Placed

end SwapMarket.Disk
