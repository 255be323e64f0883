import SwapMarket.Board.Build
import SwapMarket.Proofs.Disk
import SwapMarket.Proofs.Path

/-!
# Where items are kept

The file of an item lies in the folder of all items, under a name of its own
(`itemLocation_eq`). **`Board.file`** is what is there, and **`Board.isOpen`** says that a file
there can be reached and read. A value is stored if an open file has a text that is read as the
value (`stored_eq_ok_iff`).

Main statement: **`persist_ok`**. Writing the file of an item puts the text of the value there and
leaves it open, and neither changes nor closes the file of another item.
-/

namespace SwapMarket

namespace Item

/-- The file of an item has a plain name. -/
theorem isPlain_fileName (n : Item) : Path.IsPlain n.fileName := by
  constructor
  · cases n <;> decide
  · cases n <;> decide

/-- It is a name of the file system. -/
theorem isName_fileName (n : Item) : Path.isName n.fileName = true := by
  cases n <;> decide

/-- No two items have files of one name. -/
theorem fileName_injective {n m : Item} (h : n.fileName = m.fileName) : n = m := by
  have key : ∀ n ∈ all, ∀ m ∈ all, n.fileName = m.fileName → n = m := by decide
  exact key n (mem_all n) m (mem_all m) h

end Item

namespace Settings

/-- Where an item is kept. -/
def itemLocation (s : Settings) (n : Item) : Location := Path.components (s.itemFile n)

/-- The file of an item is in the folder of the items. -/
theorem itemLocation_eq (s : Settings) (n : Item) :
    s.itemLocation n = Path.components s.itemFolder ++ [n.fileName] :=
  Path.components_join s.itemFolder n.isPlain_fileName

/-- If something can be at the path under which a file is first written, something can be at the
path of the file. -/
theorem isNameable_itemFile {s : Settings} {n : Item}
    (h : Path.isNameable (s.itemDraft n) = true) : Path.isNameable (s.itemFile n) = true := by
  have hd : ("." ++ n.fileName ++ ".tmp").toList.head? ≠ some '/' := by simp
  have hf : n.fileName.toList.head? ≠ some '/' := n.isPlain_fileName.head?_ne
  obtain ⟨k, hk⟩ := Path.utf8ByteSize_join s.itemFolder
  simp only [Path.isNameable, itemDraft, itemFile, Path.hasNoZero_join hd, Path.hasNoZero_join hf,
    Bool.and_eq_true, decide_eq_true_eq, hk _ hd, hk _ hf, String.utf8ByteSize_append] at h ⊢
  obtain ⟨⟨hz, hz'⟩, hs⟩ := h
  refine ⟨⟨hz, ?_⟩, by omega⟩
  simp only [Path.hasNoZero, String.toList_append, List.all_append, Bool.and_eq_true] at hz' ⊢
  exact hz'.1.2

end Settings

namespace Board

/-- What is where an item is kept. -/
def file (b : Board) (n : Item) : Option Entry := b.disk.find? (b.settings.itemLocation n)

/-- Whether a file where an item is kept can be reached. -/
def isOpen (b : Board) (n : Item) : Bool :=
  Path.isNameable (b.settings.itemFile n) && !b.disk.isBlocked (b.settings.itemLocation n)

/-- A value is stored if there is an open file with a text that is read as the value. -/
theorem stored_eq_ok_iff {b : Board} {n : Item} {v : n.Value} : b.stored n = .ok v ↔
    b.isOpen n = true ∧ ∃ t, b.file n = some (.text t) ∧ n.ofFileText t = .ok v := by
  unfold stored isOpen file Settings.itemLocation
  cases hn : Path.isNameable (b.settings.itemFile n) with
  | false => simp [hn]
  | true =>
    cases hb : b.disk.isBlocked (Path.components (b.settings.itemFile n)) with
    | true => simp [hb]
    | false =>
      cases hf : b.disk.find? (Path.components (b.settings.itemFile n)) with
      | none => simp [hn, hb, hf]
      | some e => cases e <;> simp [hn, hb, hf]

/-- What is stored hangs on the settings and the disk only. -/
theorem stored_congr {b c : Board} (hs : c.settings = b.settings) (hd : c.disk = b.disk)
    (n : Item) : c.stored n = b.stored n := by
  simp only [stored, hs, hd]

/-- What writing the file of an item does: the text is there and can be read, the files of other
items are as they were, and those that could be reached still can. -/
theorem persist_ok {b b' : Board} {n : Item} {v : n.Value} (h : b.persist n v = .ok b') :
    (∃ d, b' = { b with disk := d }) ∧ b'.file n = some (.text (n.fileText v)) ∧
      b'.isOpen n = true ∧
      ∀ m, m ≠ n → b'.file m = b.file m ∧ (b.isOpen m = true → b'.isOpen m = true) := by
  simp only [persist] at h
  split at h
  · cases h
  · next hd =>
    simp only [Bool.or_eq_true, Bool.not_eq_true', not_or, Bool.not_eq_false] at hd
    split at h
    · next d hp =>
      cases h
      have hl : Path.components (b.settings.itemFile n)
          = Path.components b.settings.itemFolder ++ [n.fileName] := b.settings.itemLocation_eq n
      rw [hl] at hp
      have hp := Disk.placed_of_place hp
      refine ⟨⟨d, rfl⟩, ?_, ?_, ?_⟩
      · rw [file, Settings.itemLocation_eq]
        exact hp.found
      · simp only [isOpen, Settings.itemLocation_eq, hp.isBlocked n.isName_fileName,
          Settings.isNameable_itemFile hd.1, Bool.not_false, Bool.and_self]
      · intro m hm
        have hk : m.fileName ≠ n.fileName := fun e => hm (Item.fileName_injective e)
        constructor
        · simp only [file, Settings.itemLocation_eq]
          exact hp.find?_beside hk
        · intro ho
          simp only [isOpen, Bool.and_eq_true] at ho
          simp only [isOpen, Settings.itemLocation_eq, hp.isBlocked m.isName_fileName, ho.1,
            Bool.not_false, Bool.and_self]
    · cases h

end Board

end SwapMarket
