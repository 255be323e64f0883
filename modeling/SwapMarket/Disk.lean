import SwapMarket.Path
import SwapMarket.Replica.Query

/-!
# The disk

A **`Disk`** knows folders, text files and replicas by their paths. A path can be used only if
everything above it is a folder. **`write`** puts a file where its folder exists, and
**`makeFolder`** makes a folder with all that are missing above it; both fail rather than replace
a folder by a file or a file by a folder.
-/

namespace SwapMarket

/-- What is at a path. -/
inductive Entry where
  /-- A folder. -/
  | folder
  /-- A file with a text. -/
  | text (s : String)
  /-- A replica with its rows. -/
  | replica (rows : List ReplicaRow)
  deriving DecidableEq, Repr

/-- The names of a path, from the root on. -/
abbrev Location := List String

/-- Folders and files by location. -/
structure Disk where
  /-- The entries; a location has at most one. -/
  entries : List (Location × Entry)
  deriving DecidableEq, Repr

namespace Disk

/-- The disk with nothing but its root. -/
def empty : Disk := ⟨[]⟩

/-- What is at a location. The root is a folder. -/
def find? (d : Disk) (l : Location) : Option Entry :=
  if l = [] then some .folder else (d.entries.find? fun e => e.1 == l).map (·.2)

/-- Whether there is a folder at a location. -/
def isFolder (d : Disk) (l : Location) : Bool := d.find? l == some .folder

/-- The locations above one, from the root on. -/
def above (l : Location) : List Location := (List.range l.length).map l.take

/-- Whether there is something else than a folder above a location, or a folder that is asked for a
name that is none. -/
def isBlocked (d : Disk) (l : Location) : Bool :=
  (above l).any fun a =>
    match d.find? a with
    | some .folder => !((l.drop a.length).head?.all Path.isName)
    | some _ => true
    | none => false

/-- The disk with an entry at a location, whatever was there. -/
def set (d : Disk) (l : Location) (e : Entry) : Disk :=
  ⟨(l, e) :: d.entries.filter fun x => x.1 != l⟩

/-- The disk without what is at a location and below it. -/
def remove (d : Disk) (l : Location) : Disk := ⟨d.entries.filter fun x => !l.isPrefixOf x.1⟩

/-- The disk with a folder at a location, unless there is one. -/
def addFolder (d : Disk) (l : Location) : Disk := if d.isFolder l then d else d.set l .folder

/-- The disk with a folder at a location and above it. -/
def makeFolder (d : Disk) (l : Location) : Option Disk :=
  if d.isBlocked l || !l.all Path.isName then none
  else
    match d.find? l with
    | some .folder => some d
    | some _ => none
    | none => some ((above l ++ [l]).foldl addFolder d)

/-- The disk with a file at a location whose folder exists. -/
def write (d : Disk) (l : Location) (e : Entry) : Option Disk :=
  if !d.isFolder l.dropLast || d.isFolder l || !l.all Path.isName then none else some (d.set l e)

/-- The disk with a file at a location, and the folders above it. -/
def place (d : Disk) (l : Location) (e : Entry) : Option Disk :=
  match d.makeFolder l.dropLast with
  | none => none
  | some d => d.write l e

/-- The names of what is in a folder, in ascending order. -/
def names (d : Disk) (l : Location) : List String :=
  (d.entries.filterMap fun e =>
    if e.1.dropLast = l then e.1.getLast? else none).mergeSort fun a b => a ≤ b

/-- What was set is found where it was set, and everything else is as before. -/
theorem find?_set (d : Disk) {l : Location} (hl : l ≠ []) (e : Entry) (m : Location) :
    (d.set l e).find? m = if m = l then some e else d.find? m := by
  unfold find? set
  by_cases hm : m = []
  · have : m ≠ l := by
      rintro rfl
      exact hl hm
    rw [if_neg this, if_pos hm, if_pos hm]
  · rw [if_neg hm, if_neg hm]
    by_cases h : m = l
    · subst h
      simp
    · have hn : (l == m) = false := by
        rw [beq_eq_false_iff_ne]
        exact Ne.symm h
      rw [if_neg h, List.find?_cons, hn, List.find?_filter]
      refine congrArg _ ?_
      show List.find? _ _ = List.find? _ _
      congr 1
      funext x
      by_cases hx : x.1 = m
      · simp [hx, h]
      · simp [hx]

/-- A file that was written is found, and everything else is as before. -/
theorem find?_write {d d' : Disk} {l : Location} {e : Entry} (h : d.write l e = some d')
    (m : Location) : d'.find? m = if m = l then some e else d.find? m := by
  unfold write at h
  split at h
  · exact absurd h (by simp)
  · next hb =>
    obtain rfl := Option.some.inj h
    refine find?_set d ?_ e m
    rintro rfl
    exact hb (by simp [isFolder, find?])

end Disk

end SwapMarket
