/-!
# Levels of dependent items

A finite table lists items with what they depend on. **`levels`** arranges the items so that each
comes after all its dependencies: the level of an item is the length of its longest chain of
dependencies. It fails if a dependency is not in the table, and otherwise if items depend on each
other in a cycle.

Depths are found in passes over the table. A pass gives a depth to every item whose dependencies
have one, including those found earlier in the same pass. A pass that finds none ends the search,
so there are at most as many passes as items (**`settle`**).

**`dueLevels`** leaves only some of the items in their levels.
-/

namespace SwapMarket.Schedule

variable {α : Type} [DecidableEq α]

/-- An item with what it depends on. -/
structure Row (α : Type) where
  /-- The item. -/
  item : α
  /-- What it depends on. -/
  dependencies : List α
  deriving Repr

/-- Why items cannot be arranged. -/
inductive LevelsFault (α : Type) where
  /-- An item depends on one that is not in the table. -/
  | unregistered (item dependency : α)
  /-- Items depend on each other in a cycle. -/
  | cycle
  deriving DecidableEq, Repr

/-- The depths found so far. -/
abbrev Depths (α : Type) := List (α × Nat)

/-- The depth of an item, if it is found. -/
def depthOf? (ds : Depths α) (a : α) : Option Nat :=
  (ds.find? fun e => e.1 = a).map (·.2)

/-- The depth of an item with these dependencies, if theirs are all found. -/
def readyDepth? (ds : Depths α) (deps : List α) : Option Nat :=
  (deps.mapM (depthOf? ds)).map fun ns => ns.foldl (fun m n => max m (n + 1)) 0

/-- One pass over the rows of a table. -/
def pass : List (Row α) → Depths α → Depths α
  | [], ds => ds
  | r :: rs, ds =>
    if (depthOf? ds r.item).isSome then pass rs ds
    else
      match readyDepth? ds r.dependencies with
      | some n => pass rs (ds ++ [(r.item, n)])
      | none => pass rs ds

/-- Passes until nothing is found any more, at most so many. -/
def settle (rows : List (Row α)) : Nat → Depths α → Depths α
  | 0, ds => ds
  | k + 1, ds =>
    let ds' := pass rows ds
    if ds'.length = ds.length then ds else settle rows k ds'

/-- The first dependency that is not in the table, with the item that has it. -/
def firstUnregistered? (rows : List (Row α)) : Option (α × α) :=
  rows.findSome? fun r =>
    (r.dependencies.find? fun d => !(rows.map Row.item).contains d).map fun d => (r.item, d)

/-- The items of a depth, in the order of the table. -/
def atDepth (rows : List (Row α)) (ds : Depths α) (n : Nat) : List α :=
  (rows.map Row.item).filter fun a => depthOf? ds a = some n

/-- The number of levels that depths make. -/
def levelCount (ds : Depths α) : Nat := ds.foldl (fun m e => max m (e.2 + 1)) 0

/-- The items of a table, each on the level of its depth. -/
def levels (rows : List (Row α)) : Except (LevelsFault α) (List (List α)) :=
  match firstUnregistered? rows with
  | some (a, d) => .error (.unregistered a d)
  | none =>
    let ds := settle rows rows.length []
    if ds.length < rows.length then .error .cycle
    else .ok ((List.range (levelCount ds)).map (atDepth rows ds))

/-- The levels with only the items that are due; levels without any are left out. -/
def dueLevels (ls : List (List α)) (due : List α) : List (List α) :=
  (ls.map fun l => l.filter fun a => due.contains a).filter (· ≠ [])

/-- A pass forgets nothing. -/
theorem pass_extends (rows : List (Row α)) (ds : Depths α) : ds <+: pass rows ds := by
  induction rows generalizing ds with
  | nil => exact List.prefix_refl ds
  | cons r rs ih =>
    unfold pass
    split
    · exact ih ds
    · split
      · exact List.IsPrefix.trans (List.prefix_append ds _) (ih _)
      · exact ih ds

end SwapMarket.Schedule
