import SwapMarket.Board.Basic
import SwapMarket.Calendar

/-!
# The status of items

What can be said of an item without its snapshot: its time to live, its file, what it depends on,
when it was last built, and whether it is being built and has a snapshot (**`ItemStatus`**).
-/

namespace SwapMarket

/-- The status of an item. -/
structure ItemStatus where
  /-- The item. -/
  item : Item
  /-- How many seconds the item is kept. -/
  ttl : Nat
  /-- The file of the item. -/
  file : String
  /-- When the item was last built. -/
  lastBuilt : Option Int
  /-- Whether a build is under way. -/
  isBuilding : Bool
  /-- Whether a snapshot is published. -/
  hasSnapshot : Bool
  deriving DecidableEq, Repr

/-- The status as JSON. -/
def ItemStatus.toJson (s : ItemStatus) : Json :=
  .obj [("name", .str s.item.name), ("ttl_seconds", .nat s.ttl), ("file_path", .str s.file),
    ("dependencies", .arr (s.item.dependencies.map fun n => .str n.name)),
    ("last_built_at", .ofOption (s.lastBuilt.map fun t => .str (Calendar.text t))),
    ("building", .bool s.isBuilding), ("has_snapshot", .bool s.hasSnapshot)]

namespace Board

/-- The status of an item. -/
def status (b : Board) (n : Item) : ItemStatus where
  item := n
  ttl := b.settings.ttl n
  file := b.settings.itemFile n
  lastBuilt := (b.stamps n).lastBuilt
  isBuilding := b.building n
  hasSnapshot := (b.slots n).isSome

/-- The status of all items. -/
def statuses (b : Board) : List ItemStatus := Item.all.map b.status

end Board

end SwapMarket
