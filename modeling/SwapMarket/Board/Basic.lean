import SwapMarket.Board.Snapshot
import SwapMarket.Geo.Database
import SwapMarket.Replica.Store
import SwapMarket.Schedule.Due
import SwapMarket.Service.Network

/-!
# The board

A **`Board`** is the program at one moment: its settings, the published snapshots of the items,
what is noted of their builds, and the surroundings, which are the disk, the network and the clock.
A snapshot that was never published is missing; a producer that cannot do without it fails
(**`Board.require`**).
-/

namespace SwapMarket

/-- The snapshots of all items. -/
abbrev Slots := (n : Item) → Option n.Value

/-- The program at one moment. -/
structure Board where
  /-- The settings. -/
  settings : Settings
  /-- The countries of internet addresses. -/
  geo : GeoDatabase
  /-- The disk. -/
  disk : Disk
  /-- The services. -/
  network : Network
  /-- The time in seconds. -/
  now : Int
  /-- The published snapshots. -/
  slots : Slots
  /-- What is noted of the builds of each item. -/
  stamps : Item → Schedule.Stamps
  /-- Whether a build of an item is under way. -/
  building : Item → Bool

namespace Board

/-- A board on which nothing is published. -/
def start (s : Settings) (g : GeoDatabase) (d : Disk) (n : Network) (now : Int) : Board :=
  ⟨s, g, d, n, now, fun _ => none, fun _ => default, fun _ => false⟩

/-- The countries of internet addresses as they are on a disk; none if they cannot be read. -/
def readGeo (s : Settings) (d : Disk) : GeoDatabase :=
  match d.find? (Path.components s.geoFile) with
  | some (.text t) =>
    match GeoDatabase.ofText t with
    | .ok g => g
    | .error _ => .empty
  | _ => .empty

/-- The snapshot of an item, which has to be there. -/
def require (b : Board) (n : Item) : Run n.Value :=
  match b.slots n with
  | some v => .ok v
  | none => Run.fail (.itemMissing n.name)

/-- The board with a snapshot published. -/
def publish (b : Board) (n : Item) (v : n.Value) : Board :=
  { b with slots := fun m => if h : n = m then some (h ▸ v) else b.slots m }

/-- The board with other notes on an item. -/
def setStamps (b : Board) (n : Item) (s : Schedule.Stamps) : Board :=
  { b with stamps := fun m => if n = m then s else b.stamps m }

/-- The board with a build of an item begun or ended. -/
def setBuilding (b : Board) (n : Item) (underWay : Bool) : Board :=
  { b with building := fun m => if n = m then underWay else b.building m }

/-- Whether an item is due. -/
def isDue (b : Board) (n : Item) : Run Bool :=
  Schedule.isDue (b.settings.ttl n) b.settings.retryInterval (b.stamps n) b.now

/-- The items of a list that are due. -/
def dueAmong (b : Board) : List Item → Run (List Item)
  | [] => .ok []
  | n :: ns => do
    let due ← b.isDue n
    let rest ← b.dueAmong ns
    return if due then n :: rest else rest

/-- The time that the clock shows. -/
def time (b : Board) : Run Int := Schedule.clock b.now

/-- The items that are due. -/
def dueItems (b : Board) : Run (List Item) := do
  let _ ← b.time
  b.dueAmong Item.all

/-- What was published is the snapshot of the item. -/
@[simp] theorem slots_publish_self (b : Board) (n : Item) (v : n.Value) :
    (b.publish n v).slots n = some v := by simp [publish]

/-- Publishing leaves the snapshots of other items alone. -/
theorem slots_publish_of_ne (b : Board) {n m : Item} (h : n ≠ m) (v : n.Value) :
    (b.publish n v).slots m = b.slots m := by simp [publish, h]

/-- Only the token of the item is set. -/
@[simp] theorem building_setBuilding (b : Board) (n m : Item) (u : Bool) :
    (b.setBuilding n u).building m = if n = m then u else b.building m := rfl

/-- Only the notes of the item are set. -/
@[simp] theorem stamps_setStamps (b : Board) (n m : Item) (s : Schedule.Stamps) :
    (b.setStamps n s).stamps m = if n = m then s else b.stamps m := rfl

end Board

end SwapMarket
