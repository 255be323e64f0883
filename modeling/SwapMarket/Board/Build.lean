import SwapMarket.Board.Producer

/-!
# Builds

A build of an item takes the token of the item, notes the attempt, runs a producer, writes the
file, publishes the snapshot and notes the success. A build that finds the token taken is skipped;
one whose producer or file fails leaves snapshot, file and success as they were. Without a clock
that shows a time no build starts (**`starts`**).

The steps are functions of their own (**`begin`**, **`persist`**, **`publish`**, **`stamp`**,
**`release`**), and **`runBuild`** is their sequence. Its producer may change the board, since
other builds can run meanwhile.

The file of an item outlives the program. **`load`** publishes what is stored in it, and
**`populate`** loads all items before it builds them level by level. A fault of one item does not
keep the others from being built, but what cuts a run short ends the whole round before any item
of the level is published.
-/

namespace SwapMarket.Board

/-- How a build ends that does not fail. -/
inductive Outcome where
  /-- A snapshot was published. -/
  | built
  /-- Another build of the item was under way. -/
  | skipped
  deriving DecidableEq, Repr

/-- The board with the token of an item taken and an attempt noted. -/
def begin (b : Board) (n : Item) : Board :=
  (b.setBuilding n true).setStamps n { b.stamps n with lastAttempt := some b.now }

/-- The board with the file of an item written. It is first written under another name, where no
folder may be. -/
def persist (b : Board) (n : Item) (v : n.Value) : Result Board :=
  let draft := b.settings.itemDraft n
  if !Path.isNameable draft || b.disk.isFolder (Path.components draft) then .error .file
  else
    match b.disk.place (Path.components (b.settings.itemFile n)) (.text (n.fileText v)) with
    | some d => .ok { b with disk := d }
    | none => .error .file

/-- The board with a success noted. -/
def stamp (b : Board) (n : Item) : Board :=
  b.setStamps n { b.stamps n with lastBuilt := some b.now }

/-- The board with the token of an item given back. -/
def release (b : Board) (n : Item) : Board := b.setBuilding n false

/-- The end of a build whose producer has a value. -/
def complete (b : Board) (n : Item) (v : n.Value) : Board × Run Outcome :=
  match b.persist n v with
  | .error f => (b.release n, Run.fail f)
  | .ok b => (((b.publish n v).stamp n).release n, .ok .built)

/-- Whether a build of an item starts: not while the token is taken. -/
def starts (b : Board) (n : Item) : Run Bool :=
  if b.building n then .ok false else b.time.map fun _ => true

/-- Builds an item with a producer. -/
def runBuild (b : Board) (n : Item) (producer : Board → Board × Run n.Value) :
    Board × Run Outcome :=
  match b.starts n with
  | .error s => (b, .error s)
  | .ok false => (b, .ok .skipped)
  | .ok true =>
    match producer (b.begin n) with
    | (b, .error s) => (b.release n, .error s)
    | (b, .ok v) => b.complete n v

/-- Builds an item with the producer that reads its inputs off `source`. -/
def buildReading (source b : Board) (n : Item) : Board × Run Outcome × List Request :=
  match b.starts n with
  | .error s => (b, .error s, [])
  | .ok false => (b, .ok .skipped, [])
  | .ok true =>
    let (r, requests) := (source.produce n).outcome
    let (b, o) := b.runBuild n fun b => (b, r)
    (b, o, requests)

/-- Builds an item. -/
def build (b : Board) (n : Item) : Board × Run Outcome × List Request := b.buildReading b n

/-- The value in the file of an item. -/
def stored (b : Board) (n : Item) : Result n.Value :=
  let path := b.settings.itemFile n
  let l := Path.components path
  if !Path.isNameable path || b.disk.isBlocked l then .error .file
  else
    match b.disk.find? l with
    | none => .error (.fileMissing path)
    | some .folder => .error .file
    | some (.replica _) => .error .json
    | some (.text t) => n.ofFileText t

/-- Publishes the file of an item as a provisional snapshot. The item still counts as never
built. -/
def load (b : Board) (n : Item) : Result Board := (b.stored n).map fun v => b.publish n v

/-- Loads items, passing over those that cannot be loaded. -/
def loadAll (b : Board) (ns : List Item) : Board :=
  ns.foldl (fun b n => (b.load n).toOption.getD b) b

/-- The board with an attempt to build an item noted, if the build starts. -/
def attempt (b : Board) (n : Item) : Board :=
  match b.starts n with
  | .ok true => (b.begin n).release n
  | _ => b

/-- Builds items one after the other, which read their inputs off `source`: the board, what cuts
one of the builds short, and the requests. -/
def buildAll (source : Board) : Board → List Item → Board × Option Stop × List Request
  | b, [] => (b, none, [])
  | b, n :: ns =>
    let (c, o, requests) := source.buildReading b n
    let (d, s, more) := buildAll source c ns
    (d, o.cut?.or s, requests ++ more)

/-- Builds items of one level: all read their inputs off the board as it is before any of them is
published. -/
def refreshLevel (b : Board) (level : List Item) : Board × Run Unit × List Request :=
  match buildAll b b level with
  | (c, none, requests) => (c, .ok (), requests)
  | (_, some s, requests) => (level.foldl attempt b, .error s, requests)

/-- Builds items level by level. -/
def refreshLevels : Board → List (List Item) → Board × Run Unit × List Request
  | b, [] => (b, .ok (), [])
  | b, level :: levels =>
    match b.refreshLevel level with
    | (c, .error s, requests) => (c, .error s, requests)
    | (c, .ok _, requests) =>
      let (d, r, more) := refreshLevels c levels
      (d, r, requests ++ more)

/-- The levels of the items; the built-in table always has them. -/
def itemLevels : List (List Item) := (Item.levels.toOption).getD []

/-- Loads all items and then builds all of them once. -/
def populate (b : Board) : Board × Run Unit × List Request :=
  (b.loadAll Item.all).refreshLevels itemLevels

end SwapMarket.Board
