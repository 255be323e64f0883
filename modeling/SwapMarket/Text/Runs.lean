/-!
# Runs of characters

A property of characters is a table of runs, each given by its first and its last character.

* **`inRuns`** is a property that holds or does not hold, **`valueInRuns`** one with values.
* A **`ShiftRun`** is a run of characters that all lie at one distance from their images, and
  **`shiftInRuns`** applies such runs.
* An **`ImageBlock`** writes out the images of consecutive characters, and **`imageInBlocks`**
  looks one up.
-/

namespace SwapMarket.Text

/-- Whether a character lies in one of the runs. -/
def inRuns (runs : List (Nat × Nat)) (c : Char) : Bool :=
  runs.any fun r => r.1 ≤ c.toNat && c.toNat ≤ r.2

/-- The value of the first run in which a character lies. -/
def valueInRuns {α : Type} (runs : List (Nat × Nat × α)) (c : Char) : Option α :=
  (runs.find? fun r => r.1 ≤ c.toNat && c.toNat ≤ r.2.1).map (·.2.2)

/-- A run of characters that all lie at one distance from their images. -/
structure ShiftRun where
  /-- The first character of the run. -/
  first : Nat
  /-- The last character of the run. -/
  last : Nat
  /-- The distance between two characters of the run. -/
  step : Nat
  /-- The distance to the image. -/
  shift : Int
  deriving DecidableEq, Repr

/-- Whether a run contains a character. -/
def ShiftRun.contains (r : ShiftRun) (c : Char) : Bool :=
  r.first ≤ c.toNat && c.toNat ≤ r.last && (c.toNat - r.first) % r.step == 0

/-- The image of a character in the first run that contains it. -/
def shiftInRuns (runs : List ShiftRun) (c : Char) : Option Char :=
  (runs.find? (·.contains c)).map fun r => .ofNat (Int.ofNat c.toNat + r.shift).toNat

/-- The images of consecutive characters. -/
structure ImageBlock where
  /-- The first character. -/
  first : Nat
  /-- The images, between bars; nothing stands for a character that the block does not map. -/
  images : List String
  deriving DecidableEq, Repr

/-- The image of a character in the last block that does not begin after it. Blocks stand in
ascending order. -/
def imageInBlocks (blocks : List ImageBlock) (c : Char) : Option (List Char) :=
  match (blocks.takeWhile fun b => b.first ≤ c.toNat).getLast? with
  | none => none
  | some b =>
    match (b.images.flatMap (·.splitOn "|"))[c.toNat - b.first]? with
    | some image => if image = "" then none else some image.toList
    | none => none

end SwapMarket.Text
