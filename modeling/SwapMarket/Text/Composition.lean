import SwapMarket.Text.Composite
import SwapMarket.Text.Mark

/-!
# Canonical composition

The same text can be written with composite characters or with their parts, and marks of different
classes after one character can stand in any order. **`composed`** is the form in which as many
characters as possible are composed: composites are taken apart (`decomposed`), marks are put in
the order of their classes (`ordered`), and then each mark that nothing keeps away from the
character before it is joined to that character.
-/

namespace SwapMarket.Text

/-- The parts of a character, taken apart at most `depth` times. -/
def decomposedWithin : Nat → Char → List Char
  | 0, c => [c]
  | depth + 1, c =>
    match parts? c with
    | none => [c]
    | some (a, b) => decomposedWithin depth a ++ [b]

/-- How many times a character can be taken apart. -/
def compositeDepth : Nat := 4

/-- Characters with all composites taken apart. -/
def decomposed (cs : List Char) : List Char := cs.flatMap (decomposedWithin compositeDepth)

/-- Puts a mark behind the marks of no greater class, where the last character comes first. -/
def insertMark (c : Char) : List Char → List Char
  | [] => [c]
  | d :: ds =>
    if combiningClass c < combiningClass d then d :: insertMark c ds else c :: d :: ds

/-- Puts a character behind those that are done, the last of which comes first. -/
def insertInOrder (done : List Char) (c : Char) : List Char :=
  if combiningClass c = 0 then c :: done else insertMark c done

/-- Characters with the marks after each of them in the order of their classes. -/
def ordered (cs : List Char) : List Char := (cs.foldl insertInOrder []).reverse

/-- Joins to the character `base` what can be joined to it, where the marks `kept` after it, the
last one first, cannot. A mark of the class of the last of them, or of a lower one, stays too. -/
def composedFrom (base : Char) (kept : List Char) : List Char → List Char
  | [] => base :: kept.reverse
  | c :: cs =>
    let free := match kept with
      | [] => true
      | k :: _ => combiningClass k < combiningClass c
    match if free then composite? base c else none with
    | some d => composedFrom d kept cs
    | none =>
      if combiningClass c = 0 then base :: kept.reverse ++ composedFrom c [] cs
      else composedFrom base (c :: kept) cs

/-- Joins characters in canonical order. Marks at the start stay. -/
def joined (cs : List Char) : List Char :=
  match cs.dropWhile (combiningClass · ≠ 0) with
  | [] => cs
  | c :: rest => cs.takeWhile (combiningClass · ≠ 0) ++ composedFrom c [] rest

/-- The composed form of a text. -/
def composed (cs : List Char) : List Char := joined (ordered (decomposed cs))

end SwapMarket.Text
