import SwapMarket.Text.Cut
import SwapMarket.Text.Integer

/-!
# Internet addresses

An **`Address`** is a number of 32 or of 128 bits. A long address that starts with eighty zero
bits and sixteen ones is the mapped form of a short one: **`mapped`** and **`unmapped?`** go
between the two.

The text of a short address is four decimal numbers with points between. That of a long one is
eight hexadecimal groups with colons between; the first of the longest runs of zero groups, if it
has at least two, is left out (**`groupsText`**).
-/

namespace SwapMarket

/-- An internet address. -/
inductive Address where
  /-- An address of 32 bits. -/
  | short (n : BitVec 32)
  /-- An address of 128 bits. -/
  | long (n : BitVec 128)
  deriving DecidableEq, Repr

namespace Address

/-- The bits before a short address in its mapped form. -/
def mapMark : Nat := 0xFFFF

/-- The number of short addresses. -/
def shortCount : Nat := 0x100000000

/-- The long form of a short address. -/
def mapped (n : BitVec 32) : BitVec 128 := .ofNat 128 (mapMark * shortCount + n.toNat)

/-- The short address that a long one is the mapped form of. -/
def unmapped? (n : BitVec 128) : Option (BitVec 32) :=
  if n.toNat / shortCount = mapMark then some (.ofNat 32 n.toNat) else none

/-- A number written in `count` groups of a radix, the greatest group first. -/
def split (radix : Nat) : Nat → Nat → List Nat
  | 0, _ => []
  | count + 1, n => split radix count (n / radix) ++ [n % radix]

/-- The number of groups of a radix, the greatest group first. -/
def joined (radix : Nat) (groups : List Nat) : Nat :=
  groups.foldl (fun n g => n * radix + g) 0

/-- The text of a short address. -/
def shortText (n : Nat) : String :=
  ".".intercalate ((split 256 4 n).map toString)

/-- How many zeros a list starts with. -/
def leadingZeros (gs : List Nat) : Nat := (gs.takeWhile (· = 0)).length

/-- The place and the length of the first of the longest runs of zeros. -/
def longestZeros : List Nat → Nat × Nat
  | [] => (0, 0)
  | g :: gs =>
    let here := leadingZeros (g :: gs)
    let (i, later) := longestZeros gs
    if later ≤ here then (0, here) else (i + 1, later)

/-- A group in hexadecimal digits. -/
def groupText (g : Nat) : String := .ofList (Nat.toDigits 16 g)

/-- Groups with colons between. -/
def colons (gs : List Nat) : String := ":".intercalate (gs.map groupText)

/-- The text of eight groups. -/
def groupsText (gs : List Nat) : String :=
  let (i, k) := longestZeros gs
  if k < 2 then colons gs else colons (gs.take i) ++ "::" ++ colons (gs.drop (i + k))

/-- The text of an address; a mapped one ends in its short form. -/
def text : Address → String
  | .short n => shortText n.toNat
  | .long n =>
    match unmapped? n with
    | some m => "::ffff:" ++ shortText m.toNat
    | none => groupsText (split 0x10000 8 n.toNat)

/-- Reads a number of at most three digits, below 256, that does not start with a spare zero. -/
def readByte (cs : List Char) : Option Nat :=
  if cs = [] ∨ 3 < cs.length ∨ (cs.head? = some '0' ∧ cs.length ≠ 1) then none
  else
    match cs.mapM (Text.digitValue 10) with
    | some ds => if joined 10 ds < 256 then some (joined 10 ds) else none
    | none => none

/-- Reads a group of one to four hexadecimal digits. -/
def readGroup (cs : List Char) : Option Nat :=
  if cs = [] ∨ 4 < cs.length then none else (cs.mapM (Text.digitValue 16)).map (joined 16)

/-- Reads the four numbers of a short address. -/
def readShortChars (cs : List Char) : Option Nat :=
  match (cs.splitOn '.').mapM readByte with
  | some [a, b, c, d] => some (joined 256 [a, b, c, d])
  | _ => none

/-- Reads groups; the last one may be a short address, which makes two groups. -/
def readGroupsWithShort : List (List Char) → Option (List Nat)
  | [] => some []
  | [g] =>
    match readGroup g with
    | some n => some [n]
    | none => (readShortChars g).map (split 0x10000 2)
  | g :: gs => do
    let n ← readGroup g
    let ns ← readGroupsWithShort gs
    return n :: ns

/-- The pieces between colons; an empty text has none. -/
def groupPieces (cs : List Char) : List (List Char) :=
  if cs = [] then [] else cs.splitOn ':'

/-- The parts of a text before and after its first double colon. -/
def cutDouble : List Char → Option (List Char × List Char)
  | ':' :: ':' :: r => some ([], r)
  | c :: r => (cutDouble r).map fun p => (c :: p.1, p.2)
  | [] => none

/-- Reads a long address. A double colon stands for at least one zero group. -/
def readLongChars (cs : List Char) : Option Nat := do
  let gs ← match cutDouble cs with
    | none => do
      let gs ← readGroupsWithShort (groupPieces cs)
      if gs.length = 8 then some gs else none
    | some (a, b) => do
      let before ← (groupPieces a).mapM readGroup
      let after ← readGroupsWithShort (groupPieces b)
      let n := before.length + after.length
      if n ≤ 7 then some (before ++ List.replicate (8 - n) 0 ++ after) else none
  return joined 0x10000 gs

/-- Reads a short or a long address. -/
def readChars (cs : List Char) : Option Address :=
  match readShortChars cs with
  | some n => some (.short (.ofNat 32 n))
  | none => (readLongChars cs).map fun n => .long (.ofNat 128 n)

/-- Whether characters are a socket number. -/
def isSocket (cs : List Char) : Bool :=
  cs ≠ [] && cs.all Char.isDigit && (Text.readMagnitude 10 65535 .tooLarge 0 cs).isOk

/-- Whether characters are the number of a zone. -/
def isZone (cs : List Char) : Bool :=
  cs ≠ [] && cs.all Char.isDigit && (Text.readMagnitude 10 4294967295 .tooLarge 0 cs).isOk

/-- Reads an address with a socket, a long one in brackets and perhaps with a zone. -/
def readWithSocket (cs : List Char) : Option Address :=
  match cs with
  | '[' :: r => do
    let (inside, rest) ← Text.cutChars ']' r
    let (address, zoneOk) := match Text.cutChars '%' inside with
      | some (a, z) => (a, isZone z)
      | none => (inside, true)
    match rest with
    | ':' :: socket =>
      if zoneOk ∧ isSocket socket then (readLongChars address).map fun n => .long (.ofNat 128 n)
      else none
    | _ => none
  | _ => do
    let (a, socket) ← Text.cutChars ':' cs
    if isSocket socket then (readShortChars a).map fun n => .short (.ofNat 32 n) else none

/-- Reads a client address as a proxy reports it: an address, an address with a socket, or a long
address in brackets with anything after them. -/
def readClient (s : String) : Option Address :=
  let cs := s.toList
  match readChars cs with
  | some a => some a
  | none =>
    match readWithSocket cs with
    | some a => some a
    | none =>
      let inside := (cs.dropWhile (· = '[')).takeWhile (· ≠ ']')
      (readLongChars inside).map fun n => .long (.ofNat 128 n)

/-- A short address is read back from its mapped form. -/
theorem unmapped_mapped (n : BitVec 32) : unmapped? (mapped n) = some n := by
  have h := n.isLt
  have hm : (mapped n).toNat = mapMark * shortCount + n.toNat := by
    simp only [mapped, BitVec.toNat_ofNat, mapMark, shortCount]
    omega
  have hd : (mapMark * shortCount + n.toNat) / shortCount = mapMark := by
    simp only [mapMark, shortCount]
    omega
  simp only [unmapped?, hm, hd, if_true, Option.some.injEq]
  apply BitVec.eq_of_toNat_eq
  simp only [BitVec.toNat_ofNat, mapMark, shortCount]
  omega

end Address

end SwapMarket
