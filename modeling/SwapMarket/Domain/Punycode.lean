import SwapMarket.Text.Cut

/-!
# Domain labels beyond ASCII

A label with characters beyond ASCII is written in ASCII: first its ASCII characters, then a
hyphen if there are any, then a number for each other character, in ascending order of the
characters, that says how far it lies from the one before in character and place.

The numbers are written in base 36 with the least digit first. A digit below a threshold ends a
number, and the threshold adapts to the size of the numbers so far.

**`encode`** writes a label, **`decode`** reads one.
-/

namespace SwapMarket.Domain.Punycode

/-- A digit of base 36. -/
def digit (d : Nat) : Char := if d < 26 then .ofNat (97 + d) else .ofNat (22 + d)

/-- The threshold of the digit at place `k`. -/
def threshold (k bias : Nat) : Nat :=
  if k ≤ bias then 1 else if bias + 26 ≤ k then 26 else k - bias

/-- Divides by 35 as long as the number is above 455. -/
def damp (delta k : Nat) : Nat × Nat :=
  if 455 < delta then damp (delta / 35) (k + 36) else (delta, k)
termination_by delta
decreasing_by omega

/-- The bias after a number. -/
def adapt (delta count : Nat) (first : Bool) : Nat :=
  let d := if first then delta / 700 else delta / 2
  let (d, k) := damp (d + d / count) 0
  k + 36 * d / (d + 38)

/-- The digits of a number, from place `k` on. -/
def digits (bias k q : Nat) : List Char :=
  let t := threshold k bias
  if q < t then [digit q]
  else digit (t + (q - t) % (36 - t)) :: digits bias (k + 36) ((q - t) / (36 - t))
termination_by q
decreasing_by
  have h1 : 1 ≤ threshold k bias := by unfold threshold; split <;> (try split) <;> omega
  have := Nat.div_le_self (q - threshold k bias) (36 - threshold k bias)
  omega

/-- A label that is being written. -/
structure Writer where
  /-- The digits so far. -/
  out : List Char
  /-- The distance since the last number. -/
  delta : Nat
  /-- The bias. -/
  bias : Nat
  /-- How many characters are written. -/
  count : Nat

/-- Passes one character of the label, writing it if it is `m`. -/
def Writer.pass (basic m : Nat) (w : Writer) (c : Char) : Writer :=
  if c.toNat < m then { w with delta := w.delta + 1 }
  else if c.toNat = m then
    ⟨w.out ++ digits w.bias 36 w.delta, 0, adapt w.delta (w.count + 1) (w.count = basic),
      w.count + 1⟩
  else w

/-- Writes the characters `ms` of a label in turn, after all below `n` have been written. -/
def writeAll (label : List Char) (basic : Nat) : List Nat → Nat → Writer → Writer
  | [], _, w => w
  | m :: ms, n, w =>
    let w := label.foldl (Writer.pass basic m) { w with delta := w.delta + (m - n) * (w.count + 1) }
    writeAll label basic ms (m + 1) { w with delta := w.delta + 1 }

/-- A label in ASCII. -/
def encode (label : List Char) : List Char :=
  let basic := label.filter fun c => c.toNat < 0x80
  let others := ((label.filter fun c => 0x80 ≤ c.toNat).map Char.toNat).eraseDups.mergeSort
  let w := writeAll label basic.length others 0x80 ⟨[], 0, 72, basic.length⟩
  basic ++ (if basic = [] then [] else ['-']) ++ w.out

/-- The value of a digit of base 36, in either case. -/
def digitValue (c : Char) : Option Nat :=
  if c.isDigit then some (c.toNat - 22)
  else if c.isAlpha then some (c.toLower.toNat - 97)
  else none

/-- The numbers in a label do not go up to this bound. -/
def numberCount : Nat := 0x100000000

/-- The character of a number. -/
def character? (n : Nat) : Option Char := if n.isValidChar then some (.ofNat n) else none

/-- A label that is being read. -/
structure Reader where
  /-- The characters so far. -/
  out : List Char
  /-- The character of the last number. -/
  code : Nat
  /-- The place behind the character of the last number. -/
  start : Nat
  /-- The bias. -/
  bias : Nat

/-- The label before its first number. -/
def Reader.ofBasic (basic : List Char) : Reader := ⟨basic, 0x80, 0, 72⟩

/-- Puts in the character of a number that counts up to place `i`. -/
def Reader.put (r : Reader) (i : Nat) : Option Reader :=
  let count := r.out.length + 1
  let code := r.code + i / count
  if numberCount ≤ code then none
  else (character? code).map fun c =>
    ⟨r.out.take (i % count) ++ c :: r.out.drop (i % count), code, i % count + 1,
      adapt (i - r.start) count (r.start = 0)⟩

/-- Reads digits. The digits so far of a number make up `i`, and the next digit, at place `k`,
counts `weight` times. -/
def readDigits (r : Reader) (i weight k : Nat) : List Char → Option (List Char)
  | [] => if k = 36 then some r.out else none
  | c :: cs => do
    let d ← digitValue c
    let i := i + d * weight
    let t := threshold k r.bias
    if numberCount ≤ i then none
    else if d < t then
      let r ← r.put i
      readDigits r r.start 1 36 cs
    else if numberCount ≤ weight * (36 - t) then none
    else readDigits r i (weight * (36 - t)) (k + 36) cs

/-- The characters of a label in ASCII. A hyphen at the start does not follow ASCII characters. -/
def decode (cs : List Char) : Option (List Char) :=
  match Text.cutChars '-' cs.reverse with
  | some (numbers, c :: basic) => readDigits (.ofBasic (c :: basic).reverse) 0 1 36 numbers.reverse
  | _ => readDigits (.ofBasic []) 0 1 36 cs

end SwapMarket.Domain.Punycode
