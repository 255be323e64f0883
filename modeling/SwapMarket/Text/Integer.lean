/-!
# Reading bounded integers

An integer text is an optional sign and digits. **`Bounds`** gives the least and the greatest
value that fits; a minus sign is accepted only where negative values fit.

The text is read from the left and the first fault ends the reading, so a bad digit counts only
if the digits before it still fit.
-/

namespace SwapMarket.Text

/-- Why a text is not an integer of the wanted kind. -/
inductive IntegerFault where
  /-- The text is empty. -/
  | empty
  /-- A character is not a digit, or a sign stands alone. -/
  | invalidDigit
  /-- The value is above the greatest that fits. -/
  | tooLarge
  /-- The value is below the least that fits. -/
  | tooSmall
  deriving DecidableEq, Repr

/-- The wording of a fault. -/
def IntegerFault.message : IntegerFault → String
  | .empty => "cannot parse integer from empty string"
  | .invalidDigit => "invalid digit found in string"
  | .tooLarge => "number too large to fit in target type"
  | .tooSmall => "number too small to fit in target type"

/-- The least and the greatest value of a kind of integer. -/
structure Bounds where
  /-- The least value. -/
  low : Int
  /-- The greatest value. -/
  high : Int
  deriving DecidableEq, Repr

namespace Bounds

/-- The unsigned integers of `w` bits. -/
def unsigned (w : Nat) : Bounds := ⟨0, (Nat.pow 2 w : Nat) - 1⟩

/-- The signed integers of `w` bits. -/
def signed (w : Nat) : Bounds := ⟨-(Nat.pow 2 (w - 1) : Nat), (Nat.pow 2 (w - 1) : Nat) - 1⟩

/-- Whether a value lies within the bounds. -/
def holds (b : Bounds) (n : Int) : Bool := b.low ≤ n && n ≤ b.high

end Bounds

/-- The value of a digit in a radix of at most sixteen. -/
def digitValue (radix : Nat) (c : Char) : Option Nat :=
  let n := c.toNat
  let v :=
    if 48 ≤ n && n ≤ 57 then n - 48
    else if 97 ≤ n && n ≤ 102 then n - 87
    else if 65 ≤ n && n ≤ 70 then n - 55
    else 16
  if v < radix then some v else none

/-- Reads digits onto `n`, failing with `tooFar` as soon as the value exceeds `limit`. -/
def readMagnitude (radix limit : Nat) (tooFar : IntegerFault) :
    Nat → List Char → Except IntegerFault Nat
  | n, [] => .ok n
  | n, c :: cs =>
    match digitValue radix c with
    | none => .error .invalidDigit
    | some d =>
      if n * radix + d ≤ limit then readMagnitude radix limit tooFar (n * radix + d) cs
      else .error tooFar

/-- Reads an integer within bounds from its characters. -/
def readIntegerChars (b : Bounds) (radix : Nat) : List Char → Except IntegerFault Int
  | [] => .error .empty
  | ['+'] => .error .invalidDigit
  | ['-'] => .error .invalidDigit
  | '+' :: cs => (readMagnitude radix b.high.toNat .tooLarge 0 cs).map Int.ofNat
  | '-' :: cs =>
    if b.low < 0 then
      (readMagnitude radix (-b.low).toNat .tooSmall 0 cs).map fun n => -Int.ofNat n
    else .error .invalidDigit
  | cs => (readMagnitude radix b.high.toNat .tooLarge 0 cs).map Int.ofNat

/-- Reads a decimal integer within bounds. -/
def readInteger (b : Bounds) (s : String) : Except IntegerFault Int :=
  readIntegerChars b 10 s.toList

/-- Reads an unsigned decimal integer of `w` bits. -/
def readUnsigned (w : Nat) (s : String) : Except IntegerFault Nat :=
  (readInteger (.unsigned w) s).map Int.toNat

end SwapMarket.Text
