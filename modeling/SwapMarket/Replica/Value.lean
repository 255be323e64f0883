import SwapMarket.Binary64.Wide
import SwapMarket.Json.Basic
import SwapMarket.Text.Integer

/-!
# Values in a replica

A column of a replica holds a value of any kind: nothing, an integer of 64 bits, a double or a
text. Numbers are ordered by value, whatever their kind, and every text is above every number
(**`order?`**). A comparison with nothing has no outcome.

**`castText`** is the value as a text. A double is written with at most fifteen significant
digits, in plain notation if its first digit is not too far from the point.
-/

namespace SwapMarket

/-- A value in a column. -/
inductive ColumnValue where
  /-- Nothing. -/
  | null
  /-- An integer. -/
  | integer (n : Int)
  /-- A double. -/
  | real (x : Binary64)
  /-- A text. -/
  | text (s : String)
  deriving DecidableEq, Repr

namespace ColumnValue

/-- A number as a value: an integer of 64 bits stays one, any other number is a double. -/
def ofNumber : Number → ColumnValue
  | .int n =>
    if (Text.Bounds.signed 64).holds n then .integer n
    else
      match Binary64.nearest (n < 0) ⟨n.natAbs, 0⟩ with
      | some x => .real x
      | none => .null
  | .real x => .real x

/-- A number as a ratio. -/
def ratio? : ColumnValue → Option (Int × Nat)
  | .integer n => some (n, 1)
  | .real x => some ((if x.negative then -1 else 1) * (x.ratio.1 : Int), x.ratio.2)
  | _ => none

/-- The order of two values that are not nothing. -/
def order? : ColumnValue → ColumnValue → Option Ordering
  | .null, _ => none
  | _, .null => none
  | .text a, .text b => some (compare a b)
  | .text _, _ => some .gt
  | _, .text _ => some .lt
  | a, b =>
    match a.ratio?, b.ratio? with
    | some (n, d), some (m, e) => some (compare (n * e) (m * d))
    | _, _ => none

/-- Whether two values are equal. -/
def equals (a b : ColumnValue) : Bool := order? a b == some .eq

/-- Whether `a` is above `b`. -/
def above (a b : ColumnValue) : Bool := order? a b == some .gt

/-- The greatest number of significant digits of a double. -/
def realDigits : Nat := 15

/-- The digits of a double without the zeros at their end; at least one stays. -/
def trimmedDigits (n : Nat) : List Char :=
  Nat.toDigits 10 (if n = 0 then 0 else (Decimal.dropZeros n).1)

/-- The magnitude of a double as a text. -/
def realText (x : Binary64) : List Char :=
  if x.mantissa = 0 then ['0', '.', '0']
  else
    let (c, e) := x.significant realDigits
    let ds := trimmedDigits c
    let fraction (r : List Char) : List Char := if r = [] then ['0'] else r
    if e < -4 ∨ 14 < e then
      ds.take 1 ++ '.' :: fraction (ds.drop 1) ++ 'e' :: (if e < 0 then '-' else '+')
        :: Decimal.padded 2 e.natAbs
    else if 0 ≤ e then
      let whole := ds ++ List.replicate (e.toNat + 1 - ds.length) '0'
      whole.take (e.toNat + 1) ++ '.' :: fraction (whole.drop (e.toNat + 1))
    else '0' :: '.' :: List.replicate (e.natAbs - 1) '0' ++ ds

/-- A value as a text; nothing stays nothing. -/
def castText : ColumnValue → Option String
  | .null => none
  | .integer n => some (toString n)
  | .real x =>
    some (.ofList ((if x.negative && x.mantissa != 0 then ['-'] else []) ++ realText x))
  | .text s => some s

/-- A text or nothing; other values are refused. -/
def textOrNull? : ColumnValue → Option (Option String)
  | .null => some none
  | .text s => some (some s)
  | _ => none

/-- An integer or nothing; other values are refused. -/
def integerOrNull? : ColumnValue → Option (Option Int)
  | .null => some none
  | .integer n => some (some n)
  | _ => none

end ColumnValue

end SwapMarket
