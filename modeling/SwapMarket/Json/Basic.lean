import SwapMarket.Binary64.Digits
import SwapMarket.Table

/-!
# JSON values

Numbers are integers that fit in 64 bits, signed or not, and doubles. An object keeps its members
in the order in which they were written, and a name may occur twice; **`sorted`** is the form with
ascending names in which the last member of a name has won.

A text can be well formed and yet say something that is no value: a number beyond all doubles, a
quoted text with half a character, or lists and objects too deep in each other. It is
`unreadable` in its place, which does no harm where nobody asks for it. **`isReadable`** holds of a
value without such a place.

**`Number.text`** writes a double with the fewest digits that read back, in plain notation when
its point falls not too far from the digits, and with an exponent otherwise.
-/

namespace SwapMarket

/-- A JSON number. -/
inductive Number where
  /-- An integer. -/
  | int (n : Int)
  /-- A double. -/
  | real (x : Binary64)
  deriving DecidableEq, Repr

/-- A JSON value. -/
inductive Json where
  /-- The value null. -/
  | null
  /-- A truth value. -/
  | bool (b : Bool)
  /-- A number. -/
  | num (n : Number)
  /-- A text. -/
  | str (s : String)
  /-- A list of values. -/
  | arr (items : List Json)
  /-- A list of named values. -/
  | obj (fields : List (String × Json))
  /-- Something well formed that is no value. -/
  | unreadable
  deriving Repr

instance : Inhabited Json := ⟨.null⟩

/-- The number of integer digits up to which a double is written without an exponent. -/
def plainDigits : Int := 16

/-- The number of zeros after the point from which a double is written with an exponent. -/
def plainZeros : Int := 5

/-- Whole digits and a power of ten in plain notation, or with an exponent when the point is far
from the digits. -/
def Scientific.text (s : Scientific) : List Char :=
  let ds := Nat.toDigits 10 s.digits
  let point : Int := ds.length + s.exponent
  if 0 ≤ s.exponent ∧ point ≤ plainDigits then
    ds ++ List.replicate s.exponent.toNat '0' ++ ['.', '0']
  else if 0 < point ∧ point ≤ plainDigits then
    ds.take point.toNat ++ '.' :: ds.drop point.toNat
  else if -plainZeros < point ∧ point ≤ 0 then
    '0' :: '.' :: List.replicate (-point).toNat '0' ++ ds
  else
    let fraction := match ds with
      | d :: r => if r = [] then [d] else d :: '.' :: r
      | [] => []
    let power := point - 1
    fraction ++ 'e' :: (if power < 0 then [] else ['+']) ++ (toString power).toList

namespace Number

/-- A number as it is written. -/
def chars : Number → List Char
  | .int n => (toString n).toList
  | .real x => (if x.negative then ['-'] else []) ++ x.shortest.text

/-- The decimal that the written form of a number denotes. Plain notation of a whole double has
one decimal place. -/
def decimal : Number → Decimal
  | .int n => .ofInt n
  | .real x =>
    let s := x.shortest
    let sign : Int := if x.negative then -1 else 1
    if 0 ≤ s.exponent ∧ Decimal.digitCount s.digits + s.exponent ≤ plainDigits then
      ⟨sign * (s.digits * Nat.pow 10 (s.exponent.toNat + 1) : Nat), 1⟩
    else ⟨sign * s.digits, -s.exponent⟩

end Number

namespace Json

/-- An integer as a value. -/
def int (n : Int) : Json := .num (.int n)

/-- A natural number as a value. -/
def nat (n : Nat) : Json := .int n

/-- An optional value, null if it is missing. -/
def ofOption (v : Option Json) : Json := v.getD .null

/-- A table as an object, each value written by `f`. -/
def ofTable {α : Type} (f : α → Json) (t : Table α) : Json :=
  .obj (t.entries.map fun e => (e.1, f e.2))

mutual

/-- The same value with the members of each object in ascending order of their names; of two
members of one name the last one stays. -/
def sorted : Json → Json
  | .arr items => .arr (sortedItems items)
  | .obj fields => .obj (Table.ofList (sortedFields fields)).entries
  | v => v

/-- The sorted forms of a list of values. -/
def sortedItems : List Json → List Json
  | [] => []
  | v :: vs => sorted v :: sortedItems vs

/-- The sorted forms of named values, their order kept. -/
def sortedFields : List (String × Json) → List (String × Json)
  | [] => []
  | (k, v) :: fs => (k, sorted v) :: sortedFields fs

end

mutual

/-- Whether everything in a value is readable. -/
def isReadable : Json → Bool
  | .arr items => areReadable items
  | .obj fields => areFieldsReadable fields
  | .unreadable => false
  | _ => true

/-- Whether all values of a list are readable. -/
def areReadable : List Json → Bool
  | [] => true
  | v :: vs => isReadable v && areReadable vs

/-- Whether all named values are readable. -/
def areFieldsReadable : List (String × Json) → Bool
  | [] => true
  | (_, v) :: fs => isReadable v && areFieldsReadable fs

end

/-- The elements of a list are sorted one by one. -/
theorem sortedItems_eq_map (vs : List Json) : sortedItems vs = vs.map sorted := by
  induction vs with
  | nil => rfl
  | cons v vs ih => simp [sortedItems, ih]

/-- The fields of an object keep their names, and their values are sorted. -/
theorem sortedFields_eq_map (fs : List (String × Json)) :
    sortedFields fs = fs.map fun f => (f.1, sorted f.2) := by
  induction fs with
  | nil => rfl
  | cons f fs ih => simp [sortedFields, ih]

end Json

end SwapMarket
