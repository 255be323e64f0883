import SwapMarket.Address
import SwapMarket.Geo.Csv

/-!
# Countries of internet addresses

A **`GeoDatabase`** is a list of ranges of numbers with a country each, in ascending order of
their first numbers. **`find?`** looks at the last range that starts at or before a number.

An address is looked up under its own number first, and then, if it has one, under that of its
other form (**`country?`**): a short address has a mapped form, and a mapped address a short one.
-/

namespace SwapMarket

/-- A range of addresses of one country. -/
structure GeoRange where
  /-- The first number. -/
  first : Nat
  /-- The last number. -/
  last : Nat
  /-- The code of the country. -/
  country : String
  deriving DecidableEq, Repr

/-- Whether a range starts at or before another one. -/
def GeoRange.notAfter (a b : GeoRange) : Bool := a.first ≤ b.first

/-- The ranges of all countries. -/
structure GeoDatabase where
  /-- The ranges. -/
  ranges : List GeoRange
  /-- The ranges are in ascending order of their first numbers. -/
  ascending : ranges.Pairwise fun a b => a.first ≤ b.first

namespace GeoDatabase

/-- The database without ranges. -/
def empty : GeoDatabase := ⟨[], .nil⟩

instance : Inhabited GeoDatabase := ⟨empty⟩

/-- The database of ranges in any order. -/
def ofRanges (rs : List GeoRange) : GeoDatabase :=
  ⟨rs.mergeSort GeoRange.notAfter, by
    have h := @List.pairwise_mergeSort _ GeoRange.notAfter
      (fun a b c => by simp only [GeoRange.notAfter, decide_eq_true_eq]; omega)
      (fun a b => by simp only [GeoRange.notAfter, Bool.or_eq_true, decide_eq_true_eq]; omega) rs
    simpa [GeoRange.notAfter] using h⟩

/-- The country code of ranges without a country. -/
def unknownCountry : String := "-"

/-- Reads a number of 128 bits, in decimal or after `0x` in hexadecimal digits. -/
def readNumber (s : String) : Option Nat :=
  let r := match s.toList with
    | '0' :: 'x' :: ds => Text.readIntegerChars (.unsigned 128) 16 ds
    | ds => Text.readIntegerChars (.unsigned 128) 10 ds
  r.toOption.map Int.toNat

/-- Reads a row: two numbers, a code and a name. Further fields do not count. -/
def readRow : List String → Option GeoRange
  | first :: last :: code :: _name :: _ => do
    let first ← readNumber first
    let last ← readNumber last
    return ⟨first, last, code⟩
  | _ => none

/-- Reads a database. Ranges without a country are dropped. -/
def ofText (text : String) : Result GeoDatabase :=
  match Csv.table text with
  | .error f => .error f
  | .ok rows =>
    match rows.mapM readRow with
    | none => .error .csv
    | some rs => .ok (ofRanges (rs.filter (·.country ≠ unknownCountry)))

/-- The number of ranges. -/
def size (g : GeoDatabase) : Nat := g.ranges.length

/-- Whether there are no ranges. -/
def isEmpty (g : GeoDatabase) : Bool := g.ranges.isEmpty

/-- The country of a number: that of the last range that starts at or before it, if the range
reaches it. -/
def find? (g : GeoDatabase) (n : Nat) : Option String :=
  match (g.ranges.takeWhile fun r => r.first ≤ n).getLast? with
  | some r => if n ≤ r.last then some r.country else none
  | none => none

/-- The numbers under which an address is looked up. -/
def numbers : Address → List Nat
  | .short n => [n.toNat, (Address.mapped n).toNat]
  | .long n =>
    match Address.unmapped? n with
    | some m => [n.toNat, m.toNat]
    | none => [n.toNat]

/-- The country of an address. -/
def country? (g : GeoDatabase) (a : Address) : Option String :=
  (numbers a).findSome? g.find?

end GeoDatabase

end SwapMarket
