import SwapMarket.Json.Reader

/-!
# Taking values out of JSON

A reader of a type takes a JSON value and fails if the value is not of that shape.

A record is an object, whose other members are ignored and in which no known name may occur twice,
or a list of its members in order. **`Json.members`** finds the members of both forms. What a
missing member means is up to the record: **`required`** refuses it, **`optional`** takes it for
no value if the record is an object, and **`defaulted`** has a value for it in both forms.
-/

namespace SwapMarket

namespace Json

/-- Any value. -/
def value? (v : Json) : Option Json := if v.isReadable then some v else none

/-- A truth value. -/
def bool? : Json → Option Bool
  | .bool b => some b
  | _ => none

/-- A text. -/
def text? : Json → Option String
  | .str s => some s
  | _ => none

/-- A number. -/
def number? : Json → Option Number
  | .num n => some n
  | _ => none

/-- An integer within bounds. A double is not an integer, whatever its value. -/
def integer? (b : Text.Bounds) : Json → Option Int
  | .num (.int n) => if b.holds n then some n else none
  | _ => none

/-- A signed integer of 64 bits. -/
def int64? (v : Json) : Option Int := v.integer? (.signed 64)

/-- An unsigned integer of so many bits. -/
def nat? (bits : Nat) (v : Json) : Option Nat := (v.integer? (.unsigned bits)).map Int.toNat

/-- A value, or none for null. -/
def option? {α : Type} (f : Json → Option α) : Json → Option (Option α)
  | .null => some none
  | v => (f v).map some

/-- A list of values. -/
def list? {α : Type} (f : Json → Option α) : Json → Option (List α)
  | .arr items => items.mapM f
  | _ => none

/-- An object as a table; of two members of one name the last one stays. -/
def table? {α : Type} (f : Json → Option α) : Json → Option (Table α)
  | .obj fields => (fields.mapM fun e => (f e.2).map fun a => (e.1, a)).map Table.ofList
  | _ => none

/-- What a record has under a name. -/
inductive Member where
  /-- A value. -/
  | value (v : Json)
  /-- The record is an object without this name. -/
  | unnamed
  /-- The record is a list that ends before this member. -/
  | beyond
  deriving Repr

/-- The members of a record, by name. -/
abbrev Members := String → Member

/-- The members of a record with the given names, in this order. -/
def members (names : List String) : Json → Option Members
  | .obj fields =>
    if names.any fun k => 1 < fields.countP fun f => f.1 == k then none
    else some fun k =>
      match fields.find? fun f => f.1 == k with
      | some f => .value f.2
      | none => .unnamed
  | .arr items =>
    if names.length < items.length then none
    else some fun k =>
      match (names.zip items).find? fun f => f.1 == k with
      | some f => .value f.2
      | none => .beyond
  | _ => none

namespace Members

variable {α : Type}

/-- A member that has to be there. -/
def required (m : Members) (k : String) (f : Json → Option α) : Option α :=
  match m k with
  | .value v => f v
  | _ => none

/-- A member that may be null, or missing from an object. -/
def optional (m : Members) (k : String) (f : Json → Option α) : Option (Option α) :=
  match m k with
  | .value v => v.option? f
  | .unnamed => some none
  | .beyond => none

/-- A member that may be missing. -/
def defaulted (m : Members) (k : String) (d : α) (f : Json → Option α) : Option α :=
  match m k with
  | .value v => f v
  | _ => some d

/-- A text that has to be there. -/
def text (m : Members) (k : String) : Option String := m.required k text?

/-- A signed integer that has to be there. -/
def int64 (m : Members) (k : String) : Option Int := m.required k int64?

/-- An unsigned integer of 64 bits that has to be there. -/
def nat64 (m : Members) (k : String) : Option Nat := m.required k (nat? 64)

/-- A truth value that has to be there. -/
def bool (m : Members) (k : String) : Option Bool := m.required k bool?

end Members

end Json

end SwapMarket
