import SwapMarket.Json.Printer

/-!
# Reading JSON

**`Json.read`** reads a text that holds one value and nothing else. The tokens drive a machine
whose stack holds the lists and objects that are still open. What is well formed but no value is
`unreadable`, and so is a list with such an item or an object with such a name.
-/

namespace SwapMarket.Json

/-- A list or an object that is still open. What it holds so far is in reverse; one that is not
readable holds nothing. -/
inductive Frame where
  /-- A list. -/
  | array (items : Option (List Json))
  /-- An object. -/
  | object (fields : Option (List (String × Json)))
  /-- An object whose member of the given name comes next, if the name is readable. -/
  | member (fields : Option (List (String × Json))) (name : Option String)
  deriving Repr

/-- What a reader accepts next. -/
inductive Expect where
  /-- A value. -/
  | value
  /-- A value or the end of the list. -/
  | firstItem
  /-- A name or the end of the object. -/
  | firstName
  /-- A name. -/
  | name
  /-- A colon. -/
  | colon
  /-- A comma, or the end of the list or object. -/
  | next
  /-- Nothing: the value is complete. -/
  | nothing (v : Json)
  deriving Repr

/-- A reader between two tokens. -/
structure Machine where
  /-- The open lists and objects, the innermost first. -/
  frames : List Frame
  /-- What comes next. -/
  expect : Expect
  deriving Repr

/-- How many lists and objects may be in each other. -/
def greatestDepth : Nat := 127

/-- A list with one more item. -/
def addItem : Json → Option (List Json) → Option (List Json)
  | .unreadable, _ => none
  | v, items => items.map (v :: ·)

/-- An object with one more member. -/
def addMember (k : Option String) (v : Json) (fields : Option (List (String × Json))) :
    Option (List (String × Json)) :=
  match k, fields with
  | some k, some fs => some ((k, v) :: fs)
  | _, _ => none

/-- Hands a complete value to the innermost open list or object. -/
def deliver (v : Json) : List Frame → Option Machine
  | [] => some ⟨[], .nothing v⟩
  | .array items :: fs => some ⟨.array (addItem v items) :: fs, .next⟩
  | .member fields k :: fs => some ⟨.object (addMember k v fields) :: fs, .next⟩
  | .object _ :: _ => none

/-- A list or an object inside others, or what stands for it. -/
def nested (outer : List Frame) (v : Option Json) : Json :=
  if (outer.take greatestDepth).length < greatestDepth then v.getD .unreadable else .unreadable

/-- Reads the first token of a value. -/
def startValue (fs : List Frame) : Token → Option Machine
  | .null => deliver .null fs
  | .bool b => deliver (.bool b) fs
  | .num n => deliver (.num n) fs
  | .str s => deliver (.str s) fs
  | .hugeNumber | .brokenText => deliver .unreadable fs
  | .openArray => some ⟨.array (some []) :: fs, .firstItem⟩
  | .openObject => some ⟨.object (some []) :: fs, .firstName⟩
  | _ => none

/-- Closes the innermost list or object. -/
def close : List Frame → Token → Option Machine
  | .array items :: fs, .closeArray => deliver (nested fs (items.map (.arr ·.reverse))) fs
  | .object fields :: fs, .closeObject => deliver (nested fs (fields.map (.obj ·.reverse))) fs
  | _, _ => none

/-- Reads the name of a member. -/
def nameMember : List Frame → Token → Option Machine
  | .object fields :: fs, .str k => some ⟨.member fields (some k) :: fs, .colon⟩
  | .object fields :: fs, .brokenText => some ⟨.member fields none :: fs, .colon⟩
  | _, _ => none

/-- Reads one token. -/
def Machine.step (m : Machine) (t : Token) : Option Machine :=
  match m.expect with
  | .value => startValue m.frames t
  | .firstItem => if t = .closeArray then close m.frames t else startValue m.frames t
  | .firstName => if t = .closeObject then close m.frames t else nameMember m.frames t
  | .name => nameMember m.frames t
  | .colon => if t = .colon then some ⟨m.frames, .value⟩ else none
  | .next =>
    if t = .comma then
      match m.frames with
      | .array _ :: _ => some ⟨m.frames, .value⟩
      | .object _ :: _ => some ⟨m.frames, .name⟩
      | _ => none
    else close m.frames t
  | .nothing _ => none

/-- Reads tokens to the end. -/
def Machine.run (m : Machine) : List Token → Option Json
  | [] =>
    match m.expect with
    | .nothing v => some v
    | _ => none
  | t :: ts =>
    match m.step t with
    | some m' => m'.run ts
    | none => none

/-- The value of a sequence of tokens. -/
def ofTokens? (ts : List Token) : Option Json :=
  (⟨[], .value⟩ : Machine).run ts

/-- The value of a text. -/
def read (s : String) : Option Json :=
  (scan s.toList).bind ofTokens?

end SwapMarket.Json
