import SwapMarket.Fault

/-!
# Tables of comma separated values

**`Csv.rows`** takes a text apart into rows of fields. A field that starts with a quote goes on to
the next quote, and a quote written twice stands for one; what follows the closing quote belongs
to the field as it is. A row ends with its line; empty lines are no rows. A byte order mark at the
start does not count.

The reader is a machine that takes one character at a time. All rows of a table have as many
fields as the first one, or **`Csv.table`** fails.
-/

namespace SwapMarket.Csv

/-- Where a reader stands. -/
inductive State where
  /-- Before a row. -/
  | rowStart
  /-- Before a field that is not the first. -/
  | fieldStart
  /-- In a field. -/
  | plain
  /-- In a quoted field. -/
  | quoted
  /-- After a quote in a quoted field. -/
  | afterQuote
  deriving DecidableEq, Repr

/-- A table that is being read. All parts are in reverse. -/
structure Reader where
  /-- Where the reader stands. -/
  state : State
  /-- The characters of the field. -/
  field : List Char
  /-- The fields of the row. -/
  row : List String
  /-- The rows. -/
  rows : List (List String)
  deriving Repr

namespace Reader

/-- Before the first character. -/
def start : Reader := ⟨.rowStart, [], [], []⟩

/-- The row with the field that ends. -/
def rowWithField (r : Reader) : List String := .ofList r.field.reverse :: r.row

/-- Ends a field. -/
def endField (r : Reader) : Reader := ⟨.fieldStart, [], r.rowWithField, r.rows⟩

/-- Ends a row. -/
def endRow (r : Reader) : Reader := ⟨.rowStart, [], [], r.rowWithField.reverse :: r.rows⟩

/-- Adds a character to the field. -/
def push (r : Reader) (s : State) (c : Char) : Reader :=
  { r with state := s, field := c :: r.field }

/-- Whether a character ends a line. -/
def isLineEnd (c : Char) : Bool := c == '\n' || c == '\r'

/-- Reads a character outside quotes. -/
def stepPlain (r : Reader) (c : Char) : Reader :=
  if c = ',' then r.endField else if isLineEnd c then r.endRow else r.push .plain c

/-- Reads a character. -/
def step (r : Reader) (c : Char) : Reader :=
  match r.state with
  | .rowStart =>
    if isLineEnd c then r else if c = '"' then { r with state := .quoted } else r.stepPlain c
  | .fieldStart => if c = '"' then { r with state := .quoted } else r.stepPlain c
  | .plain => r.stepPlain c
  | .quoted => if c = '"' then { r with state := .afterQuote } else r.push .quoted c
  | .afterQuote => if c = '"' then r.push .quoted c else r.stepPlain c

/-- The rows at the end of the text. -/
def finish (r : Reader) : List (List String) :=
  (if r.state = .rowStart then r else r.endRow).rows.reverse

end Reader

/-- The rows of a text. -/
def rows (text : String) : List (List String) :=
  let cs := match text.toList with
    | '\ufeff' :: r => r
    | r => r
  (cs.foldl Reader.step .start).finish

/-- The rows of a text, if all have as many fields as the first. -/
def table (text : String) : Result (List (List String)) :=
  let rs := rows text
  match rs with
  | [] => .ok []
  | r :: _ => if rs.all fun x => x.length == r.length then .ok rs else .error .csv

end SwapMarket.Csv
