import SwapMarket.Json.Basic
import SwapMarket.Text.Integer

/-!
# Tokens of JSON texts

A **`Token`** is one lexical unit. **`Token.chars`** writes it, and **`scan`** finds the tokens of
a text: a machine that takes one character at a time, so that its run on a text is a recursion on
the characters.

Numbers are read by **`numberToken?`**: an integer literal that fits in 64 bits stays an integer,
minus zero and any other literal become doubles. Of a literal with many digits those count that
64 bits hold. They make the nearest double, which is then multiplied or divided by the double
nearest to a power of ten (`realNumber`), so that a number of many digits need not be the double
nearest to the literal.

Two tokens are well formed but stand for nothing: a number beyond all doubles and a text in which
one half of a surrogate pair stands without the other.
-/

namespace SwapMarket

/-- A lexical unit of a JSON text. -/
inductive Token where
  /-- An opening square bracket. -/
  | openArray
  /-- A closing square bracket. -/
  | closeArray
  /-- An opening brace. -/
  | openObject
  /-- A closing brace. -/
  | closeObject
  /-- A comma. -/
  | comma
  /-- A colon. -/
  | colon
  /-- The word null. -/
  | null
  /-- The words true and false. -/
  | bool (b : Bool)
  /-- A number. -/
  | num (n : Number)
  /-- A quoted text. -/
  | str (s : String)
  /-- A number beyond all doubles. -/
  | hugeNumber
  /-- A quoted text with half a character. -/
  | brokenText
  deriving DecidableEq, Repr

/-- A character inside a quoted text. -/
def escaped (c : Char) : List Char :=
  if c = '"' then ['\\', '"']
  else if c = '\\' then ['\\', '\\']
  else if c = '\x08' then ['\\', 'b']
  else if c = '\x0c' then ['\\', 'f']
  else if c = '\n' then ['\\', 'n']
  else if c = '\r' then ['\\', 'r']
  else if c = '\t' then ['\\', 't']
  else if c.toNat < 0x20 then
    ['\\', 'u', '0', '0'] ++ Nat.toDigits 16 (c.toNat / 16) ++ Nat.toDigits 16 (c.toNat % 16)
  else [c]

/-- A text in quotes. -/
def quoted (s : String) : List Char :=
  '"' :: s.toList.flatMap escaped ++ ['"']

/-- A token as it is written. -/
def Token.chars : Token → List Char
  | .openArray => ['[']
  | .closeArray => [']']
  | .openObject => ['\x7b']
  | .closeObject => ['\x7d']
  | .comma => [',']
  | .colon => [':']
  | .null => "null".toList
  | .bool true => "true".toList
  | .bool false => "false".toList
  | .num n => n.chars
  | .str s => quoted s
  | .hugeNumber => "1e999".toList
  | .brokenText => "\"\\ud800\"".toList

/-- The digits at the start of a text and what follows them. -/
def leadingDigits (cs : List Char) : List Char × List Char :=
  (cs.takeWhile Char.isDigit, cs.dropWhile Char.isDigit)

/-- The value of decimal digits. -/
def digitsValue (cs : List Char) : Nat :=
  cs.foldl (fun n c => n * 10 + (c.toNat - 48)) 0

/-- The exponent of a number literal: a letter, an optional sign and digits, to the end. -/
def exponentOf? : List Char → Option Int
  | [] => some 0
  | c :: cs =>
    if c = 'e' ∨ c = 'E' then
      let (negative, ds) := match cs with
        | '-' :: r => (true, r)
        | '+' :: r => (false, r)
        | r => (false, r)
      if ds ≠ [] ∧ ds.all Char.isDigit then
        some (if negative then -digitsValue ds else digitsValue ds)
      else none
    else none

/-- The digits at the start of a text that make up, after those of `n`, a number of 64 bits: the
number, and the digits from the first one on that does not fit. -/
def fittingDigits (n : Nat) : List Char → Nat × List Char
  | [] => (n, [])
  | c :: cs =>
    let m := n * 10 + (c.toNat - 48)
    if (Text.Bounds.unsigned 64).holds m then fittingDigits m cs else (n, c :: cs)

/-- The double of digits and a power of ten, unless it is beyond all doubles. -/
def realNumber (negative : Bool) (digits : Nat) (power : Int) : Option Number :=
  ((Binary64.nearest negative ⟨digits, 0⟩).bind (·.timesPower power)).map .real

/-- An integer literal as a number, given its digits that fit in 64 bits and how many do not. -/
def integerNumber (negative : Bool) (n spare : Nat) : Option Number :=
  if spare ≠ 0 then realNumber negative n spare
  else if !negative then some (.int n)
  else if n ≠ 0 ∧ (Text.Bounds.signed 64).holds (-n) then some (.int (-n))
  else realNumber true n 0

/-- A number as a token. -/
def Token.ofNumber : Option Number → Token
  | some n => .num n
  | none => .hugeNumber

/-- The token of a number literal without its sign. -/
def magnitudeToken? (negative : Bool) (cs : List Char) : Option Token :=
  let (whole, r) := leadingDigits cs
  let (n, spare) := fittingDigits 0 whole
  if whole = [] ∨ (whole.head? = some '0' ∧ whole.length ≠ 1) then none
  else
    match r with
    | [] => some (.ofNumber (integerNumber negative n spare.length))
    | '.' :: r =>
      let (fraction, r) := leadingDigits r
      let (m, rest) := fittingDigits n fraction
      if fraction = [] then none
      else (exponentOf? r).map fun e =>
        .ofNumber (realNumber negative m (spare.length - (fraction.length - rest.length : Nat) + e))
    | r => (exponentOf? r).map fun e => .ofNumber (realNumber negative n (spare.length + e))

/-- The token of a number literal. -/
def numberToken? : List Char → Option Token
  | '-' :: cs => magnitudeToken? true cs
  | cs => magnitudeToken? false cs

/-- The token of a bare word. -/
def wordToken? (w : String) : Option Token :=
  if w = "null" then some .null
  else if w = "true" then some (.bool true)
  else if w = "false" then some (.bool false)
  else none

/-- Where a scan stands. Characters read so far are held in reverse; of a text with half a
character none are held. -/
inductive Scan where
  /-- Between two tokens. -/
  | between
  /-- In a bare word. -/
  | word (read : List Char)
  /-- In a number. -/
  | number (read : List Char)
  /-- In a quoted text. -/
  | text (read : Option (List Char))
  /-- After a backslash in a quoted text. -/
  | backslash (read : Option (List Char))
  /-- In a numeric escape, with the digits still to come, their value so far, and the first half
  of a surrogate pair that has to be completed. -/
  | escape (read : Option (List Char)) (todo value : Nat) (high : Option Nat)
  /-- After the first half of a surrogate pair. -/
  | half (read : Option (List Char)) (high : Nat)
  /-- After the first half of a surrogate pair and a backslash. -/
  | halfBackslash (read : Option (List Char)) (high : Nat)
  deriving DecidableEq, Repr

/-- Whether a character can be part of a number literal. -/
def isNumberChar (c : Char) : Bool :=
  c.isDigit || c == '-' || c == '+' || c == '.' || c == 'e' || c == 'E'

/-- Whether a character may stand between tokens. -/
def isLayout (c : Char) : Bool :=
  c == ' ' || c == '\n' || c == '\r' || c == '\t'

/-- A step between two tokens: what follows, and a token of one character. -/
def Scan.start (c : Char) : Option (Scan × List Token) :=
  if isLayout c then some (.between, [])
  else if c = '[' then some (.between, [.openArray])
  else if c = ']' then some (.between, [.closeArray])
  else if c = '\x7b' then some (.between, [.openObject])
  else if c = '\x7d' then some (.between, [.closeObject])
  else if c = ',' then some (.between, [.comma])
  else if c = ':' then some (.between, [.colon])
  else if c = '"' then some (.text (some []), [])
  else if c = '-' ∨ c.isDigit then some (.number [c], [])
  else if c.isLower then some (.word [c], [])
  else none

/-- The character of a simple escape. -/
def simpleEscape? (c : Char) : Option Char :=
  if c = '"' ∨ c = '\\' ∨ c = '/' then some c
  else if c = 'b' then some '\x08'
  else if c = 'f' then some '\x0c'
  else if c = 'n' then some '\n'
  else if c = 'r' then some '\r'
  else if c = 't' then some '\t'
  else none

/-- The end of a numeric escape of value `n`. A half of a surrogate pair counts only together with
the other half. -/
def Scan.finishEscape (read : Option (List Char)) (n : Nat) : Option Nat → Scan
  | none =>
    if 0xD800 ≤ n ∧ n < 0xDC00 then .half read n
    else if 0xDC00 ≤ n ∧ n < 0xE000 then .text none
    else .text (read.map (Char.ofNat n :: ·))
  | some high =>
    if 0xDC00 ≤ n ∧ n < 0xE000 then
      .text (read.map (Char.ofNat (0x10000 + (high - 0xD800) * 0x400 + (n - 0xDC00)) :: ·))
    else .text none

/-- A step in a quoted text. -/
def Scan.inText (read : Option (List Char)) (c : Char) : Option (Scan × List Token) :=
  if c = '"' then
    some (.between, [match read with
      | some cs => .str (.ofList cs.reverse)
      | none => .brokenText])
  else if c = '\\' then some (.backslash read, [])
  else if c.toNat < 0x20 then none
  else some (.text (read.map (c :: ·)), [])

/-- A step after a backslash in a quoted text. -/
def Scan.afterBackslash (read : Option (List Char)) (c : Char) : Option (Scan × List Token) :=
  if c = 'u' then some (.escape read 4 0 none, [])
  else (simpleEscape? c).map fun d => (.text (read.map (d :: ·)), [])

/-- One step of a scan: the next state and the tokens that are complete. -/
def Scan.step : Scan → Char → Option (Scan × List Token)
  | .between, c => Scan.start c
  | .word read, c =>
    if c.isLower then some (.word (c :: read), [])
    else do
      let t ← wordToken? (.ofList read.reverse)
      let (s, ts) ← Scan.start c
      return (s, t :: ts)
  | .number read, c =>
    if isNumberChar c then some (.number (c :: read), [])
    else do
      let t ← numberToken? read.reverse
      let (s, ts) ← Scan.start c
      return (s, t :: ts)
  | .text read, c => Scan.inText read c
  | .backslash read, c => Scan.afterBackslash read c
  | .escape read todo value high, c => do
    let d ← Text.digitValue 16 c
    let n := value * 16 + d
    if todo ≤ 1 then return (Scan.finishEscape read n high, [])
    else return (.escape read (todo - 1) n high, [])
  | .half read high, c =>
    if c = '\\' then some (.halfBackslash read high, []) else Scan.inText none c
  | .halfBackslash read high, c =>
    if c = 'u' then some (.escape read 4 0 (some high), []) else Scan.afterBackslash none c

/-- The tokens that are complete at the end of a text. -/
def Scan.finish : Scan → Option (List Token)
  | .between => some []
  | .word read => (wordToken? (.ofList read.reverse)).map ([·])
  | .number read => (numberToken? read.reverse).map ([·])
  | _ => none

/-- The tokens of a text, read from a state on and put after those of `found`, which is in
reverse. -/
def scanFrom (found : List Token) : Scan → List Char → Option (List Token)
  | s, [] => s.finish.map fun ts => found.reverse ++ ts
  | s, c :: cs =>
    match s.step c with
    | some (s', ts) => scanFrom (ts.reverse ++ found) s' cs
    | none => none

/-- The tokens of a text. -/
def scan (cs : List Char) : Option (List Token) :=
  scanFrom [] .between cs

end SwapMarket
