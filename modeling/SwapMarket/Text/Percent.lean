import SwapMarket.Text.Cut
import SwapMarket.Text.Integer
import SwapMarket.Text.Utf8

/-!
# Percent encoding and form encoding

A percent encoding writes a byte as a percent sign and two hexadecimal digits. **`percentEncode`**
does so to the characters of a class and to all that are not ASCII; **`percentDecode`** undoes it
and leaves percent signs alone that no two digits follow. **`pathDecode`** does so in a path, where
an encoded slash, plus sign or percent sign keeps its encoding, since it is not the same as the
character itself.

A form (the part of an address after the question mark) is a list of named values:
**`formEncode`** writes a name or a value, **`formFields`** takes a form apart.
-/

namespace SwapMarket.Text

/-- The upper-case hexadecimal digit of a number below sixteen. -/
def hexDigit (n : Nat) : Char :=
  if n < 10 then .ofNat (48 + n) else .ofNat (55 + n)

/-- A byte as a percent sign and two digits. -/
def percentByte (b : UInt8) : List Char :=
  ['%', hexDigit (b.toNat / 16), hexDigit (b.toNat % 16)]

/-- The characters of a text, encoded where the class says so and where they are not ASCII. -/
def percentEncodeChars (inClass : Char → Bool) (cs : List Char) : List Char :=
  cs.flatMap fun c =>
    if inClass c || 0x7E < c.toNat then (String.utf8EncodeChar c).flatMap percentByte else [c]

/-- A text, encoded where the class says so and where it is not ASCII. -/
def percentEncode (inClass : Char → Bool) (s : String) : String :=
  .ofList (percentEncodeChars inClass s.toList)

/-- The bytes of characters with the percent encodings undone, except of the bytes of a class. -/
def percentBytes (isKept : Nat → Bool) : List Char → List UInt8
  | '%' :: a :: b :: r =>
    match digitValue 16 a, digitValue 16 b with
    | some x, some y =>
      if isKept (x * 16 + y) then String.utf8EncodeChar '%' ++ percentBytes isKept (a :: b :: r)
      else .ofNat (x * 16 + y) :: percentBytes isKept r
    | _, _ => String.utf8EncodeChar '%' ++ percentBytes isKept (a :: b :: r)
  | c :: r => String.utf8EncodeChar c ++ percentBytes isKept r
  | [] => []
termination_by cs => cs.length

/-- A text with the percent encodings undone. -/
def percentDecode (s : String) : String :=
  ofUtf8Lossy (percentBytes (fun _ => false) s.toList)

/-- Whether a byte keeps its encoding in a path: percent sign, plus sign and slash do. -/
def isPathMark (n : Nat) : Bool := n == 0x25 || n == 0x2B || n == 0x2F

/-- A path with the percent encodings undone. -/
def pathDecode (s : String) : String :=
  ofUtf8Lossy (percentBytes isPathMark s.toList)

/-- Whether a character stands for itself in a form. -/
def isFormChar (c : Char) : Bool :=
  c.isAlphanum || c == '*' || c == '-' || c == '.' || c == '_'

/-- A name or a value of a form: blanks become plus signs. -/
def formEncode (s : String) : String :=
  .ofList (s.toList.flatMap fun c =>
    if c = ' ' then ['+'] else percentEncodeChars (fun c => !isFormChar c) [c])

/-- Undoes the form encoding of a name or a value. -/
def formDecode (s : String) : String :=
  percentDecode (.ofList (s.toList.map fun c => if c = '+' then ' ' else c))

/-- The named values of a form; a part without an equals sign is a name with the empty value. -/
def formFields (s : String) : List (String × String) :=
  ((pieces '&' s).filter (· ≠ "")).map fun p =>
    match cut '=' p with
    | some (k, v) => (formDecode k, formDecode v)
    | none => (formDecode p, "")

end SwapMarket.Text
