import SwapMarket.Decimal.Basic
import SwapMarket.Text.Cut
import SwapMarket.Text.Integer

/-!
# Reading decimals

A decimal text is a base and an optional exponent after the first `e` or `E`. The base is an
optional sign and digits with at most one point; an underscore may stand anywhere but before the
first digit. **`parse`** reads such a text as it is; **`read`** first drops the blanks around it,
and takes a blank text for zero.

The exponent is read before the base, and the scale is checked before the digits, so that of two
faults the first in this order is reported.
-/

namespace SwapMarket

open Text (IntegerFault)

/-- Why a text is not a decimal. -/
inductive DecimalFault where
  /-- There is nothing before the exponent. -/
  | empty
  /-- The exponent or the digits are not an integer. -/
  | integer (cause : IntegerFault)
  /-- The scale of the text does not fit in 64 bits. -/
  | exponentOverflow (text : String)
  deriving DecidableEq, Repr

/-- The wording of a fault. -/
def DecimalFault.message : DecimalFault → String
  | .empty => "Failed to parse empty string"
  | .integer cause => cause.message
  | .exponentOverflow text => "Exponent overflow when parsing '" ++ text ++ "'"

namespace Decimal

/-- The parts of a text before and after its first `e` or `E`. -/
def cutExponent : List Char → List Char × Option (List Char)
  | [] => ([], none)
  | c :: cs =>
    if c = 'e' ∨ c = 'E' then ([], some cs)
    else ((c :: (cutExponent cs).1), (cutExponent cs).2)

/-- A base without its point, and the number of digits after the point. A point at the end is
dropped. -/
def cutPoint (base : List Char) : List Char × Nat :=
  match Text.cutChars '.' base with
  | none => (base, 0)
  | some (whole, fraction) => (whole ++ fraction, (fraction.filter (· ≠ '_')).length)

/-- Reads digits onto `n`; underscores are skipped. -/
def readDigitsFrom : Nat → List Char → Except IntegerFault Nat
  | n, [] => .ok n
  | n, c :: cs =>
    if c = '_' then readDigitsFrom n cs
    else
      match Text.digitValue 10 c with
      | some d => readDigitsFrom (n * 10 + d) cs
      | none => .error .invalidDigit

/-- Reads digits; there is at least one, and it comes first. -/
def readDigits : List Char → Except IntegerFault Nat
  | [] => .error .empty
  | '_' :: _ => .error .invalidDigit
  | cs => readDigitsFrom 0 cs

/-- Reads an optional plus sign and digits. -/
def readUnsigned : List Char → Except IntegerFault Nat
  | '+' :: '+' :: _ => .error .invalidDigit
  | '+' :: cs => readDigits cs
  | cs => readDigits cs

/-- Reads an optional sign and digits. -/
def readCoefficient : List Char → Except IntegerFault Int
  | '-' :: '+' :: _ => .error .invalidDigit
  | '-' :: cs => (readUnsigned cs).map fun n => -Int.ofNat n
  | cs => (readUnsigned cs).map Int.ofNat

/-- Reads the exponent of a decimal text; a missing one is zero. -/
def readExponent : Option (List Char) → Except IntegerFault Int
  | none => .ok 0
  | some cs => Text.readIntegerChars (.signed 128) 10 cs

/-- Reads a decimal text. -/
def parse (text : String) : Except DecimalFault Decimal :=
  let (base, exponent) := cutExponent text.toList
  match readExponent exponent with
  | .error f => .error (.integer f)
  | .ok e =>
    if base = [] then .error .empty
    else
      let (digits, decimals) := cutPoint base
      let scale := decimals - e
      if (Text.Bounds.signed 64).holds scale then
        match readCoefficient digits with
        | .error f => .error (.integer f)
        | .ok coefficient => .ok ⟨coefficient, scale⟩
      else .error (.exponentOverflow text)

/-- Reads a decimal text between blanks; a blank text is zero. -/
def read (text : String) : Except DecimalFault Decimal :=
  let t := Text.trim text
  if t = "" then .ok zero else parse t

/-- Reads a decimal text; what is not a decimal counts as zero. -/
def readOrZero (text : String) : Decimal :=
  match read text with
  | .ok d => d
  | .error _ => zero

end Decimal

end SwapMarket
