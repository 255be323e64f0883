import SwapMarket.Text.Cut

/-!
# Market identifiers

A market is named by two coin tickers with an underscore between, the base before the quote. A
ticker may carry a variant after its first dash (`LTC-segwit`, `USDC-BEP20`).

* **`Pair.sides`** reads an identifier, and **`Pair.join`** writes it.
* **`Pair.flip`** exchanges the sides.
* **`Pair.plain`** drops the variants of both sides, **`Pair.plainTicker`** that of one ticker.

All of them cut at the first separator. An identifier has exactly one underscore, none of its
sides is empty, and it is at most 32 bytes long.
-/

namespace SwapMarket

/-- Why a text does not name a market. -/
inductive PairFault where
  /-- It has too many bytes. -/
  | tooLong (pair : String)
  /-- It has no separator, or more than one. -/
  | separators (pair : String)
  /-- There is nothing on one side. -/
  | emptySide (pair : String)
  deriving DecidableEq, Repr

namespace Pair

/-- The greatest length of an identifier in bytes. -/
def greatestLength : Nat := 32

/-- The character between base and quote. -/
def separator : Char := '_'

/-- The character before a variant. -/
def variantMark : Char := '-'

end Pair

/-- The wording of a fault. -/
def PairFault.message : PairFault → String
  | .tooLong p => p ++ " is longer than " ++ toString Pair.greatestLength ++ " characters"
  | .separators p =>
    p ++ " must contain exactly one '" ++ String.singleton Pair.separator ++ "'"
  | .emptySide p => p ++ " has an empty side"

namespace Pair

/-- The base and the quote of an identifier. -/
def sides (p : String) : Except PairFault (String × String) :=
  if greatestLength < p.utf8ByteSize then .error (.tooLong p)
  else if p.toList.count separator ≠ 1 then .error (.separators p)
  else
    match Text.cut separator p with
    | some (b, q) => if b = "" ∨ q = "" then .error (.emptySide p) else .ok (b, q)
    | none => .error (.separators p)

/-- Whether a text names a market. -/
def check (p : String) : Except PairFault Unit := (sides p).map fun _ => ()

/-- The identifier of a market. -/
def join (base quote : String) : String := base ++ String.singleton separator ++ quote

/-- The identifier with its sides exchanged; a text without a separator stays as it is. -/
def flip (p : String) : String :=
  match Text.cut separator p with
  | some (b, q) => join q b
  | none => p

/-- A ticker without its variant. -/
def plainTicker (t : String) : String := Text.before variantMark t

/-- The variant of a ticker. -/
def variant? (t : String) : Option String := (Text.cut variantMark t).map (·.2)

/-- The identifier without the variants of its sides. -/
def plain (p : String) : String :=
  match Text.cut separator p with
  | some (b, q) => join (plainTicker b) (plainTicker q)
  | none => plainTicker p

end Pair

end SwapMarket
