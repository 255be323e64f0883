import SwapMarket.Address
import SwapMarket.Domain.Name
import SwapMarket.Url.Basic

/-!
# Hosts of resource addresses

**`readHost`** reads a host of the usual kind: a long internet address in brackets, or a domain
name, which is put in ASCII. A name whose last label is a number is a short internet address, in
any of the radixes 8, 10 and 16 and with its last numbers run together.

**`readOpaqueHost`** reads a host after another scheme, which can be nearly any text.
-/

namespace SwapMarket.Url

/-- The characters that a host cannot have. -/
def isForbiddenInHost (c : Char) : Bool :=
  c.toNat = 0 || "\t\n\r #/:<>?@[\\]^|".toList.contains c

/-- A number in radix 8, 10 or 16; none inside if it does not fit in 32 bits. -/
def readHostNumber (cs : List Char) : Option (Option Nat) :=
  let (radix, ds) := match cs with
    | '0' :: x :: r => if x = 'x' ∨ x = 'X' then (16, r) else (8, x :: r)
    | r => (10, r)
  if cs = [] then none
  else (ds.mapM (Text.digitValue radix)).map fun vs =>
    let n := Address.joined radix vs
    if n < Address.shortCount then some n else none

/-- The labels of a domain; a point at the end starts none. -/
def hostLabels (domain : List Char) : List (List Char) :=
  let ls := domain.splitOn '.'
  if ls.length ≠ 1 ∧ ls.getLast? = some [] then ls.dropLast else ls

/-- Whether the last label of a domain is a number. -/
def endsInNumber (domain : List Char) : Bool :=
  match (hostLabels domain).getLast? with
  | some l => (l ≠ [] && l.all Char.isDigit) || (readHostNumber l).isSome
  | none => false

/-- The short internet address of numbers, the last of which fills what the others leave. -/
def shortOfNumbers (ns : List Nat) : Option Nat :=
  match ns.getLast? with
  | none => none
  | some last =>
    let firsts := ns.dropLast
    let left := Nat.pow 256 (4 - firsts.length)
    if 3 < firsts.length ∨ left ≤ last ∨ firsts.any (255 < ·) then none
    else some (Address.joined 256 firsts * left + last)

/-- Reads a domain whose last label is a number. -/
def readShortHost (domain : List Char) : Except UrlFault String :=
  match (hostLabels domain).mapM fun l => (readHostNumber l).join with
  | none => .error .badShortAddress
  | some ns =>
    match shortOfNumbers ns with
    | some n => .ok (Address.shortText n)
    | none => .error .badShortAddress

/-- Reads a host in brackets, the first of which is already read. -/
def readBracketHost (r : List Char) : Except UrlFault String :=
  if r.getLast? = some ']' then
    match Address.readLongChars r.dropLast with
    | some n => .ok ("[" ++ Address.groupsText (Address.split 0x10000 8 n) ++ "]")
    | none => .error .badLongAddress
  else .error .badLongAddress

/-- Reads a host of the usual kind. -/
def readHost (cs : List Char) : Except UrlFault String :=
  match cs with
  | '[' :: r => readBracketHost r
  | _ =>
    match Domain.toAscii? (Text.percentDecode (.ofList cs)).toList with
    | none => .error .badDomain
    | some [] => .error .emptyHost
    | some domain => if endsInNumber domain then readShortHost domain else .ok (.ofList domain)

/-- Reads a host after another scheme: a long address in brackets, or any text. -/
def readOpaqueHost (cs : List Char) : Except UrlFault String :=
  match cs with
  | '[' :: r => readBracketHost r
  | _ =>
    if cs.any isForbiddenInHost then .error .badHostCharacter
    else .ok (.ofList (Text.percentEncodeChars Domain.isControl cs))

end SwapMarket.Url
