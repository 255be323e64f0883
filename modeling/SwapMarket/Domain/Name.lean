import SwapMarket.Domain.Label

/-!
# Domain names

A domain name is a row of labels with points between. **`toAscii?`** is the form in which a name is
sent: its characters are mapped and composed, and each label beyond ASCII gets its ASCII form.
Names with characters that no name can have, or with a label that is not well formed, have no such
form.
-/

namespace SwapMarket.Domain

/-- Whether a character is a control character. -/
def isControl (c : Char) : Bool := c.toNat < 0x20 || c.toNat = 0x7F

/-- Whether a character is one of the ASCII characters that no name can have. -/
def isForbidden (c : Char) : Bool :=
  isControl c || " #%/:<>?@[\\]^|".toList.contains c

/-- The characters of a name after each has been mapped; none if one of them cannot be. -/
def mapped? (cs : List Char) : Option (List Char) := (cs.mapM mapping).map (·.flatten)

/-- Whether the labels of a name go together. -/
def areSound (labels : List (List Char)) : Bool :=
  labels.all isSound && (!labels.any hasLeftward || labels.all keepsDirection)

/-- A name in ASCII. -/
def toAscii? (cs : List Char) : Option (List Char) :=
  match mapped? cs with
  | none => none
  | some ms =>
    let labels := (Text.composed ms).splitOn '.'
    match labels.mapM shown? with
    | none => none
    | some shown =>
      if areSound shown && !(labels.any fun l => l.any isForbidden) then
        (labels.mapM written?).map (List.intercalate ['.'])
      else none

end SwapMarket.Domain
