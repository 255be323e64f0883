import SwapMarket.Domain.Mapping
import SwapMarket.Domain.Punycode
import SwapMarket.Text.Composition
import SwapMarket.Text.Direction
import SwapMarket.Text.Joining

/-!
# Labels of domain names

A label beyond ASCII has two forms: its characters, and an ASCII form that starts with
`asciiMark`. **`shown?`** leads to the characters and **`written?`** to the ASCII form.

**`isSound`** says whether the characters can be a label at all, and **`keepsDirection`** whether
they can be one in a name with characters that are written to the left.
-/

namespace SwapMarket.Domain

open Text (Direction)

/-- The start of the ASCII form of a label. -/
def asciiMark : List Char := ['x', 'n', '-', '-']

/-- How long the numbers in the ASCII form of a label may be. -/
def writtenLimit : Nat := 2000

/-- How long a label beyond ASCII may be. -/
def shownLimit : Nat := 1000

/-- Whether all characters are ASCII. -/
def isAscii (cs : List Char) : Bool := cs.all fun c => c.toNat < 0x80

/-- The characters of a label. Behind the mark of an ASCII form there have to be composed
characters that may stand in a name, and not only ASCII. -/
def shown? (l : List Char) : Option (List Char) :=
  if asciiMark.isPrefixOf l then
    let cs := l.drop asciiMark.length
    if isAscii cs && cs.length ≤ writtenLimit then
      match Punycode.decode cs with
      | some s =>
        if !isAscii s && s.all isUsable && s == Text.composed s then some s else none
      | none => none
    else none
  else some l

/-- The ASCII form of a label. -/
def written? (l : List Char) : Option (List Char) :=
  if isAscii l then some l
  else if shownLimit < l.length then none
  else some (asciiMark ++ Punycode.encode l)

/-- Whether the characters of a label start with no mark, have their joiners in place, and are not
too many. -/
def isSound (l : List Char) : Bool :=
  !(l.head?.any Text.isMark) && Text.arePlaced [] l && (isAscii l || l.length ≤ shownLimit)

/-- The directions of a label that is written to the right. -/
def directionsToRight : List Direction :=
  [.toRight, .digit, .digitSeparator, .commonSeparator, .digitTerminator, .neutral, .invisible,
    .mark]

/-- The directions of a label that is written to the left. -/
def directionsToLeft : List Direction :=
  [.toLeft, .arabic, .arabicDigit, .digit, .digitSeparator, .commonSeparator, .digitTerminator,
    .neutral, .invisible, .mark]

/-- The last of the directions that is not that of a mark. -/
def lastDirection (ds : List Direction) : Option Direction :=
  (ds.reverse.dropWhile (· == .mark)).head?

/-- Whether a label can stand in a name with characters that are written to the left: it starts
with a letter, keeps to the direction of that letter, and ends in a letter or a digit; digits of
both kinds do not occur together. -/
def keepsDirection (l : List Char) : Bool :=
  let ds := l.map Text.direction
  match ds.head? with
  | none => true
  | some .toRight =>
    ds.all directionsToRight.contains && (lastDirection ds).any [.toRight, .digit].contains
  | some .toLeft | some .arabic =>
    ds.all directionsToLeft.contains
      && (lastDirection ds).any [.toLeft, .arabic, .digit, .arabicDigit].contains
      && !(ds.contains .digit && ds.contains .arabicDigit)
  | some _ => false

/-- Whether a label has characters that are written to the left. -/
def hasLeftward (l : List Char) : Bool :=
  (l.map Text.direction).any [.toLeft, .arabic, .arabicDigit].contains

end SwapMarket.Domain
