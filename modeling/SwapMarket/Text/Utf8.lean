/-!
# UTF-8

**`utf8`** is the encoding of a text as bytes. **`ofUtf8Lossy`** decodes bytes, with the
replacement character for each longest piece that starts like the encoding of a character but is
none.

The decoder is a machine that takes one byte at a time. After a lead byte it knows how many bytes
have to follow and in which range the next one must lie; a byte outside that range ends the piece
and is looked at again as the start of the next one.
-/

namespace SwapMarket.Text

/-- The bytes of a text. -/
def utf8 (s : String) : List UInt8 :=
  s.toList.flatMap String.utf8EncodeChar

/-- The character that stands for bytes that are not an encoding. -/
def replacement : Char := '\ufffd'

/-- Where a decoder stands. -/
inductive Utf8 where
  /-- Between two characters. -/
  | between
  /-- Inside a character: the bits so far, how many bytes follow, and the bounds of the next. -/
  | inside (bits todo low high : Nat)
  deriving DecidableEq, Repr

/-- The first byte of a character. -/
def Utf8.lead (b : Nat) : Utf8 × List Char :=
  if b < 0x80 then (.between, [.ofNat b])
  else if 0xC2 ≤ b ∧ b ≤ 0xDF then (.inside (b - 0xC0) 1 0x80 0xBF, [])
  else if b = 0xE0 then (.inside 0 2 0xA0 0xBF, [])
  else if b = 0xED then (.inside 0xD 2 0x80 0x9F, [])
  else if 0xE1 ≤ b ∧ b ≤ 0xEF then (.inside (b - 0xE0) 2 0x80 0xBF, [])
  else if b = 0xF0 then (.inside 0 3 0x90 0xBF, [])
  else if b = 0xF4 then (.inside 4 3 0x80 0x8F, [])
  else if 0xF1 ≤ b ∧ b ≤ 0xF3 then (.inside (b - 0xF0) 3 0x80 0xBF, [])
  else (.between, [replacement])

/-- One byte: the next state and the characters that are complete. -/
def Utf8.step : Utf8 → Nat → Utf8 × List Char
  | .between, b => Utf8.lead b
  | .inside bits todo low high, b =>
    if low ≤ b ∧ b ≤ high then
      let bits := bits * 64 + (b - 0x80)
      if todo ≤ 1 then (.between, [.ofNat bits]) else (.inside bits (todo - 1) 0x80 0xBF, [])
    else
      let (s, cs) := Utf8.lead b
      (s, replacement :: cs)

/-- The characters of bytes, read from a state on. -/
def Utf8.decode : Utf8 → List UInt8 → List Char
  | .between, [] => []
  | .inside .., [] => [replacement]
  | s, b :: bs => (s.step b.toNat).2 ++ Utf8.decode (s.step b.toNat).1 bs

/-- The text of bytes, with replacement characters for what is not an encoding. -/
def ofUtf8Lossy (bs : List UInt8) : String :=
  .ofList (Utf8.decode .between bs)

end SwapMarket.Text
