import SwapMarket.Text.Mark

/-!
# Directions of writing

A character has a **`Direction`**, which says how it takes part in lines that run to the left and
to the right. Most characters are written to the right. **`directionRuns`** lists the others, and a
mark without space of its own goes along with what is before it.
-/

namespace SwapMarket.Text

/-- How a character takes part in the direction of a line. -/
inductive Direction where
  /-- It is written to the right. -/
  | toRight
  /-- It is written to the left. -/
  | toLeft
  /-- It is written to the left, and is of the Arabic kind. -/
  | arabic
  /-- It is a digit of the Arabic kind. -/
  | arabicDigit
  /-- It is another digit. -/
  | digit
  /-- It separates digits of one number. -/
  | digitSeparator
  /-- It belongs to a number. -/
  | digitTerminator
  /-- It separates numbers. -/
  | commonSeparator
  /-- It goes along with what is before it. -/
  | mark
  /-- It does not count. -/
  | invisible
  /-- It goes along with what is around it. -/
  | neutral
  /-- It ends a line or a part of it, or is blank. -/
  | blank
  deriving DecidableEq, Repr

/-- The runs of characters other than marks that are not written to the right. Characters without
a use of their own lie in the runs around them. -/
def directionRuns : List (Nat × Nat × Direction) := [
  (0x0, 0x8, .invisible), (0x9, 0x9, .blank), (0xA, 0xA, .blank), (0xB, 0xB, .blank),
  (0xC, 0xC, .blank), (0xD, 0xD, .blank), (0xE, 0x1B, .invisible), (0x1C, 0x1E, .blank),
  (0x1F, 0x1F, .blank), (0x20, 0x20, .blank), (0x21, 0x22, .neutral),
  (0x23, 0x25, .digitTerminator), (0x26, 0x2A, .neutral), (0x2B, 0x2B, .digitSeparator),
  (0x2C, 0x2C, .commonSeparator), (0x2D, 0x2D, .digitSeparator), (0x2E, 0x2F, .commonSeparator),
  (0x30, 0x39, .digit), (0x3A, 0x3A, .commonSeparator), (0x3B, 0x60, .neutral),
  (0x7B, 0x7E, .neutral), (0x7F, 0x7F, .invisible), (0xA1, 0xA1, .neutral),
  (0xA2, 0xA5, .digitTerminator), (0xA6, 0xAE, .neutral), (0xB0, 0xB1, .digitTerminator),
  (0xB6, 0xD7, .neutral), (0xF7, 0xF7, .neutral), (0x2B9, 0x2BA, .neutral),
  (0x2C2, 0x2CF, .neutral), (0x2D2, 0x2ED, .neutral), (0x2EF, 0x2FF, .neutral),
  (0x375, 0x375, .neutral), (0x3F6, 0x3F6, .neutral), (0x58A, 0x58E, .neutral),
  (0x58F, 0x58F, .digitTerminator), (0x5BE, 0x5F4, .toLeft), (0x606, 0x607, .neutral),
  (0x608, 0x608, .arabic), (0x609, 0x60A, .digitTerminator), (0x60B, 0x60B, .arabic),
  (0x60C, 0x60C, .commonSeparator), (0x60D, 0x60D, .arabic), (0x60E, 0x60F, .neutral),
  (0x61B, 0x64A, .arabic), (0x660, 0x669, .arabicDigit), (0x66A, 0x66A, .digitTerminator),
  (0x66B, 0x66C, .arabicDigit), (0x66D, 0x6D5, .arabic), (0x6DE, 0x6DE, .neutral),
  (0x6E5, 0x6E6, .arabic), (0x6E9, 0x6E9, .neutral), (0x6EE, 0x6EF, .arabic),
  (0x6F0, 0x6F9, .digit), (0x6FA, 0x7B1, .arabic), (0x7C0, 0x7F5, .toLeft),
  (0x7F6, 0x7F9, .neutral), (0x7FA, 0x85E, .toLeft), (0x860, 0x8C9, .arabic),
  (0x9F2, 0x9F3, .digitTerminator), (0x9FB, 0x9FB, .digitTerminator),
  (0xAF1, 0xAF1, .digitTerminator), (0xBF3, 0xBF8, .neutral), (0xBF9, 0xBF9, .digitTerminator),
  (0xBFA, 0xBFA, .neutral), (0xC78, 0xC7E, .neutral), (0xE3F, 0xE3F, .digitTerminator),
  (0xF3A, 0xF3D, .neutral), (0x1390, 0x1399, .neutral), (0x1400, 0x1400, .neutral),
  (0x169B, 0x169C, .neutral), (0x17DB, 0x17DB, .digitTerminator), (0x17F0, 0x180A, .neutral),
  (0x1940, 0x1945, .neutral), (0x19DE, 0x19FF, .neutral), (0x200C, 0x200D, .invisible),
  (0x2010, 0x2027, .neutral), (0x2030, 0x2032, .digitTerminator), (0x2035, 0x2043, .neutral),
  (0x2044, 0x2044, .commonSeparator), (0x2045, 0x205E, .neutral),
  (0x20A0, 0x20C1, .digitTerminator), (0x2104, 0x2129, .neutral),
  (0x212E, 0x212E, .digitTerminator), (0x213A, 0x214D, .neutral), (0x218A, 0x2211, .neutral),
  (0x2212, 0x2212, .digitSeparator), (0x2213, 0x2213, .digitTerminator), (0x2214, 0x2335, .neutral),
  (0x237B, 0x2394, .neutral), (0x2396, 0x26AB, .neutral), (0x26AD, 0x27FF, .neutral),
  (0x2900, 0x2BFF, .neutral), (0x2CE5, 0x2CEA, .neutral), (0x2CF9, 0x2CFF, .neutral),
  (0x2E00, 0x3004, .neutral), (0x3008, 0x3020, .neutral), (0x3030, 0x3030, .neutral),
  (0x3037, 0x3037, .neutral), (0x303D, 0x303F, .neutral), (0x30A0, 0x30A0, .neutral),
  (0x30FB, 0x30FB, .neutral), (0x31C0, 0x31E5, .neutral), (0x4DC0, 0x4DFF, .neutral),
  (0xA490, 0xA4C6, .neutral), (0xA60D, 0xA60F, .neutral), (0xA673, 0xA67F, .neutral),
  (0xA700, 0xA721, .neutral), (0xA788, 0xA788, .neutral), (0xA828, 0xA82B, .neutral),
  (0xA838, 0xA839, .digitTerminator), (0xA874, 0xA877, .neutral), (0xAB6A, 0xAB6B, .neutral),
  (0xFBB2, 0xFBC2, .arabic), (0xFBC3, 0xFE46, .neutral), (0xFE73, 0xFE73, .arabic),
  (0x10101, 0x10101, .neutral), (0x10140, 0x1018C, .neutral), (0x10190, 0x101A0, .neutral),
  (0x102E1, 0x102FB, .digit), (0x10800, 0x1091B, .toLeft), (0x1091F, 0x1091F, .neutral),
  (0x10920, 0x10B35, .toLeft), (0x10B39, 0x10B3F, .neutral), (0x10B40, 0x10CFF, .toLeft),
  (0x10D00, 0x10D23, .arabic), (0x10D30, 0x10D39, .arabicDigit), (0x10D40, 0x10D4F, .toLeft),
  (0x10D6E, 0x10D6E, .neutral), (0x10D6F, 0x10D8F, .toLeft), (0x10E60, 0x10E7E, .arabicDigit),
  (0x10E80, 0x10EB1, .toLeft), (0x10EC2, 0x10EC7, .arabic), (0x10ED0, 0x10ED8, .neutral),
  (0x10F00, 0x10F27, .toLeft), (0x10F30, 0x10F59, .arabic), (0x10F70, 0x10FF6, .toLeft),
  (0x11052, 0x11065, .neutral), (0x11660, 0x1166C, .neutral), (0x11FD5, 0x11FDC, .neutral),
  (0x11FDD, 0x11FE0, .digitTerminator), (0x11FE1, 0x11FF1, .neutral), (0x16FE2, 0x16FE2, .neutral),
  (0x1CC00, 0x1CEF0, .neutral), (0x1D1E9, 0x1D245, .neutral), (0x1D300, 0x1D356, .neutral),
  (0x1E2FF, 0x1E2FF, .digitTerminator), (0x1E800, 0x1E95F, .toLeft), (0x1EC71, 0x1ED3D, .arabic),
  (0x1EEF0, 0x1F12F, .neutral), (0x1F16D, 0x1F16F, .neutral), (0x1F1AD, 0x1F1AD, .neutral),
  (0x1F260, 0x1FBFA, .neutral)]

/-- The marks without space of their own that are nevertheless written to the right. -/
def marksToRight : List Nat := [0xCBF, 0xCC6, 0x11A07, 0x11A08, 0x11C3F]

/-- The direction of a character. -/
def direction (c : Char) : Direction :=
  if isSpacelessMark c then if marksToRight.contains c.toNat then .toRight else .mark
  else (valueInRuns directionRuns c).getD .toRight

end SwapMarket.Text
