import SwapMarket.Json.Token

/-!
# Writing JSON

**`tokens`** is the sequence of tokens of a value, and **`compact`** writes them without anything
between. **`pretty`** puts each item and each member on a line of its own, indented by two spaces
a level; an empty list or object stays on its line. What is not readable is written as null.
-/

namespace SwapMarket.Json

mutual

/-- The tokens of a value. -/
def tokens : Json → List Token
  | .null => [.null]
  | .bool b => [.bool b]
  | .num n => [.num n]
  | .str s => [.str s]
  | .arr [] => [.openArray, .closeArray]
  | .arr (v :: vs) => .openArray :: tokens v ++ itemTokens vs ++ [.closeArray]
  | .obj [] => [.openObject, .closeObject]
  | .obj ((k, v) :: fs) =>
    .openObject :: .str k :: .colon :: tokens v ++ fieldTokens fs ++ [.closeObject]
  | .unreadable => [.null]

/-- The tokens of the items after the first. -/
def itemTokens : List Json → List Token
  | [] => []
  | v :: vs => .comma :: tokens v ++ itemTokens vs

/-- The tokens of the members after the first. -/
def fieldTokens : List (String × Json) → List Token
  | [] => []
  | (k, v) :: fs => .comma :: .str k :: .colon :: tokens v ++ fieldTokens fs

end

/-- A value on one line, without blanks. -/
def compact (v : Json) : String :=
  .ofList (v.tokens.flatMap Token.chars)

/-- The start of a line at a level. -/
def newline (level : Nat) : List Char :=
  '\n' :: List.replicate (2 * level) ' '

mutual

/-- The lines of a value at a level. -/
def lines (level : Nat) : Json → List Char
  | .null => Token.null.chars
  | .bool b => (Token.bool b).chars
  | .num n => n.chars
  | .str s => quoted s
  | .arr [] => ['[', ']']
  | .arr (v :: vs) =>
    '[' :: newline (level + 1) ++ lines (level + 1) v ++ itemLines (level + 1) vs
      ++ newline level ++ [']']
  | .obj [] => ['\x7b', '\x7d']
  | .obj ((k, v) :: fs) =>
    '\x7b' :: newline (level + 1) ++ quoted k ++ ':' :: ' ' :: lines (level + 1) v
      ++ fieldLines (level + 1) fs ++ newline level ++ ['\x7d']
  | .unreadable => Token.null.chars

/-- The lines of the items after the first. -/
def itemLines (level : Nat) : List Json → List Char
  | [] => []
  | v :: vs => ',' :: newline level ++ lines level v ++ itemLines level vs

/-- The lines of the members after the first. -/
def fieldLines (level : Nat) : List (String × Json) → List Char
  | [] => []
  | (k, v) :: fs =>
    ',' :: newline level ++ quoted k ++ ':' :: ' ' :: lines level v ++ fieldLines level fs

end

/-- A value on indented lines. -/
def pretty (v : Json) : String := .ofList (lines 0 v)

end SwapMarket.Json
