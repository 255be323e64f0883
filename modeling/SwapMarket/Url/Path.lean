import SwapMarket.Text.Percent

/-!
# Paths of resource addresses

A path is a row of segments, each after a slash. **`resolvedSegments`** takes the dot segments out
of such a row: a point stays in place, and two points go back one segment.

On some machines a path starts with the letter of a drive (**`isDrive`**). Two points do not go
back over a segment that looks like one, and at the start of the path of a file it is written in
one of its two forms.
-/

namespace SwapMarket.Url

/-- The ASCII characters encoded in a path. -/
def isEncodedInPath (c : Char) : Bool :=
  c.toNat < 0x20 || c.toNat = 0x7F || " \"<>\x60#?\x7b\x7d".toList.contains c

/-- Whether a segment is the letter of a drive. -/
def isDrive : List Char → Bool
  | [a, b] => a.isAlpha && (b == ':' || b == '|')
  | _ => false

/-- Whether a segment is the letter of a drive, perhaps with a backslash and more behind it. -/
def startsWithDrive (s : List Char) : Bool :=
  isDrive (s.take 2) && (s.drop 2).head?.all (· == '\\')

/-- The letter of a drive in the form in which it is written. -/
def driveForm (s : List Char) : List Char := s.take 1 ++ [':']

/-- A segment with its encoded points written out. -/
def plainPoints : List Char → List Char
  | '%' :: '2' :: 'e' :: r => '.' :: plainPoints r
  | '%' :: '2' :: 'E' :: r => '.' :: plainPoints r
  | c :: r => c :: plainPoints r
  | [] => []

/-- The segments before the last one, which comes first. What looks like the letter of a drive
stays. -/
def withoutLast : List (List Char) → List (List Char)
  | [] => []
  | s :: done => if startsWithDrive s then s :: done else done

/-- Adds segments to those that are done, the last of which comes first. As the last segment,
points leave an empty one. In the path of a file the letter of a drive may come first. -/
def resolve (isFile : Bool) : List (List Char) → List (List Char) → List (List Char)
  | done, [] => done
  | done, s :: rest =>
    let p := plainPoints s
    if p = ['.', '.'] then
      resolve isFile (if rest = [] then [] :: withoutLast done else withoutLast done) rest
    else if p = ['.'] then resolve isFile (if rest = [] then [] :: done else done) rest
    else if isFile && done.isEmpty && isDrive s then resolve isFile (driveForm s :: done) rest
    else resolve isFile (Text.percentEncodeChars isEncodedInPath s :: done) rest

/-- The segments of a text that follows the first slash of a path, resolved and encoded. -/
def resolvedSegments (isFile : Bool) (isSlash : Char → Bool) (cs : List Char) :
    List (List Char) :=
  (resolve isFile [] ((cs.map fun c => if isSlash c then '/' else c).splitOn '/')).reverse

/-- The segments of the path of a file, which does not start with more than one slash. -/
def fileSegments (segments : List (List Char)) : List (List Char) :=
  match segments.dropWhile (·.isEmpty) with
  | [] => [[]]
  | ss => ss

/-- The path of segments. -/
def pathText (segments : List (List Char)) : String :=
  .ofList (segments.flatMap ('/' :: ·))

end SwapMarket.Url
