/-!
# Paths

A path is a text in which slashes separate names. **`Path.join`** puts a path below another one;
a path that starts with a slash is absolute and replaces what is before it.
**`Path.components`** are the names that count: empty ones and single points do not, and two
points take back the name before. A path or a name can be too long, and none has the character
zero (**`Path.isNameable`**, **`Path.isName`**).
-/

namespace SwapMarket.Path

/-- A path below another one. -/
def join (base p : String) : String :=
  if p.toList.head? = some '/' then p
  else if base = "" ∨ base.toList.getLast? = some '/' then base ++ p
  else base ++ "/" ++ p

/-- Adds names to a list of names in reverse. -/
def walk : List String → List String → List String
  | done, [] => done
  | done, n :: ns =>
    if n = "" ∨ n = "." then walk done ns
    else if n = ".." then walk done.tail ns
    else walk (n :: done) ns

/-- The names of a path. -/
def components (p : String) : List String :=
  (walk [] ((p.toList.splitOn '/').map String.ofList)).reverse

/-- The length in bytes from which on a path is too long. -/
def pathLimit : Nat := 4096

/-- The greatest length of a name in bytes. -/
def greatestName : Nat := 255

/-- Whether a text has no character zero. -/
def hasNoZero (p : String) : Bool := p.toList.all (·.toNat ≠ 0)

/-- Whether something can be at a path. -/
def isNameable (p : String) : Bool := hasNoZero p && p.utf8ByteSize < pathLimit

/-- Whether something can have a name. -/
def isName (n : String) : Bool := hasNoZero n && n.utf8ByteSize ≤ greatestName

/-- Whether a file name has an extension: what follows its last point, which is not its first
character. -/
def hasExtension (extension name : String) : Bool :=
  match name.toList.reverse.splitOn '.' with
  | e :: rest :: more =>
    e.reverse = extension.toList && !(rest = [] && more = [])
  | _ => false

end SwapMarket.Path
