import SwapMarket.Address
import SwapMarket.Text.Percent

/-!
# Calls

A **`Call`** is what a client asks of the program. Its target is a path and, after a question
mark, a form; what follows a hash sign does not count, and neither do a scheme and a host before
the path. **`Call.values`** are the values that the form gives to a name.

**`Call.client?`** is the address of the client. Proxies report it in headers: the first `for` of
all `Forwarded` headers counts, else the first item of the first `X-Forwarded-For` header, even if
it is empty, else the address from which the call comes. A header that is not plain ASCII does
not count.
-/

namespace SwapMarket.Api

/-- What a client asks. -/
structure Call where
  /-- The method. -/
  method : String
  /-- The path with the form. -/
  target : String
  /-- The headers, by name. -/
  headers : List (String × String)
  /-- The address from which the call comes. -/
  peer : Option Address
  deriving DecidableEq, Repr

namespace Call

/-- Whether a character can be part of a scheme. -/
def isSchemeChar (c : Char) : Bool := c.isAlphanum || c == '+' || c == '-' || c == '.'

/-- What follows a scheme and a host, or everything if there is no scheme. -/
def withoutHost (cs : List Char) : List Char :=
  match cs.dropWhile isSchemeChar with
  | ':' :: '/' :: '/' :: r => r.dropWhile fun c => c ≠ '/' && c ≠ '?'
  | _ => cs

/-- The target without what follows a hash sign, and without a host. -/
def resource (c : Call) : String :=
  .ofList (withoutHost (Text.before '#' c.target).toList)

/-- The path, with its percent encodings undone. -/
def path (c : Call) : String := Text.pathDecode (Text.before '?' c.resource)

/-- The named values of the form. -/
def fields (c : Call) : List (String × String) :=
  match Text.cut '?' c.resource with
  | some (_, form) => Text.formFields form
  | none => []

/-- The values that the form gives to a name, in order. -/
def values (c : Call) (name : String) : List String :=
  (c.fields.filter fun f => f.1 == name).map (·.2)

/-- Whether a text can stand in a header as it is. -/
def isPlain (s : String) : Bool :=
  s.toList.all fun c => c == '\t' || (0x20 ≤ c.toNat && c.toNat < 0x7F)

/-- A text in lower case, as far as it is ASCII. -/
def lowerCase (s : String) : String := .ofList (s.toList.map Char.toLower)

/-- The headers of a name, given in lower case. -/
def headersOf (c : Call) (name : String) : List String :=
  (c.headers.filter fun h => lowerCase h.1 == name).map (·.2)

/-- A text without a character at its start. -/
def dropStart (x : Char) (cs : List Char) : List Char := cs.dropWhile (· == x)

/-- A text without a character at its end. -/
def dropEnd (x : Char) (cs : List Char) : List Char := (dropStart x cs.reverse).reverse

/-- A value without the quotes around it. -/
def unquoted (s : String) : String :=
  .ofList (dropEnd '"' (dropStart '"' (Text.trim s).toList))

/-- The characters before the first closing bracket that a colon follows, or all of them. -/
def beforeSocket : List Char → List Char
  | ']' :: ':' :: _ => []
  | c :: r => c :: beforeSocket r
  | [] => []

/-- An address without a socket and without brackets. -/
def bareAddress (s : String) : String :=
  if s.toList.head? = some '[' then
    .ofList (dropEnd ']' (dropStart '[' (beforeSocket s.toList)))
  else Text.before ':' s

/-- The named values of a `Forwarded` header. -/
def forwardedFields (s : String) : List (String × String) :=
  ((Text.pieces ';' s).flatMap (Text.pieces ',')).filterMap fun p =>
    (Text.cut '=' (Text.trim p)).map fun f => (lowerCase (Text.trim f.1), f.2)

/-- The client that `Forwarded` headers report. -/
def forwardedClient? (c : Call) : Option String :=
  let fields := ((c.headersOf "forwarded").filter isPlain).flatMap forwardedFields
  (fields.find? fun f => f.1 == "for").map fun f => bareAddress (unquoted f.2)

/-- The client that an `X-Forwarded-For` header reports. -/
def listedClient? (c : Call) : Option String :=
  match c.headersOf "x-forwarded-for" with
  | h :: _ => if isPlain h then some (Text.trim (Text.before ',' h)) else none
  | [] => none

/-- The address of the client. -/
def client? (c : Call) : Option Address :=
  match c.forwardedClient?.or c.listedClient? with
  | some s => Address.readClient s
  | none => c.peer

end Call

end SwapMarket.Api
