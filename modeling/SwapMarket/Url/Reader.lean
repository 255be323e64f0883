import SwapMarket.Url.Host
import SwapMarket.Url.Path

/-!
# Reading resource addresses

**`Url.parse`** reads an absolute address. Blanks and control characters around it, and tabs and
line ends inside it, do not count. A scheme of the usual kind (`Url.isSpecial`) has to be followed
by a host, with any number of slashes before it, and backslashes count as slashes in its path. A
file need not have a host (`readFile`). Other schemes may have a host after two slashes, or a path,
or any text.
-/

namespace SwapMarket.Url

/-- Whether a character is a control character or one of a list. -/
def controlOr (others : String) (c : Char) : Bool :=
  Domain.isControl c || others.toList.contains c

/-- The characters encoded in a fragment. -/
def fragmentClass : Char → Bool := controlOr " \"<>\x60"

/-- The characters encoded in a query. -/
def queryClass : Char → Bool := controlOr " \"#<>"

/-- The characters encoded in a query after a host of the usual kind. -/
def specialQueryClass : Char → Bool := controlOr " \"#<>'"

/-- The characters encoded in a user name or a password. -/
def userClass : Char → Bool := controlOr " \"<>\x60#?\x7b\x7d/:;=@[\\]^|"

/-- The host and what follows the first colon outside brackets. -/
def cutSocket : Bool → List Char → List Char × Option (List Char)
  | _, [] => ([], none)
  | inside, c :: cs =>
    if c = ':' ∧ inside = false then ([], some cs)
    else
      let p := cutSocket (if c = '[' then true else if c = ']' then false else inside) cs
      (c :: p.1, p.2)

/-- Reads a socket. The usual socket of the scheme, or none at all, is left out. -/
def readSocket (scheme : String) : Option (List Char) → Except UrlFault (Option Nat)
  | none => .ok none
  | some [] => .ok none
  | some ds =>
    match Text.readMagnitude 10 65535 .tooLarge 0 ds with
    | .ok p => .ok (if usualSocket scheme = some p then none else some p)
    | .error _ => .error .badSocket

/-- The parts of a text before and after its last at sign. -/
def cutUser (cs : List Char) : Option (List Char × List Char) :=
  (Text.cutChars '@' cs.reverse).map fun p => (p.2.reverse, p.1.reverse)

/-- User name and password before an at sign. -/
def readUser (cs : List Char) : String × String :=
  let encode (p : List Char) : String := .ofList (Text.percentEncodeChars userClass p)
  match Text.cutChars ':' cs with
  | some (name, password) => (encode name, encode password)
  | none => (encode cs, "")

/-- Reads what follows the two slashes before a host: perhaps a user, a host, perhaps a socket. The
second result is what is left for the path. After another scheme than the usual ones the host may
be empty, but not with a user or a socket. -/
def readAuthority (u : Url) (cs : List Char) : Except UrlFault (Url × List Char) :=
  let ends (c : Char) : Bool := c = '/' || (isSpecial u.scheme && c = '\\')
  let place := cs.takeWhile (!ends ·)
  let path := cs.dropWhile (!ends ·)
  let (user, rest) := match cutUser place with
    | some (a, b) => (some a, b)
    | none => (none, place)
  let (name, password) := readUser (user.getD [])
  let (hostChars, socketChars) := cutSocket false rest
  let isEnd := path = [] ∧ u.query = none ∧ u.fragment = none
  let misses := isSpecial u.scheme ∨ socketChars.isSome ∨ name ≠ "" ∨ password ≠ ""
    ∨ (user = some [] ∧ ¬isEnd)
  if hostChars = [] ∧ misses then .error .emptyHost
  else
    match if isSpecial u.scheme then readHost hostChars else readOpaqueHost hostChars with
    | .error f => .error f
    | .ok host =>
      match readSocket u.scheme (socketChars.map (·.takeWhile (· ≠ '\\'))) with
      | .error f => .error f
      | .ok socket =>
        .ok ({ u with username := name, password := password, host := some host, socket := socket },
          (socketChars.getD []).dropWhile (· ≠ '\\') ++ path)

/-- Whether a character separates segments of a path of the usual kind. -/
def isSlash (c : Char) : Bool := c = '/' || c = '\\'

/-- Host and path of a file address, the path without its first slash, from what follows the
scheme. The letter of a drive is no host, and the own machine is none either. -/
def readFilePlace (cs : List Char) : Except UrlFault (String × List Char) :=
  match cs with
  | a :: b :: r =>
    if isSlash a && isSlash b then
      let host := r.takeWhile (!isSlash ·)
      let path := r.dropWhile (!isSlash ·)
      if isDrive host then .ok ("", r)
      else if host = [] then .ok ("", path)
      else (readHost host).map fun h => if h = "localhost" then ("", path) else (h, path.drop 1)
    else .ok ("", if isSlash a then b :: r else cs)
  | _ => .ok ("", cs.dropWhile isSlash)

/-- Reads a file address. There is no host before the letter of a drive. -/
def readFile (u : Url) (cs : List Char) : Except UrlFault Url :=
  (readFilePlace cs).map fun (host, path) =>
    let segments := resolvedSegments true isSlash path
    { u with
      host := some (if segments.head?.any isDrive then "" else host)
      path := pathText (fileSegments segments) }

/-- Reads what follows the scheme, up to the query, into an address. -/
def readPlace (u : Url) (cs : List Char) : Except UrlFault Url :=
  if u.scheme = "file" then readFile u cs
  else if isSpecial u.scheme then
    (readAuthority u (cs.dropWhile isSlash)).map fun (v, path) =>
      { v with path := pathText (resolvedSegments false isSlash (path.drop 1)) }
  else
    match cs with
    | '/' :: '/' :: r =>
      (readAuthority u r).map fun (v, path) =>
        let rest := if path.head? = some '/' then path.drop 1 else path
        let segments := resolvedSegments false (· = '/') rest
        { v with path := if path = [] then "" else pathText segments }
    | '/' :: r => .ok { u with path := pathText (resolvedSegments false (· = '/') r) }
    | _ => .ok { u with path := .ofList (Text.percentEncodeChars Domain.isControl cs) }

/-- The characters that count: none around the address that are blank or control characters, and
no tabs or line ends. -/
def countedChars (s : String) : List Char :=
  let blank (c : Char) : Bool := c.toNat ≤ 0x20
  (((s.toList.dropWhile blank).reverse.dropWhile blank).reverse).filter
    fun c => !("\t\n\r".toList.contains c)

/-- Whether a character can be part of a scheme. -/
def isSchemeChar (c : Char) : Bool := c.isAlphanum || c == '+' || c == '-' || c == '.'

/-- Reads an absolute address. -/
def parse (s : String) : Except UrlFault Url :=
  let cs := countedChars s
  let scheme := cs.takeWhile isSchemeChar
  match scheme.head?, cs.dropWhile isSchemeChar with
  | some c, ':' :: rest =>
    if c.isAlpha then
      let (rest, fragment) := match Text.cutChars '#' rest with
        | some (a, b) => (a, some b)
        | none => (rest, none)
      let (rest, query) := match Text.cutChars '?' rest with
        | some (a, b) => (a, some b)
        | none => (rest, none)
      let name : String := .ofList (scheme.map Char.toLower)
      let encodedClass := if isSpecial name then specialQueryClass else queryClass
      readPlace ⟨name, "", "", none, none, "",
        query.map fun q => .ofList (Text.percentEncodeChars encodedClass q),
        fragment.map fun f => .ofList (Text.percentEncodeChars fragmentClass f)⟩ rest
    else .error .noScheme
  | _, _ => .error .noScheme

end SwapMarket.Url
