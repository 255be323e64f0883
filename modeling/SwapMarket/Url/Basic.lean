import SwapMarket.Text.Percent

/-!
# Addresses of resources

A **`Url`** has a scheme, perhaps a host with credentials and a socket, a path, and perhaps a query
and a fragment, all in the encoded form in which they are sent. **`Url.text`** puts the parts
together, and **`withParameters`** adds form fields to the query.
-/

namespace SwapMarket

/-- Why a text is not a resource address. -/
inductive UrlFault where
  /-- There is no scheme. -/
  | noScheme
  /-- The socket number is not below 65536. -/
  | badSocket
  /-- There is no host where one is needed. -/
  | emptyHost
  /-- The host is not a domain name. -/
  | badDomain
  /-- The host has a character that no host has. -/
  | badHostCharacter
  /-- The host ends like a short internet address but is none. -/
  | badShortAddress
  /-- The host is in brackets but is not a long internet address. -/
  | badLongAddress
  deriving DecidableEq, Repr

/-- The wording of a fault. -/
def UrlFault.message : UrlFault → String
  | .noScheme => "relative URL without a base"
  | .badSocket => "invalid port number"
  | .emptyHost => "empty host"
  | .badDomain => "invalid international domain name"
  | .badHostCharacter => "invalid domain character"
  | .badShortAddress => "invalid IPv4 address"
  | .badLongAddress => "invalid IPv6 address"

/-- The address of a resource, in encoded form. -/
structure Url where
  /-- The scheme, in lower case. -/
  scheme : String
  /-- The user name. -/
  username : String
  /-- The password. -/
  password : String
  /-- The host. -/
  host : Option String
  /-- The socket, unless it is the usual one of the scheme. -/
  socket : Option Nat
  /-- The path. -/
  path : String
  /-- What follows a question mark. -/
  query : Option String
  /-- What follows a number sign. -/
  fragment : Option String
  deriving DecidableEq, Repr

namespace Url

/-- The usual sockets of the schemes whose addresses have a host. -/
def usualSockets : List (String × Option Nat) :=
  [("http", some 80), ("https", some 443), ("ws", some 80), ("wss", some 443), ("ftp", some 21),
    ("file", none)]

/-- Whether a scheme is one of those whose addresses have a host. -/
def isSpecial (scheme : String) : Bool := usualSockets.any fun e => e.1 == scheme

/-- The usual socket of a scheme. -/
def usualSocket (scheme : String) : Option Nat :=
  (usualSockets.find? fun e => e.1 == scheme).bind (·.2)

/-- User name and password before the host. -/
def credentials (u : Url) : String :=
  if u.username = "" ∧ u.password = "" then ""
  else u.username ++ (if u.password = "" then "" else ":" ++ u.password) ++ "@"

/-- The whole address. -/
def text (u : Url) : String :=
  u.scheme ++ ":"
    ++ (match u.host with
      | some h =>
        "//" ++ u.credentials ++ h ++ (match u.socket with
          | some p => ":" ++ toString p
          | none => "")
      | none => if u.path.startsWith "//" then "/." else "")
    ++ u.path
    ++ (match u.query with
      | some q => "?" ++ q
      | none => "")
    ++ (match u.fragment with
      | some f => "#" ++ f
      | none => "")

/-- Host and path, the form in which a fault names an address. -/
def place (u : Url) : String := u.host.getD "" ++ u.path

/-- The address without user name and password. -/
def anonymous (u : Url) : Url := { u with username := "", password := "" }

/-- Form fields in encoded form. -/
def parameters (fields : List (String × String)) : String :=
  "&".intercalate (fields.map fun f => Text.formEncode f.1 ++ "=" ++ Text.formEncode f.2)

/-- The address with form fields added to its query. -/
def withParameters (u : Url) (fields : List (String × String)) : Url :=
  { u with query := some (match u.query with
      | none => parameters fields
      | some "" => parameters fields
      | some q => q ++ "&" ++ parameters fields) }

end Url

end SwapMarket
