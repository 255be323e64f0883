import SwapMarket.Fault
import SwapMarket.Json.Decode
import SwapMarket.Service.Status

/-!
# Services on the network

A **`Request`** asks a service for a resource, or a trading node for an orderbook. A **`Network`**
is what is out there: whether anything can be reached at all, and the replies of the services by
the key of a request; a service that knows nothing of a request replies that it is not found.

**`Network.body`** is the outcome of one request. It fails, in this order, if the address cannot
be asked, if there is no reply, if the reply takes too long, and if its status is one of failure.
**`ask`** also decodes the body, and keeps a list of the requests that reached a service.
-/

namespace SwapMarket

/-- A request to a service. -/
inductive Request where
  /-- For a resource. -/
  | resource (url : Url)
  /-- For the orderbook of a market. -/
  | orderbook (url : Url) (password base quote : String)
  deriving DecidableEq, Repr

namespace Request

/-- The address to which a request goes. -/
def url : Request → Url
  | .resource u => u.anonymous
  | .orderbook u .. => u.anonymous

/-- The method of a request. -/
def method : Request → String
  | .resource _ => "GET"
  | .orderbook .. => "POST"

/-- The body of a request. -/
def body? : Request → Option Json
  | .resource _ => none
  | .orderbook _ password base quote =>
    some (.obj [("userpass", .str password), ("method", .str "orderbook"), ("base", .str base),
      ("rel", .str quote)])

/-- The key under which a network knows the reply to a request. -/
def key (r : Request) : String :=
  match r with
  | .resource _ => r.url.text
  | .orderbook _ _ base quote => r.url.text ++ "#" ++ base ++ "/" ++ quote

/-- A request as JSON. -/
def toJson (r : Request) : Json :=
  .obj ([("method", .str r.method), ("url", .str r.url.text)]
    ++ (r.body?.map fun b => [("body", b)]).getD [])

/-- Characters that a host may have, but not in a request. -/
def isForbiddenInRequest (c : Char) : Bool := "\"\x60\x7b\x7d".toList.contains c

/-- The greatest length of an address in a request, in bytes. -/
def greatestAddress : Nat := 65534

/-- Whether a request can be made: only hosts can be asked, and only in the usual way. -/
def isUsable (r : Request) : Bool :=
  (r.url.scheme == "http" || r.url.scheme == "https")
    && r.url.host.any (!·.toList.any isForbiddenInRequest)
    && r.url.text.utf8ByteSize ≤ greatestAddress

end Request

/-- The reply of a service. -/
structure Reply where
  /-- The status. -/
  status : Nat
  /-- The body. -/
  body : String
  /-- How many thousandths of a second the reply takes. -/
  delay : Nat
  /-- Whether the connection is closed without a reply. -/
  dropped : Bool
  deriving DecidableEq, Repr

/-- The reply of a service that knows nothing of a request. -/
def Reply.notFound : Reply := ⟨404, "", 0, false⟩

/-- The services. -/
structure Network where
  /-- Whether any service can be reached. -/
  reachable : Bool
  /-- The replies by the key of the request. -/
  replies : Table Reply
  deriving DecidableEq, Inhabited

namespace Network

/-- The reply to a request. -/
def replyTo (n : Network) (r : Request) : Reply := (n.replies.find? r.key).getD .notFound

/-- Whether a reply takes longer than so many seconds. -/
def isLate (timeout : Nat) (a : Reply) : Bool := 0 < a.delay && timeout * 1000 ≤ a.delay

/-- The body of the reply to a request. -/
def body (n : Network) (timeout : Nat) (r : Request) : Result String :=
  if !r.isUsable then .error (.transport (.unusable r.url))
  else if !n.reachable then .error (.transport (.unanswered r.url))
  else
    let a := n.replyTo r
    if a.dropped then .error (.transport (.unanswered r.url))
    else if isLate timeout a then .error (.timeout r.url.place)
    else if 400 ≤ a.status then
      .error (.refusal (.status r.url.place a.status (statusReason a.status)))
    else .ok a.body

/-- Whether a request reaches a service. -/
def reaches (n : Network) (r : Request) : Bool := n.reachable && r.isUsable

end Network

/-- A run that sends requests, with the requests that reached a service so far. -/
abbrev Asking := ExceptT Stop (StateM (List Request))

namespace Asking

/-- A run as one that sends nothing. -/
def ofRun {α : Type} (r : Run α) : Asking α := ExceptT.mk (pure r)

/-- A result as a run that sends nothing. -/
def ofResult {α : Type} (r : Result α) : Asking α := ofRun r.toRun

/-- The outcome of a run, with the requests that reached a service. -/
def outcome {α : Type} (a : Asking α) : Run α × List Request := a.run.run []

end Asking

/-- Sends a request and decodes the body of the reply. -/
def ask {α : Type} (n : Network) (timeout : Nat) (decode : Json → Option α) (r : Request) :
    Asking α := do
  if n.reaches r then modify (· ++ [r])
  let body ← Asking.ofResult (n.body timeout r)
  match (Json.read body).bind decode with
  | some v => return v
  | none => Asking.ofRun (Run.fail (.answer .body))

end SwapMarket
