import SwapMarket.Api.Call
import SwapMarket.Api.Route
import SwapMarket.Board.Build
import SwapMarket.Board.Status
import SwapMarket.Text.UpperCase

/-!
# Answers

Every call is answered from the snapshots on the board, at once. A call that finds an item without
a snapshot gets an answer that stands for it, and has the item built afterwards unless a build is
under way already (**`Outcome`**). A fault is answered with its wording and the status of its
kind.

**`respond`** is what a call comes to on a board, and **`visit`** also carries out the build.
-/

namespace SwapMarket.Api

/-- The version of the program. -/
def version : String := "3.1.0"

/-- The body of an answer. -/
inductive Body where
  /-- A JSON value. -/
  | json (v : Json)
  /-- A text. -/
  | text (s : String)
  deriving Repr

/-- An answer. -/
structure Answer where
  /-- The status. -/
  status : Nat
  /-- The body. -/
  body : Body
  deriving Repr

namespace Answer

/-- The answer with a value. -/
def ok (v : Json) : Answer := ⟨200, .json v⟩

/-- The answer with a fault. -/
def ofFault (f : Fault) : Answer := ⟨f.kind.status, .json (.obj [("error", .str f.message)])⟩

/-- The answer where no route leads. -/
def nowhere : Answer := ⟨404, .text ""⟩

/-- The answer to a parameter that is given twice. -/
def twice (name : String) : Answer :=
  ⟨400, .text ("Query deserialize error: duplicate field \x60" ++ name ++ "\x60")⟩

/-- The answer with the outcome of a run. A fault is an answer; only the end of a run is none. -/
def ofRun : Run Json → Run Answer
  | .ok v => .ok (ok v)
  | .error (.fault f) => .ok (ofFault f)
  | .error s => .error s

end Answer

/-- What a call comes to. -/
structure Outcome where
  /-- The answer. -/
  answer : Run Answer
  /-- The item that is to be built afterwards. -/
  wanted : Option Item

namespace Outcome

/-- An outcome after which nothing is built. -/
def plain (a : Answer) : Outcome := ⟨.ok a, none⟩

/-- The outcome of reading an item. -/
def reading (b : Board) (n : Item) (r : Run Json) : Outcome where
  answer := Answer.ofRun r
  wanted := if (b.slots n).isNone && !b.building n then some n else none

end Outcome

/-- The tickers under each identifier, as JSON. -/
def tickersJson (b : Board) : Json :=
  match b.slots .coinEntries with
  | some es =>
    .ofTable (fun ts => .arr (ts.map .str)) (Catalogue.ofEntries es none none).tickersById
  | none => .obj []

/-- The rates, unless they are too old. -/
def ratesJson (b : Board) : Run Json :=
  match b.slots .rates with
  | some r => do
    Rates.checkFresh r (← b.time) b.settings.ratesMaxAge
    return r.toJson
  | none => .ok Rates.blank.toJson

/-- The prices of the exchange, or only that of one symbol in any case. -/
def spotPricesOf (ps : SpotPrices) : Option String → SpotPrices
  | none => ps
  | some symbol =>
    let key := Text.upperCase symbol
    match ps.find? key with
    | some p => .ofList [(key, p)]
    | none => .empty

/-- Whether a client is served: not in a country that is blocked. -/
def bouncerJson (b : Board) (client : Option Address) : Run Json :=
  let country := client.bind b.geo.country?
  match country.filter fun c => b.settings.blockedCountries.contains c with
  | some c => Run.fail (.restricted c)
  | none =>
    .ok (.obj [("ip", .ofOption (client.map fun a => .str a.text)),
      ("country", .ofOption (country.map .str))])

/-- What it comes to when a client asks for a view, perhaps for one market. A text that does not
name a market is refused before the view is looked at. -/
def respondMarket (b : Board) (v : MarketView) (pair : Option String) : Outcome :=
  let shown (sides : Option (String × String)) : Outcome :=
    .reading b v.item ((Shown.ofTable (v.table? b) sides).map Shown.toJson)
  match pair with
  | none => shown none
  | some p =>
    match Pair.sides p with
    | .ok s => shown (some s)
    | .error f => .plain (Answer.ofFault (.pair f))

/-- What a route comes to, given its parameter. -/
def respondRoute (b : Board) (c : Call) (parameter : Option String) : Route → Outcome
  | .coinPrices =>
    .reading b .coinPrices (.ok (((b.slots .coinPrices).map Item.coinPrices.toJson).getD (.obj [])))
  | .tickersById => .reading b .coinEntries (.ok (tickersJson b))
  | .summary =>
    .reading b .summary (.ok (Item.summary.toJson ((b.slots .summary).getD Summary.blank)))
  | .market v => respondMarket b v parameter
  | .rates => .reading b .rates (ratesJson b)
  | .spotPrices =>
    let shown := (b.slots .spotPrices).map fun ps => spotPricesOf ps parameter
    .reading b .spotPrices (.ok (.ofTable .str (shown.getD .empty)))
  | .bouncer => ⟨Answer.ofRun (bouncerJson b c.client?), none⟩
  | .items => .plain (.ok (.arr (b.statuses.map ItemStatus.toJson)))
  | .version => .plain (.ok (.obj [("version", .str version)]))

/-- What a call comes to. -/
def respond (b : Board) (c : Call) : Outcome :=
  if c.method ≠ "GET" then .plain .nowhere
  else
    match Route.ofPath? c.path with
    | none => .plain .nowhere
    | some r =>
      match r.parameterName? with
      | none => respondRoute b c none r
      | some name =>
        match c.values name with
        | [] => respondRoute b c none r
        | [p] => respondRoute b c (some p) r
        | _ => .plain (.twice name)

/-- A call with the build that it has done afterwards, whose own outcome nobody waits for. -/
def visit (b : Board) (c : Call) : Board × Run Answer :=
  let o := respond b c
  match o.wanted with
  | some n => ((b.build n).1, o.answer)
  | none => (b, o.answer)

end SwapMarket.Api
