-- The outside as far as a search reaches it: replies of the engines that are still to come,
-- the requests that reached an engine, the calls that engines made, and the events reported
-- so far. A step reads and extends these.
import SearchQuery.Engine.Request
import SearchQuery.Log.Event

namespace SearchQuery

/-- How a request to an engine can fail before there is an answer. -/
inductive Failure where
  /-- The transport failed. -/
  | transport (text : String)
  /-- The client failed by itself. -/
  | runtime (text : String)
  /-- The client refused a value. -/
  | value (text : String)
  deriving DecidableEq, Repr

namespace Failure

def text : Failure → String
  | .transport t | .runtime t | .value t => t

/-- The fault when nobody handles the failure. -/
def toFault : Failure → Fault
  | .transport t => .transport t
  | .runtime t => .clientRuntime t
  | .value t => .clientValue t

end Failure

/-- What comes back for a request. -/
inductive Outcome where
  | failed (failure : Failure)
  /-- A status, the body, and the complaint of the decoder if the body cannot be decoded. -/
  | answered (status : Int) (body : Value) (undecodable : Option String)

namespace Outcome

/-- The body, whatever the status. -/
def body? : Outcome → Except Failure Value
  | .failed failure => .error failure
  | .answered _ body _ => .ok body

/-- The failure of an answer with a status outside 200 to 299. -/
def accepted? : Outcome → Except Failure (Value × Option String)
  | .failed failure => .error failure
  | .answered status body undecodable =>
    if 200 ≤ status && status ≤ 299 then .ok (body, undecodable)
    else .error (.transport ("HTTP " ++ toString status))

end Outcome

/-- The clients that engines are reached by. -/
inductive ClientKind where
  /-- A client of Solr, which sends maps over HTTP. -/
  | http
  | openSearch
  deriving DecidableEq, Repr

/-- A reply that is still to come. -/
structure Reply where
  outcome : Outcome
  /-- The client for whose making it is meant; without one it is meant for a request. -/
  making : Option ClientKind := none

/-- A call that leaves the library. -/
inductive Call where
  /-- A client for an address, with a time limit, and with user and password in one piece. -/
  | client (address : String) (timeout : Value) (credentials : Option (List UInt8))
  | get (path : String)
  | post (path : String) (body : Value)
  | close
  /-- A client made from arguments by name. -/
  | clientWith (arguments : List (Value × Value))
  | info
  | search (index : Value) (body : Value)
  | count (index : Value) (body : Value)
  | clusterHealth
  | shelfMade (arguments : List (Value × Value))
  | shelfStarted
  | shelfStopped
  | shelfHealth
  | shelfSearched (request : Request)
  | shelfCounted (request : Request)
  /-- A record that calls out a field was found. -/
  | found (field : Value)

/-- A request that reached an engine, and what it was about. -/
inductive Received where
  | search (request : Request)
  | count (request : Request)

/-- The outside. -/
structure World where
  replies : List Reply := []
  /-- The requests that reached an engine so far, in order. -/
  received : List Received := []
  /-- The calls made so far, in order. -/
  calls : List Call := []
  /-- The events reported so far, in order. -/
  events : List Event := []
  /-- Whether the client package of OpenSearch is there. -/
  hasOpenSearch : Bool := true

/-- The reply when none is left: an empty map. -/
def Reply.empty : Reply := { outcome := .answered 200 (.map []) none }

/-- A step that cannot fail. -/
abbrev Act := StateM World

/-- A step that can fail; the outside stays as it was when it failed. -/
abbrev Step := ExceptT Fault Act

namespace World

/-- Notes a request that reached an engine. -/
def receive (r : Received) : Act Unit := modify fun w => { w with received := w.received ++ [r] }

/-- Makes a call that has no reply. -/
def call (c : Call) : Act Unit := modify fun w => { w with calls := w.calls ++ [c] }

/-- Makes a call and takes the next reply. -/
def ask (c : Call) : Act Outcome := do
  call c
  let w ← get
  match w.replies with
  | [] => return Reply.empty.outcome
  | reply :: rest =>
    set { w with replies := rest }
    return reply.outcome

/-- The next reply, if it is meant for the making of such a client. -/
def construction? (w : World) (kind : ClientKind) : Option Reply :=
  w.replies.head?.filter (·.making == some kind)

/-- Makes a client; it takes the next reply only if that is meant for this. -/
def construct (kind : ClientKind) (c : Call) : Act (Option Outcome) := do
  call c
  let w ← get
  match w.construction? kind with
  | some reply =>
    set { w with replies := w.replies.tail }
    return some reply.outcome
  | none => return none

/-- Reports an event. -/
def report (level : Level) (source message : String) : Act Unit :=
  modify fun w => { w with events := w.events ++ [⟨level, source, message⟩] }

end World

end SearchQuery
