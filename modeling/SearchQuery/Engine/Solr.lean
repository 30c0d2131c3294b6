-- The engine Solr, asked over its JSON interface. A search is a map with the query text and
-- parameters, posted to the collection.
import SearchQuery.Engine.Results
import SearchQuery.Engine.World
import SearchQuery.Text.Blank

namespace SearchQuery

/-- A Solr engine. -/
structure Solr where
  address : String := "http://localhost:8983/solr"
  collection : Value := .text "documents"
  username : Value := .null
  password : Value := .null
  timeout : Value := .float 30
  /-- The field that terms without a field are searched in. -/
  defaultField : Value := .null
  /-- Whether a client is open. -/
  live : Bool := false

namespace Solr

/-- The part of the library that reports what happens here. -/
def source : String := "searchrecord.adapters.solr.adapter"

/-! ## Opening and closing -/

/-- An address without slashes at its end. -/
def addressOf (v : Value) : Except Fault String :=
  match v.text?, v with
  | some s, _ => .ok (Text.dropEnd '/' s)
  | none, .bytes _ => .error .bytesExpected
  | none, _ => .error (.noMember v.typeName "rstrip")

/-- An engine from arguments by name; those that it does not know have no effect. -/
def ofArguments (args : List (Value × Value)) : Except Fault Solr := do
  if (Value.field? "self" args).isSome then
    throw (.repeatedArgument "SolrAdapter.__init__" "self")
  let blank : Solr := {}
  let argument (name : String) (default : Value) := (Value.field? name args).getD default
  let address ← addressOf (argument "base_url" (.text blank.address))
  return {
    address,
    collection := argument "collection" blank.collection,
    username := argument "username" blank.username,
    password := argument "password" blank.password,
    timeout := argument "timeout" blank.timeout,
    defaultField := argument "default_field" blank.defaultField }

/-- The bytes of a name or a password. `place` counts the two from zero. -/
def secretBytes (place : Nat) (v : Value) : Except Fault (List UInt8) :=
  match v.text?, v with
  | some s, _ => .ok s.toUTF8.toList
  | none, .bytes b => .ok b
  | none, v => .error (.itemNotBytes place v.typeName)

/-- User and password with a colon between them, if both are given. -/
def credentials? (s : Solr) : Except Fault (Option (List UInt8)) :=
  if s.username.isTruthy && s.password.isTruthy then do
    let user ← secretBytes 0 s.username
    let password ← secretBytes 1 s.password
    return some (user ++ [':'.toUInt8] ++ password)
  else .ok none

/-- The time limit for a reply: of several limits the second one. -/
def replyLimit : Value → Except Fault Value
  | .tuple (_ :: limit :: _) => .ok limit
  | .tuple _ => .error .tupleTooShort
  | limit => .ok limit

def pingPath (s : Solr) : String := "/" ++ s.collection.display ++ "/admin/ping"

/-- The call that makes a client. -/
def opening (s : Solr) : Except Fault Call := do
  let credentials ← s.credentials?
  return .client s.address (← replyLimit s.timeout) credentials

/-- Asks the engine for a sign of life, with the client that was just made. -/
def greet (s : Solr) : Act (Except Fault Unit × Solr) := do
  match (← World.ask (.get s.pingPath)).accepted? with
  | .error (.transport text) => return (.error (.unreachable "Solr" text), s)
  | .error failure => return (.error failure.toFault, s)
  | .ok _ =>
    World.report .info source
      ("Connected to Solr collection '" ++ s.collection.display ++ "' at " ++ s.address)
    return (.ok (), s)

/-- Makes a client and asks the engine for a sign of life. If the client cannot be made, the
one from before stays; if there is no sign of life, the new one stays open. -/
def start (s : Solr) : Act (Except Fault Unit × Solr) := do
  match s.opening with
  | .error fault => return (.error fault, s)
  | .ok opening =>
    match (← World.construct .http opening).map Outcome.body? with
    | some (.error failure) => return (.error failure.toFault, s)
    | _ => greet { s with live := true }

/-- Closes the client if one is open. -/
def stop (s : Solr) : Act Solr := do
  if s.live then
    World.call .close
    return { s with live := false }
  else return s

/-! ## Searching -/

/-- The parameters of a search. -/
def params (s : Solr) (r : Request) (more : Fields) : Value :=
  let operator := if r.fuzzy.isTruthy then "OR" else "AND"
  let field := if s.defaultField.isTruthy then [("df", s.defaultField)] else []
  .ofFields ([("q.op", .text operator)] ++ field ++ more)

/-- The query of a request; an empty one asks for every document. -/
def queryOf (r : Request) : Value := r.query.orElse (.text "*:*")

/-- Columns and directions as one text. -/
def sortText (sort : List (Value × Value)) : String :=
  ", ".intercalate (sort.map fun (column, ascending) =>
    column.display ++ " " ++ if ascending.isTruthy then "asc" else "desc")

/-- The map to post for a search. -/
def searchBody (s : Solr) (r : Request) : Value :=
  .ofFields (
    [("query", queryOf r), ("params", s.params r [("fl", .text "*,score")])] ++
    Fields.when (!(r.limit matches .null)) "limit" r.limit ++
    Fields.when r.offset.isTruthy "offset" r.offset ++
    Fields.when (!r.sort.isEmpty) "sort" (.text (sortText r.sort)))

/-- The map to post for a count: a search that wants no documents. -/
def countBody (s : Solr) (r : Request) : Value :=
  .ofFields [("query", queryOf r), ("params", s.params r []), ("limit", .int 0)]

/-- The collection of a request, else the engine's own one. -/
def collectionOf (s : Solr) (r : Request) : Value := (Value.ofText? r.index).orElse s.collection

/-- Posts a map to a collection and reads the map that comes back. Only failures of the
transport are told as failures of the query. -/
def select (s : Solr) (r : Request) (body : Value) : Step (List (Value × Value)) := do
  if !s.live then throw (.noClient "Solr")
  let outcome ← World.ask (.post ("/" ++ (s.collectionOf r).display ++ "/select") body)
  match outcome.accepted? with
  | .error (.transport text) => throw (.requestFailed "Solr" "query" text)
  | .error failure => throw failure.toFault
  | .ok (_, some complaint) => throw (.clientValue complaint)
  | .ok (answer, none) => answer.toEntries

/-- The results in an answer. -/
def resultsOf (answer : List (Value × Value)) : Except Fault RawResults := do
  let response := (Value.field? "response" answer).getD (.map [])
  let total ← response.getD "numFound" (.int 0)
  let documents ← response.getD "docs" (.list [])
  let header := (Value.field? "responseHeader" answer).getD (.map [])
  let time ← header.getD "QTime" (.int 0)
  (RawResults.check total documents [("qtime_ms", time)]).toExcept

/-- The results of a request. -/
def execute (s : Solr) (r : Request) : Step RawResults := do
  resultsOf (← s.select r (s.searchBody r))

/-- The number of documents in an answer. -/
def totalOf (answer : List (Value × Value)) : Except Fault Int := do
  let response := (Value.field? "response" answer).getD (.map [])
  (← response.getD "numFound" (.int 0)).toInt

/-- The number of documents that a request would find. -/
def count (s : Solr) (r : Request) : Step Int := do
  totalOf (← s.select r (s.countBody r))

/-- The document of a result: everything but the score is a field. -/
def documentOf (v : Value) : Except Fault Document :=
  match v with
  | .map entries => do
    let fields := entries.filter fun (k, _) => k.text? != some "score"
    let id := ((Value.field? "id" entries).getD (.text "")).display
    let score ← scoreOf ((Value.field? "score" entries).getD .null)
    (Document.check id fields score).toExcept
  | other => .error (.noMember other.typeName "items")

/-! ## Health -/

/-- The report for an answer to a sign-of-life request. -/
def healthOf (s : Solr) : Outcome → Except String Health
  | .failed failure => .error failure.text
  | .answered status body undecodable =>
    if status == 200 then
      match undecodable, body.getD "status" (.text "unknown") with
      | some complaint, _ => .error complaint
      | none, .error fault => .error fault.message
      | none, .ok word =>
        .ok {
          status := if word.text? == some "OK" then "healthy" else "degraded",
          message := some ("Collection: " ++ s.collection.display ++ ", status: " ++ word.display),
          checked := true }
    else
      .ok {
        status := "degraded",
        message := some ("Solr returned HTTP " ++ toString status),
        checked := true }

/-- Asks the engine how it is. Whatever goes wrong is part of the report. -/
def health (s : Solr) : Act Health := do
  if !s.live then return .unhealthy "Client not initialized"
  match s.healthOf (← World.ask (.get s.pingPath)) with
  | .ok report => return report
  | .error text => return .unhealthy text

end Solr

end SearchQuery
