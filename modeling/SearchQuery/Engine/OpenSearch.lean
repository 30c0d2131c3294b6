-- The engine OpenSearch, asked through its client package. A search is a query text inside
-- a map that names the default operator.
import SearchQuery.Engine.Results
import SearchQuery.Engine.World

namespace SearchQuery

/-- An OpenSearch engine. -/
structure OpenSearch where
  hosts : Value := .list [.text "https://localhost:9200"]
  indexPattern : Value := .text "*"
  username : Value := .null
  password : Value := .null
  verifyCerts : Value := .bool true
  timeout : Value := .float 30
  /-- The field that terms without a field are searched in. -/
  defaultField : Value := .null
  /-- Arguments that the client gets as they are. -/
  extra : List (Value × Value) := []
  /-- Whether a client is open. -/
  live : Bool := false

namespace OpenSearch

/-- The part of the library that reports what happens here. -/
def source : String := "searchrecord.adapters.opensearch.adapter"

/-! ## Opening and closing -/

/-- The arguments that the engine knows; all others go to the client. -/
def known : List String :=
  ["hosts", "index_pattern", "username", "password", "api_key", "verify_certs", "timeout",
    "default_field"]

/-- An engine from arguments by name. -/
def ofArguments (args : List (Value × Value)) : Except Fault OpenSearch := do
  if (Value.field? "self" args).isSome then
    throw (.repeatedArgument "OpenSearchAdapter.__init__" "self")
  let blank : OpenSearch := {}
  let argument (name : String) (default : Value) := (Value.field? name args).getD default
  return {
    hosts := (argument "hosts" .null).orElse blank.hosts,
    indexPattern := argument "index_pattern" blank.indexPattern,
    username := argument "username" blank.username,
    password := argument "password" blank.password,
    verifyCerts := argument "verify_certs" blank.verifyCerts,
    timeout := argument "timeout" blank.timeout,
    defaultField := argument "default_field" blank.defaultField,
    extra := args.filter fun (k, _) => !known.any fun name => k.text? == some name }

/-- The arguments that the client is made from. -/
def clientArguments (o : OpenSearch) : List (Value × Value) :=
  let credentials :=
    if o.username.isTruthy && o.password.isTruthy then
      [(Value.text "http_auth", Value.tuple [o.username, o.password])]
    else []
  Entries.update
    ([(.text "hosts", o.hosts), (.text "verify_certs", o.verifyCerts),
      (.text "ssl_show_warn", .bool false), (.text "timeout", o.timeout)] ++ credentials)
    o.extra

/-- The name and the version of the cluster that an answer tells. -/
def clusterOf (answer : Value) : Except Fault (String × String) := do
  let version ← answer.getD "version" (.map [])
  let number ← version.getD "number" (.text "unknown")
  let cluster ← answer.getD "cluster_name" (.text "unknown")
  return (cluster.display, number.display)

/-- The fault of an engine that could not be reached. -/
def unreachable (cause : String) : Fault := .unreachable "OpenSearch" cause

/-- Makes a client and asks the engine who it is. If the client cannot be made, the one
from before stays; if the answer is no good, the new one stays open. -/
def start (o : OpenSearch) : Act (Except Fault Unit × OpenSearch) := do
  if !(← get).hasOpenSearch then return (.error .packageMissing, o)
  match (← World.construct .openSearch (.clientWith o.clientArguments)).map Outcome.body? with
  | some (.error failure) => return (.error (unreachable failure.text), o)
  | _ =>
    let opened := { o with live := true }
    match (← World.ask .info).body? with
    | .error failure => return (.error (unreachable failure.text), opened)
    | .ok answer =>
      match clusterOf answer with
      | .error fault => return (.error (unreachable fault.message), opened)
      | .ok (cluster, version) =>
        World.report .info source
          ("Connected to OpenSearch cluster: " ++ cluster ++ " (v" ++ version ++ ")")
        return (.ok (), opened)

/-- Closes the client if one is open. -/
def stop (o : OpenSearch) : Act OpenSearch := do
  if o.live then
    World.call .close
    return { o with live := false }
  else return o

/-! ## Searching -/

/-- The query of a request; an empty one asks for every document. -/
def queryOf (o : OpenSearch) (r : Request) : Value :=
  if !r.query.isTruthy then .ofFields [("match_all", .map [])]
  else
    let operator := if r.fuzzy.isTruthy then "OR" else "AND"
    let field := if o.defaultField.isTruthy then [("default_field", o.defaultField)] else []
    .ofFields [("query_string",
      .ofFields ([("query", r.query), ("default_operator", .text operator)] ++ field))]

/-- One sort column. Its name is a key, which not every value can be. -/
def sortColumn : Value × Value → Except Fault Value
  | (column, ascending) =>
    match column.unhashable? with
    | some type => .error (.unhashable type)
    | none =>
      let order := if ascending.isTruthy then "asc" else "desc"
      .ok (.map [(column, .ofFields [("order", .text order)])])

/-- The map to send for a search. -/
def searchBody (o : OpenSearch) (r : Request) : Except Fault Value := do
  let columns ← r.sort.mapM sortColumn
  return .ofFields (
    [("query", o.queryOf r)] ++
    Fields.when (!(r.limit matches .null)) "size" r.limit ++
    Fields.when r.offset.isTruthy "from" r.offset ++
    Fields.when (!r.sort.isEmpty) "sort" (.list columns))

/-- The map to send for a count. -/
def countBody (o : OpenSearch) (r : Request) : Value := .ofFields [("query", o.queryOf r)]

/-- The index of a request, else the engine's own pattern. -/
def indexOf (o : OpenSearch) (r : Request) : Value :=
  (Value.ofText? r.index).orElse o.indexPattern

/-- The body of an answer; every failure is one of the request. -/
def bodyOf (request : String) (outcome : Outcome) : Except Fault Value :=
  match outcome.body? with
  | .ok body => .ok body
  | .error failure => .error (.requestFailed "OpenSearch" request failure.text)

/-- The results in an answer. -/
def resultsOf (answer : Value) : Except Fault RawResults := do
  let hits ← answer.getD "hits" (.map [])
  let total ← (← hits.getD "total" (.map [])).getD "value" (.int 0)
  let documents ← (← hits.getD "hits" (.list [])).members
  let time ← answer.getD "took" (.int 0)
  (RawResults.check total (.list documents) [("took_os_ms", time)]).toExcept

/-- The results of a request. -/
def execute (o : OpenSearch) (r : Request) : Step RawResults := do
  if !o.live then throw (.noClient "OpenSearch")
  let body ← o.searchBody r
  resultsOf (← bodyOf "query" (← World.ask (.search (o.indexOf r) body)))

/-- The number of documents that a request would find. -/
def count (o : OpenSearch) (r : Request) : Step Int := do
  if !o.live then throw (.noClient "OpenSearch")
  let answer ← bodyOf "count" (← World.ask (.count (o.indexOf r) (o.countBody r)))
  (← answer.getD "count" (.int 0)).toInt

/-- The document of a result: its source holds the fields. -/
def documentOf (v : Value) : Except Fault Document := do
  let score ← v.getD "_score" .null
  let id ← v.getD "_id" (.text "")
  let fields ← (← v.getD "_source" (.map [])).toEntries
  (Document.check id.display fields (← scoreOf score)).toExcept

/-! ## Health -/

/-- The word for the colour of a cluster. -/
def statusOf (colour : Value) : Except Fault String :=
  match colour.unhashable?, colour.text? with
  | some type, _ => .error (.unhashable type)
  | none, some "green" => .ok "healthy"
  | none, some "yellow" => .ok "degraded"
  | none, _ => .ok "unhealthy"

/-- The report for an answer about the cluster. -/
def healthOf (answer : Value) : Except Fault Health := do
  let status ← statusOf (← answer.getD "status" (.text "red"))
  let cluster ← answer.getD "cluster_name" .null
  let nodes ← answer.getD "number_of_nodes" .null
  return {
    status,
    message := some ("Cluster: " ++ cluster.display ++ ", Nodes: " ++ nodes.display),
    checked := true }

/-- Asks the engine how it is. Whatever goes wrong is part of the report. -/
def health (o : OpenSearch) : Act Health := do
  if !o.live then return .unhealthy "Client not initialized"
  match (← World.ask .clusterHealth).body? with
  | .error failure => return .unhealthy failure.text
  | .ok answer =>
    match healthOf answer with
    | .ok report => return report
    | .error fault => return .unhealthy fault.message

end OpenSearch

end SearchQuery
