-- Engines of every kind behind one set of steps.
import SearchQuery.Engine.OpenSearch
import SearchQuery.Engine.Shelf
import SearchQuery.Engine.Solr

namespace SearchQuery

/-- The kinds of engines. -/
inductive EngineKind where
  | solr | openSearch | shelf
  deriving DecidableEq, Repr

/-- An engine. -/
inductive Engine where
  | solr (s : Solr)
  | openSearch (o : OpenSearch)
  | shelf (s : Shelf)

namespace EngineKind

/-- The name of a kind as a type. -/
def typeName : EngineKind → String
  | .solr => "SolrAdapter"
  | .openSearch => "OpenSearchAdapter"
  | .shelf => "StubAdapter"

/-- Makes an engine of a kind from arguments by name. -/
def make (kind : EngineKind) (args : List (Value × Value)) : Step Engine :=
  match kind with
  | .solr => do return .solr (← Solr.ofArguments args)
  | .openSearch => do return .openSearch (← OpenSearch.ofArguments args)
  | .shelf => do return .shelf (← Shelf.ofArguments args)

end EngineKind

namespace Engine

/-- The name that the engine gives itself. -/
def name : Engine → String
  | .solr _ => "solr"
  | .openSearch _ => "opensearch"
  | .shelf _ => "stub"

/-- The index that is searched when a request names none. -/
def defaultIndex : Engine → Value
  | .solr s => s.collection
  | .openSearch o => o.indexPattern
  | .shelf _ => .text "stub_docs"

/-- Opens the engine. What became of it is told even if it cannot be reached. -/
def start : Engine → Act (Except Fault Unit × Engine)
  | .solr s => do
    let (outcome, s) ← s.start
    return (outcome, .solr s)
  | .openSearch o => do
    let (outcome, o) ← o.start
    return (outcome, .openSearch o)
  | .shelf s => do return (← s.start.run, .shelf s)

/-- Closes the engine. -/
def stop : Engine → Act (Except Fault Unit × Engine)
  | .solr s => do return (.ok (), .solr (← s.stop))
  | .openSearch o => do return (.ok (), .openSearch (← o.stop))
  | .shelf s => do return (← s.stop.run, .shelf s)

/-- The results of a request. -/
def execute (e : Engine) (r : Request) : Step RawResults := do
  World.receive (.search r)
  match e with
  | .solr s => s.execute r
  | .openSearch o => o.execute r
  | .shelf s => s.execute r

/-- The number of documents that a request would find. -/
def count (e : Engine) (r : Request) : Step Int := do
  World.receive (.count r)
  match e with
  | .solr s => s.count r
  | .openSearch o => o.count r
  | .shelf s => s.count r

/-- What the engine makes of one result. -/
def hitOf (e : Engine) (v : Value) : Except Fault Hit :=
  match e with
  | .solr _ => (Solr.documentOf v).map .document
  | .openSearch _ => (OpenSearch.documentOf v).map .document
  | .shelf _ => Shelf.hitOf v

/-- How the engine is. -/
def health : Engine → Step Health
  | .solr s => ExceptT.lift s.health
  | .openSearch o => ExceptT.lift o.health
  | .shelf s => s.health

/-- Everything that a request finds. -/
def search (e : Engine) (r : Request) : Step (List Hit) := do
  let raw ← e.execute r
  raw.documents.mapM fun fields => (e.hitOf (.ofFields fields) : Except Fault Hit)

/-- The part of the library that reports searches. -/
def searchSource : String := "searchrecord.adapters.base.search"

/-- Everything that a request finds, with a note of it. -/
def searchNoted (e : Engine) (r : Request) : Step (List Hit) := do
  World.report .debug searchSource ("Searching " ++ e.name ++ ": " ++ r.query.shown)
  e.search r

/-- The number of documents that a request would find, with a note of it. -/
def countNoted (e : Engine) (r : Request) : Step Int := do
  World.report .debug searchSource ("Counting " ++ e.name ++ ": " ++ r.query.shown)
  e.count r

end Engine

end SearchQuery
