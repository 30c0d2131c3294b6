-- An engine that holds its documents itself. Every search finds all of them, and each of
-- its steps can be told to fail.
import SearchQuery.Engine.Results
import SearchQuery.Engine.World

namespace SearchQuery

/-- A shelf of documents. -/
structure Shelf where
  documents : Value := .list []
  /-- The steps that fail. -/
  failing : List String := []

namespace Shelf

/-- A shelf from arguments by name; those that it does not know are only shown. -/
def ofArguments (args : List (Value × Value)) : Step Shelf := do
  if (Value.field? "self" args).isSome then
    throw (.repeatedArgument "StubAdapter.__init__" "self")
  let shown := args.filter fun (k, _) => k.text? != some "docs" && k.text? != some "fail"
  World.call (.shelfMade shown)
  let failing ← ((Value.field? "fail" args).getD (.list [])).members
  return {
    documents := (Value.field? "docs" args).getD (.list []),
    failing := failing.filterMap Value.text? }

/-- Makes a call, then fails if the step is to fail. -/
def perform (s : Shelf) (step : String) (call : Call) : Step Unit := do
  World.call call
  if s.failing.contains step then throw (.clientRuntime (step ++ " failed"))

def start (s : Shelf) : Step Unit := s.perform "initialize" .shelfStarted

def stop (s : Shelf) : Step Unit := s.perform "shutdown" .shelfStopped

/-- All documents, whatever the request. -/
def execute (s : Shelf) (r : Request) : Step RawResults := do
  s.perform "execute" (.shelfSearched r)
  let documents ← s.documents.members
  (RawResults.check (.int documents.length) (.list documents) []).toExcept

/-- The number of documents, whatever the request. -/
def count (s : Shelf) (r : Request) : Step Int := do
  s.perform "count" (.shelfCounted r)
  return (← s.documents.members).length

/-- A document of the shelf; one that is marked as raw is passed on as it is. -/
def hitOf (v : Value) : Except Fault Hit :=
  match v with
  | .map entries =>
    if (Value.field? "__raw__" entries).isSome then .ok (.other v)
    else
      let id := ((Value.field? "id" entries).getD (.text "")).display
      ((Document.check id entries none).toExcept).map .document
  | other => .error (.noMember other.typeName "get")

def health (s : Shelf) : Step Health := do
  s.perform "health" .shelfHealth
  return { status := "healthy" }

end Shelf

end SearchQuery
