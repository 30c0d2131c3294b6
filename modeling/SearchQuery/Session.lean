-- Queries run over a connection: a builder collects a query, and every run asks the engine
-- with a request of its own and turns what it finds into rows or records.
import SearchQuery.Builder
import SearchQuery.Connection
import SearchQuery.Prepare
import SearchQuery.Record

namespace SearchQuery

/-- A session. -/
structure Session where
  connection : Connection := {}
  mode : FieldMode := .firstAlternatives
  /-- The type of the records to find; without one, rows are found. -/
  type : Option RecordType := none
  builder : Builder := {}
  /-- The query text that was prepared last. -/
  query : Option String := none
  /-- The request that `prepare` fills in again and again. -/
  kept : Option Request := none

/-- A step of a session. A step that fails keeps what it changed before. -/
abbrev Run := ExceptT Fault (StateT Session Act)

/-- One thing that was found. -/
inductive Found where
  | row (fields : Fields)
  | record (r : Record)

/-- Everything that was found, in order or by key. -/
inductive Findings where
  | list (found : List Found)
  | keyed (found : List (Value × Found))

namespace Session

/-- The part of the library that reports what happens here. -/
def source : String := "searchrecord.core.executor"

/-! ## The pieces of a run -/

/-- Changes the connection by a step that tells what came of it. -/
def onConnection {α : Type} (f : Connection → Act (Except Fault α × Connection)) : Run α := do
  let (outcome, connection) ← f (← get).connection
  modify fun s => { s with connection }
  outcome

/-- The open engine. -/
def engine : Run Engine := onConnection Connection.ready

/-- Runs a step of an engine. -/
def onEngine {α : Type} (step : Step α) : Run α := do
  let outcome ← step.run
  outcome

/-- The index of the records to find. -/
def index (s : Session) : Option String := s.type.map (·.indexName)

/-- Prepares a query on a request and keeps its text if that succeeds. -/
def prepareOn (spec : Spec) (r : Request) : Run (Prepared × Request) := do
  let (outcome, r) := spec.prepare (← get).mode r
  let prepared ← outcome
  modify fun s => { s with query := some prepared.query }
  return (prepared, r)

/-- The rows that a query finds. Whatever is no document is passed over. -/
def rows (spec : Spec) : Run (List Fields) := do
  let e ← engine
  let (prepared, r) ← prepareOn spec { index := (← get).index }
  let hits ← onEngine (e.searchNoted r)
  let rows := (hits.filterMap Hit.document?).map (·.fields)
  World.report .debug source
    ("Fetched " ++ toString rows.length ++ " documents for " ++ Text.quoted prepared.query)
  return rows

/-- Calls out every record of a type that asks for it. -/
def announce (type : RecordType) (records : List Record) : Act Unit :=
  match type.announces with
  | none => pure ()
  | some field => records.forM fun r =>
    World.call (.found ((r.fields.lookup field).getD .null))

/-- The shape that a query wants for its rows. Records are called out once all are made. -/
def shape (spec : Spec) (rows : List Fields) : Run (List Found) := do
  match (← get).type with
  | none => return rows.map .row
  | some type =>
    if spec.asArray then return rows.map .row
    let records ← type.populateAll (rows.map Value.ofFields)
    announce type records
    return records.map .record

/-- Puts what was found under the values of a column; the last one of a value stays. -/
def keyed (column : String) : List (Fields × Found) → List (Value × Found) →
    Except Fault (List (Value × Found))
  | [], done => .ok done
  | (row, found) :: rest, done =>
    let key := (row.lookup column).getD .null
    match key.unhashable? with
    | some type => .error (.unhashable type)
    | none => keyed column rest (Entries.put key found done)

/-! ## Runs -/

/-- The first thing that a query finds. -/
def fetchOne (spec : Spec) : Run (Option Found) := do
  let found ← rows { spec with limit := .number 1 }
  if found.isEmpty then return none
  return (← shape spec found).head?

/-- Everything that a query finds. -/
def fetchAll (spec : Spec) : Run Findings := do
  let rows ← rows spec
  let found ← shape spec rows
  match spec.indexBy with
  | none => return .list found
  | some column =>
    if column == "" then return .list found
    return .keyed (← keyed column (rows.zip found) [])

/-- The number of documents that a query matches. -/
def fetchCount (spec : Spec) : Run Int := do
  let e ← engine
  let (prepared, r) ← prepareOn spec { index := (← get).index }
  let total ← onEngine (e.countNoted r)
  World.report .debug source
    ("Counted " ++ toString total ++ " documents for " ++ Text.quoted prepared.query)
  return total

/-- The query that the builder holds. -/
def build : Run Spec := do (← get).builder.build

def one : Run (Option Found) := do fetchOne (← build)

def all : Run Findings := do fetchAll (← build)

def count : Run Int := do fetchCount (← build)

/-- Search engines cannot tell existence. -/
def exists? : Run Unit := throw .existence

/-- Search engines have no relations. -/
def related : Run Unit := throw .relations

/-- A call on the builder. -/
def call (c : Builder.Call) : Run Unit := do
  let builder ← (← get).builder.apply c
  modify fun s => { s with builder }

/-- Opens the engine and keeps a new request, unless there is one already. -/
def keepRequest : Run Unit := do
  if (← get).kept.isNone then
    let _ ← engine
    modify fun s => { s with kept := some { index := s.index } }

/-- Prepares a query on the request that is kept for this. -/
def prepareKept (spec : Spec) : Run (Prepared × Request) := do
  let s ← get
  let (outcome, r) := spec.prepare s.mode (s.kept.getD {})
  set { s with kept := some r }
  let prepared ← outcome
  modify fun s => { s with query := some prepared.query }
  return (prepared, r)

/-- Prepares the query of the builder. -/
def prepare : Run (Prepared × Request) := do
  keepRequest
  prepareKept (← build)

/-- Starts a new query on the same connection. -/
def renew (type : Option RecordType) : Run Unit :=
  modify fun s => { s with type, builder := {}, query := none, kept := none }

/-- How the engine is. -/
def health : Run Health := do onEngine (← engine).health

/-- Closes the connection. -/
def close : Run Unit := onConnection fun c => do return (.ok (), ← c.close)

/-- Opens the connection for a moment and tells the name of its engine. -/
def visit : Run String := do
  try
    let e ← engine
    close
    return e.name
  catch fault =>
    close
    throw fault

end Session

end SearchQuery
