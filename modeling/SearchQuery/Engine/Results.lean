-- What engines send back: results of a search as they come, documents, and reports on the
-- health of an engine.
import SearchQuery.Check
import SearchQuery.Engine.Request
import SearchQuery.Value.Convert

namespace SearchQuery

/-- Fields by name, in order. -/
abbrev Fields := List (String × Value)

/-- A field that is left out if it has nothing to say. -/
def Fields.when (present : Bool) (name : String) (v : Value) : Fields :=
  if present then [(name, v)] else []

@[simp]
theorem Fields.lookup_when (present : Bool) (name key : String) (v : Value) :
    (Fields.when present name v).lookup key = if present && key == name then some v else none := by
  cases present
  · rfl
  · cases h : key == name <;> simp [Fields.when, List.lookup_cons, h]

/-- Results as an engine sends them. -/
structure RawResults where
  total : Int
  documents : List Fields
  metadata : Fields := []

/-- The results that an engine claims, checked. -/
def RawResults.check (total documents : Value) (metadata : Fields) : Checked RawResults :=
  (fun total documents => { total, documents, metadata })
  <$> (Check.int total).inside "total_hits"
  <*> (Check.list (Check.dict Check.anything) documents).inside "documents"

/-- A document that was found. -/
structure Document where
  id : String
  fields : Fields
  score : Option Float := none

/-- A document from its parts; all keys of its fields have to be texts. -/
def Document.check (id : String) (fields : List (Value × Value)) (score : Option Float) :
    Checked Document :=
  ((Check.dict Check.anything (.map fields)).inside "fields").map fun fields =>
    { id, fields, score }

/-- The score of a document, if it has one. -/
def scoreOf (v : Value) : Except Fault (Option Float) :=
  match v with
  | .null => .ok none
  | v => v.toFloat.map some

/-- What an engine makes of one result: a document, or something else that it passes on. -/
inductive Hit where
  | document (d : Document)
  | other (v : Value)

/-- The document of a hit. -/
def Hit.document? : Hit → Option Document
  | .document d => some d
  | .other _ => none

/-- How an engine is. -/
structure Health where
  status : String
  message : Option String := none
  /-- The engine itself was asked and its answer understood. -/
  checked : Bool := false
  deriving DecidableEq, Repr

def Health.unhealthy (message : String) : Health :=
  { status := "unhealthy", message := some message }

/-- A request from the parts that a caller gives by name, checked. -/
def Request.check (es : List (Value × Value)) : Checked Request :=
  (fun index query sort limit offset fuzzy => { index, query, sort, limit, offset, fuzzy })
  <$> Check.field "index" none (Check.optional Check.text) es
  <*> Check.field "query" (.text "") (fun v => (Check.text v).map .text) es
  <*> Check.field "sort" [] (fun v =>
    (Check.list (Check.pair Check.text Check.bool) v).map fun columns =>
      columns.map fun (name, up) => (Value.text name, Value.bool up)) es
  <*> Check.field "limit" .null (fun v =>
    (Check.optional Check.int v).map fun n => (n.map Value.int).getD .null) es
  <*> Check.field "offset" (.int 0) (fun v => (Check.int v).map .int) es
  <*> Check.field "fuzzy" (.bool false) (fun v => (Check.bool v).map .bool) es

/-- A new request on an index, which has to be a text or nothing. -/
def Request.on (index : Value) : Checked Request :=
  ((Check.optional Check.text index).inside "index").map fun index => { index }

end SearchQuery
