-- A checked query poured into a request. What was done before a fault stays done.
import SearchQuery.Condition.Compile
import SearchQuery.Engine.Request
import SearchQuery.Page
import SearchQuery.Spec

namespace SearchQuery

/-- What was put into a request. -/
structure Prepared where
  query : String
  sort : List (String × Bool)
  /-- The limit and the offset, if the limit has an effect. -/
  window : Option (Int × Int)
  fuzzy : Bool
  deriving DecidableEq, Repr

/-- The index of a request with the query text of a checked query. -/
def Request.withQuery (r : Request) (query : String) (fuzzy : Bool) : Request :=
  let r := r.setQuery (.text query)
  if fuzzy then r.setFuzzy (.bool true) else r

/-- Puts window, sort columns and query text into a request, in this order. -/
def Spec.prepare (mode : FieldMode) (spec : Spec) (r : Request) :
    Except Fault Prepared × Request :=
  match Page.window? spec.limit.toValue spec.offset.toValue with
  | .error fault => (.error fault, r)
  | .ok window =>
    let sort := spec.columns.pushed
    let sorted := (Page.push r window).applySort sort
    match Condition.compileWhere mode spec.condition with
    | .error fault => (.error fault, sorted)
    | .ok query =>
      (.ok { query, sort, window, fuzzy := spec.fuzzy }, sorted.withQuery query spec.fuzzy)

end SearchQuery
