-- The description of one query: what to find, in which order, which window of it, and in
-- which shape.
import SearchQuery.Check
import SearchQuery.Ordering

namespace SearchQuery

/-- A checked query. -/
structure Spec where
  condition : Option Condition := none
  columns : Columns := []
  limit : Check.Bound := .unset
  offset : Check.Bound := .unset
  /-- Whether any term may match instead of all. -/
  fuzzy : Bool := false
  /-- Whether rows are wanted as they are and not as records. -/
  asArray : Bool := false
  /-- The column that results are keyed by. -/
  indexBy : Option String := none

end SearchQuery
